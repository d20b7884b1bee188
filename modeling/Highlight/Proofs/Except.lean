import Mathlib.Tactic.Common

/-!
# What a computation answers

How an answer of a computation in `Except` comes about: for sequences, for maps, and for folds whose
steps keep an invariant.  For computations with any effects, what holds of all their answers, and
what holds of the answers of two of them that have the same effects.
-/

namespace Highlight

universe u v

/-! ## Computations that may be refused -/

section Refusals

variable {ε : Type u} {α β σ : Type v}

/-- A sequence answers if its first part does and its second part does with that answer. -/
lemma bind_eq_ok_iff {x : Except ε α} {f : α → Except ε β} {b : β} :
    (x >>= f) = .ok b ↔ ∃ a, x = .ok a ∧ f a = .ok b := by
  cases x <;> simp [bind, Except.bind]

/-- A mapped computation answers what the computation answers, mapped. -/
lemma map_eq_ok_iff {x : Except ε α} {f : α → β} {b : β} :
    x.map f = .ok b ↔ ∃ a, x = .ok a ∧ f a = b := by
  cases x <;> simp [Except.map]

/-- A computation answers if its answer is left when its refusals are forgotten. -/
lemma toOption_eq_some_iff {x : Except ε α} {a : α} : x.toOption = some a ↔ x = .ok a := by
  cases x <;> simp [Except.toOption]

/-- A sequence is refused if its first part is or its second part is with the answer of the first.
-/
lemma bind_eq_error_iff {x : Except ε α} {f : α → Except ε β} {e : ε} :
    (x >>= f) = .error e ↔ x = .error e ∨ ∃ a, x = .ok a ∧ f a = .error e := by
  cases x <;> simp [bind, Except.bind]

/-- A mapped computation is refused if the computation is. -/
lemma map_eq_error_iff {x : Except ε α} {f : α → β} {e : ε} :
    x.map f = .error e ↔ x = .error e := by
  cases x <;> simp [Except.map]

/-- Why a computation is refused, if it is. -/
def refusal? : Except ε α → Option ε
  | .ok _ => none
  | .error e => some e

lemma refusal?_eq_some_iff {x : Except ε α} {e : ε} : refusal? x = some e ↔ x = .error e := by
  cases x <;> simp [refusal?]

lemma refusal?_eq_none_iff {x : Except ε α} : refusal? x = none ↔ ∃ a, x = .ok a := by
  cases x <;> simp [refusal?]

/-- A mapped computation is refused as the computation is. -/
lemma refusal?_map {x : Except ε α} {f : α → β} : refusal? (x.map f) = refusal? x := by
  cases x <;> rfl

/-- A sequence whose second part is never refused is refused as its first part is. -/
lemma refusal?_bind_pure {x : Except ε α} {f : α → β} :
    refusal? (x >>= fun a => pure (f a)) = refusal? x := by
  cases x <;> rfl

/-- A sequence is refused as its first part is, or else as its second part, if that part is refused
in one way whatever the first one answers. -/
lemma refusal?_bind {x : Except ε α} {f : α → Except ε β} {o : Option ε}
    (h : ∀ a, refusal? (f a) = o) : refusal? (x >>= f) = (refusal? x).or o := by
  cases x with
  | error e => rfl
  | ok a => exact h a

/-- A fold is refused at one of its steps. -/
lemma exists_of_foldlM_eq_error {f : σ → α → Except ε σ} {l : List α} {s : σ} {e : ε}
    (h : l.foldlM f s = .error e) : ∃ a ∈ l, ∃ s, f s a = .error e := by
  induction l generalizing s with
  | nil => cases h
  | cons a l ih =>
    rw [List.foldlM_cons, bind_eq_error_iff] at h
    obtain h | ⟨s', -, h⟩ := h
    · exact ⟨a, List.mem_cons_self, s, h⟩
    · obtain ⟨b, hb, hstep⟩ := ih h
      exact ⟨b, List.mem_cons_of_mem a hb, hstep⟩

/-- A fold whose steps change nothing changes nothing. -/
lemma foldlM_eq_self {f : σ → α → Except ε σ} {l : List α} {s : σ}
    (h : ∀ a ∈ l, f s a = .ok s) : l.foldlM f s = .ok s := by
  induction l with
  | nil => rfl
  | cons a l ih =>
    rw [List.forall_mem_cons] at h
    rw [List.foldlM_cons, h.1]
    exact ih h.2

/-- A fold over lists in a row is a fold of folds. -/
lemma foldlM_flatMap {f : σ → β → Except ε σ} {g : α → List β} {l : List α} {s : σ} :
    (l.flatMap g).foldlM f s = l.foldlM (fun s a => (g a).foldlM f s) s := by
  induction l generalizing s with
  | nil => rfl
  | cons a l ih =>
    rw [List.flatMap_cons, List.foldlM_append, List.foldlM_cons]
    exact bind_congr fun s' => ih

/-- A computation answers with `P`, or is refused with `R`. -/
def Answers (P : α → Prop) (R : ε → Prop) : Except ε α → Prop
  | .ok a => P a
  | .error e => R e

/-- A mapped computation answers with `P` if the computation does so behind the map. -/
lemma answers_map_iff {P : β → Prop} {R : ε → Prop} {f : α → β} {x : Except ε α} :
    Answers P R (x.map f) ↔ Answers (fun a => P (f a)) R x := by
  cases x <;> rfl

/-- What every step of a fold keeps, the fold keeps, and it is refused for the reasons of its steps.
-/
lemma foldlM_answers {f : σ → α → Except ε σ} {P : σ → Prop} {R : ε → Prop} {l : List α} {s : σ}
    (hstep : ∀ s a, a ∈ l → P s → Answers P R (f s a)) (hs : P s) :
    Answers P R (l.foldlM f s) := by
  induction l generalizing s with
  | nil => exact hs
  | cons a l ih =>
    rw [List.foldlM_cons]
    have ha : Answers P R (f s a) := hstep s a List.mem_cons_self hs
    cases hf : f s a with
    | error e =>
      rw [hf] at ha
      exact ha
    | ok s' =>
      rw [hf] at ha
      exact ih (fun s b hb => hstep s b (List.mem_cons_of_mem a hb)) ha

end Refusals

/-! ## Computations with effects -/

section Effects

variable {m : Type → Type} [Monad m] [LawfulMonad m] {γ δ : Type} {Q : γ → Prop}

/-- Every answer of a computation satisfies `Q`. -/
def Yields (Q : γ → Prop) (x : m γ) : Prop := ∃ y : m { c // Q c }, Subtype.val <$> y = x

/-- A computation without effects yields its answer. -/
lemma yields_pure {c : γ} (h : Q c) : Yields (m := m) Q (pure c) :=
  ⟨pure ⟨c, h⟩, map_pure _ _⟩

/-- A sequence yields what its second part yields for every answer of the first. -/
lemma yields_bind {x : m δ} {f : δ → m γ} (h : ∀ d, Yields Q (f d)) : Yields Q (x >>= f) := by
  choose y hy using h
  refine ⟨x >>= y, ?_⟩
  rw [map_bind]
  simp only [hy]

variable {γ' δ' : Type} {R : γ → δ → Prop} {S : γ' → δ' → Prop}

/-- Two computations have the same effects, and their answers are related by `R`. -/
def Coupled (R : γ → δ → Prop) (x : m γ) (y : m δ) : Prop :=
  ∃ z : m { answers : γ × δ // R answers.1 answers.2 },
    (fun answers => answers.val.1) <$> z = x ∧ (fun answers => answers.val.2) <$> z = y

/-- Computations without effects are coupled if their answers are related. -/
lemma coupled_pure {c : γ} {d : δ} (h : R c d) : Coupled (m := m) R (pure c) (pure d) :=
  ⟨pure ⟨(c, d), h⟩, map_pure _ _, map_pure _ _⟩

/-- A computation is coupled with itself by equality. -/
lemma coupled_self (x : m γ) : Coupled (· = ·) x x := by
  refine ⟨(fun c => ⟨(c, c), rfl⟩) <$> x, ?_, ?_⟩ <;> simp

/-- Sequences are coupled if their first parts are and, for related answers of these, their second
parts are. -/
lemma coupled_bind {x : m γ} {y : m δ} {f : γ → m γ'} {g : δ → m δ'} (h : Coupled R x y)
    (hfg : ∀ c d, R c d → Coupled S (f c) (g d)) : Coupled S (x >>= f) (y >>= g) := by
  obtain ⟨z, rfl, rfl⟩ := h
  choose w hf hg using hfg
  refine ⟨z >>= fun answers => w answers.val.1 answers.val.2 answers.property, ?_, ?_⟩
  · rw [map_bind, bind_map_left]
    simp only [hf]
  · rw [map_bind, bind_map_left]
    simp only [hg]

/-- Without any effects being coupled is being related. -/
lemma Coupled.of_id {c : γ} {d : δ} (h : Coupled (m := Id) R c d) : R c d := by
  obtain ⟨z, rfl, rfl⟩ := h
  exact z.property

end Effects

end Highlight
