import Highlight.Registry.AliasTable
import Mathlib.Data.List.Nodup
import Mathlib.Data.Nat.Basic
import Mathlib.Data.Nat.Find
import Mathlib.Tactic.Common

/-!
# Chains and what resolving finds on them

`AliasTable.resolve` looks at a bounded number of names.  This file compares it with the chain of
the name, which has no bound: a name *leads to* the first language on its chain, or its chain ends
without a language, or it goes on for ever without one.

The bound is right because the names that a chain passes before it ends, or before it meets its
first language, are different aliases (`le_size_of_walk_ne`): a chain that comes back to a name
never ends, and meets the same names again and again.
-/

namespace Highlight.AliasTable

variable {t : AliasTable} {isLanguage : String → Bool} {name other target language : String}
  {i j k m n : ℕ}

/-! ## Walking along a chain -/

/-- A walk of `m + n` steps is a walk of `m` steps, continued for `n` steps. -/
lemma walk_add (t : AliasTable) (name : String) (m n : ℕ) :
    t.walk name (m + n) = (t.walk name m).bind fun x => t.walk x n := by
  induction n with
  | zero => cases t.walk name m <;> simp [walk]
  | succ n ih =>
    rw [← Nat.add_assoc, walk, ih, Option.bind_assoc]
    rfl

/-- The first step of a walk leads to the direct target. -/
lemma walk_succ_left (t : AliasTable) (name : String) (n : ℕ) :
    t.walk name (n + 1) = (t.target? name).bind fun x => t.walk x n := by
  rw [Nat.add_comm, walk_add]
  simp [walk]

/-- A walk that has reached a name continues as the walk of that name. -/
lemma walk_add_of_eq_some (h : t.walk name m = some other) (n : ℕ) :
    t.walk name (m + n) = t.walk other n := by
  rw [walk_add, h, Option.bind_some]

/-- Behind the end of a chain there are no names. -/
lemma walk_eq_none_of_le (h : t.walk name m = none) (hmn : m ≤ n) : t.walk name n = none := by
  obtain ⟨k, rfl⟩ := Nat.exists_eq_add_of_le hmn
  rw [walk_add, h, Option.bind_none]

/-- Before a name of a chain there are only names. -/
lemma exists_walk_of_le (h : t.walk name n = some other) (hmn : m ≤ n) :
    ∃ x, t.walk name m = some x := by
  rcases hx : t.walk name m with _ | x
  · rw [walk_eq_none_of_le hx hmn] at h
    cases h
  · exact ⟨x, rfl⟩

/-- A name in front of another name of a chain is an alias. -/
lemma mem_names_of_walk (hx : t.walk name m = some other) (hn : t.walk name (m + 1) ≠ none) :
    other ∈ t.names := by
  rw [walk, hx, Option.bind_some] at hn
  rw [names, Dict.mem_keys_iff]
  exact Option.isSome_iff_ne_none.mpr hn

/-! ## Ends and circles -/

/-- The chain of a name ends. -/
def Ends (t : AliasTable) (name : String) : Prop := ∃ n, t.walk name n = none

/-- No chain comes back to a name that it has met. -/
def Acyclic (t : AliasTable) : Prop :=
  ∀ name other m n, m < n → t.walk name m = some other → t.walk name n ≠ some other

/-- A walk that comes back to its first name does so again and again. -/
lemma walk_mul_eq_self (h : t.walk name n = some name) (k : ℕ) :
    t.walk name (n * k) = some name := by
  induction k with
  | zero => rfl
  | succ k ih => rw [Nat.mul_succ, walk_add_of_eq_some ih, h]

/-- A chain that comes back to a name does not end. -/
lemma not_ends_of_walk_eq (hmn : m < n) (hm : t.walk name m = some other)
    (hn : t.walk name n = some other) : ¬ t.Ends name := by
  rintro ⟨k, hk⟩
  obtain ⟨p, rfl⟩ := Nat.exists_eq_add_of_lt hmn
  have hloop : t.walk other (p + 1) = some other := by
    rw [← walk_add_of_eq_some hm, ← Nat.add_assoc]
    exact hn
  have hagain : t.walk name (m + (p + 1) * k) = some other := by
    rw [walk_add_of_eq_some hm]
    exact walk_mul_eq_self hloop k
  have hle : k ≤ m + (p + 1) * k := by
    rw [Nat.succ_mul]
    omega
  rw [walk_eq_none_of_le hk hle] at hagain
  cases hagain

/-- Where every chain ends, none comes back to a name. -/
theorem acyclic_of_ends (h : ∀ name, t.Ends name) : t.Acyclic :=
  fun name _ _ _ hmn hm hn => not_ends_of_walk_eq hmn hm hn (h name)

/-- The names in front of a name of a chain are aliases, so that there are at most as many of them
as there are aliases if no two of them are equal. -/
lemma le_size_of_walk_ne (hn : t.walk name n ≠ none)
    (hne : ∀ i j, i < j → j < n → t.walk name i ≠ t.walk name j) : n ≤ t.size := by
  have hsome : ∀ i, i ≤ n → t.walk name i = some ((t.walk name i).getD "") := by
    intro i hi
    obtain ⟨last, hlast⟩ := Option.ne_none_iff_exists'.mp hn
    obtain ⟨x, hx⟩ := exists_walk_of_le hlast hi
    simp [hx]
  let passed := (List.range n).map fun i => (t.walk name i).getD ""
  have hnodup : passed.Nodup := by
    refine List.nodup_range.map_on fun i hi j hj hij => ?_
    rw [List.mem_range] at hi hj
    have heq : t.walk name i = t.walk name j := by
      rw [hsome i (Nat.le_of_lt hi), hsome j (Nat.le_of_lt hj), hij]
    rcases lt_trichotomy i j with h | h | h
    · exact absurd heq (hne i j h hj)
    · exact h
    · exact absurd heq.symm (hne j i h hi)
  have hsub : passed ⊆ t.names := by
    intro x hx
    obtain ⟨i, hi, rfl⟩ := List.mem_map.mp hx
    rw [List.mem_range] at hi
    refine mem_names_of_walk (hsome i (Nat.le_of_lt hi)) ?_
    rw [hsome (i + 1) hi]
    exact Option.some_ne_none _
  have hlen := hnodup.length_le_of_subset hsub
  simpa [passed, names, Dict.keys, size, Dict.size] using hlen

/-- A chain that ends does so behind at most as many aliases as there are. -/
theorem Ends.walk_size_succ (h : t.Ends name) : t.walk name (t.size + 1) = none := by
  by_contra hne
  have hle : t.size + 1 ≤ t.size := by
    refine le_size_of_walk_ne hne fun i j hij hj heq => ?_
    obtain ⟨last, hlast⟩ := Option.ne_none_iff_exists'.mp hne
    obtain ⟨x, hx⟩ := exists_walk_of_le hlast (Nat.le_of_lt hj)
    exact not_ends_of_walk_eq hij (heq.trans hx) hx h
  omega

/-! ## Tables that differ in one alias -/

/-- Tables that agree but for one alias have the same walks as far as that alias is not passed. -/
lemma walk_eq_of_agree {t' : AliasTable} (hagree : ∀ x, x ≠ other → t'.target? x = t.target? x)
    (hne : ∀ m < n, t.walk name m ≠ some other) : t'.walk name n = t.walk name n := by
  induction n with
  | zero => rfl
  | succ n ih =>
    rw [walk, walk, ih fun m hm => hne m (Nat.lt_succ_of_lt hm)]
    cases hx : t.walk name n with
    | none => rfl
    | some x =>
      have hxne : x ≠ other := by
        rintro rfl
        exact hne n (Nat.lt_succ_self n) hx
      exact hagree x hxne

/-- A chain that does not pass the one alias in which two tables differ is the same in both. -/
lemma walk_eq_of_not_onChain {t' : AliasTable}
    (hagree : ∀ x, x ≠ other → t'.target? x = t.target? x) (h : ¬ t.OnChain name other) (n : ℕ) :
    t'.walk name n = t.walk name n :=
  walk_eq_of_agree hagree fun m _ hm => h ⟨m, hm⟩

/-- A chain that passes the one alias in which two tables differ passes it in both. -/
lemma OnChain.of_agree {t' : AliasTable} (h : t.OnChain name other)
    (hagree : ∀ x, x ≠ other → t'.target? x = t.target? x) : t'.OnChain name other := by
  classical
  -- The walks agree up to the first visit of the alias.
  refine ⟨Nat.find h, ?_⟩
  rw [walk_eq_of_agree hagree fun m hm => Nat.find_min h hm, Nat.find_spec h]

/-- If a chain ends and one alias is changed so that its own chain still ends, the chain ends as
before or behind that alias. -/
theorem Ends.of_agree {t' : AliasTable} (h : t.Ends name)
    (hagree : ∀ x, x ≠ other → t'.target? x = t.target? x) (hother : t'.Ends other) :
    t'.Ends name := by
  by_cases hon : t.OnChain name other
  · obtain ⟨m, hm⟩ := hon.of_agree hagree
    obtain ⟨n, hn⟩ := hother
    exact ⟨m + n, by rw [walk_add_of_eq_some hm, hn]⟩
  · obtain ⟨n, hn⟩ := h
    exact ⟨n, by rw [walk_eq_of_not_onChain hagree hon, hn]⟩

/-- The chain of a name that is no alias ends at once. -/
lemma ends_of_target_eq_none (h : t.target? name = none) : t.Ends name :=
  ⟨1, by rw [walk_succ_left, h, Option.bind_none]⟩

/-- Removing an alias leaves no chain without an end. -/
lemma Ends.erase (h : t.Ends name) (removed : String) : (t.erase removed).Ends name := by
  refine h.of_agree (fun _ hx => target?_erase_of_ne hx) (ends_of_target_eq_none ?_)
  rw [target?_erase, if_pos rfl]

/-- Pointing an alias at a target leaves no chain without an end, if the chain of the alias ends. -/
lemma Ends.insert (h : t.Ends name) (hother : (t.insert other target).Ends other) :
    (t.insert other target).Ends name :=
  h.of_agree (fun _ hx => target?_insert_of_ne hx) hother

/-! ## Languages on a chain -/

/-- The first `n` names of a chain are no languages. -/
def Avoids (t : AliasTable) (isLanguage : String → Bool) (name : String) (n : ℕ) : Prop :=
  ∀ m < n, ∀ x, t.walk name m = some x → isLanguage x = false

/-- A language is the first one on the chain of a name. -/
def LeadsTo (t : AliasTable) (isLanguage : String → Bool) (name language : String) : Prop :=
  ∃ n, t.walk name n = some language ∧ isLanguage language = true ∧ t.Avoids isLanguage name n

/-- The chain of a name ends without a language. -/
def LeadsNowhere (t : AliasTable) (isLanguage : String → Bool) (name : String) : Prop :=
  ∃ n, t.walk name n = none ∧ t.Avoids isLanguage name n

/-- Nothing is to be avoided in front of a chain. -/
lemma avoids_zero : t.Avoids isLanguage name 0 :=
  fun m hm => absurd hm (Nat.not_lt_zero m)

/-- A language leads to itself. -/
lemma leadsTo_self (hl : isLanguage name = true) : t.LeadsTo isLanguage name name :=
  ⟨0, rfl, hl, avoids_zero⟩

/-- What a name leads to is a language. -/
lemma LeadsTo.isLanguage_eq_true (h : t.LeadsTo isLanguage name language) :
    isLanguage language = true := by
  obtain ⟨-, -, hl, -⟩ := h
  exact hl

/-- A chain that leads to a language ends there if the language is no alias. -/
lemma LeadsTo.ends (h : t.LeadsTo isLanguage name language) (hlast : t.target? language = none) :
    t.Ends name := by
  obtain ⟨n, hn, -, -⟩ := h
  exact ⟨n + 1, by rw [walk, hn, Option.bind_some, hlast]⟩

/-- A chain that leads nowhere ends. -/
lemma LeadsNowhere.ends (h : t.LeadsNowhere isLanguage name) : t.Ends name := by
  obtain ⟨n, hn, -⟩ := h
  exact ⟨n, hn⟩

/-- In front of a chain that avoids languages, one more name that is no language. -/
lemma avoids_succ_iff (ht : t.target? name = some target) :
    t.Avoids isLanguage name (n + 1) ↔
      isLanguage name = false ∧ t.Avoids isLanguage target n := by
  constructor
  · intro h
    refine ⟨h 0 (Nat.succ_pos n) name rfl, fun m hm x hx => h (m + 1) (Nat.succ_lt_succ hm) x ?_⟩
    rw [walk_succ_left, ht, Option.bind_some, hx]
  · rintro ⟨hname, h⟩ m hm x hx
    cases m with
    | zero =>
      cases hx
      exact hname
    | succ m =>
      rw [walk_succ_left, ht, Option.bind_some] at hx
      exact h m (Nat.lt_of_succ_lt_succ hm) x hx

/-- An alias that is no language leads where its direct target leads. -/
lemma leadsTo_iff_of_target (hname : isLanguage name = false) (ht : t.target? name = some target) :
    t.LeadsTo isLanguage name language ↔ t.LeadsTo isLanguage target language := by
  constructor
  · rintro ⟨n, hn, hl, havoid⟩
    cases n with
    | zero =>
      cases hn
      rw [hname] at hl
      cases hl
    | succ n =>
      rw [walk_succ_left, ht, Option.bind_some] at hn
      exact ⟨n, hn, hl, ((avoids_succ_iff ht).mp havoid).2⟩
  · rintro ⟨n, hn, hl, havoid⟩
    refine ⟨n + 1, ?_, hl, (avoids_succ_iff ht).mpr ⟨hname, havoid⟩⟩
    rw [walk_succ_left, ht, Option.bind_some, hn]

/-- A name that is neither a language nor an alias leads to no language. -/
lemma not_leadsTo_of_target_eq_none (hname : isLanguage name = false)
    (ht : t.target? name = none) : ¬ t.LeadsTo isLanguage name language := by
  rintro ⟨n, hn, hl, -⟩
  cases n with
  | zero =>
    cases hn
    rw [hname] at hl
    cases hl
  | succ n =>
    rw [walk_succ_left, ht, Option.bind_none] at hn
    cases hn

/-- What a name leads to depends on its chain alone. -/
lemma leadsTo_iff_of_walk_eq {t' : AliasTable} (h : ∀ n, t'.walk name n = t.walk name n) :
    t'.LeadsTo isLanguage name language ↔ t.LeadsTo isLanguage name language := by
  simp only [LeadsTo, Avoids, h]

/-- A name leads to the same language in a table with the same targets of all names that are no
languages, since no other targets are followed. -/
lemma LeadsTo.of_agree_off_languages {t' : AliasTable} (h : t.LeadsTo isLanguage name language)
    (hagree : ∀ x, isLanguage x = false → t'.target? x = t.target? x) :
    t'.LeadsTo isLanguage name language := by
  obtain ⟨n, hn, hl, havoid⟩ := h
  induction n generalizing name with
  | zero => exact ⟨0, hn, hl, avoids_zero⟩
  | succ n ih =>
    have hname : isLanguage name = false := havoid 0 (Nat.succ_pos n) name rfl
    rw [walk_succ_left] at hn
    obtain ⟨next, hnext, hrest⟩ := Option.bind_eq_some_iff.mp hn
    have hleads : t'.LeadsTo isLanguage next language :=
      ih hrest ((avoids_succ_iff hnext).mp havoid).2
    have hnext' : t'.target? name = some next := by
      rw [hagree name hname, hnext]
    exact (leadsTo_iff_of_target hname hnext').mpr hleads

/-- What a name leads to does not depend on what languages point at. -/
lemma leadsTo_iff_of_agree_off_languages {t' : AliasTable}
    (hagree : ∀ x, isLanguage x = false → t'.target? x = t.target? x) :
    t'.LeadsTo isLanguage name language ↔ t.LeadsTo isLanguage name language :=
  ⟨fun h => h.of_agree_off_languages fun x hx => (hagree x hx).symm,
    fun h => h.of_agree_off_languages hagree⟩

/-- A chain avoids languages at most as far as its first language. -/
lemma Avoids.le (h : t.Avoids isLanguage name m) (hn : t.walk name n = some language)
    (hl : isLanguage language = true) : m ≤ n := by
  by_contra hlt
  rw [h n (Nat.lt_of_not_le hlt) language hn] at hl
  cases hl

/-- A name leads to at most one language. -/
lemma LeadsTo.unique (h : t.LeadsTo isLanguage name language)
    (h' : t.LeadsTo isLanguage name other) : language = other := by
  obtain ⟨n, hn, hl, havoid⟩ := h
  obtain ⟨n', hn', hl', havoid'⟩ := h'
  obtain rfl : n = n' := Nat.le_antisymm (havoid.le hn' hl') (havoid'.le hn hl)
  exact Option.some.inj (hn.symm.trans hn')

/-- A chain that ends without a language leads to none. -/
lemma LeadsNowhere.not_leadsTo (h : t.LeadsNowhere isLanguage name) :
    ¬ t.LeadsTo isLanguage name language := by
  rintro ⟨n, hn, hl, -⟩
  obtain ⟨m, hm, havoid⟩ := h
  rw [walk_eq_none_of_le hm (havoid.le hn hl)] at hn
  cases hn

/-- The first language on a chain lies behind at most as many aliases as there are: if the chain
came back to a name before it, the language would be met earlier. -/
lemma le_size_of_avoids (hn : t.walk name n = some language) (hl : isLanguage language = true)
    (havoid : t.Avoids isLanguage name n) : n ≤ t.size := by
  refine le_size_of_walk_ne (by rw [hn]; exact Option.some_ne_none _) fun i j hij hj heq => ?_
  obtain ⟨x, hx⟩ := exists_walk_of_le hn (Nat.le_of_lt hj)
  have hearlier : t.walk name (i + (n - j)) = some language := by
    rw [walk_add_of_eq_some (heq.trans hx), ← walk_add_of_eq_some hx,
      Nat.add_sub_cancel' (Nat.le_of_lt hj), hn]
  have hle : n ≤ i + (n - j) := havoid.le hearlier hl
  omega

/-! ## Resolving -/

/-- What following a chain for a number of steps can answer: the first language that it meets in
these steps, the end of the chain, or that it still goes on. -/
lemma follow_cases (t : AliasTable) (isLanguage : String → Bool) (name : String) (steps : ℕ)
    (current : String) :
    (∃ language n, n < steps ∧ t.walk current n = some language ∧ isLanguage language = true ∧
        t.Avoids isLanguage current n ∧ t.follow isLanguage name steps current = .ok language) ∨
      (∃ n, t.walk current n = none ∧ t.Avoids isLanguage current n ∧
        t.follow isLanguage name steps current = .error (.unknownLanguage name)) ∨
      (t.walk current steps ≠ none ∧ t.Avoids isLanguage current steps ∧
        t.follow isLanguage name steps current = .error (.cycle name)) := by
  induction steps generalizing current with
  | zero =>
    exact .inr (.inr ⟨Option.some_ne_none _, avoids_zero, rfl⟩)
  | succ steps ih =>
    rw [follow]
    cases hl : isLanguage current with
    | true =>
      exact .inl ⟨current, 0, Nat.succ_pos _, rfl, hl, avoids_zero, by simp⟩
    | false =>
      cases ht : t.target? current with
      | none =>
        refine .inr (.inl ⟨1, by rw [walk_succ_left, ht, Option.bind_none], ?_, by simp⟩)
        intro m hm x hx
        obtain rfl : m = 0 := Nat.lt_one_iff.mp hm
        cases hx
        exact hl
      | some next =>
        have hwalk : ∀ n, t.walk current (n + 1) = t.walk next n := fun n => by
          rw [walk_succ_left, ht, Option.bind_some]
        have havoid : ∀ n, t.Avoids isLanguage next n → t.Avoids isLanguage current (n + 1) :=
          fun n h => (avoids_succ_iff ht).mpr ⟨hl, h⟩
        rcases ih next with ⟨language, n, hn, hw, h⟩ | ⟨n, hw, h, hf⟩ | ⟨hw, h, hf⟩
        · exact .inl ⟨language, n + 1, Nat.succ_lt_succ hn, (hwalk n).trans hw, h.1,
            havoid n h.2.1, by simpa using h.2.2⟩
        · exact .inr (.inl ⟨n + 1, (hwalk n).trans hw, havoid n h, by simpa using hf⟩)
        · exact .inr (.inr ⟨by rwa [hwalk], havoid steps h, by simpa using hf⟩)

/-- What resolving can answer.  The bound of `size + 1` names cuts off no chain that ends or meets a
language, and only a chain that does neither is called a cycle. -/
theorem resolve_cases (t : AliasTable) (isLanguage : String → Bool) (name : String) :
    (∃ language, t.LeadsTo isLanguage name language ∧
        t.resolve name isLanguage = .ok language) ∨
      (t.LeadsNowhere isLanguage name ∧
        t.resolve name isLanguage = .error (.unknownLanguage name)) ∨
      (¬ t.Ends name ∧ (∀ language, ¬ t.LeadsTo isLanguage name language) ∧
        t.resolve name isLanguage = .error (.cycle name)) := by
  rcases t.follow_cases isLanguage name (t.size + 1) name with
    ⟨language, n, -, hn, hl, havoid, hf⟩ | ⟨n, hn, havoid, hf⟩ | ⟨hn, havoid, hf⟩
  · exact .inl ⟨language, ⟨n, hn, hl, havoid⟩, hf⟩
  · exact .inr (.inl ⟨⟨n, hn, havoid⟩, hf⟩)
  · refine .inr (.inr ⟨fun hends => hn hends.walk_size_succ, ?_, hf⟩)
    rintro language ⟨m, hm, hl, hm'⟩
    have hle : t.size + 1 ≤ m := havoid.le hm hl
    have hge : m ≤ t.size := le_size_of_avoids hm hl hm'
    omega

/-- Resolving finds the first language on a chain. -/
theorem resolve_eq_ok_iff :
    t.resolve name isLanguage = .ok language ↔ t.LeadsTo isLanguage name language := by
  rcases t.resolve_cases isLanguage name with ⟨l, hl, h⟩ | ⟨hn, h⟩ | ⟨-, hn, h⟩
  · rw [h]
    constructor
    · rintro ⟨⟩
      exact hl
    · intro h'
      rw [hl.unique h']
  · rw [h]
    exact ⟨nofun, fun h' => absurd h' hn.not_leadsTo⟩
  · rw [h]
    exact ⟨nofun, fun h' => absurd h' (hn language)⟩

/-- Where the chain of a name ends, resolving the name finds a language or does not know the name.
-/
theorem Ends.resolve_cases (h : t.Ends name) (isLanguage : String → Bool) :
    (∃ language, t.resolve name isLanguage = .ok language ∧ isLanguage language = true) ∨
      t.resolve name isLanguage = .error (.unknownLanguage name) := by
  rcases t.resolve_cases isLanguage name with ⟨l, ⟨_, _, hl, _⟩, hr⟩ | ⟨-, hr⟩ | ⟨hn, -, -⟩
  · exact .inl ⟨l, hr, hl⟩
  · exact .inr hr
  · exact absurd h hn

end Highlight.AliasTable
