import Highlight.Proofs.Chain

/-!
# What resolving answers, for every table

A chain has no bound, while resolving looks at `size + 1` names of it.  This file states what
resolving answers in terms of the chain alone, for tables with circles too: the first language on
the chain, that the chain ends in front of any language, or that it goes on for ever without one.

The bound loses nothing.  A name that a chain ever meets it meets within `size` steps
(`onChain_iff_exists_le`), since the names in front of the first visit are different aliases; and a
chain that goes on behind the bound has come back to a name by then (`not_ends_iff`).
-/

namespace Highlight.AliasTable

variable {t : AliasTable} {isLanguage : String → Bool} {name other language : String} {n : ℕ}

/-! ## The bound -/

/-- A chain with a language on it leads to a language, the first one. -/
lemma exists_leadsTo_of_walk (hn : t.walk name n = some other) (hl : isLanguage other = true) :
    ∃ language, t.LeadsTo isLanguage name language := by
  classical
  have hmeets : ∃ n x, t.walk name n = some x ∧ isLanguage x = true := ⟨n, other, hn, hl⟩
  obtain ⟨language, hlanguage, hfound⟩ := Nat.find_spec hmeets
  have havoid : t.Avoids isLanguage name (Nat.find hmeets) := by
    intro m hm x hx
    rw [Bool.eq_false_iff]
    intro hx'
    exact Nat.find_min hmeets hm ⟨x, hx, hx'⟩
  exact ⟨language, Nat.find hmeets, hlanguage, hfound, havoid⟩

/-- A name that lies on a chain is met within as many steps as there are aliases. -/
lemma onChain_iff_exists_le :
    t.OnChain name other ↔ ∃ n ≤ t.size, t.walk name n = some other := by
  constructor
  · rintro ⟨n, hn⟩
    -- If the name were the only language, it would be the first one on the chain.
    have hleads : ∃ first, t.LeadsTo (fun x => x == other) name first :=
      exists_leadsTo_of_walk hn (beq_self_eq_true other)
    obtain ⟨first, m, hm, hfirst, havoid⟩ := hleads
    have hle : m ≤ t.size := le_size_of_avoids hm hfirst havoid
    have heq : first = other := beq_iff_eq.mp hfirst
    exact ⟨m, hle, by rw [hm, heq]⟩
  · rintro ⟨n, -, hn⟩
    exact ⟨n, hn⟩

instance : Decidable (t.OnChain name other) :=
  decidable_of_iff (∃ n < t.size + 1, t.walk name n = some other) <| by
    simp only [onChain_iff_exists_le, Nat.lt_succ_iff]

/-- A chain ends if it ends within the bound. -/
lemma ends_iff : t.Ends name ↔ t.walk name (t.size + 1) = none := by
  constructor
  · intro hends
    exact hends.walk_size_succ
  · intro hnone
    exact ⟨t.size + 1, hnone⟩

/-- A chain that does not end comes back to a name within the bound. -/
lemma not_ends_iff :
    ¬ t.Ends name ↔
      ∃ i j x, i < j ∧ j ≤ t.size ∧ t.walk name i = some x ∧ t.walk name j = some x := by
  constructor
  · intro hforever
    have hgoes : t.walk name (t.size + 1) ≠ none := fun hnone => hforever (ends_iff.mpr hnone)
    by_contra hdistinct
    have hne : ∀ i j, i < j → j < t.size + 1 → t.walk name i ≠ t.walk name j := by
      intro i j hij hj heq
      obtain ⟨last, hlast⟩ := Option.ne_none_iff_exists'.mp hgoes
      obtain ⟨x, hx⟩ := exists_walk_of_le hlast (Nat.le_of_lt hj)
      exact hdistinct ⟨i, j, x, hij, Nat.lt_succ_iff.mp hj, heq.trans hx, hx⟩
    have hle : t.size + 1 ≤ t.size := le_size_of_walk_ne hgoes hne
    omega
  · rintro ⟨i, j, x, hij, -, hi, hj⟩
    exact not_ends_of_walk_eq hij hi hj

/-! ## Chains that lead to no language -/

/-- A chain that ends has a last name, which is no alias. -/
lemma Ends.exists_last (h : t.Ends name) :
    ∃ n last, t.walk name n = some last ∧ t.target? last = none := by
  obtain ⟨k, hk⟩ := h
  induction k with
  | zero => cases hk
  | succ k ih =>
    cases hlast : t.walk name k with
    | none => exact ih hlast
    | some last =>
      rw [walk, hlast, Option.bind_some] at hk
      exact ⟨k, last, hlast, hk⟩

/-- The chain of a name ends without a language if it reaches a name that is neither a language nor
an alias, and no language before. -/
lemma leadsNowhere_iff :
    t.LeadsNowhere isLanguage name ↔
      ∃ n last, t.walk name n = some last ∧ t.contains last = false ∧
        t.Avoids isLanguage name (n + 1) := by
  simp only [contains_eq_false_iff]
  constructor
  · rintro ⟨k, hk, havoid⟩
    have hends : t.Ends name := ⟨k, hk⟩
    obtain ⟨n, last, hlast, htarget⟩ := hends.exists_last
    have hlt : n < k := by
      by_contra hle
      rw [walk_eq_none_of_le hk (Nat.le_of_not_lt hle)] at hlast
      cases hlast
    exact ⟨n, last, hlast, htarget, fun m hm => havoid m (by omega)⟩
  · rintro ⟨n, last, hlast, htarget, havoid⟩
    exact ⟨n + 1, by rw [walk, hlast, Option.bind_some, htarget], havoid⟩

/-- The chain of a name goes on for ever without a language if it neither leads to a language nor
ends in front of one. -/
lemma forall_walk_iff :
    (∀ n, ∃ x, t.walk name n = some x ∧ isLanguage x = false) ↔
      ¬ t.Ends name ∧ ∀ language, ¬ t.LeadsTo isLanguage name language := by
  constructor
  · intro h
    constructor
    · rintro ⟨n, hn⟩
      obtain ⟨x, hx, -⟩ := h n
      rw [hn] at hx
      cases hx
    · rintro language ⟨n, hn, hl, -⟩
      obtain ⟨x, hx, hx'⟩ := h n
      obtain rfl : language = x := Option.some.inj (hn.symm.trans hx)
      rw [hl] at hx'
      cases hx'
  · rintro ⟨hends, hnone⟩ n
    have hn : t.walk name n ≠ none := fun hn => hends ⟨n, hn⟩
    obtain ⟨x, hx⟩ := Option.ne_none_iff_exists'.mp hn
    refine ⟨x, hx, ?_⟩
    rw [Bool.eq_false_iff]
    intro hl
    obtain ⟨language, hleads⟩ := exists_leadsTo_of_walk hx hl
    exact hnone language hleads

/-- Resolving does not know a name if its chain ends without a language. -/
lemma resolve_eq_unknown_iff :
    t.resolve name isLanguage = .error (.unknownLanguage name) ↔
      t.LeadsNowhere isLanguage name := by
  rcases t.resolve_cases isLanguage name with ⟨l, hl, h⟩ | ⟨hn, h⟩ | ⟨hends, -, h⟩
  · rw [h]
    exact ⟨nofun, fun hn => absurd hl hn.not_leadsTo⟩
  · rw [h]
    exact ⟨fun _ => hn, fun _ => rfl⟩
  · rw [h]
    exact ⟨nofun, fun hn => absurd hn.ends hends⟩

/-- Resolving reports a circle if the chain of the name goes on for ever without a language. -/
lemma resolve_eq_cycle_iff :
    t.resolve name isLanguage = .error (.cycle name) ↔
      ∀ n, ∃ x, t.walk name n = some x ∧ isLanguage x = false := by
  rw [forall_walk_iff]
  rcases t.resolve_cases isLanguage name with ⟨l, hl, h⟩ | ⟨hn, h⟩ | ⟨hends, hnone, h⟩
  · rw [h]
    exact ⟨nofun, fun hforever => absurd hl (hforever.2 l)⟩
  · rw [h]
    exact ⟨nofun, fun hforever => absurd hn.ends hforever.1⟩
  · rw [h]
    exact ⟨fun _ => ⟨hends, hnone⟩, fun _ => rfl⟩

/-! ## Exactness -/

/-- Resolving a name in a table, circles included, answers with the first language on the chain of
the name.  It does not know the name if the chain reaches a name that is neither a language nor an
alias before any language, and it reports a circle if the chain goes on for ever without a language;
each of the answers comes in this case only, and there is no other.  So the bound on the names that
are looked at cuts off no chain that ends: a chain that goes on behind it is a real circle, which
has come back to a name by then. -/
theorem resolve_exact_on_chain (t : AliasTable) (isLanguage : String → Bool) (name : String) :
    (∀ language, t.resolve name isLanguage = .ok language ↔
        t.LeadsTo isLanguage name language) ∧
      (t.resolve name isLanguage = .error (.unknownLanguage name) ↔
        ∃ n last, t.walk name n = some last ∧ t.contains last = false ∧
          t.Avoids isLanguage name (n + 1)) ∧
      (t.resolve name isLanguage = .error (.cycle name) ↔
        ∀ n, ∃ x, t.walk name n = some x ∧ isLanguage x = false) ∧
      ((∃ language, t.resolve name isLanguage = .ok language) ∨
        t.resolve name isLanguage = .error (.unknownLanguage name) ∨
        t.resolve name isLanguage = .error (.cycle name)) ∧
      (t.Ends name ↔ t.walk name (t.size + 1) = none) ∧
      (¬ t.Ends name ↔
        ∃ i j x, i < j ∧ j ≤ t.size ∧ t.walk name i = some x ∧ t.walk name j = some x) := by
  refine ⟨fun language => resolve_eq_ok_iff, ?_, resolve_eq_cycle_iff, ?_, ends_iff, not_ends_iff⟩
  · rw [resolve_eq_unknown_iff, leadsNowhere_iff]
  · rcases t.resolve_cases isLanguage name with ⟨l, -, h⟩ | ⟨-, h⟩ | ⟨-, -, h⟩
    · exact .inl ⟨l, h⟩
    · exact .inr (.inl h)
    · exact .inr (.inr h)

/-- A language inside a circle is found, and without it the circle is reported. -/
example :
    let t := ((empty.insert "mkd" "md").insert "md" "markdown").insert "markdown" "mkd"
    t.resolve "mkd" (· == "markdown") = .ok "markdown" ∧
      t.resolve "mkd" (fun _ => false) = .error (.cycle "mkd") := by
  decide +kernel

end Highlight.AliasTable
