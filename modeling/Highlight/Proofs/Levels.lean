import Highlight.Proofs.Coverage
import Mathlib.Tactic.Common

/-!
# The levels of a stream

A stream has further streams below it: those that its tokens hold, those that the tokens of these
hold, and so on.  `Token.StreamAt` says which streams lie under how many others.

What a run makes on one level is said once, by `Grammar.Makes`: a token is plain text, or one of the
patterns has made it of a text.  So a stream that a token of a run holds comes from a run of its
own, with the grammar inside the pattern and one level less (`Grammar.exists_run_of_mem`), and by
induction every stream below it comes from such a run (`Grammar.exists_run_of_streamAt`).  What
holds of the stream of every run therefore holds at all levels.
-/

namespace Highlight

/-- A stream, and the streams that its tokens hold, each with the number of streams that it lies
under. -/
inductive Token.StreamAt : List Token → ℕ → List Token → Prop where
  | top (tokens : List Token) : StreamAt tokens 0 tokens
  | inside {tokens stream bottom : List Token} {kind : String} {labels : Option (Shorthand String)}
    {n : ℕ} (hmem : .matched kind labels (.nested stream) ∈ tokens)
    (hbottom : StreamAt stream n bottom) : StreamAt tokens (n + 1) bottom

/-! ## The tokens of one level -/

section OneLevel

variable {tokenize : Grammar → List Char → Except TokenizeError (List Token)} {g : Grammar}
  {text : List Char} {tokens : List Token}

/-- The passes of a grammar are the patterns of its rules, each with the kind of its rule. -/
lemma Grammar.mem_passes_iff {kind : String} {p : Pattern} :
    (kind, p) ∈ g.passes ↔ ∃ rule ∈ g, rule.kind = kind ∧ p ∈ rule.patterns := by
  unfold Grammar.passes
  rw [List.mem_flatMap]
  refine exists_congr fun rule => and_congr_right fun _ => ?_
  rw [List.mem_map]
  constructor
  · rintro ⟨p, hp, heq⟩
    cases heq
    exact ⟨rfl, hp⟩
  · rintro ⟨rfl, hp⟩
    exact ⟨p, hp, rfl⟩

/-- A token of a pattern holds its text, or the stream that the grammar inside the pattern makes of
the text. -/
lemma Pattern.content_eq_ok_iff {p : Pattern} {content : TokenContent} :
    p.content tokenize text = .ok content ↔
      (p.inside = none ∧ content = .text (String.ofList text)) ∨
        ∃ inner stream, p.inside = some inner ∧ tokenize inner text = .ok stream ∧
          content = .nested stream := by
  unfold Pattern.content
  cases hinside : p.inside with
  | none =>
    constructor
    · intro h
      cases h
      exact .inl ⟨rfl, rfl⟩
    · rintro (⟨-, rfl⟩ | ⟨inner, stream, hsome, -⟩)
      · rfl
      · cases hsome
  | some inner =>
    rw [map_eq_ok_iff]
    constructor
    · rintro ⟨stream, hstream, rfl⟩
      exact .inr ⟨inner, stream, rfl, hstream, rfl⟩
    · rintro (⟨hnone, -⟩ | ⟨_, stream, hsome, hstream, rfl⟩)
      · cases hnone
      · cases hsome
        exact ⟨stream, hstream, rfl⟩

/-- A token that a grammar may make: plain text, or what one of its patterns makes of a text that is
not empty. -/
inductive Grammar.Makes (g : Grammar)
    (tokenize : Grammar → List Char → Except TokenizeError (List Token)) : Token → Prop where
  | plain (text : String) : Makes g tokenize (.plain text)
  | matched {kind : String} {p : Pattern} {part : List Char} {content : TokenContent}
    (hpass : (kind, p) ∈ g.passes) (hne : part ≠ [])
    (hcontent : p.content tokenize part = .ok content) :
    Makes g tokenize (.matched kind p.labels content)

/-- A grammar makes all tokens of a text. -/
theorem Grammar.makes_of_applyRules (h : g.applyRules tokenize text = .ok tokens) :
    ∀ token ∈ tokens, g.Makes tokenize token := by
  rw [Grammar.applyRules_eq] at h
  obtain ⟨segments, hsegments, rfl⟩ := map_eq_ok_iff.mp h
  have hmakes : ∀ segment ∈ segments, g.Makes tokenize segment.toToken := by
    refine applyPasses_forall_mem hsegments (fun _ _ => .plain _) ?_
      (List.forall_mem_singleton.mpr (.plain _))
    intro pass hpass part token hne htoken
    obtain ⟨content, hcontent, rfl⟩ := Pattern.close_eq_ok_iff.mp htoken
    exact .matched hpass hne hcontent
  intro token hmem
  obtain ⟨segment, hsegment, rfl⟩ := List.mem_map.mp hmem
  exact hmakes segment hsegment

/-- Of a text that is not empty every grammar makes some token. -/
lemma Grammar.ne_nil_of_tokenizeWithin {limit levels : ℕ}
    (h : g.tokenizeWithin limit levels text = .ok tokens) (hne : text ≠ []) : tokens ≠ [] := by
  rintro rfl
  have htext : Token.textOf [] = String.ofList text := Grammar.textOf_tokenizeWithin limit h
  exact hne (String.ofList_eq_empty_iff.mp htext.symm)

end OneLevel

/-! ## One level less -/

/-- How a text is tokenized with a grammar inside, where grammars may nest `levels` deep around it.
-/
def Grammar.tokenizeInside (limit : ℕ) :
    ℕ → Grammar → List Char → Except TokenizeError (List Token)
  | 0, _, _ => .error (.depthExceeded limit)
  | levels + 1, g, text => g.tokenizeWithin limit levels text

section Levels

variable {limit levels : ℕ} {g : Grammar} {text : List Char} {tokens : List Token}

/-- Tokenizing applies the rules, and tokenizes with the grammars inside one level deeper. -/
lemma Grammar.tokenizeWithin_eq (limit levels : ℕ) (g : Grammar) (text : List Char) :
    g.tokenizeWithin limit levels text =
      g.applyRules (Grammar.tokenizeInside limit levels) text := by
  cases levels with
  | zero => rfl
  | succ levels => rfl

/-- Tokenizing with a grammar inside succeeds only if a level is left for it. -/
lemma Grammar.tokenizeInside_eq_ok_iff :
    Grammar.tokenizeInside limit levels g text = .ok tokens ↔
      ∃ rest, levels = rest + 1 ∧ g.tokenizeWithin limit rest text = .ok tokens := by
  cases levels with
  | zero =>
    constructor
    · intro h
      cases h
    · rintro ⟨rest, hrest, -⟩
      cases hrest
  | succ levels =>
    constructor
    · intro h
      exact ⟨levels, rfl, h⟩
    · rintro ⟨rest, hrest, h⟩
      cases hrest
      exact h

/-- Tokenizing with a grammar inside loses nothing. -/
lemma Grammar.textOf_tokenizeInside (h : Grammar.tokenizeInside limit levels g text = .ok tokens) :
    Token.textOf tokens = String.ofList text := by
  obtain ⟨rest, -, hrun⟩ := Grammar.tokenizeInside_eq_ok_iff.mp h
  exact Grammar.textOf_tokenizeWithin limit hrun

/-- A stream that a token of a run holds comes from a run of its own: of a text that is not empty,
with the grammar inside a pattern of the kind and the labels of the token, and one level less. -/
theorem Grammar.exists_run_of_mem (h : g.tokenizeWithin limit levels text = .ok tokens)
    {kind : String} {labels : Option (Shorthand String)} {stream : List Token}
    (hmem : .matched kind labels (.nested stream) ∈ tokens) :
    ∃ p inner part rest, (kind, p) ∈ g.passes ∧ p.labels = labels ∧ p.inside = some inner ∧
      part ≠ [] ∧ levels = rest + 1 ∧ inner.tokenizeWithin limit rest part = .ok stream := by
  rw [Grammar.tokenizeWithin_eq] at h
  cases Grammar.makes_of_applyRules h _ hmem with
  | matched hpass hne hcontent =>
    rename_i p part
    obtain ⟨-, hcontent⟩ | ⟨inner, stream, hinside, hstream, hcontent⟩ :=
      Pattern.content_eq_ok_iff.mp hcontent
    · cases hcontent
    · cases hcontent
      obtain ⟨rest, hlevels, hrun⟩ := Grammar.tokenizeInside_eq_ok_iff.mp hstream
      exact ⟨p, inner, part, rest, hpass, rfl, hinside, hne, hlevels, hrun⟩

/-- Every stream below the stream of a run comes from a run of its own, with as many levels less as
there are streams above it.  No such run is on an empty text, unless the first one is. -/
theorem Grammar.exists_run_of_streamAt (h : g.tokenizeWithin limit levels text = .ok tokens) {n : ℕ}
    {stream : List Token} (hstream : Token.StreamAt tokens n stream) :
    ∃ (inner : Grammar) (part : List Char) (rest : ℕ), levels = n + rest ∧
      (text ≠ [] → part ≠ []) ∧ inner.tokenizeWithin limit rest part = .ok stream := by
  induction hstream generalizing g levels text with
  | top tokens => exact ⟨g, text, levels, (Nat.zero_add levels).symm, id, h⟩
  | inside hmem _ ih =>
    obtain ⟨_, inner, part, rest, -, -, -, hpart, rfl, hrun⟩ := Grammar.exists_run_of_mem h hmem
    obtain ⟨inner', part', rest', rfl, hpart', hrun'⟩ := ih hrun
    exact ⟨inner', part', rest', by omega, fun _ => hpart' hpart, hrun'⟩

end Levels

end Highlight
