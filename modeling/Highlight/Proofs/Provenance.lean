import Highlight.Proofs.NestingLimit
import Mathlib.Tactic.Common

/-!
# Where recognized tokens come from

Token trees follow grammar trees.  A recognized token has the kind of a rule and the labels of one
of its patterns.  It holds a text if the pattern has no grammar inside; otherwise it holds the
stream that this grammar makes of the text of the token, and the tokens of the stream come from that
grammar in turn.

Such a stream is made in the middle of another run, but it depends on nothing of it.  The text in
front of the token and behind it is out of sight, and of the limit only the levels count that are
left: a run on the text of the token alone, with these levels as its limit, makes the same stream.
-/

namespace Highlight

/-- A token comes from a grammar where grammars may nest `levels` deep: it is plain text, or it has
the kind of a rule and the labels of one of its patterns, and holds a text or the stream of its text
according to whether there is a grammar inside the pattern. -/
inductive Token.ComesFrom : ℕ → Grammar → Token → Prop where
  | plain (levels : ℕ) (g : Grammar) (text : String) : ComesFrom levels g (.plain text)
  | text {levels : ℕ} {g : Grammar} {rule : Rule Pattern} {p : Pattern} (hrule : rule ∈ g)
    (hp : p ∈ rule.patterns) (hinside : p.inside = none) (text : String) :
    ComesFrom levels g (.matched rule.kind p.labels (.text text))
  | nested {levels : ℕ} {g inner : Grammar} {rule : Rule Pattern} {p : Pattern}
    {stream : List Token} (hrule : rule ∈ g) (hp : p ∈ rule.patterns)
    (hinside : p.inside = some inner)
    (hrun : inner.tokenize levels (Token.textOf stream) = .ok stream)
    (hstream : ∀ token ∈ stream, ComesFrom levels inner token) :
    ComesFrom (levels + 1) g (.matched rule.kind p.labels (.nested stream))

section Runs

variable {limit levels : ℕ} {g : Grammar} {text : List Char} {tokens : List Token}

/-- The stream of a run comes from a run on its own text, whose limit is the number of levels. -/
lemma Grammar.tokenize_textOf (h : g.tokenizeWithin limit levels text = .ok tokens) :
    g.tokenize levels (Token.textOf tokens) = .ok tokens := by
  have htext : (Token.textOf tokens).toList = text := by
    rw [Grammar.textOf_tokenizeWithin limit h, String.toList_ofList]
  unfold Grammar.tokenize
  rw [htext]
  exact Grammar.tokenizeWithin_of_nestsWithin h (Grammar.nestsWithin_of_tokenizeWithin h)

/-- The tokens of a run come from its grammar. -/
lemma Grammar.comesFrom_of_tokenizeWithin (h : g.tokenizeWithin limit levels text = .ok tokens) :
    ∀ token ∈ tokens, Token.ComesFrom levels g token := by
  induction levels using Nat.strongRecOn generalizing g text tokens with
  | ind levels ih =>
    rw [Grammar.tokenizeWithin_eq] at h
    intro token hmem
    cases Grammar.makes_of_applyRules h token hmem with
    | plain text => exact .plain levels g text
    | matched hpass hne hcontent =>
      obtain ⟨rule, hrule, rfl, hp⟩ := Grammar.mem_passes_iff.mp hpass
      obtain ⟨hinside, rfl⟩ | ⟨inner, stream, hinside, hstream, rfl⟩ :=
        Pattern.content_eq_ok_iff.mp hcontent
      · exact .text hrule hp hinside _
      · obtain ⟨rest, rfl, hrun⟩ := Grammar.tokenizeInside_eq_ok_iff.mp hstream
        exact .nested hrule hp hinside (Grammar.tokenize_textOf hrun)
          (ih rest (Nat.lt_succ_self rest) hrun)

/-- Every token of a text comes from the grammar: it has the kind of a rule and the labels of one of
its patterns, and holds its text if there is no grammar inside the pattern, or else the stream that
the grammar inside makes of its text, of whose tokens the same holds in turn.  At every level the
stream is what a grammar makes of the text of the stream alone, with the limit less the number of
streams above it, and its tokens come from that grammar. -/
theorem Grammar.comesFrom_of_tokenize {limit : ℕ} {g : Grammar} {text : String}
    {tokens : List Token} (h : g.tokenize limit text = .ok tokens) :
    (∀ token ∈ tokens, Token.ComesFrom limit g token) ∧
      ∀ n stream, Token.StreamAt tokens n stream → ∃ inner : Grammar, n ≤ limit ∧
        inner.tokenize (limit - n) (Token.textOf stream) = .ok stream ∧
          ∀ token ∈ stream, Token.ComesFrom (limit - n) inner token := by
  refine ⟨Grammar.comesFrom_of_tokenizeWithin h, fun n stream hstream => ?_⟩
  obtain ⟨inner, part, rest, hlimit, -, hrun⟩ := Grammar.exists_run_of_streamAt h hstream
  obtain rfl : rest = limit - n := by omega
  refine ⟨inner, by omega, Grammar.tokenize_textOf hrun, ?_⟩
  exact Grammar.comesFrom_of_tokenizeWithin hrun

/-- A tag with an attribute inside: the tag comes from the outer grammar, and what it holds from the
grammar inside its pattern, with one level less. -/
theorem comesFrom_of_tokenize_of_tag :
    let name : Grammar := [⟨"name", (Pattern.compile "name" "[a-z]+").toOption.toList⟩]
    let tag := (Pattern.compile "tag" "<[a-z]+>").toOption.map fun p =>
      (p.withLabels (.single "markup")).withInside name
    let g : Grammar := [⟨"tag", (Pattern.compile "tag" "<>").toOption.toList ++ tag.toList⟩]
    let stream : List Token := [.plain "<", .matched "name" none (.text "b"), .plain ">"]
    let tokens : List Token := [.matched "tag" (some (.single "markup")) (.nested stream),
      .plain "x", .matched "tag" none (.text "<>")]
    g.tokenize 1 "<b>x<>" = .ok tokens ∧ (∀ token ∈ tokens, Token.ComesFrom 1 g token) ∧
      ∃ inner : Grammar, inner.tokenize 0 "<b>" = .ok stream ∧
        ∀ token ∈ stream, Token.ComesFrom 0 inner token := by
  intro name tag g stream tokens
  have htokens : g.tokenize 1 "<b>x<>" = .ok tokens := by decide +revert +kernel
  have hstream : Token.StreamAt tokens 1 stream := .inside List.mem_cons_self (.top stream)
  obtain ⟨htop, hlevels⟩ := Grammar.comesFrom_of_tokenize htokens
  obtain ⟨inner, -, hrun, hinner⟩ := hlevels 1 stream hstream
  exact ⟨htokens, htop, inner, hrun, hinner⟩

end Runs

end Highlight
