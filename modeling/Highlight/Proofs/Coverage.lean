import Highlight.Pattern.Highlighter
import Highlight.Proofs.Splitting
import Highlight.Proofs.TokenText
import Mathlib.Tactic.Common

/-!
# Nothing is lost

The segments of a text cover it, at every moment of a run: their texts in order are the text.  A
pattern keeps this because a piece, what is in front of it and what is behind it make up the segment
that it is found in, and because the token that is made of a piece has the text of the piece.  The
latter holds for grammars inside by induction on how deep they may nest.

Nothing is assumed of the regular expressions.  Whatever a search answers, what it answers lies
inside the text.
-/

namespace Highlight

/-! ## Segments -/

/-- The part of the text that a segment stands for. -/
def Segment.chars : Segment → List Char
  | plain text => text
  | done token => (String.join token.leaves).toList

/-- The text in front of a piece, if there is any, is kept as a segment. -/
@[simp] lemma Segment.flatMap_chars_ofText (text : List Char) :
    (Segment.ofText text).flatMap Segment.chars = text := by
  unfold Segment.ofText
  split_ifs with h
  · rw [List.isEmpty_iff.mp h, List.flatMap_nil]
  · rw [List.flatMap_cons, List.flatMap_nil, List.append_nil, Segment.chars]

/-- The tokens of segments have the text that the segments stand for. -/
lemma Segment.textOf_map_toToken (segments : List Segment) :
    Token.textOf (segments.map Segment.toToken) =
      String.ofList (segments.flatMap Segment.chars) := by
  induction segments with
  | nil => rfl
  | cons segment segments ih =>
    rw [List.map_cons, Token.textOf_cons, ih, List.flatMap_cons, String.ofList_append]
    cases segment with
    | plain text => rw [Segment.toToken, Token.join_leaves_plain, Segment.chars]
    | done token => rw [Segment.toToken, Segment.chars, String.ofList_toList]

/-! ## Splitting -/

/-- A piece and what is behind it are what is behind the text in front of the piece. -/
lemma Piece.text_append_drop {text : List Char} (piece : Piece text.length) :
    piece.text ++ text.drop piece.val.stop = text.drop piece.val.start := by
  have hdrop : text.drop piece.val.stop =
      (text.drop piece.val.start).drop (piece.val.stop - piece.val.start) := by
    rw [List.drop_drop, Nat.add_sub_cancel' piece.val.start_le_stop]
  rw [hdrop]
  exact List.take_append_drop _ _

section Split

variable {find : Finder} {close : List Char → Except TokenizeError Token}

/-- Splitting a text loses nothing, if the token that is made of a text has this text. -/
lemma SplitsInto.flatMap_chars
    (hclose : ∀ text token, close text = .ok token → String.join token.leaves = String.ofList text)
    {text : List Char} {segments : List Segment} (h : SplitsInto find close text segments) :
    segments.flatMap Segment.chars = text := by
  induction h with
  | nil => rfl
  | rest _ _ => rw [List.flatMap_cons, List.flatMap_nil, List.append_nil, Segment.chars]
  | @piece text piece token others _ htoken _ ih =>
    have hchars : (Segment.done token).chars = piece.text := by
      rw [Segment.chars, hclose piece.text token htoken, String.toList_ofList]
    calc (Segment.ofText (text.take piece.val.start) ++ .done token :: others).flatMap Segment.chars
        = text.take piece.val.start ++ (piece.text ++ text.drop piece.val.stop) := by
          rw [List.flatMap_append, Segment.flatMap_chars_ofText, List.flatMap_cons, hchars, ih]
      _ = text := by rw [piece.text_append_drop, List.take_append_drop]

/-- Splitting all open segments loses nothing, if splitting one loses nothing. -/
lemma SplitsAll.flatMap_chars {split : List Char → Except TokenizeError (List Segment)}
    (hsplit : ∀ text parts, split text = .ok parts → parts.flatMap Segment.chars = text)
    {segments out : List Segment} (h : SplitsAll split segments out) :
    out.flatMap Segment.chars = segments.flatMap Segment.chars := by
  induction h with
  | nil => rfl
  | done _ ih => rw [List.flatMap_cons, List.flatMap_cons, ih]
  | @plain text _ _ _ hparts _ ih =>
    rw [List.flatMap_append, List.flatMap_cons, ih, hsplit text _ hparts, Segment.chars]

end Split

/-! ## Grammars -/

section Rules

variable {tokenize : Grammar → List Char → Except TokenizeError (List Token)}

/-- What a token holds has the text that the token is made of. -/
lemma Pattern.join_leaves_content
    (htokenize : ∀ g text tokens, tokenize g text = .ok tokens →
      Token.textOf tokens = String.ofList text)
    {p : Pattern} {text : List Char} {content : TokenContent}
    (h : p.content tokenize text = .ok content) :
    String.join content.leaves = String.ofList text := by
  unfold Pattern.content at h
  cases hinside : p.inside with
  | none =>
    rw [hinside] at h
    cases h
    simp [TokenContent.leaves]
  | some g =>
    rw [hinside] at h
    obtain ⟨tokens, htokens, rfl⟩ := map_eq_ok_iff.mp h
    exact htokenize g text tokens htokens

/-- Applying the rules of a grammar loses nothing, if tokenizing with grammars inside loses nothing.
-/
lemma Grammar.textOf_applyRules
    (htokenize : ∀ g text tokens, tokenize g text = .ok tokens →
      Token.textOf tokens = String.ofList text)
    {g : Grammar} {text : List Char} {tokens : List Token}
    (h : g.applyRules tokenize text = .ok tokens) : Token.textOf tokens = String.ofList text := by
  rw [Grammar.applyRules_eq] at h
  obtain ⟨segments, hsegments, rfl⟩ := map_eq_ok_iff.mp h
  have hchars : segments.flatMap Segment.chars = text := by
    refine applyPasses_induction (fun segments => segments.flatMap Segment.chars = text)
      hsegments (fun pass _ segments out hsplit hchars => ?_) (by simp [Segment.chars])
    refine (hsplit.flatMap_chars fun part parts hparts => ?_).trans hchars
    refine (splitText_eq_ok_iff.mp hparts).flatMap_chars fun text token htoken => ?_
    obtain ⟨content, hcontent, rfl⟩ := Pattern.close_eq_ok_iff.mp htoken
    exact Pattern.join_leaves_content htokenize hcontent
  rw [Segment.textOf_map_toToken, hchars]

/-- Tokenizing loses nothing, however deep grammars may nest. -/
theorem Grammar.textOf_tokenizeWithin (limit : ℕ) {levels : ℕ} {g : Grammar} {text : List Char}
    {tokens : List Token} (h : Grammar.tokenizeWithin limit levels g text = .ok tokens) :
    Token.textOf tokens = String.ofList text := by
  induction levels generalizing g text tokens with
  | zero => exact Grammar.textOf_applyRules (fun _ _ _ hnone => by cases hnone) h
  | succ levels ih => exact Grammar.textOf_applyRules (fun _ _ _ hinside => ih hinside) h

end Rules

/-! ## Highlighting -/

/-- What highlighting gives is the tree of the tokens that some grammar makes of the text; only for
the empty text it is the empty tree. -/
lemma PatternHighlighter.exists_tokens_of_highlight {h : PatternHighlighter} {text name : String}
    {nodes : List Node} (hnodes : h.highlight text name = .ok nodes) :
    (text = "" ∧ nodes = []) ∨
      ∃ (g : Grammar) (tokens : List Token),
        g.tokenize h.tokenizer.maxDepth text = .ok tokens ∧ nodes = Node.ofTokens tokens := by
  unfold PatternHighlighter.highlight Registry.highlight at hnodes
  cases hr : h.registry.resolve name with
  | error e =>
    rw [hr] at hnodes
    cases hnodes
  | ok language =>
    rw [hr] at hnodes
    by_cases htext : text = ""
    · simp only [htext, if_true] at hnodes
      cases hnodes
      exact .inl ⟨htext, rfl⟩
    · simp only [htext, if_false] at hnodes
      cases htok : language.grammar.tokenize h.tokenizer.maxDepth text with
      | error e =>
        simp only [bind, pure, PatternTokenizer.tokenize, htok] at hnodes
        cases hnodes
      | ok tokens =>
        simp only [bind, pure, PatternTokenizer.tokenize, htok] at hnodes
        cases hnodes
        exact .inr ⟨language.grammar, tokens, htok, rfl⟩

/-- The tree of a text has the text, and so have its tokens: the texts of their leaves in order are
the text, and their lengths add up to its length in bytes.  This holds for all grammars, whatever
their patterns find. -/
theorem PatternHighlighter.textOf_highlight :
    (∀ (h : PatternHighlighter) (text name : String) (nodes : List Node),
        h.highlight text name = .ok nodes → Node.textOf nodes = text) ∧
      ∀ (limit : ℕ) (g : Grammar) (text : String) (tokens : List Token),
        g.tokenize limit text = .ok tokens →
          String.join (Token.leavesOf tokens) = text ∧
            (tokens.map Token.textLen).sum = text.utf8ByteSize := by
  have htokens : ∀ (limit : ℕ) (g : Grammar) (text : String) (tokens : List Token),
      g.tokenize limit text = .ok tokens → String.join (Token.leavesOf tokens) = text := by
    intro limit g text tokens h
    have htext := Grammar.textOf_tokenizeWithin limit h
    rwa [String.ofList_toList] at htext
  constructor
  · intro h text name nodes hnodes
    obtain ⟨rfl, rfl⟩ | ⟨g, tokens, htok, rfl⟩ :=
      PatternHighlighter.exists_tokens_of_highlight hnodes
    · rfl
    · rw [Node.textOf_ofTokens, htokens _ _ _ _ htok]
  · intro limit g text tokens h
    have htext := htokens limit g text tokens h
    refine ⟨htext, ?_⟩
    rw [← Token.textLenOf_eq_sum, Token.textLenOf_eq, htext]

/-- A word with an accented mark inside: the tree and the tokens have the text, six bytes of it. -/
theorem textOf_highlight_of_nested_grammar :
    let inside : Grammar := [⟨"mark", (Pattern.compile "mark" "é").toOption.toList⟩]
    let word := (Pattern.compile "word" "(?:aé)").toOption.map (Pattern.withInside inside)
    let g : Grammar := [⟨"word", word.toList⟩]
    let h : PatternHighlighter := ⟨Registry.empty.commit ("demo", g), ⟨1⟩⟩
    let tokens : List Token := [.plain "b",
      .matched "word" none (.nested [.plain "a", .matched "mark" none (.text "é")]), .plain " b"]
    h.highlight "baé b" "demo" = .ok (Node.ofTokens tokens) ∧
      Node.textOf (Node.ofTokens tokens) = "baé b" ∧
      g.tokenize 1 "baé b" = .ok tokens ∧
      (tokens.map Token.textLen).sum = "baé b".utf8ByteSize := by
  intro inside word g h tokens
  have hnodes : h.highlight "baé b" "demo" = .ok (Node.ofTokens tokens) := by
    decide +revert +kernel
  have htokens : g.tokenize 1 "baé b" = .ok tokens := by decide +revert +kernel
  exact ⟨hnodes, PatternHighlighter.textOf_highlight.1 h _ _ _ hnodes, htokens,
    (PatternHighlighter.textOf_highlight.2 1 g _ _ htokens).2⟩

end Highlight
