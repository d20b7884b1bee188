import Highlight.Proofs.Composition
import Highlight.Proofs.Levels
import Mathlib.Data.List.Chain
import Mathlib.Data.List.Forall2
import Mathlib.Data.String.Basic

/-!
# Token streams in canonical form

A run on a text that is not empty gives a stream in which nothing is wasted: it has a token, none of
its tokens is empty, and of two neighbours one at least has been recognized by a rule.  The same
holds of all streams below it.

The form is kept by every pass.  Open segments stand apart, with closed ones between them, and what
comes of an open segment begins and ends at closed ones or at the ends of the whole list; so the
parts of a segment stand apart as well, and stand apart from the parts of all others.

The byte spans of the recognized tokens are counted from the lengths of the tokens in front.  Since
no text is lost these are the places where the tokens stand in the text.
-/

namespace Highlight

/-! ## The form -/

/-- A span of bytes is where a token stands in a text: it is not empty, begins and ends between
characters, and the text in it is the text of the token. -/
structure Token.Located (text : String) (token : Token) (span : ℕ × ℕ) : Prop where
  start_lt_stop : span.1 < span.2
  isValid_start : (String.Pos.Raw.mk span.1).IsValid text
  isValid_stop : (String.Pos.Raw.mk span.2).IsValid text
  extract_eq : String.Pos.Raw.extract text ⟨span.1⟩ ⟨span.2⟩ = String.join token.leaves

/-- A stream in canonical form: it has tokens, none of them is empty, no two plain ones are
neighbours, and the spans of the recognized ones are where these stand, one behind the other. -/
structure Token.Canonical (tokens : List Token) : Prop where
  ne_nil : tokens ≠ []
  text_ne_empty : ∀ token ∈ tokens, String.join token.leaves ≠ ""
  plain_apart : tokens.IsChain fun a b => a.isMatched = true ∨ b.isMatched = true
  spans_apart : (Token.spans tokens).Pairwise fun a b => a.2 ≤ b.1
  located : List.Forall₂ (Token.Located (Token.textOf tokens)) (tokens.filter Token.isMatched)
    (Token.spans tokens)

/-! ## The spans of a stream -/

section Spans

variable {tokens : List Token} {offset : ℕ}

/-- A token that is not empty stands behind the text in front of it. -/
lemma Token.located_append {front back : String} {token : Token}
    (hne : String.join token.leaves ≠ "") :
    Token.Located (front ++ String.join token.leaves ++ back) token
      (front.utf8ByteSize, front.utf8ByteSize + token.textLen) := by
  set part := String.join token.leaves with hpart
  have hlen : token.textLen = part.utf8ByteSize := Token.textLen_eq token
  have hpos : 0 < part.utf8ByteSize := by
    have hzero : part.utf8ByteSize ≠ 0 := fun h => hne (String.utf8ByteSize_eq_zero_iff.mp h)
    omega
  constructor
  · omega
  · rw [String.Pos.Raw.isValid_iff_exists_append]
    exact ⟨front, part ++ back, String.append_assoc, rfl⟩
  · rw [String.Pos.Raw.isValid_iff_exists_append, hlen, ← String.utf8ByteSize_append]
    exact ⟨front ++ part, back, rfl, rfl⟩
  · rw [hlen]
    have hmiddle := String.extract_of_valid front.toList part.toList back.toList
    simpa [String.append_assoc] using hmiddle

/-- The spans of a stream are where its recognized tokens stand, if none of its tokens is empty. -/
lemma Token.forall₂_located_spansFrom
    (hne : ∀ token ∈ tokens, String.join token.leaves ≠ "") (front : String) :
    List.Forall₂ (Token.Located (front ++ Token.textOf tokens)) (tokens.filter Token.isMatched)
      (Token.spansFrom front.utf8ByteSize tokens) := by
  induction tokens generalizing front with
  | nil => exact .nil
  | cons token tokens ih =>
    rw [List.forall_mem_cons] at hne
    have hrest := ih hne.2 (front ++ String.join token.leaves)
    rw [String.append_assoc, ← Token.textOf_cons, String.utf8ByteSize_append] at hrest
    cases token with
    | plain text =>
      rw [Token.join_leaves_plain] at hrest
      exact hrest
    | matched kind labels content =>
      have hlocated := @Token.located_append front (Token.textOf tokens) _ hne.1
      rw [String.append_assoc, ← Token.textOf_cons] at hlocated
      rw [← Token.textLen_eq] at hrest
      exact .cons hlocated hrest

/-- The spans of a stream lie behind the place where it begins. -/
lemma Token.le_of_mem_spansFrom {span : ℕ × ℕ} (h : span ∈ Token.spansFrom offset tokens) :
    offset ≤ span.1 := by
  induction tokens generalizing offset with
  | nil => cases h
  | cons token tokens ih =>
    cases token with
    | plain text =>
      have hle := ih h
      omega
    | matched kind labels content =>
      unfold Token.spansFrom at h
      obtain rfl | h := List.mem_cons.mp h
      · exact Nat.le_refl offset
      · have hle := ih h
        omega

/-- The spans of a stream lie one behind the other. -/
lemma Token.pairwise_spansFrom (offset : ℕ) (tokens : List Token) :
    (Token.spansFrom offset tokens).Pairwise fun a b => a.2 ≤ b.1 := by
  induction tokens generalizing offset with
  | nil => exact .nil
  | cons token tokens ih =>
    cases token with
    | plain text => exact ih _
    | matched kind labels content =>
      exact .cons (fun span hspan => Token.le_of_mem_spansFrom hspan) (ih _)

end Spans

/-! ## Segments that stand apart -/

section Segments

variable {find : Finder} {close : List Char → Except TokenizeError Token}
  {split : List Char → Except TokenizeError (List Segment)} {text : List Char}
  {segments out : List Segment}

/-- One of two segments is closed. -/
def Segment.Apart : Segment → Segment → Prop
  | plain _, plain _ => False
  | _, _ => True

/-- A closed segment stands apart from all others. -/
lemma Segment.apart_done (segment : Segment) (token : Token) :
    Segment.Apart segment (.done token) := by
  cases segment <;> trivial

/-- The parts of a segment stand apart. -/
lemma SplitsInto.isChain (h : SplitsInto find close text segments) :
    segments.IsChain Segment.Apart := by
  induction h with
  | nil => exact .nil
  | rest => exact .singleton _
  | @piece text piece token others _ _ _ ih =>
    have hback : (Segment.done token :: others).IsChain Segment.Apart :=
      List.isChain_cons.mpr ⟨fun _ _ => trivial, ih⟩
    unfold Segment.ofText
    split_ifs with hempty
    · exact hback
    · exact .cons_cons (Segment.apart_done _ token) hback

/-- Segments that stand apart stand apart after open ones are split. -/
lemma SplitsAll.isChain (h : SplitsAll split segments out)
    (hsplit : ∀ text parts, split text = .ok parts → parts.IsChain Segment.Apart)
    (hsegments : segments.IsChain Segment.Apart) : out.IsChain Segment.Apart := by
  induction h with
  | nil => exact .nil
  | done _ ih =>
    rw [List.isChain_cons] at hsegments ⊢
    exact ⟨fun _ _ => trivial, ih hsegments.2⟩
  | @plain text parts segments others hparts hothers ih =>
    rw [List.isChain_cons] at hsegments
    rw [List.isChain_append]
    refine ⟨hsplit text parts hparts, ih hsegments.2, fun last _ next hnext => ?_⟩
    -- What stands behind an open segment is closed, and so it stays as it is.
    cases hothers with
    | nil => cases hnext
    | @done token =>
      obtain rfl : .done token = next := Option.some.inj hnext
      exact Segment.apart_done last token
    | plain => exact absurd (hsegments.1 _ rfl) id

end Segments

/-! ## Runs -/

section Runs

variable {limit levels : ℕ} {g : Grammar} {text : List Char} {tokens : List Token}

/-- Neighbours among the tokens of a text are not both plain. -/
lemma Grammar.plain_apart_of_applyRules
    {tokenize : Grammar → List Char → Except TokenizeError (List Token)}
    (h : g.applyRules tokenize text = .ok tokens) :
    tokens.IsChain fun a b => a.isMatched = true ∨ b.isMatched = true := by
  rw [Grammar.applyRules_eq] at h
  obtain ⟨segments, hsegments, rfl⟩ := map_eq_ok_iff.mp h
  have hapart : segments.IsChain Segment.Apart := by
    refine applyPasses_induction (fun segments => segments.IsChain Segment.Apart) hsegments
      (fun pass _ segments out hsplit hchain => ?_) (.singleton _)
    exact hsplit.isChain (fun text parts hparts => (splitText_eq_ok_iff.mp hparts).isChain) hchain
  have hrec : ∀ segment ∈ segments, segment.Recognized := applyPasses_recognized hsegments
  rw [List.isChain_map]
  refine hapart.imp_of_mem_imp fun a b ha hb hab => ?_
  cases a with
  | done token => exact .inl (hrec _ ha)
  | plain text =>
    cases b with
    | done token => exact .inr (hrec _ hb)
    | plain text' => exact absurd hab id

/-- No token of a text is empty, unless the text is. -/
lemma Grammar.text_ne_empty_of_tokenizeWithin (hne : text ≠ [])
    (h : g.tokenizeWithin limit levels text = .ok tokens) :
    ∀ token ∈ tokens, String.join token.leaves ≠ "" := by
  rw [Grammar.tokenizeWithin_eq, Grammar.applyRules_eq] at h
  obtain ⟨segments, hsegments, rfl⟩ := map_eq_ok_iff.mp h
  have hchars : ∀ segment ∈ segments, String.join segment.toToken.leaves ≠ "" := by
    have hplain : ∀ part : List Char, part ≠ [] →
        String.join (Segment.plain part).toToken.leaves ≠ "" := by
      intro part hpart
      rw [Segment.toToken, Token.join_leaves_plain]
      exact fun hempty => hpart (String.ofList_eq_empty_iff.mp hempty)
    refine applyPasses_forall_mem hsegments hplain (fun pass _ part token hpart htoken => ?_)
      (List.forall_mem_singleton.mpr (hplain text hne))
    obtain ⟨content, hcontent, rfl⟩ := Pattern.close_eq_ok_iff.mp htoken
    have htext : String.join content.leaves = String.ofList part :=
      Pattern.join_leaves_content (fun _ _ _ => Grammar.textOf_tokenizeInside) hcontent
    intro hempty
    exact hpart (String.ofList_eq_empty_iff.mp (htext.symm.trans hempty))
  intro token hmem
  obtain ⟨segment, hsegment, rfl⟩ := List.mem_map.mp hmem
  exact hchars segment hsegment

/-- The stream of a text that is not empty is in canonical form. -/
lemma Grammar.canonical_of_tokenizeWithin (hne : text ≠ [])
    (h : g.tokenizeWithin limit levels text = .ok tokens) : Token.Canonical tokens := by
  have htexts := Grammar.text_ne_empty_of_tokenizeWithin hne h
  constructor
  · exact Grammar.ne_nil_of_tokenizeWithin h hne
  · exact htexts
  · rw [Grammar.tokenizeWithin_eq] at h
    exact Grammar.plain_apart_of_applyRules h
  · exact Token.pairwise_spansFrom 0 tokens
  · have hlocated := Token.forall₂_located_spansFrom htexts ""
    rwa [String.empty_append] at hlocated

/-- The stream of a text that is not empty has the text, and it and all streams below it are in
canonical form: they have tokens, none of which is empty, no two plain ones are neighbours, and the
spans of the recognized ones are where these stand in the text of the stream, in order. -/
theorem Grammar.canonical_of_tokenize {limit : ℕ} {g : Grammar} {text : String}
    {tokens : List Token} (hne : text ≠ "") (h : g.tokenize limit text = .ok tokens) :
    Token.textOf tokens = text ∧
      ∀ n stream, Token.StreamAt tokens n stream → Token.Canonical stream := by
  constructor
  · have htext := Grammar.textOf_tokenizeWithin limit h
    rwa [String.ofList_toList] at htext
  · intro n stream hstream
    have hchars : text.toList ≠ [] := fun hnil => hne (String.toList_eq_nil_iff.mp hnil)
    obtain ⟨inner, part, rest, -, hpart, hrun⟩ := Grammar.exists_run_of_streamAt h hstream
    exact Grammar.canonical_of_tokenizeWithin (hpart hchars) hrun

/-- A value behind a sign of two bytes, with a letter of it recognized inside: both levels are in
canonical form, and the span of the value is counted in bytes. -/
theorem canonical_of_tokenize_of_value_behind_sign :
    let letter : Grammar := [⟨"letter", (Pattern.compile "letter" "a").toOption.toList⟩]
    let value := (Pattern.compile "value" "(é)[a-z]+").toOption.map fun p =>
      p.withLookbehind.withInside letter
    let g : Grammar := [⟨"value", value.toList⟩]
    let stream : List Token := [.matched "letter" none (.text "a"), .plain "b"]
    let tokens : List Token := [.plain "é", .matched "value" none (.nested stream), .plain " "]
    "éab " ≠ "" ∧ g.tokenize 1 "éab " = .ok tokens ∧ Token.spans tokens = [(2, 4)] ∧
      Token.Canonical tokens ∧ Token.Canonical stream := by
  intro letter value g stream tokens
  have hne : "éab " ≠ "" := by decide
  have htokens : g.tokenize 1 "éab " = .ok tokens := by decide +revert +kernel
  have hspans : Token.spans tokens = [(2, 4)] := by decide +revert +kernel
  have hlevels := (Grammar.canonical_of_tokenize hne htokens).2
  have hstream : Token.StreamAt tokens 1 stream :=
    .inside (List.mem_cons_of_mem _ List.mem_cons_self) (.top stream)
  exact ⟨hne, htokens, hspans, hlevels 0 tokens (.top tokens), hlevels 1 stream hstream⟩

end Runs

end Highlight
