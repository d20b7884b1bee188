import Highlight.Pattern.Tokenize
import Highlight.Proofs.Except
import Mathlib.Tactic.Common

/-!
# How a grammar splits a text

A run of a grammar that is not given up, as relations: `SplitsInto` says what a pattern makes of one
open segment, `SplitsAll` what it makes of all segments, and `applyPasses` applies the patterns of
all rules one after the other.  What holds of a run is shown by induction on these relations,
without the functions and their refusals.
-/

namespace Highlight

/-! ## One open segment -/

section OneSegment

variable {kind : String} {find : Finder} {close : List Char → Except TokenizeError Token}

/-- The segments that a text is split into at the tokens that are found one after the other. -/
inductive SplitsInto (find : Finder) (close : List Char → Except TokenizeError Token) :
    List Char → List Segment → Prop where
  /-- Nothing is left. -/
  | nil : SplitsInto find close [] []
  /-- No token is found in what is left. -/
  | rest {text : List Char} (hne : text ≠ []) (hfind : find text = .ok none) :
    SplitsInto find close text [.plain text]
  /-- A token is found, and what is behind it is split. -/
  | piece {text : List Char} {piece : Piece text.length} {token : Token} {others : List Segment}
    (hfind : find text = .ok (some piece)) (hclose : close piece.text = .ok token)
    (hothers : SplitsInto find close (text.drop piece.val.stop) others) :
    SplitsInto find close text (Segment.ofText (text.take piece.val.start) ++ .done token :: others)

/-- A text with a piece is not empty. -/
lemma ne_nil_of_piece {text : List Char} (piece : Piece text.length) : text ≠ [] := by
  rintro rfl
  have hlt := piece.property
  have hle := piece.val.stop_le_size
  simp only [List.length_nil] at hle
  omega

/-- Where a token is found, it is made, what is behind it is split, and the segments are put
together. -/
lemma splitText_of_piece {text : List Char} {piece : Piece text.length}
    (hfind : find text = .ok (some piece)) :
    splitText kind find close text = close piece.text >>= fun token =>
      splitText kind find close (text.drop piece.val.stop) >>= fun others =>
        .ok (Segment.ofText (text.take piece.val.start) ++ .done token :: others) := by
  have hne : ¬ text.isEmpty = true := by simpa using ne_nil_of_piece piece
  rw [splitText, if_neg hne, hfind]
  cases hclose : close piece.text with
  | error e =>
    simp only [hclose]
    rfl
  | ok token =>
    cases hothers : splitText kind find close (text.drop piece.val.stop) with
    | error e =>
      simp only [hclose, hothers]
      rfl
    | ok others =>
      simp only [hclose, hothers]
      rfl

/-- Induction along the tokens that are found one after the other: what holds of a text whenever it
holds of what is behind the first token of the text, holds of all texts. -/
theorem induction_behind_piece (find : Finder) {motive : List Char → Prop}
    (step : ∀ text, (∀ piece, find text = .ok (some piece) →
      motive (text.drop piece.val.stop)) → motive text) (text : List Char) : motive text :=
  step text fun piece _ => induction_behind_piece find step (text.drop piece.val.stop)
termination_by text.length
decreasing_by
  have := piece.property
  have := piece.val.stop_le_size
  simp only [List.length_drop]
  omega

/-- Splitting a text succeeds with the segments that it is split into. -/
theorem splitText_eq_ok_iff {text : List Char} {segments : List Segment} :
    splitText kind find close text = .ok segments ↔ SplitsInto find close text segments := by
  constructor
  · intro h
    fun_induction splitText kind find close text generalizing segments with
    | case1 text hempty =>
      obtain rfl := List.isEmpty_iff.mp hempty
      cases h
      exact .nil
    | case2 => cases h
    | case3 text hne hfind =>
      cases h
      exact .rest (by simpa using hne) hfind
    | case4 => cases h
    | case5 => cases h
    | case6 text hne piece hfind token hclose others hothers ih =>
      cases h
      exact .piece hfind hclose (ih hothers)
  · intro h
    induction h with
    | nil => simp [splitText]
    | @rest text hne hfind =>
      rw [splitText]
      simp [hne, hfind]
    | @piece text piece token others hfind hclose hothers ih =>
      rw [splitText]
      simp [ne_nil_of_piece piece, hfind, hclose, ih]

/-- The text of a piece is not empty. -/
lemma Piece.text_ne_nil {text : List Char} (piece : Piece text.length) : piece.text ≠ [] := by
  intro hnil
  have hlength : piece.text.length = 0 := by rw [hnil, List.length_nil]
  have hlt := piece.property
  have hle := piece.val.stop_le_size
  simp only [Piece.text, Span.text, List.length_take, List.length_drop] at hlength
  omega

/-- A condition that all open texts and all tokens that are made satisfy holds of all segments of a
split.  Open texts and the texts that tokens are made of are not empty. -/
lemma SplitsInto.forall_mem {P : Segment → Prop} {text : List Char} {segments : List Segment}
    (h : SplitsInto find close text segments)
    (hplain : ∀ text, text ≠ [] → P (.plain text))
    (hdone : ∀ text token, text ≠ [] → close text = .ok token → P (.done token)) :
    ∀ segment ∈ segments, P segment := by
  induction h with
  | nil => exact List.forall_mem_nil _
  | rest hne _ => exact List.forall_mem_singleton.mpr (hplain _ hne)
  | @piece text piece token others _ htoken _ ih =>
    intro segment hmem
    rcases List.mem_append.mp hmem with hfront | hmem
    · unfold Segment.ofText at hfront
      split_ifs at hfront with hempty
      · cases hfront
      · obtain rfl := List.mem_singleton.mp hfront
        exact hplain _ (by simpa using hempty)
    · rcases List.mem_cons.mp hmem with rfl | hmem
      · exact hdone _ _ piece.text_ne_nil htoken
      · exact ih segment hmem

end OneSegment

/-! ## All segments -/

section AllSegments

variable {split : List Char → Except TokenizeError (List Segment)}
  {segments segments' out : List Segment}

/-- The segments that come of others when the open ones are split. -/
inductive SplitsAll (split : List Char → Except TokenizeError (List Segment)) :
    List Segment → List Segment → Prop where
  | nil : SplitsAll split [] []
  | done {token : Token} {segments others : List Segment}
    (hothers : SplitsAll split segments others) :
    SplitsAll split (.done token :: segments) (.done token :: others)
  | plain {text : List Char} {parts segments others : List Segment}
    (hparts : split text = .ok parts) (hothers : SplitsAll split segments others) :
    SplitsAll split (.plain text :: segments) (parts ++ others)

/-- Splitting the open segments succeeds with the segments that come of them. -/
theorem splitSegments_eq_ok_iff :
    splitSegments split segments = .ok out ↔ SplitsAll split segments out := by
  constructor
  · intro h
    induction segments generalizing out with
    | nil =>
      cases h
      exact .nil
    | cons segment segments ih =>
      cases segment with
      | done token =>
        obtain ⟨others, hothers, rfl⟩ := map_eq_ok_iff.mp h
        exact .done (ih hothers)
      | plain text =>
        obtain ⟨parts, hparts, h⟩ := bind_eq_ok_iff.mp h
        obtain ⟨others, hothers, h⟩ := bind_eq_ok_iff.mp h
        cases h
        exact .plain hparts (ih hothers)
  · intro h
    induction h with
    | nil => rfl
    | done _ ih => rw [splitSegments, ih, Except.map]
    | plain hparts _ ih =>
      rw [splitSegments, hparts, ih]
      rfl

/-- Segments that stand behind others are split on their own. -/
theorem splitsAll_append_iff :
    SplitsAll split (segments ++ segments') out ↔
      ∃ out₁ out₂, SplitsAll split segments out₁ ∧ SplitsAll split segments' out₂ ∧
        out = out₁ ++ out₂ := by
  induction segments generalizing out with
  | nil =>
    constructor
    · exact fun h => ⟨[], out, .nil, h, rfl⟩
    · rintro ⟨_, out₂, ⟨⟩, h, rfl⟩
      exact h
  | cons segment segments ih =>
    constructor
    · intro h
      cases h with
      | done hothers =>
        obtain ⟨out₁, out₂, h₁, h₂, rfl⟩ := ih.mp hothers
        exact ⟨_, out₂, .done h₁, h₂, rfl⟩
      | plain hparts hothers =>
        obtain ⟨out₁, out₂, h₁, h₂, rfl⟩ := ih.mp hothers
        exact ⟨_, out₂, .plain hparts h₁, h₂, (List.append_assoc ..).symm⟩
    · rintro ⟨out₁, out₂, h₁, h₂, rfl⟩
      cases h₁ with
      | done hothers => exact .done (ih.mpr ⟨_, out₂, hothers, h₂, rfl⟩)
      | plain hparts hothers =>
        rw [List.append_assoc]
        exact .plain hparts (ih.mpr ⟨_, out₂, hothers, h₂, rfl⟩)

/-- A condition on segments that holds of the parts of every open segment is kept. -/
lemma SplitsAll.forall_mem {P : Segment → Prop} (h : SplitsAll split segments out)
    (hsplit : ∀ text parts, split text = .ok parts → ∀ segment ∈ parts, P segment)
    (hsegments : ∀ segment ∈ segments, P segment) : ∀ segment ∈ out, P segment := by
  induction h with
  | nil => exact hsegments
  | done _ ih =>
    rw [List.forall_mem_cons] at hsegments ⊢
    exact ⟨hsegments.1, ih hsegments.2⟩
  | @plain text parts _ _ hparts _ ih =>
    rw [List.forall_mem_cons] at hsegments
    rw [List.forall_mem_append]
    exact ⟨hsplit text parts hparts, ih hsegments.2⟩

end AllSegments

/-! ## The patterns of a grammar -/

section Passes

variable {tokenize : Grammar → List Char → Except TokenizeError (List Token)}

/-- The token that a pattern makes of a text, given how a text is tokenized with a grammar inside.
-/
def Pattern.close (p : Pattern) (kind : String)
    (tokenize : Grammar → List Char → Except TokenizeError (List Token)) (text : List Char) :
    Except TokenizeError Token :=
  (p.content tokenize text).map (.matched kind p.labels)

/-- The token that a pattern makes of a text has its kind and labels and holds what the pattern
says. -/
lemma Pattern.close_eq_ok_iff {p : Pattern} {kind : String} {text : List Char} {token : Token} :
    p.close kind tokenize text = .ok token ↔
      ∃ content, p.content tokenize text = .ok content ∧
        token = .matched kind p.labels content := by
  rw [Pattern.close, map_eq_ok_iff]
  simp only [eq_comm]

/-- Applying a pattern succeeds with the segments that come of splitting the open ones with it. -/
theorem Pattern.apply_eq_ok_iff {p : Pattern} {kind : String} {segments out : List Segment} :
    p.apply kind tokenize segments = .ok out ↔
      SplitsAll (splitText kind p.find (p.close kind tokenize)) segments out :=
  splitSegments_eq_ok_iff

/-- The patterns of all rules with the kinds of their rules, in the order in which they apply. -/
def Grammar.passes (g : Grammar) : List (String × Pattern) :=
  g.flatMap fun rule => rule.patterns.map fun p => (rule.kind, p)

/-- The passes of the rules of two grammars are those of the first and then those of the second. -/
lemma Grammar.passes_append (g₁ g₂ : Grammar) :
    Grammar.passes (g₁ ++ g₂) = g₁.passes ++ g₂.passes :=
  List.flatMap_append

/-- Applies patterns with their kinds one after the other. -/
def applyPasses (tokenize : Grammar → List Char → Except TokenizeError (List Token))
    (passes : List (String × Pattern)) (segments : List Segment) :
    Except TokenizeError (List Segment) :=
  passes.foldlM (fun segments pass => pass.2.apply pass.1 tokenize segments) segments

/-- The first pass of several is applied before the others. -/
lemma applyPasses_cons (pass : String × Pattern) (passes : List (String × Pattern))
    (segments : List Segment) :
    applyPasses tokenize (pass :: passes) segments =
      pass.2.apply pass.1 tokenize segments >>= applyPasses tokenize passes :=
  List.foldlM_cons

/-- The passes of two lists are applied one list after the other. -/
lemma applyPasses_append (passes₁ passes₂ : List (String × Pattern)) (segments : List Segment) :
    applyPasses tokenize (passes₁ ++ passes₂) segments =
      applyPasses tokenize passes₁ segments >>= applyPasses tokenize passes₂ :=
  List.foldlM_append

/-- What every pass keeps of a list of segments, all passes together keep. -/
lemma applyPasses_induction (P : List Segment → Prop) {passes : List (String × Pattern)}
    {segments out : List Segment} (h : applyPasses tokenize passes segments = .ok out)
    (hstep : ∀ pass ∈ passes, ∀ segments out,
      SplitsAll (splitText pass.1 pass.2.find (pass.2.close pass.1 tokenize)) segments out →
        P segments → P out)
    (hsegments : P segments) : P out := by
  induction passes generalizing segments with
  | nil =>
    cases h
    exact hsegments
  | cons pass passes ih =>
    rw [applyPasses_cons, bind_eq_ok_iff] at h
    obtain ⟨mid, hmid, hout⟩ := h
    refine ih hout (fun pass hmem => hstep pass (List.mem_cons_of_mem _ hmem)) ?_
    exact hstep pass List.mem_cons_self _ _ (Pattern.apply_eq_ok_iff.mp hmid) hsegments

/-- A condition that all open texts and all tokens of the passes satisfy is kept by the passes. -/
lemma applyPasses_forall_mem {P : Segment → Prop} {passes : List (String × Pattern)}
    {segments out : List Segment} (h : applyPasses tokenize passes segments = .ok out)
    (hplain : ∀ text, text ≠ [] → P (.plain text))
    (hdone : ∀ pass ∈ passes, ∀ text token, text ≠ [] →
      pass.2.close pass.1 tokenize text = .ok token → P (.done token))
    (hsegments : ∀ segment ∈ segments, P segment) : ∀ segment ∈ out, P segment := by
  refine applyPasses_induction (fun segments => ∀ segment ∈ segments, P segment) h
    (fun pass hpass segments out hsplit hall => ?_) hsegments
  refine hsplit.forall_mem (fun text parts hparts => ?_) hall
  exact (splitText_eq_ok_iff.mp hparts).forall_mem hplain (hdone pass hpass)

/-- Applying the rules of a grammar is applying its passes to the text as one open segment. -/
theorem Grammar.applyRules_eq (g : Grammar) (text : List Char) :
    g.applyRules tokenize text =
      (applyPasses tokenize g.passes [.plain text]).map (List.map Segment.toToken) := by
  have hpasses : applyPasses tokenize g.passes [.plain text] =
      g.foldlM (fun segments rule => rule.apply tokenize segments) [.plain text] := by
    rw [applyPasses, Grammar.passes, foldlM_flatMap]
    simp only [List.foldlM_map]
    rfl
  rw [hpasses]
  rfl

end Passes

end Highlight
