import Highlight.Proofs.Splitting
import Mathlib.Tactic.Common

/-!
# Rules one after the other

A grammar whose rules are those of one grammar and then those of another makes of a text what the
first grammar makes of it, with what the second makes of each part that the first has left open in
the place of that part.

Tokenizing goes through the rules, and for each rule through all segments.  The law goes through the
segments, and for each segment through all rules.  Both succeed for the same segments with the same
result (`applyPasses_eq_ok_iff`).  Where they do not succeed they may meet different refusals first,
and so nothing is said about which refusal the second grammar is met with.
-/

namespace Highlight

/-! ## Segment by segment -/

section Passes

variable {tokenize : Grammar → List Char → Except TokenizeError (List Token)}
  {passes : List (String × Pattern)} {segments segments' out : List Segment}

/-- Segments that each pass leaves as they are go through all passes as they are. -/
lemma applyPasses_eq_self
    (h : ∀ pass ∈ passes, pass.2.apply pass.1 tokenize segments = .ok segments) :
    applyPasses tokenize passes segments = .ok segments := by
  induction passes with
  | nil => rfl
  | cons pass passes ih =>
    rw [applyPasses_cons, h pass List.mem_cons_self]
    exact ih fun pass hmem => h pass (List.mem_cons_of_mem _ hmem)

/-- Passes make nothing of no segments. -/
lemma applyPasses_nil_segments : applyPasses tokenize passes [] = .ok [] :=
  applyPasses_eq_self fun _ _ => rfl

/-- Passes leave a closed segment as it is. -/
lemma applyPasses_done (token : Token) :
    applyPasses tokenize passes [.done token] = .ok [.done token] :=
  applyPasses_eq_self fun _ _ => rfl

/-- Segments that stand behind others go through the passes on their own. -/
lemma applyPasses_append_segments_iff :
    applyPasses tokenize passes (segments ++ segments') = .ok out ↔
      ∃ out₁ out₂, applyPasses tokenize passes segments = .ok out₁ ∧
        applyPasses tokenize passes segments' = .ok out₂ ∧ out = out₁ ++ out₂ := by
  induction passes generalizing segments segments' with
  | nil =>
    constructor
    · intro h
      cases h
      exact ⟨segments, segments', rfl, rfl, rfl⟩
    · rintro ⟨out₁, out₂, h₁, h₂, rfl⟩
      cases h₁
      cases h₂
      rfl
  | cons pass passes ih =>
    simp only [applyPasses_cons, bind_eq_ok_iff, Pattern.apply_eq_ok_iff]
    constructor
    · rintro ⟨mid, hmid, hout⟩
      obtain ⟨mid₁, mid₂, hmid₁, hmid₂, rfl⟩ := splitsAll_append_iff.mp hmid
      obtain ⟨out₁, out₂, hout₁, hout₂, rfl⟩ := ih.mp hout
      exact ⟨out₁, out₂, ⟨mid₁, hmid₁, hout₁⟩, ⟨mid₂, hmid₂, hout₂⟩, rfl⟩
    · rintro ⟨out₁, out₂, ⟨mid₁, hmid₁, hout₁⟩, ⟨mid₂, hmid₂, hout₂⟩, rfl⟩
      have hmid := splitsAll_append_iff.mpr ⟨mid₁, mid₂, hmid₁, hmid₂, rfl⟩
      exact ⟨mid₁ ++ mid₂, hmid, ih.mpr ⟨out₁, out₂, hout₁, hout₂, rfl⟩⟩

/-- All passes together split every open segment on its own, like a single one. -/
theorem applyPasses_eq_ok_iff :
    applyPasses tokenize passes segments = .ok out ↔
      SplitsAll (fun text => applyPasses tokenize passes [.plain text]) segments out := by
  induction segments generalizing out with
  | nil =>
    rw [applyPasses_nil_segments]
    constructor
    · intro h
      cases h
      exact .nil
    · intro h
      cases h
      rfl
  | cons segment segments ih =>
    rw [← List.singleton_append, applyPasses_append_segments_iff]
    constructor
    · rintro ⟨out₁, out₂, h₁, h₂, rfl⟩
      cases segment with
      | plain text => exact .plain h₁ (ih.mp h₂)
      | done token =>
        rw [applyPasses_done] at h₁
        cases h₁
        exact .done (ih.mp h₂)
    · intro h
      cases h with
      | done hothers => exact ⟨_, _, applyPasses_done _, ih.mpr hothers, rfl⟩
      | plain hparts hothers => exact ⟨_, _, hparts, ih.mpr hothers, rfl⟩

end Passes

/-- Segments can be split if each open one can. -/
lemma exists_splitsAll_iff {split : List Char → Except TokenizeError (List Segment)}
    {segments : List Segment} :
    (∃ out, SplitsAll split segments out) ↔
      ∀ text, .plain text ∈ segments → ∃ parts, split text = .ok parts := by
  constructor
  · rintro ⟨out, h⟩
    induction h with
    | nil => exact fun _ hmem => nomatch hmem
    | done _ ih =>
      intro text hmem
      rcases List.mem_cons.mp hmem with heq | hmem
      · cases heq
      · exact ih text hmem
    | @plain text parts _ _ hparts _ ih =>
      intro text' hmem
      rcases List.mem_cons.mp hmem with heq | hmem
      · cases heq
        exact ⟨parts, hparts⟩
      · exact ih text' hmem
  · intro h
    induction segments with
    | nil => exact ⟨[], .nil⟩
    | cons segment segments ih =>
      obtain ⟨others, hothers⟩ := ih fun text hmem => h text (List.mem_cons_of_mem _ hmem)
      cases segment with
      | done token => exact ⟨_, .done hothers⟩
      | plain text =>
        obtain ⟨parts, hparts⟩ := h text List.mem_cons_self
        exact ⟨_, .plain hparts hothers⟩

/-! ## Tokens in the place of plain ones -/

/-- Whether a rule has recognized the text of a token. -/
def Token.isMatched : Token → Bool
  | plain _ => false
  | matched .. => true

/-- A stream with other tokens in the place of each plain token; recognized tokens stay as they are.
-/
def Token.replacePlain (f : String → List Token) : List Token → List Token
  | [] => []
  | plain text :: tokens => f text ++ Token.replacePlain f tokens
  | matched kind labels content :: tokens =>
    matched kind labels content :: Token.replacePlain f tokens

/-- Recognized tokens stay in their order, whatever is put in the place of plain ones. -/
lemma Token.filter_isMatched_sublist_replacePlain (f : String → List Token) (tokens : List Token) :
    (tokens.filter Token.isMatched).Sublist (Token.replacePlain f tokens) := by
  induction tokens with
  | nil => exact .slnil
  | cons token tokens ih =>
    cases token with
    | plain text => exact ih.trans (List.sublist_append_right _ _)
    | matched kind labels content => exact ih.cons_cons _

/-- A closed segment holds a token that a rule has recognized. -/
def Segment.Recognized : Segment → Prop
  | plain _ => True
  | done token => token.isMatched = true

/-- The closed segments of a run hold tokens that rules have recognized. -/
lemma applyPasses_recognized {tokenize : Grammar → List Char → Except TokenizeError (List Token)}
    {passes : List (String × Pattern)} {text : List Char} {segments : List Segment}
    (h : applyPasses tokenize passes [.plain text] = .ok segments) :
    ∀ segment ∈ segments, segment.Recognized := by
  refine applyPasses_forall_mem h (fun _ _ => trivial) ?_ (List.forall_mem_singleton.mpr trivial)
  intro pass _ text token _ htoken
  obtain ⟨content, _, rfl⟩ := Pattern.close_eq_ok_iff.mp htoken
  rfl

/-- The plain tokens of a stream come from the open segments. -/
lemma Segment.plain_mem_map_toToken_iff {segments : List Segment}
    (hrec : ∀ segment ∈ segments, segment.Recognized) {part : String} :
    .plain part ∈ segments.map Segment.toToken ↔ .plain part.toList ∈ segments := by
  rw [List.mem_map]
  constructor
  · rintro ⟨segment, hmem, htoken⟩
    cases segment with
    | plain text =>
      cases htoken
      rwa [String.toList_ofList]
    | done token =>
      have hmatched : token.isMatched = true := hrec _ hmem
      obtain rfl : token = .plain part := htoken
      cases hmatched
  · intro hmem
    exact ⟨_, hmem, by rw [Segment.toToken, String.ofList_toList]⟩

/-- Splitting the open segments puts the tokens of their parts in the place of plain tokens. -/
lemma SplitsAll.map_toToken {split : List Char → Except TokenizeError (List Segment)}
    {segments out : List Segment} (h : SplitsAll split segments out) {f : String → List Token}
    (hrec : ∀ segment ∈ segments, segment.Recognized)
    (hf : ∀ text parts, .plain text ∈ segments → split text = .ok parts →
      parts.map Segment.toToken = f (String.ofList text)) :
    out.map Segment.toToken = Token.replacePlain f (segments.map Segment.toToken) := by
  induction h with
  | nil => rfl
  | @done token _ _ _ ih =>
    have hothers := ih (fun segment hmem => hrec segment (List.mem_cons_of_mem _ hmem))
      fun text parts hmem => hf text parts (List.mem_cons_of_mem _ hmem)
    have hmatched : token.isMatched = true := hrec (.done token) List.mem_cons_self
    rw [List.map_cons, List.map_cons, hothers]
    cases token with
    | plain text => cases hmatched
    | matched kind labels content => rfl
  | @plain text parts _ _ hparts _ ih =>
    have hothers := ih (fun segment hmem => hrec segment (List.mem_cons_of_mem _ hmem))
      fun text parts hmem => hf text parts (List.mem_cons_of_mem _ hmem)
    rw [List.map_append, hothers, hf text parts List.mem_cons_self hparts]
    rfl

/-! ## The rules of two grammars -/

section Rules

variable {tokenize : Grammar → List Char → Except TokenizeError (List Token)} {g₁ g₂ : Grammar}
  {text : List Char} {tokens out : List Token}

/-- Where the rules of the first grammar are refused, all rules are, for the same reason. -/
lemma Grammar.applyRules_append_of_error {e : TokenizeError}
    (h : g₁.applyRules tokenize text = .error e) :
    Grammar.applyRules (g₁ ++ g₂) tokenize text = .error e := by
  rw [Grammar.applyRules_eq] at h
  rw [Grammar.applyRules_eq, Grammar.passes_append, applyPasses_append]
  cases hrun : applyPasses tokenize g₁.passes [.plain text] with
  | ok segments =>
    rw [hrun] at h
    cases h
  | error e' =>
    rw [hrun] at h
    cases h
    rfl

/-- Where the passes of a grammar succeed, its rules succeed with the tokens of the segments. -/
lemma Grammar.applyRules_of_applyPasses {g : Grammar} {segments : List Segment}
    (h : applyPasses tokenize g.passes [.plain text] = .ok segments) :
    g.applyRules tokenize text = .ok (segments.map Segment.toToken) := by
  rw [Grammar.applyRules_eq, h]
  rfl

/-- All rules split the segments that the rules of the first grammar have left. -/
lemma Grammar.applyRules_append_iff_splitsAll {segments : List Segment}
    (h : applyPasses tokenize g₁.passes [.plain text] = .ok segments) :
    Grammar.applyRules (g₁ ++ g₂) tokenize text = .ok out ↔
      ∃ segments', SplitsAll (fun text => applyPasses tokenize g₂.passes [.plain text])
        segments segments' ∧ segments'.map Segment.toToken = out := by
  rw [Grammar.applyRules_eq, Grammar.passes_append, applyPasses_append, h, map_eq_ok_iff]
  exact exists_congr fun segments' => and_congr_left fun _ => applyPasses_eq_ok_iff

/-- Where the rules of the first grammar succeed, all rules succeed with the stream in which the
rules of the second have been applied to each plain token. -/
theorem Grammar.applyRules_append_eq_ok_iff (h : g₁.applyRules tokenize text = .ok tokens) :
    Grammar.applyRules (g₁ ++ g₂) tokenize text = .ok out ↔
      ∃ f : String → List Token,
        (∀ part, .plain part ∈ tokens → g₂.applyRules tokenize part.toList = .ok (f part)) ∧
          out = Token.replacePlain f tokens := by
  rw [Grammar.applyRules_eq] at h
  obtain ⟨segments, hrun, rfl⟩ := map_eq_ok_iff.mp h
  have hrec := applyPasses_recognized hrun
  rw [Grammar.applyRules_append_iff_splitsAll hrun]
  constructor
  · rintro ⟨segments', hsplit, rfl⟩
    refine ⟨fun part => (g₂.applyRules tokenize part.toList).toOption.getD [], ?_, ?_⟩
    · intro part hmem
      rw [Segment.plain_mem_map_toToken_iff hrec] at hmem
      obtain ⟨parts, hparts⟩ := exists_splitsAll_iff.mp ⟨segments', hsplit⟩ _ hmem
      have hpart := Grammar.applyRules_of_applyPasses hparts
      simp [hpart, Except.toOption]
    · refine hsplit.map_toToken hrec fun text parts _ hparts => ?_
      rw [String.toList_ofList, Grammar.applyRules_of_applyPasses hparts]
      rfl
  · rintro ⟨f, hf, rfl⟩
    have hplain : ∀ text, .plain text ∈ segments →
        g₂.applyRules tokenize text = .ok (f (String.ofList text)) := by
      intro text hmem
      have hpart := hf (String.ofList text) (List.mem_map_of_mem hmem)
      rwa [String.toList_ofList] at hpart
    have hsplits : ∀ text, .plain text ∈ segments →
        ∃ parts, applyPasses tokenize g₂.passes [.plain text] = .ok parts := by
      intro text hmem
      have hpart := hplain text hmem
      rw [Grammar.applyRules_eq] at hpart
      obtain ⟨parts, hparts, -⟩ := map_eq_ok_iff.mp hpart
      exact ⟨parts, hparts⟩
    obtain ⟨segments', hsplit⟩ := exists_splitsAll_iff.mpr hsplits
    refine ⟨segments', hsplit, hsplit.map_toToken hrec fun text parts hmem hparts => ?_⟩
    have hpart := Grammar.applyRules_of_applyPasses hparts
    rw [hplain text hmem] at hpart
    exact (Except.ok.inj hpart).symm

/-- However deep grammars may nest, tokenizing with one applies its rules, and how it tokenizes with
grammars inside does not depend on it. -/
lemma Grammar.exists_applyRules_eq (limit levels : ℕ) :
    ∃ tokenize : Grammar → List Char → Except TokenizeError (List Token),
      ∀ (g : Grammar) (text : List Char),
        g.tokenizeWithin limit levels text = g.applyRules tokenize text := by
  cases levels with
  | zero => exact ⟨_, fun _ _ => rfl⟩
  | succ levels => exact ⟨_, fun _ _ => rfl⟩

end Rules

/-- The rules of two grammars, those of the first in front.  Where the first grammar is refused,
both are, for the same reason.  Where it succeeds, both succeed if the second does for each plain
token of the first, and then with its tokens in the place of that token.  What the first grammar has
recognized stays as it is, in its order. -/
theorem Grammar.tokenize_append (limit : ℕ) (g₁ g₂ : Grammar) (text : String) :
    (∀ e, g₁.tokenize limit text = .error e →
        Grammar.tokenize limit (g₁ ++ g₂) text = .error e) ∧
      ∀ tokens, g₁.tokenize limit text = .ok tokens →
        ((∃ out, Grammar.tokenize limit (g₁ ++ g₂) text = .ok out) ↔
            ∀ part, .plain part ∈ tokens → ∃ parts, g₂.tokenize limit part = .ok parts) ∧
          ∀ out, Grammar.tokenize limit (g₁ ++ g₂) text = .ok out →
            (∃ f : String → List Token,
                (∀ part, .plain part ∈ tokens → g₂.tokenize limit part = .ok (f part)) ∧
                  out = Token.replacePlain f tokens) ∧
              (tokens.filter Token.isMatched).Sublist out := by
  obtain ⟨tokenize, hrules⟩ := Grammar.exists_applyRules_eq limit limit
  simp only [Grammar.tokenize, hrules]
  refine ⟨fun e => Grammar.applyRules_append_of_error, fun tokens htokens => ⟨?_, ?_⟩⟩
  · constructor
    · rintro ⟨out, hout⟩ part hmem
      obtain ⟨f, hf, -⟩ := (Grammar.applyRules_append_eq_ok_iff htokens).mp hout
      exact ⟨f part, hf part hmem⟩
    · intro hall
      choose! f hf using hall
      exact ⟨_, (Grammar.applyRules_append_eq_ok_iff htokens).mpr ⟨f, hf, rfl⟩⟩
  · intro out hout
    obtain ⟨f, hf, rfl⟩ := (Grammar.applyRules_append_eq_ok_iff htokens).mp hout
    exact ⟨⟨f, hf, rfl⟩, Token.filter_isMatched_sublist_replacePlain f tokens⟩

/-- A keyword in front of digits: the digit is found in what the keyword leaves open, and where
digits hold keywords in turn, nesting too deeply is reported by both grammars. -/
theorem tokenize_append_of_keyword_and_digit :
    let digit := (Pattern.compile "digit" "[0-9]").toOption
    let keywords : Grammar := [⟨"keyword", (Pattern.compile "keyword" "let").toOption.toList⟩]
    let digits : Grammar := [⟨"digit", digit.toList⟩]
    let nested : Grammar := [⟨"digit", (digit.map (Pattern.withInside keywords)).toList⟩]
    let keyword : Token := .matched "keyword" none (.text "let")
    let tokens : List Token := [keyword, .plain " x7 ", keyword]
    let out : List Token :=
      [keyword, .plain " x", .matched "digit" none (.text "7"), .plain " ", keyword]
    keywords.tokenize 0 "let x7 let" = .ok tokens ∧
      Grammar.tokenize 0 (keywords ++ digits) "let x7 let" = .ok out ∧
      (∃ f : String → List Token,
        (∀ part, .plain part ∈ tokens → digits.tokenize 0 part = .ok (f part)) ∧
          out = Token.replacePlain f tokens) ∧
      nested.tokenize 0 "x7" = .error (.depthExceeded 0) ∧
      Grammar.tokenize 0 (nested ++ keywords) "x7" = .error (.depthExceeded 0) := by
  intro digit keywords digits nested keyword tokens out
  have htokens : keywords.tokenize 0 "let x7 let" = .ok tokens := by decide +revert +kernel
  have hout : Grammar.tokenize 0 (keywords ++ digits) "let x7 let" = .ok out := by
    decide +revert +kernel
  have hnested : nested.tokenize 0 "x7" = .error (.depthExceeded 0) := by decide +revert +kernel
  obtain ⟨-, hresult⟩ := (Grammar.tokenize_append 0 keywords digits _).2 tokens htokens
  exact ⟨htokens, hout, (hresult out hout).1, hnested,
    (Grammar.tokenize_append 0 nested keywords _).1 _ hnested⟩

end Highlight
