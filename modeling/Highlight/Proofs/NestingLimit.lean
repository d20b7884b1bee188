import Highlight.Proofs.Levels
import Mathlib.Tactic.Common

/-!
# The limit for the nesting of grammars

A limit that is at least as large as the nesting of a grammar is never reported.  A smaller limit
changes nothing but that: a run with it has the answer of the run without it, or reports the limit.
Which of the two happens can be read off the tokens.  The limit suffices exactly if no token lies
under more streams than it allows, because a grammar inside is only looked at where a token holds
its stream, and that stream is not empty.

So there are three parts.  Runs with different limits have the same answer up to the report
(`Grammar.agreesUpTo_tokenizeWithin`).  The tokens of a run lie under no more streams than there
are levels (`Grammar.nestsWithin_of_tokenizeWithin`).  And a run whose tokens would fit has the same
answer with fewer levels (`Grammar.tokenizeWithin_of_nestsWithin`), since every token that is made
on the way is still there at the end.
-/

namespace Highlight

/-! ## How deep grammars nest -/

-- The rules and patterns of a grammar hold grammars, so all of them are measured at once.
mutual

/-- How many grammars lie inside each other in a pattern. -/
def Pattern.nesting : Pattern → ℕ
  | .mk _ _ _ inside => Grammar.nestingInside inside

/-- How many grammars lie inside each other, the given one included. -/
def Grammar.nestingInside : Option (List (Rule Pattern)) → ℕ
  | none => 0
  | some g => Grammar.nesting g + 1

/-- How many grammars lie inside each other in one of some patterns. -/
def Pattern.nestingOf : List Pattern → ℕ
  | [] => 0
  | p :: ps => max p.nesting (Pattern.nestingOf ps)

/-- How many grammars lie inside each other in the patterns of a grammar. -/
def Grammar.nesting : List (Rule Pattern) → ℕ
  | [] => 0
  | ⟨_, ps⟩ :: rules => max (Pattern.nestingOf ps) (Grammar.nesting rules)

end

/-- A pattern among others nests no deeper than they do. -/
lemma Pattern.nesting_le_nestingOf {p : Pattern} {ps : List Pattern} (hp : p ∈ ps) :
    p.nesting ≤ Pattern.nestingOf ps := by
  induction ps with
  | nil => cases hp
  | cons q ps ih =>
    unfold Pattern.nestingOf
    obtain rfl | hp := List.mem_cons.mp hp
    · exact Nat.le_max_left _ _
    · exact Nat.le_trans (ih hp) (Nat.le_max_right _ _)

/-- A rule of a grammar nests no deeper than the grammar. -/
lemma Grammar.nestingOf_le_nesting {g : Grammar} {rule : Rule Pattern} (hrule : rule ∈ g) :
    Pattern.nestingOf rule.patterns ≤ Grammar.nesting g := by
  induction g with
  | nil => cases hrule
  | cons first rules ih =>
    unfold Grammar.nesting
    obtain rfl | hrule := List.mem_cons.mp hrule
    · exact Nat.le_max_left _ _
    · exact Nat.le_trans (ih hrule) (Nat.le_max_right _ _)

/-- The grammar inside a pattern nests less deep than the grammar of the pattern. -/
lemma Grammar.nesting_lt_of_inside {g inner : Grammar} {kind : String} {p : Pattern}
    (hpass : (kind, p) ∈ g.passes) (hinside : p.inside = some inner) :
    Grammar.nesting inner < Grammar.nesting g := by
  obtain ⟨rule, hrule, -, hp⟩ := Grammar.mem_passes_iff.mp hpass
  have hpattern : p.nesting = Grammar.nesting inner + 1 := by
    cases p with
    | mk regex lookbehind labels inside =>
      obtain rfl : inside = some inner := hinside
      rfl
  have hle : p.nesting ≤ Grammar.nesting g :=
    Nat.le_trans (Pattern.nesting_le_nestingOf hp) (Grammar.nestingOf_le_nesting hrule)
  omega

/-! ## Agreement up to a refusal -/

section Agreement

variable {ε α β σ : Type} {refusal : ε}

/-- A computation has the answer of another one, or is refused for the given reason. -/
def AgreesUpTo (refusal : ε) (x y : Except ε α) : Prop := x = y ∨ x = .error refusal

lemma AgreesUpTo.map {x y : Except ε α} (h : AgreesUpTo refusal x y) (f : α → β) :
    AgreesUpTo refusal (x.map f) (y.map f) := by
  obtain rfl | rfl := h
  · exact .inl rfl
  · exact .inr rfl

/-- Sequences agree if their first parts do and, for the same answer of these, their second parts.
-/
lemma AgreesUpTo.bind {x y : Except ε α} {f f' : α → Except ε β} (h : AgreesUpTo refusal x y)
    (hf : ∀ a, AgreesUpTo refusal (f a) (f' a)) : AgreesUpTo refusal (x >>= f) (y >>= f') := by
  obtain rfl | rfl := h
  · cases x with
    | error e => exact .inl rfl
    | ok a => exact hf a
  · exact .inr rfl

/-- Folds agree if their steps do. -/
lemma agreesUpTo_foldlM {f f' : σ → α → Except ε σ} {l : List α}
    (hstep : ∀ a ∈ l, ∀ s, AgreesUpTo refusal (f s a) (f' s a)) (s : σ) :
    AgreesUpTo refusal (l.foldlM f s) (l.foldlM f' s) := by
  induction l generalizing s with
  | nil => exact .inl rfl
  | cons a l ih =>
    rw [List.foldlM_cons, List.foldlM_cons]
    exact (hstep a List.mem_cons_self s).bind
      (ih fun b hb => hstep b (List.mem_cons_of_mem a hb))

end Agreement

section Rules

variable {refusal : TokenizeError} {kind : String} {find : Finder}
  {close close' : List Char → Except TokenizeError Token}
  {tokenize tokenize' : Grammar → List Char → Except TokenizeError (List Token)} {g : Grammar}
  {text : List Char} {tokens : List Token}

/-- Splitting a text agrees if the tokens that are made do. -/
lemma agreesUpTo_splitText (hclose : ∀ part, AgreesUpTo refusal (close' part) (close part))
    (text : List Char) :
    AgreesUpTo refusal (splitText kind find close' text) (splitText kind find close text) := by
  induction text using induction_behind_piece find with
  | step text ih =>
    by_cases hne : text.isEmpty = true
    · left
      rw [splitText, splitText, if_pos hne, if_pos hne]
    cases hfind : find text with
    | error e =>
      left
      rw [splitText, splitText, if_neg hne, if_neg hne, hfind]
    | ok found =>
      cases found with
      | none =>
        left
        rw [splitText, splitText, if_neg hne, if_neg hne, hfind]
      | some piece =>
        rw [splitText_of_piece hfind, splitText_of_piece hfind]
        exact (hclose piece.text).bind fun token => (ih piece hfind).bind fun others => .inl rfl

/-- Splitting the open segments of a list agrees if splitting their texts does. -/
lemma agreesUpTo_splitSegments {split split' : List Char → Except TokenizeError (List Segment)}
    (hsplit : ∀ text, AgreesUpTo refusal (split' text) (split text)) (segments : List Segment) :
    AgreesUpTo refusal (splitSegments split' segments) (splitSegments split segments) := by
  induction segments with
  | nil => exact .inl rfl
  | cons segment segments ih =>
    cases segment with
    | done token => exact ih.map _
    | plain text => exact (hsplit text).bind fun parts => ih.bind fun others => .inl rfl

/-- The rules of a grammar agree if tokenizing with the grammars inside its patterns does. -/
lemma Grammar.agreesUpTo_applyRules
    (hinside : ∀ kind p inner, (kind, p) ∈ g.passes → p.inside = some inner →
      ∀ part, AgreesUpTo refusal (tokenize' inner part) (tokenize inner part))
    (text : List Char) :
    AgreesUpTo refusal (g.applyRules tokenize' text) (g.applyRules tokenize text) := by
  rw [Grammar.applyRules_eq, Grammar.applyRules_eq]
  refine AgreesUpTo.map (agreesUpTo_foldlM (fun pass hpass segments => ?_) _) _
  refine agreesUpTo_splitSegments (agreesUpTo_splitText fun part => ?_) segments
  refine AgreesUpTo.map ?_ _
  unfold Pattern.content
  cases hp : pass.2.inside with
  | none => exact .inl rfl
  | some inner => exact (hinside pass.1 pass.2 inner hpass hp part).map _

/-- Splitting is refused because a search is given up or because a token is not made. -/
lemma splitText_eq_error {e : TokenizeError} (h : splitText kind find close text = .error e) :
    (∃ cause, e = .searchFailed kind cause) ∨ ∃ part, close part = .error e := by
  induction text using induction_behind_piece find with
  | step text ih =>
    by_cases hne : text.isEmpty = true
    · rw [splitText, if_pos hne] at h
      cases h
    cases hfind : find text with
    | error cause =>
      rw [splitText, if_neg hne, hfind] at h
      cases h
      exact .inl ⟨cause, rfl⟩
    | ok found =>
      cases found with
      | none =>
        rw [splitText, if_neg hne, hfind] at h
        cases h
      | some piece =>
        rw [splitText_of_piece hfind, bind_eq_error_iff] at h
        obtain hclose | ⟨token, -, h⟩ := h
        · exact .inr ⟨piece.text, hclose⟩
        · obtain hothers | ⟨others, -, h⟩ := bind_eq_error_iff.mp h
          · exact ih piece hfind hothers
          · cases h

/-- Splitting the open segments of a list is refused because splitting one of their texts is. -/
lemma exists_of_splitSegments_eq_error {split : List Char → Except TokenizeError (List Segment)}
    {segments : List Segment} {e : TokenizeError} (h : splitSegments split segments = .error e) :
    ∃ text, split text = .error e := by
  induction segments with
  | nil => cases h
  | cons segment segments ih =>
    cases segment with
    | done token => exact ih (map_eq_error_iff.mp h)
    | plain text =>
      obtain hparts | ⟨parts, -, h⟩ := bind_eq_error_iff.mp h
      · exact ⟨text, hparts⟩
      · obtain hothers | ⟨others, -, h⟩ := bind_eq_error_iff.mp h
        · exact ih hothers
        · cases h

/-- The rules of a grammar are refused because a search is given up or because tokenizing with a
grammar inside is refused. -/
lemma Grammar.applyRules_eq_error {e : TokenizeError} (h : g.applyRules tokenize text = .error e) :
    (∃ kind cause, e = .searchFailed kind cause) ∨
      ∃ kind p inner part, (kind, p) ∈ g.passes ∧ p.inside = some inner ∧
        tokenize inner part = .error e := by
  rw [Grammar.applyRules_eq, map_eq_error_iff] at h
  obtain ⟨⟨kind, p⟩, hpass, segments, happly⟩ := exists_of_foldlM_eq_error h
  obtain ⟨part, hsplit⟩ := exists_of_splitSegments_eq_error happly
  obtain ⟨cause, hcause⟩ | ⟨part, hclose⟩ := splitText_eq_error hsplit
  · exact .inl ⟨kind, cause, hcause⟩
  · have hcontent : p.content tokenize part = .error e := map_eq_error_iff.mp hclose
    unfold Pattern.content at hcontent
    cases hinside : p.inside with
    | none =>
      rw [hinside] at hcontent
      cases hcontent
    | some inner =>
      rw [hinside] at hcontent
      exact .inr ⟨kind, p, inner, part, hpass, hinside, map_eq_error_iff.mp hcontent⟩

end Rules

/-! ## Enough levels -/

section Levels

variable {limit limit' levels levels' : ℕ} {g : Grammar} {text : List Char} {tokens : List Token}

/-- Where there are levels for all grammars inside, the limit is not reported. -/
theorem Grammar.exists_searchFailed_of_nesting_le (hnesting : Grammar.nesting g ≤ levels)
    {e : TokenizeError} (h : g.tokenizeWithin limit levels text = .error e) :
    ∃ kind cause, e = .searchFailed kind cause := by
  induction levels generalizing g text with
  | zero =>
    obtain hfailed | ⟨kind, p, inner, part, hpass, hinside, -⟩ := Grammar.applyRules_eq_error h
    · exact hfailed
    · have hlt := Grammar.nesting_lt_of_inside hpass hinside
      omega
  | succ levels ih =>
    obtain hfailed | ⟨kind, p, inner, part, hpass, hinside, hrun⟩ := Grammar.applyRules_eq_error h
    · exact hfailed
    · have hlt := Grammar.nesting_lt_of_inside hpass hinside
      exact ih (by omega) hrun

/-- With any limit a run has the answer of a run with levels for all grammars inside, or reports the
limit. -/
theorem Grammar.agreesUpTo_tokenizeWithin (hnesting : Grammar.nesting g ≤ levels') :
    AgreesUpTo (.depthExceeded limit) (g.tokenizeWithin limit levels text)
      (g.tokenizeWithin limit' levels' text) := by
  induction levels generalizing g levels' text with
  | zero =>
    rw [Grammar.tokenizeWithin_eq, Grammar.tokenizeWithin_eq]
    exact Grammar.agreesUpTo_applyRules (fun _ _ _ _ _ _ => .inr rfl) text
  | succ levels ih =>
    rw [Grammar.tokenizeWithin_eq, Grammar.tokenizeWithin_eq]
    refine Grammar.agreesUpTo_applyRules (fun kind p inner hpass hinside part => ?_) text
    have hlt := Grammar.nesting_lt_of_inside hpass hinside
    obtain ⟨rest, rfl⟩ : ∃ rest, levels' = rest + 1 := ⟨levels' - 1, by omega⟩
    exact ih (by omega)

/-! ## The levels of the tokens -/

/-- No token lies under more streams than the limit. -/
def Token.NestsWithin (limit : ℕ) (tokens : List Token) : Prop :=
  ∀ n stream token, Token.StreamAt tokens n stream → token ∈ stream → n ≤ limit

/-- What a token holds nests one level less deep than the stream of the token. -/
lemma Token.NestsWithin.inside (h : Token.NestsWithin (limit + 1) tokens) {kind : String}
    {labels : Option (Shorthand String)} {stream : List Token}
    (hmem : .matched kind labels (.nested stream) ∈ tokens) : Token.NestsWithin limit stream := by
  intro n bottom token hbottom htoken
  have hle : n + 1 ≤ limit + 1 := h (n + 1) bottom token (.inside hmem hbottom) htoken
  omega

/-- The tokens of a run lie under no more streams than there are levels for grammars inside. -/
theorem Grammar.nestsWithin_of_tokenizeWithin
    (h : g.tokenizeWithin limit levels text = .ok tokens) : Token.NestsWithin levels tokens := by
  intro n stream token hstream _
  obtain ⟨inner, part, rest, hlevels, -, -⟩ := Grammar.exists_run_of_streamAt h hstream
  omega

end Levels

/-! ## Levels that are not needed -/

section Congruence

variable {find : Finder} {close close' : List Char → Except TokenizeError Token}
  {split split' : List Char → Except TokenizeError (List Segment)}
  {tokenize tokenize' : Grammar → List Char → Except TokenizeError (List Token)}
  {segments out : List Segment} {text : List Char}

/-- A closed segment stays when open ones are split. -/
lemma SplitsAll.done_mem (h : SplitsAll split segments out) {token : Token}
    (hmem : .done token ∈ segments) : .done token ∈ out := by
  induction h with
  | nil => exact hmem
  | done _ ih =>
    obtain heq | hmem := List.mem_cons.mp hmem
    · cases heq
      exact List.mem_cons_self
    · exact List.mem_cons_of_mem _ (ih hmem)
  | plain _ _ ih =>
    obtain heq | hmem := List.mem_cons.mp hmem
    · cases heq
    · exact List.mem_append_right _ (ih hmem)

/-- A text is split in the same way if the tokens of its segments are made in the same way. -/
lemma SplitsInto.congr (h : SplitsInto find close text segments)
    (hclose : ∀ part token, part ≠ [] → close part = .ok token → .done token ∈ segments →
      close' part = .ok token) : SplitsInto find close' text segments := by
  induction h with
  | nil => exact .nil
  | rest hne hfind => exact .rest hne hfind
  | @piece text piece token others hfind htoken _ ih =>
    have htoken' : close' piece.text = .ok token :=
      hclose _ _ piece.text_ne_nil htoken (List.mem_append_right _ List.mem_cons_self)
    refine .piece hfind htoken' (ih fun part other hne hother hmem => ?_)
    exact hclose part other hne hother (List.mem_append_right _ (List.mem_cons_of_mem _ hmem))

/-- Open segments are split in the same way if their texts are. -/
lemma SplitsAll.congr (h : SplitsAll split segments out)
    (hsplit : ∀ text parts, split text = .ok parts → (∀ part ∈ parts, part ∈ out) →
      split' text = .ok parts) : SplitsAll split' segments out := by
  induction h with
  | nil => exact .nil
  | done _ ih =>
    exact .done (ih fun text parts hparts hsub =>
      hsplit text parts hparts fun part hpart => List.mem_cons_of_mem _ (hsub part hpart))
  | plain hparts _ ih =>
    refine .plain (hsplit _ _ hparts fun part hpart => List.mem_append_left _ hpart) ?_
    exact ih fun text parts hparts hsub =>
      hsplit text parts hparts fun part hpart => List.mem_append_right _ (hsub part hpart)

/-- Passes come to the same segments if they make the tokens of these in the same way. -/
lemma applyPasses_congr {passes : List (String × Pattern)}
    (h : applyPasses tokenize passes segments = .ok out)
    (hclose : ∀ pass ∈ passes, ∀ part token, part ≠ [] →
      pass.2.close pass.1 tokenize part = .ok token → .done token ∈ out →
        pass.2.close pass.1 tokenize' part = .ok token) :
    applyPasses tokenize' passes segments = .ok out := by
  induction passes generalizing segments with
  | nil => exact h
  | cons pass passes ih =>
    rw [applyPasses_cons, bind_eq_ok_iff] at h ⊢
    obtain ⟨mid, hmid, hout⟩ := h
    refine ⟨mid, ?_, ih hout fun pass hpass => hclose pass (List.mem_cons_of_mem _ hpass)⟩
    have hstays : ∀ token, .done token ∈ mid → .done token ∈ out := fun token hmem =>
      applyPasses_induction (fun segments => .done token ∈ segments) hout
        (fun _ _ _ _ hsplit => hsplit.done_mem) hmem
    rw [Pattern.apply_eq_ok_iff] at hmid ⊢
    refine hmid.congr fun text parts hparts hsub => ?_
    rw [splitText_eq_ok_iff] at hparts ⊢
    refine hparts.congr fun part token hne htoken hmem => ?_
    exact hclose pass List.mem_cons_self part token hne htoken (hstays token (hsub _ hmem))

/-- The rules of a grammar make the same tokens if what these hold is made in the same way. -/
lemma Grammar.applyRules_congr {g : Grammar} {tokens : List Token}
    (h : g.applyRules tokenize text = .ok tokens)
    (hcontent : ∀ kind p part content, (kind, p) ∈ g.passes → part ≠ [] →
      p.content tokenize part = .ok content → .matched kind p.labels content ∈ tokens →
        p.content tokenize' part = .ok content) : g.applyRules tokenize' text = .ok tokens := by
  rw [Grammar.applyRules_eq, map_eq_ok_iff] at h ⊢
  obtain ⟨segments, hsegments, rfl⟩ := h
  refine ⟨segments, ?_, rfl⟩
  refine applyPasses_congr hsegments fun pass hpass part token hne htoken hmem => ?_
  obtain ⟨content, hmade, rfl⟩ := Pattern.close_eq_ok_iff.mp htoken
  exact Pattern.close_eq_ok_iff.mpr
    ⟨content, hcontent _ _ part content hpass hne hmade (List.mem_map_of_mem hmem), rfl⟩

end Congruence

/-- A run whose tokens lie under no more streams than there are other levels has the same answer
with those. -/
theorem Grammar.tokenizeWithin_of_nestsWithin {limit limit' levels levels' : ℕ} {g : Grammar}
    {text : List Char} {tokens : List Token}
    (h : g.tokenizeWithin limit levels text = .ok tokens)
    (hnests : Token.NestsWithin levels' tokens) :
    g.tokenizeWithin limit' levels' text = .ok tokens := by
  induction levels' generalizing g levels text tokens with
  | zero =>
    rw [Grammar.tokenizeWithin_eq] at h ⊢
    refine Grammar.applyRules_congr h fun kind p part content _ hne hcontent hmem => ?_
    rw [Pattern.content_eq_ok_iff] at hcontent ⊢
    obtain hleaf | ⟨inner, stream, -, hstream, rfl⟩ := hcontent
    · exact .inl hleaf
    · -- A stream below the top level is not empty, so one of its tokens lies too deep.
      obtain ⟨rest, -, hrun⟩ := Grammar.tokenizeInside_eq_ok_iff.mp hstream
      obtain ⟨token, htoken⟩ :=
        List.exists_mem_of_ne_nil stream (Grammar.ne_nil_of_tokenizeWithin hrun hne)
      have hle : 0 + 1 ≤ 0 := hnests _ stream token (.inside hmem (.top stream)) htoken
      omega
  | succ levels' ih =>
    rw [Grammar.tokenizeWithin_eq] at h ⊢
    refine Grammar.applyRules_congr h fun kind p part content _ hne hcontent hmem => ?_
    rw [Pattern.content_eq_ok_iff] at hcontent ⊢
    obtain hleaf | ⟨inner, stream, hinside, hstream, rfl⟩ := hcontent
    · exact .inl hleaf
    · obtain ⟨rest, -, hrun⟩ := Grammar.tokenizeInside_eq_ok_iff.mp hstream
      exact .inr ⟨inner, stream, hinside, ih hrun (hnests.inside hmem), rfl⟩

/-! ## The limit -/

/-- With a limit of at least the nesting of the grammar only a search that is given up can refuse a
text.  Against such a run any other limit changes nothing if no token lies under more streams than
it allows, and is reported if some token does.  Where a search is given up, a run with another limit
is refused as well, for that reason or with the limit.  So a larger limit never changes tokens that
are there already. -/
theorem Grammar.tokenize_limit_exact (g : Grammar) (text : String) :
    (∀ unlimited, Grammar.nesting g ≤ unlimited →
      (∀ e, g.tokenize unlimited text = .error e → ∃ kind cause, e = .searchFailed kind cause) ∧
      (∀ tokens, g.tokenize unlimited text = .ok tokens → ∀ limit,
        (Token.NestsWithin limit tokens → g.tokenize limit text = .ok tokens) ∧
        (¬ Token.NestsWithin limit tokens →
          g.tokenize limit text = .error (.depthExceeded limit))) ∧
      (∀ kind cause, g.tokenize unlimited text = .error (.searchFailed kind cause) → ∀ limit,
        g.tokenize limit text = .error (.searchFailed kind cause) ∨
          g.tokenize limit text = .error (.depthExceeded limit))) ∧
    ∀ limit limit' tokens, limit ≤ limit' → g.tokenize limit text = .ok tokens →
      g.tokenize limit' text = .ok tokens := by
  refine ⟨fun unlimited hnesting => ⟨?_, ?_, ?_⟩, ?_⟩
  · intro e he
    exact Grammar.exists_searchFailed_of_nesting_le hnesting he
  · intro tokens htokens limit
    refine ⟨fun hnests => Grammar.tokenizeWithin_of_nestsWithin htokens hnests, fun hdeep => ?_⟩
    have hagree : AgreesUpTo (.depthExceeded limit) (g.tokenize limit text)
        (g.tokenize unlimited text) := Grammar.agreesUpTo_tokenizeWithin hnesting
    obtain heq | hreport := hagree
    · rw [htokens] at heq
      exact absurd (Grammar.nestsWithin_of_tokenizeWithin heq) hdeep
    · exact hreport
  · intro kind cause hfailed limit
    have hagree : AgreesUpTo (.depthExceeded limit) (g.tokenize limit text)
        (g.tokenize unlimited text) := Grammar.agreesUpTo_tokenizeWithin hnesting
    rwa [hfailed] at hagree
  · intro limit limit' tokens hle htokens
    have hnests : Token.NestsWithin limit tokens := Grammar.nestsWithin_of_tokenizeWithin htokens
    refine Grammar.tokenizeWithin_of_nestsWithin htokens fun n stream token hstream hmem => ?_
    exact Nat.le_trans (hnests n stream token hstream hmem) hle

/-- Letters in words in lines: two levels are needed for a word and none for a text without one.  A
search that is given up is reported with any limit. -/
theorem tokenize_limit_exact_of_letters_in_words :
    let letters : Grammar := [⟨"letter", (Pattern.compile "letter" "[a-z]").toOption.toList⟩]
    let word := (Pattern.compile "word" "[a-z]+").toOption.map (Pattern.withInside letters)
    let line := (Pattern.compile "line" "[ a-z]+").toOption.map
      (Pattern.withInside [⟨"word", word.toList⟩])
    let g : Grammar := [⟨"line", line.toList⟩]
    let lost : Grammar := [⟨"lost", [.mk ⟨"(?:lost)", fun _ _ => .error .tooManyAttempts⟩
      false none none]⟩]
    let tokens : List Token := [.plain "1", .matched "line" none (.nested [.plain " ",
      .matched "word" none (.nested [.matched "letter" none (.text "a")])])]
    Grammar.nesting g ≤ 2 ∧ g.tokenize 2 "1 a" = .ok tokens ∧ ¬ Token.NestsWithin 1 tokens ∧
      g.tokenize 1 "1 a" = .error (.depthExceeded 1) ∧ g.tokenize 7 "1 a" = .ok tokens ∧
      g.tokenize 0 "1" = .ok [.plain "1"] ∧
      lost.tokenize 0 "1" = .error (.searchFailed "lost" .tooManyAttempts) ∧
      (lost.tokenize 3 "1" = .error (.searchFailed "lost" .tooManyAttempts) ∨
        lost.tokenize 3 "1" = .error (.depthExceeded 3)) := by
  intro letters word line g lost tokens
  have hnesting : Grammar.nesting g ≤ 2 := by decide +revert +kernel
  have htokens : g.tokenize 2 "1 a" = .ok tokens := by decide +revert +kernel
  have hplain : g.tokenize 2 "1" = .ok [.plain "1"] := by decide +revert +kernel
  have hlost : lost.tokenize 0 "1" = .error (.searchFailed "lost" .tooManyAttempts) := by
    decide +revert +kernel
  have hdeep : ¬ Token.NestsWithin 1 tokens := by
    intro hnests
    have hletters : Token.StreamAt tokens 2 [.matched "letter" none (.text "a")] :=
      .inside (List.mem_cons_of_mem _ List.mem_cons_self)
        (.inside (List.mem_cons_of_mem _ List.mem_cons_self) (.top _))
    have hle : 2 ≤ 1 := hnests 2 _ _ hletters List.mem_cons_self
    omega
  have hshallow : Token.NestsWithin 0 [.plain "1"] := by
    intro n stream token hstream _
    cases hstream with
    | top => exact Nat.le_refl 0
    | inside hmem _ => simp at hmem
  have hlimits := (Grammar.tokenize_limit_exact g "1 a").1 2 hnesting
  refine ⟨hnesting, htokens, hdeep, (hlimits.2.1 tokens htokens 1).2 hdeep, ?_, ?_, hlost, ?_⟩
  · exact (Grammar.tokenize_limit_exact g "1 a").2 2 7 tokens (by omega) htokens
  · exact (((Grammar.tokenize_limit_exact g "1").1 2 hnesting).2.1 _ hplain 0).1 hshallow
  · exact ((Grammar.tokenize_limit_exact lost "1").1 0 (Nat.le_refl 0)).2.2 _ _ hlost 3

end Highlight
