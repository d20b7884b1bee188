import Highlight.Proofs.Except
import Highlight.Proofs.Offsets

/-!
# The token of the leftmost match

The search for the first token asks an engine, of which little is assumed: what it reports lies
between characters of the text.  A match may begin in front of the offset that it is asked from, a
group may lie outside of its match, and the engine may fail.

What a round can do is said once, with the reason for it (`ByteEngine.endsRound`).  A round at a
boundary answers, or goes on at a boundary further behind.  So a search ends, asks and cuts at
boundaries only, and finds a token between boundaries (`ByteEngine.Rounds.sound`).

If the engine reports leftmost matches, then all matches that are reported in front of the offset of
a round have empty tokens: up to the start of a match no other one is reported, and behind it the
search passes no boundary over (`ByteEngine.EndsRound.emptyBefore_next`).  This invariant carries the
search to the leftmost match whose token is not empty, or to the end of the text
(`ByteEngine.Rounds.isLeftmost`).

The search by places is such a search in bytes (`exists_rounds_firstPiece`).
-/

namespace Highlight

/-! ## Engines -/

/-- A range of offsets lies inside a text and between characters. -/
structure ByteRange.Inside (text : String) (range : ByteRange) : Prop where
  start_le_stop : range.start ≤ range.stop
  isBoundary_start : IsBoundary text range.start
  isBoundary_stop : IsBoundary text range.stop

/-- A match inside a text has a token inside the text, which may be empty. -/
lemma Captures.exists_token? (lookbehind : Bool) {captures : Captures} {text : String}
    {whole : ByteRange} (hwhole : whole.Inside text)
    (hcontext : ∀ context, captures.group? 1 = some context → context.Inside text) :
    ∃ token, captures.token? lookbehind whole = some token ∧ token.Inside text := by
  unfold Captures.token?
  split
  · next context heq =>
    have hstart : IsBoundary text (max context.stop whole.start) :=
      max_rec' (IsBoundary text) (hcontext context heq).isBoundary_stop hwhole.isBoundary_start
    rw [ByteRange.clamp?, if_pos hwhole.start_le_stop]
    exact ⟨_, rfl, Nat.min_le_right _ _, min_rec' (IsBoundary text) hstart hwhole.isBoundary_stop,
      hwhole.isBoundary_stop⟩
  · exact ⟨whole, rfl, hwhole⟩

namespace ByteEngine

variable {ε : Type}

/-- All that an engine reports lies inside the text.  A match may begin in front of the offset that
it is reported from, and its groups may lie outside of it. -/
def StaysInside (engine : ByteEngine ε) (text : String) : Prop :=
  ∀ offset captures index range, IsBoundary text offset → engine offset = .ok (some captures) →
    captures.group? index = some range → range.Inside text

/-- An engine does not fail and reports the leftmost match: one that starts at the offset or behind
it and is reported from all offsets up to its start, and none only if none is reported later. -/
structure FindsLeftmost (engine : ByteEngine ε) (text : String) : Prop where
  not_error : ∀ offset e, IsBoundary text offset → engine offset ≠ .error e
  of_match : ∀ offset captures, IsBoundary text offset → engine offset = .ok (some captures) →
    ∃ whole, captures.group? 0 = some whole ∧ offset ≤ whole.start ∧
      ∀ later, IsBoundary text later → offset ≤ later → later ≤ whole.start →
        engine later = .ok (some captures)
  of_none : ∀ offset later, IsBoundary text offset → engine offset = .ok none →
    IsBoundary text later → offset ≤ later → engine later = .ok none

/-- An engine reports a match with a range and a token from an offset. -/
structure Reports (engine : ByteEngine ε) (lookbehind : Bool) (text : String) (offset : ℕ)
    (whole token : ByteRange) : Prop where
  isBoundary : IsBoundary text offset
  exists_captures : ∃ captures : Captures, engine offset = .ok (some captures) ∧
    captures.group? 0 = some whole ∧ captures.token? lookbehind whole = some token

/-- The answer of a search is the token of the leftmost match whose token is not empty, among the
matches from all offsets; there is none only if all tokens are empty. -/
def IsLeftmost (engine : ByteEngine ε) (lookbehind : Bool) (text : String) :
    Except ε (Option ByteRange) → Prop
  | .error _ => False
  | .ok none => ∀ offset whole token, engine.Reports lookbehind text offset whole token →
      token.start = token.stop
  | .ok (some token) => ∃ offset whole, engine.Reports lookbehind text offset whole token ∧
      token.start < token.stop ∧
      ∀ offset' whole' token', engine.Reports lookbehind text offset' whole' token' →
        token'.start < token'.stop →
          whole.start ≤ whole'.start ∧ (whole'.start = whole.start → token' = token)

section Search

variable {engine : ByteEngine ε} {lookbehind : Bool} {text : String} {offset next later : ℕ}
  {offsets : List ℕ} {found : Except ε (Option ByteRange)} {whole token whole' token' : ByteRange}

/-! ## Rounds -/

/-- How a round ends, and why. -/
inductive EndsRound (engine : ByteEngine ε) (lookbehind : Bool) (text : String) (offset : ℕ) :
    Round ε → Prop where
  | behindEnd (hend : offset = text.utf8ByteSize + 1) :
    EndsRound engine lookbehind text offset (.answer (.ok none))
  | failure {e : ε} (hoffset : IsBoundary text offset) (hreport : engine offset = .error e) :
    EndsRound engine lookbehind text offset (.answer (.error e))
  | nothing (hoffset : IsBoundary text offset)
    (hreport : ∀ captures, engine offset = .ok (some captures) → captures.group? 0 = none) :
    EndsRound engine lookbehind text offset (.answer (.ok none))
  | token {whole token : ByteRange} (hreports : engine.Reports lookbehind text offset whole token)
    (hinside : token.Inside text) (hlt : token.start < token.stop) :
    EndsRound engine lookbehind text offset (.answer (.ok (some token)))
  /-- The search goes on behind a match with an empty token. -/
  | empty {whole token : ByteRange} {next : ℕ}
    (hreports : engine.Reports lookbehind text offset whole token)
    (hempty : token.start = token.stop)
    (hnext : IsNextRoundOffset text (max whole.start offset) next) :
    EndsRound engine lookbehind text offset (.goOn next)

/-- A round where a round may begin ends in one of these ways, and never with a fault. -/
theorem endsRound (lookbehind : Bool) (hinside : engine.StaysInside text)
    (hoffset : IsRoundOffset text offset) :
    EndsRound engine lookbehind text offset (engine.round lookbehind text offset) := by
  obtain hoffset | hend := hoffset
  · have hle : offset ≤ text.utf8ByteSize := hoffset.le_rawEndPos
    rw [round, if_pos hle]
    cases hreport : engine offset with
    | error e => exact .failure hoffset hreport
    | ok captures? =>
      cases captures? with
      | none => exact .nothing hoffset fun captures h => by cases hreport.symm.trans h
      | some captures =>
        have hgroup : ∀ index range, captures.group? index = some range → range.Inside text :=
          fun index range => hinside offset captures index range hoffset hreport
        cases hwhole : captures.group? 0 with
        | none =>
          simp only [hwhole]
          exact .nothing hoffset fun captures' h => by
            cases hreport.symm.trans h
            exact hwhole
        | some whole =>
          obtain ⟨token, htoken, htokenInside⟩ :=
            Captures.exists_token? lookbehind (hgroup 0 whole hwhole) (hgroup 1)
          have hreports : engine.Reports lookbehind text offset whole token :=
            ⟨hoffset, captures, hreport, hwhole, htoken⟩
          simp only [hwhole, htoken]
          split_ifs with hlt
          · exact .token hreports htokenInside hlt
          · have hmax : IsBoundary text (max whole.start offset) :=
              max_rec' (IsBoundary text) (hgroup 0 whole hwhole).isBoundary_start hoffset
            obtain ⟨next, hbehind, hnext⟩ := exists_boundaryBehind? hmax
            simp only [hbehind]
            exact .empty hreports
              (Nat.le_antisymm htokenInside.start_le_stop (Nat.le_of_not_lt hlt)) hnext
  · have hgt : ¬ offset ≤ text.utf8ByteSize := by omega
    rw [round, if_neg hgt]
    exact .behindEnd hend

/-- The offset that a search goes on at is behind the one of the round. -/
lemma EndsRound.lt_next (h : EndsRound engine lookbehind text offset (.goOn next)) :
    offset < next ∧ IsRoundOffset text next := by
  cases h with
  | empty hreports hempty hnext =>
    exact ⟨(Nat.le_max_right _ _).trans_lt hnext.lt, hnext.isRoundOffset⟩

/-- A token that a round answers with is not empty and lies inside the text. -/
lemma EndsRound.token_inside
    (h : EndsRound engine lookbehind text offset (.answer (.ok (some token)))) :
    token.Inside text ∧ token.start < token.stop := by
  cases h with
  | token hreports hinside hlt => exact ⟨hinside, hlt⟩

/-! ## Searches -/

/-- Every search ends: the offsets of its rounds grow and stay at most one behind the end. -/
theorem exists_rounds (hinside : engine.StaysInside text) (hoffset : IsRoundOffset text offset) :
    ∃ offsets found, engine.Rounds lookbehind text offset offsets found := by
  induction hn : text.utf8ByteSize + 1 - offset using Nat.strong_induction_on
    generalizing offset with
  | h n ih =>
    have hends := endsRound lookbehind hinside hoffset
    cases hround : engine.round lookbehind text offset with
    | answer found => exact ⟨[offset], found, .answer hround⟩
    | fault =>
      rw [hround] at hends
      cases hends
    | goOn next =>
      rw [hround] at hends
      obtain ⟨hlt, hnext⟩ := hends.lt_next
      have hle := hnext.le
      obtain ⟨offsets, found, hrest⟩ := ih _ (by omega) hnext rfl
      exact ⟨offset :: offsets, found, .goOn hround hrest⟩

/-- What holds of a search that begins where a round may begin. -/
structure Rounds.Sound (engine : ByteEngine ε) (lookbehind : Bool) (text : String) (offset : ℕ)
    (offsets : List ℕ) (found : Except ε (Option ByteRange)) : Prop where
  le_of_mem : ∀ other ∈ offsets, offset ≤ other
  round_of_mem : ∀ other ∈ offsets,
    engine.round lookbehind text other ≠ .fault ∧ IsRoundOffset text other
  pairwise_lt : offsets.Pairwise (· < ·)
  token_inside : ∀ token, found = .ok (some token) → token.Inside text ∧ token.start < token.stop

/-- The rounds of a search begin at growing offsets and without faults, and its token is inside the
text. -/
theorem Rounds.sound (h : engine.Rounds lookbehind text offset offsets found)
    (hinside : engine.StaysInside text) (hoffset : IsRoundOffset text offset) :
    Rounds.Sound engine lookbehind text offset offsets found := by
  induction h with
  | @answer offset found hround =>
    have hends := endsRound lookbehind hinside hoffset
    rw [hround] at hends
    refine ⟨by simp, by simp [hround, hoffset], List.pairwise_singleton _ _, fun token htoken => ?_⟩
    rw [htoken] at hends
    exact hends.token_inside
  | @goOn offset next offsets found hround _ ih =>
    have hends := endsRound lookbehind hinside hoffset
    rw [hround] at hends
    obtain ⟨hlt, hnext⟩ := hends.lt_next
    have hsound := ih hnext
    have hgt : ∀ other ∈ offsets, offset < other :=
      fun other hother => hlt.trans_le (hsound.le_of_mem other hother)
    have hfirst : engine.round lookbehind text offset ≠ .fault ∧ IsRoundOffset text offset := by
      simp [hround, hoffset]
    exact ⟨List.forall_mem_cons.mpr ⟨Nat.le_refl _, fun other hother => (hgt other hother).le⟩,
      List.forall_mem_cons.mpr ⟨hfirst, hsound.round_of_mem⟩,
      List.pairwise_cons.mpr ⟨hgt, hsound.pairwise_lt⟩, hsound.token_inside⟩

/-! ## Leftmost matches -/

/-- A leftmost match starts where it is reported from or behind it. -/
lemma FindsLeftmost.le_start (hleftmost : engine.FindsLeftmost text)
    (h : engine.Reports lookbehind text offset whole token) : offset ≤ whole.start := by
  obtain ⟨hoffset, captures, hreport, hwhole, -⟩ := h
  obtain ⟨range, hrange, hle, -⟩ := hleftmost.of_match offset captures hoffset hreport
  cases hwhole.symm.trans hrange
  exact hle

/-- Up to the start of a leftmost match no other one is reported. -/
lemma FindsLeftmost.eq_of_reports (hleftmost : engine.FindsLeftmost text)
    (h : engine.Reports lookbehind text offset whole token)
    (h' : engine.Reports lookbehind text later whole' token') (hle : offset ≤ later)
    (hupto : later ≤ whole.start) : whole' = whole ∧ token' = token := by
  obtain ⟨hoffset, captures, hreport, hwhole, htoken⟩ := h
  obtain ⟨hlater, captures', hreport', hwhole', htoken'⟩ := h'
  obtain ⟨range, hrange, -, hsame⟩ := hleftmost.of_match offset captures hoffset hreport
  cases hwhole.symm.trans hrange
  cases hreport'.symm.trans (hsame later hlater hle hupto)
  cases hwhole'.symm.trans hwhole
  cases htoken'.symm.trans htoken
  exact ⟨rfl, rfl⟩

/-- No match is reported behind an offset from which none is. -/
lemma FindsLeftmost.not_reports (hleftmost : engine.FindsLeftmost text)
    (hoffset : IsBoundary text offset)
    (hreport : ∀ captures, engine offset = .ok (some captures) → captures.group? 0 = none)
    (hle : offset ≤ later) : ¬ engine.Reports lookbehind text later whole token := by
  have hnone : engine offset = .ok none := by
    cases hfound : engine offset with
    | error e => exact absurd hfound (hleftmost.not_error offset e hoffset)
    | ok captures? =>
      cases captures? with
      | none => rfl
      | some captures =>
        obtain ⟨whole, hwhole, -⟩ := hleftmost.of_match offset captures hoffset hfound
        cases (hreport captures hfound).symm.trans hwhole
  rintro ⟨hlater, captures, hfound, -⟩
  cases hfound.symm.trans (hleftmost.of_none offset later hoffset hnone hlater hle)

/-- All matches that are reported in front of an offset have empty tokens. -/
def EmptyBefore (engine : ByteEngine ε) (lookbehind : Bool) (text : String) (offset : ℕ) : Prop :=
  ∀ earlier whole token, engine.Reports lookbehind text earlier whole token → earlier < offset →
    token.start = token.stop

/-- Behind a match with an empty token the search passes over empty tokens only. -/
lemma EndsRound.emptyBefore_next (h : EndsRound engine lookbehind text offset (.goOn next))
    (hleftmost : engine.FindsLeftmost text)
    (hbefore : engine.EmptyBefore lookbehind text offset) :
    engine.EmptyBefore lookbehind text next := by
  cases h with
  | @empty whole token _ hreports hempty hnext =>
    intro other whole' token' hreports' hlt
    by_cases hle : offset ≤ other
    · have hupto : other ≤ whole.start := by
        by_contra hgt
        -- no boundary lies between the start of the match and the next round
        have hstart := hleftmost.le_start hreports
        have hbehind := hnext.le_of_isBoundary other hreports'.isBoundary (by omega)
        omega
      obtain ⟨rfl, rfl⟩ := hleftmost.eq_of_reports hreports hreports' hle hupto
      exact hempty
    · exact hbefore other whole' token' hreports' (Nat.lt_of_not_le hle)

/-- What a round answers is the leftmost token that is not empty, if there is none in front of it.
-/
lemma EndsRound.isLeftmost (h : EndsRound engine lookbehind text offset (.answer found))
    (hleftmost : engine.FindsLeftmost text)
    (hbefore : engine.EmptyBefore lookbehind text offset) :
    engine.IsLeftmost lookbehind text found := by
  cases h with
  | behindEnd hend =>
    intro other whole token hreports
    have hle : other ≤ text.utf8ByteSize := hreports.isBoundary.le_rawEndPos
    exact hbefore other whole token hreports (by omega)
  | failure hoffset hreport => exact hleftmost.not_error offset _ hoffset hreport
  | nothing hoffset hreport =>
    intro other whole token hreports
    by_cases hlt : other < offset
    · exact hbefore other whole token hreports hlt
    · exact absurd hreports (hleftmost.not_reports hoffset hreport (Nat.le_of_not_lt hlt))
  | @token whole token hreports _ hlt =>
    refine ⟨offset, whole, hreports, hlt, fun other whole' token' hreports' hlt' => ?_⟩
    have hle : offset ≤ other := by
      by_contra hgt
      exact absurd (hbefore other whole' token' hreports' (Nat.lt_of_not_le hgt)) hlt'.ne
    by_cases hupto : other ≤ whole.start
    · obtain ⟨rfl, rfl⟩ := hleftmost.eq_of_reports hreports hreports' hle hupto
      exact ⟨Nat.le_refl _, fun _ => rfl⟩
    · have hstart := hleftmost.le_start hreports'
      exact ⟨by omega, fun heq => by omega⟩

/-- A search answers with the leftmost token that is not empty, if there is none in front of it. -/
theorem Rounds.isLeftmost (h : engine.Rounds lookbehind text offset offsets found)
    (hinside : engine.StaysInside text) (hleftmost : engine.FindsLeftmost text)
    (hoffset : IsRoundOffset text offset) (hbefore : engine.EmptyBefore lookbehind text offset) :
    engine.IsLeftmost lookbehind text found := by
  induction h with
  | answer hround =>
    have hends := endsRound lookbehind hinside hoffset
    rw [hround] at hends
    exact hends.isLeftmost hleftmost hbefore
  | goOn hround _ ih =>
    have hends := endsRound lookbehind hinside hoffset
    rw [hround] at hends
    exact ih hends.lt_next.2 (hends.emptyBefore_next hleftmost hbefore)

end Search

end ByteEngine

/-! ## The search by places -/

section Places

variable {cs : List Char} {lookbehind : Bool} {text : String} {place : ℕ}

/-- Group zero of a match in bytes is the whole match. -/
lemma Match.group?_zero_captures (m : Match cs.length) :
    m.captures.group? 0 = some m.whole.bytes :=
  rfl

/-- Group one of a match in bytes is its context. -/
lemma Match.group?_one_captures (m : Match cs.length) :
    m.captures.group? 1 = m.context?.map Span.bytes := by
  unfold Captures.group? Match.captures Match.context?
  cases m.groups with
  | nil => rfl
  | cons group groups => cases group <;> rfl

/-- The token of a match in bytes starts at the offset of its first place. -/
lemma Match.token?_captures (m : Match cs.length) :
    m.captures.token? lookbehind m.whole.bytes =
      some ⟨offsetOf cs (m.tokenStart lookbehind), offsetOf cs m.whole.stop⟩ := by
  unfold Captures.token? Match.tokenStart
  rw [Match.group?_one_captures]
  cases lookbehind with
  | false => rfl
  | true =>
    cases m.context? with
    | none => rfl
    | some context =>
      have hmono : Monotone (offsetOf cs) := fun _ _ => offsetOf_mono
      have hclamp : m.whole.bytes.clamp? context.bytes.stop =
          some (offsetOf cs (min (max context.stop m.whole.start) m.whole.stop)) := by
        have hle : m.whole.bytes.start ≤ m.whole.bytes.stop := hmono m.whole.start_le_stop
        rw [ByteRange.clamp?, if_pos hle, hmono.map_min, hmono.map_max]
        rfl
      simp only [Option.map_some, hclamp]
      rfl

/-- A span is inside its text. -/
lemma Span.inside_bytes (span : Span text.toList.length) : span.bytes.Inside text :=
  ⟨offsetOf_mono span.start_le_stop,
    isBoundary_iff.mpr ⟨_, span.start_le_stop.trans span.stop_le_size, rfl⟩,
    isBoundary_iff.mpr ⟨_, span.stop_le_size, rfl⟩⟩

/-- What a regular expression reports from the offset of a place is what it finds from the place on.
-/
lemma Regex.byteEngine_offsetOf (r : Regex) (h : place ≤ text.toList.length) :
    r.byteEngine text (offsetOf text.toList place) =
      (r.search text.toList place).map (Option.map Match.captures) := by
  simp only [Regex.byteEngine, takeBytes?_offsetOf, List.length_take, Nat.min_eq_left h]

/-- A regular expression stays inside the text. -/
lemma Regex.staysInside_byteEngine (r : Regex) (text : String) :
    (r.byteEngine text).StaysInside text := by
  intro offset captures index range hoffset hreport hgroup
  obtain ⟨place, hplace, rfl⟩ := isBoundary_iff.mp hoffset
  rw [Regex.byteEngine_offsetOf r hplace] at hreport
  obtain ⟨found, -, hcaptures⟩ := map_eq_ok_iff.mp hreport
  obtain ⟨m, -, rfl⟩ := Option.map_eq_some_iff.mp hcaptures
  have hmem : some range ∈ m.captures := List.mem_of_getElem? (Option.join_eq_some_iff.mp hgroup)
  obtain heq | hmem := List.mem_cons.mp hmem
  · cases heq
    exact m.whole.inside_bytes
  · obtain ⟨span?, -, hspan⟩ := List.mem_map.mp hmem
    obtain ⟨span, -, rfl⟩ := Option.map_eq_some_iff.mp hspan
    exact span.inside_bytes

/-- A round of a regular expression at a place. -/
lemma Regex.round_byteEngine (r : Regex) (h : place ≤ text.toList.length) :
    (r.byteEngine text).round lookbehind text (offsetOf text.toList place) =
      match r.search text.toList place with
      | .error e => .answer (.error e)
      | .ok none => .answer (.ok none)
      | .ok (some m) =>
        match m.token? lookbehind with
        | some piece => .answer (.ok (some piece.bytes))
        | none => .goOn (roundOffset text (max m.whole.start place + 1)) := by
  have hle : offsetOf text.toList place ≤ text.utf8ByteSize :=
    offsetOf_length text ▸ offsetOf_mono h
  rw [ByteEngine.round, if_pos hle, Regex.byteEngine_offsetOf r h]
  cases r.search text.toList place with
  | error e => rfl
  | ok found =>
    cases found with
    | none => rfl
    | some m =>
      have hmono : Monotone (offsetOf text.toList) := fun _ _ => offsetOf_mono
      have hmax : max m.whole.bytes.start (offsetOf text.toList place) =
          offsetOf text.toList (max m.whole.start place) := hmono.map_max.symm
      have hnext : max m.whole.start place ≤ text.toList.length :=
        max_le (m.whole.start_le_stop.trans m.whole.stop_le_size) h
      simp only [Except.map, Option.map_some, Match.group?_zero_captures, Match.token?_captures,
        offsetOf_lt_iff m.whole.stop_le_size, hmax, boundaryBehind?_offsetOf hnext, Match.token?]
      split_ifs
      · rfl
      · rfl

/-- The search by places is a search in bytes: its places are the offsets of the rounds. -/
theorem exists_rounds_firstPiece (r : Regex) (h : place ≤ text.toList.length + 1) :
    ∃ offsets, (r.byteEngine text).Rounds lookbehind text (roundOffset text place) offsets
      ((firstPiece (r.search text.toList) lookbehind place).map (Option.map Piece.bytes)) := by
  fun_induction firstPiece (r.search text.toList) lookbehind place with
  | case1 place hle e hfound =>
    refine ⟨_, .answer ?_⟩
    rw [roundOffset, if_pos hle, Regex.round_byteEngine r hle, hfound]
    rfl
  | case2 place hle hfound =>
    refine ⟨_, .answer ?_⟩
    rw [roundOffset, if_pos hle, Regex.round_byteEngine r hle, hfound]
    rfl
  | case3 place hle m hfound piece hpiece =>
    refine ⟨_, .answer ?_⟩
    rw [roundOffset, if_pos hle, Regex.round_byteEngine r hle, hfound]
    simp only [hpiece]
    rfl
  | case4 place hle m hfound hpiece ih =>
    have hnext : max m.whole.start place ≤ text.toList.length :=
      max_le (m.whole.start_le_stop.trans m.whole.stop_le_size) hle
    obtain ⟨offsets, hrest⟩ := ih (Nat.succ_le_succ hnext)
    refine ⟨_, .goOn ?_ hrest⟩
    rw [roundOffset, if_pos hle, Regex.round_byteEngine r hle, hfound]
    simp only [hpiece]
  | case5 place hgt =>
    refine ⟨_, .answer ?_⟩
    rw [roundOffset, if_neg hgt]
    exact if_neg (Nat.not_succ_le_self _)

end Places

/-! ## The first token -/

/-- An engine that stays inside the text is asked at growing offsets between characters until the
search ends, and the text is cut nowhere else.  A token that is found is not empty and lies between
characters.  If the engine does not fail and reports leftmost matches, the token is the one of the
leftmost match whose token is not empty, and none is found only if all tokens are empty.  The search
of a pattern by places is such a search. -/
theorem ByteEngine.search_ends_inside_at_leftmost {ε : Type} :
    (∀ (engine : ByteEngine ε) (lookbehind : Bool) (text : String), engine.StaysInside text →
      (∃ offsets found, engine.Rounds lookbehind text 0 offsets found) ∧
      ∀ offsets found, engine.Rounds lookbehind text 0 offsets found →
        offsets.Pairwise (· < ·) ∧
        (∀ offset ∈ offsets, engine.round lookbehind text offset ≠ .fault ∧
          (IsBoundary text offset ∨ offset = text.utf8ByteSize + 1)) ∧
        (∀ token, found = .ok (some token) →
          token.start < token.stop ∧ token.stop ≤ text.utf8ByteSize ∧
            IsBoundary text token.start ∧ IsBoundary text token.stop) ∧
        (engine.FindsLeftmost text → engine.IsLeftmost lookbehind text found)) ∧
    ∀ (p : Pattern) (text : String), (p.regex.byteEngine text).StaysInside text ∧
      ∃ offsets, (p.regex.byteEngine text).Rounds p.lookbehind text 0 offsets
        ((p.find text.toList).map (Option.map Piece.bytes)) := by
  constructor
  · intro engine lookbehind text hinside
    have hstart : IsBoundary text 0 := isBoundary_iff.mpr ⟨0, Nat.zero_le _, rfl⟩
    refine ⟨exists_rounds hinside (.inl hstart), fun offsets found hrounds => ?_⟩
    have hsound := hrounds.sound hinside (.inl hstart)
    refine ⟨hsound.pairwise_lt, fun offset hoffset => ?_, fun token htoken => ?_,
      fun hleftmost => ?_⟩
    · exact hsound.round_of_mem offset hoffset
    · obtain ⟨hin, hlt⟩ := hsound.token_inside token htoken
      exact ⟨hlt, hin.isBoundary_stop.le_rawEndPos, hin.isBoundary_start, hin.isBoundary_stop⟩
    · exact hrounds.isLeftmost hinside hleftmost (.inl hstart)
        fun earlier _ _ _ hlt => absurd hlt (Nat.not_lt_zero earlier)
  · intro p text
    exact ⟨Regex.staysInside_byteEngine p.regex text,
      exists_rounds_firstPiece p.regex (Nat.zero_le _)⟩

/-- The engine reports what `é(?= (é))|x` finds.  The token of the first match is empty, since its
group ends behind it; the search goes on behind the first character, which has two bytes. -/
theorem search_ends_inside_at_leftmost_of_group_behind_match :
    let text := "é éx"
    let engine : ByteEngine SearchError := fun offset => .ok <|
      if offset = 0 then some [some ⟨0, 2⟩, some ⟨3, 5⟩]
      else if offset ≤ 5 then some [some ⟨5, 6⟩, none] else none
    engine.StaysInside text ∧ engine.FindsLeftmost text ∧
      engine.Rounds true text 0 [0, 2] (.ok (some ⟨5, 6⟩)) ∧
      engine.IsLeftmost true text (.ok (some ⟨5, 6⟩)) := by
  intro text engine
  have hnext : boundaryBehind? text 0 = some 2 := by decide +revert +kernel
  have hboundary : ∀ offset ∈ [0, 2, 3, 5, 6], IsBoundary text offset := by
    decide +revert +kernel
  have hmatch : (ByteRange.mk 0 2).Inside text :=
    ⟨by decide, hboundary 0 (by decide), hboundary 2 (by decide)⟩
  have hgroup : (ByteRange.mk 3 5).Inside text :=
    ⟨by decide, hboundary 3 (by decide), hboundary 5 (by decide)⟩
  have hlast : (ByteRange.mk 5 6).Inside text :=
    ⟨by decide, hboundary 5 (by decide), hboundary 6 (by decide)⟩
  have hinside : engine.StaysInside text := by
    intro offset captures index range _ hreport hrange
    have hmem : some range ∈ captures := List.mem_of_getElem? (Option.join_eq_some_iff.mp hrange)
    simp only [engine, Except.ok.injEq] at hreport
    split_ifs at hreport
    · cases hreport
      obtain rfl | rfl : range = ⟨0, 2⟩ ∨ range = ⟨3, 5⟩ := by simpa using hmem
      · exact hmatch
      · exact hgroup
    · cases hreport
      obtain rfl : range = ⟨5, 6⟩ := by simpa using hmem
      exact hlast
  have hleftmost : engine.FindsLeftmost text := by
    refine ⟨fun offset e _ herror => ?_, fun offset captures _ hreport => ?_,
      fun offset later _ hnone _ hle => ?_⟩
    · cases herror
    · simp only [engine, Except.ok.injEq] at hreport
      split_ifs at hreport with hzero hfive
      · cases hreport
        refine ⟨⟨0, 2⟩, rfl, hzero.le, fun later _ _ hupto => ?_⟩
        simp only [engine, if_pos (Nat.le_zero.mp hupto)]
      · cases hreport
        refine ⟨⟨5, 6⟩, rfl, hfive, fun later _ hle hupto => ?_⟩
        have hne : later ≠ 0 := by omega
        simp only [engine, if_neg hne, if_pos hupto]
    · simp only [engine, Except.ok.injEq] at hnone
      split_ifs at hnone with hzero hfive
      have hne : later ≠ 0 := by omega
      have hgt : ¬ later ≤ 5 := by omega
      simp only [engine, if_neg hne, if_neg hgt]
  have hrounds : engine.Rounds true text 0 [0, 2] (.ok (some ⟨5, 6⟩)) := by
    refine .goOn ?_ (.answer ?_)
    · simp [ByteEngine.round, engine, Captures.group?, Captures.token?, ByteRange.clamp?, hnext]
    · rfl
  obtain ⟨-, hsearch⟩ := ByteEngine.search_ends_inside_at_leftmost.1 engine true text hinside
  obtain ⟨-, -, -, hfound⟩ := hsearch [0, 2] (.ok (some ⟨5, 6⟩)) hrounds
  exact ⟨hinside, hleftmost, hrounds, hfound hleftmost⟩

end Highlight
