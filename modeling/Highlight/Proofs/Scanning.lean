import Highlight.Proofs.Forward
import Highlight.Proofs.Splitting
import Mathlib.Tactic.Common

/-!
# Splitting as a scan

The tokens that split a text are where a scan of the text finds them, one behind the other.  There
are two ways of going on behind a token: in the text itself, from the end of the token on, or in
what is left as a text of its own.  Splitting goes on in the second way, so that what a search can
see in front of it ends at the token before.

The two scans are compared place by place.  They are the same exactly if at the end of every token
both ways of going on find the same.
-/

namespace Highlight

/-! ## Scans -/

section Scans

variable {find find' : ℕ → Except SearchError (Option (ℕ × ℕ))} {pos : ℕ} {places : List (ℕ × ℕ)}

/-- The places that are found one after the other, each from the end of the one before on, until
nothing is found. -/
inductive Scans (find : ℕ → Except SearchError (Option (ℕ × ℕ))) : ℕ → List (ℕ × ℕ) → Prop where
  | stop {pos : ℕ} (hfind : find pos = .ok none) : Scans find pos []
  | place {pos : ℕ} {place : ℕ × ℕ} {places : List (ℕ × ℕ)} (hfind : find pos = .ok (some place))
    (hplaces : Scans find place.2 places) : Scans find pos (place :: places)

/-- Where a scan begins, its first place is found. -/
lemma Scans.find_eq (h : Scans find pos places) : find pos = .ok places.head? := by
  cases h with
  | stop hfind => exact hfind
  | place hfind _ => exact hfind

/-- A scan finds the places of another one that begins with the same exactly if it finds the same
behind each of these places. -/
theorem Scans.iff_forall_mem (h : Scans find pos places) (hpos : find' pos = find pos) :
    Scans find' pos places ↔ ∀ place ∈ places, find' place.2 = find place.2 := by
  induction h with
  | stop hfind =>
    rw [hfind] at hpos
    exact ⟨fun _ => List.forall_mem_nil _, fun _ => .stop hpos⟩
  | @place pos place places hfind hplaces ih =>
    rw [hfind] at hpos
    rw [List.forall_mem_cons]
    constructor
    · intro h'
      cases h' with
      | place _ hplaces' =>
        have hnext : find' place.2 = find place.2 := by rw [hplaces'.find_eq, hplaces.find_eq]
        exact ⟨hnext, (ih hnext).mp hplaces'⟩
    · rintro ⟨hnext, hrest⟩
      exact .place hpos ((ih hnext).mpr hrest)

end Scans

/-! ## The two ways of going on -/

/-- Where a piece of what is left of a text behind `offset` characters is in the text. -/
def Piece.placeBehind {size : ℕ} (offset : ℕ) (piece : Piece size) : ℕ × ℕ :=
  (offset + piece.val.start, offset + piece.val.stop)

/-- Where the first token of what is left behind a place is, if this is taken as a text of its own.
Nothing is searched for if nothing is left. -/
def Finder.placeBehind (find : Finder) (text : List Char) (pos : ℕ) :
    Except SearchError (Option (ℕ × ℕ)) :=
  if (text.drop pos).isEmpty then .ok none
  else (find (text.drop pos)).map (Option.map (Piece.placeBehind pos))

/-- Where the first token of a text is from a place on. -/
def Pattern.placeFrom (p : Pattern) (text : List Char) (pos : ℕ) :
    Except SearchError (Option (ℕ × ℕ)) :=
  (firstPiece (p.regex.search text) p.lookbehind pos).map (Option.map (Piece.placeBehind 0))

/-- The text between two places. -/
def textBetween (text : List Char) (start stop : ℕ) : List Char :=
  (text.drop start).take (stop - start)

/-- The segments of a text from a place on, with tokens at the given places and open ones where
there is text between them. -/
def cutAt (close : List Char → Except TokenizeError Token) (text : List Char) :
    ℕ → List (ℕ × ℕ) → Except TokenizeError (List Segment)
  | pos, [] => .ok (Segment.ofText (text.drop pos))
  | pos, place :: places => do
    let token ← close (textBetween text place.1 place.2)
    let others ← cutAt close text place.2 places
    return Segment.ofText (textBetween text pos place.1) ++ .done token :: others

/-! ## Splitting -/

section Splitting

variable {kind : String} {find : Finder} {close : List Char → Except TokenizeError Token}
  {text : List Char} {pos : ℕ} {places : List (ℕ × ℕ)} {segments : List Segment}

/-- Nothing is found behind a place: nothing is left, or there is no token in it. -/
lemma Finder.placeBehind_eq_ok_none_iff :
    Finder.placeBehind find text pos = .ok none ↔
      text.drop pos = [] ∨ find (text.drop pos) = .ok none := by
  unfold Finder.placeBehind
  split_ifs with hempty
  · simp [List.isEmpty_iff.mp hempty]
  · have hne : text.drop pos ≠ [] := by simpa using hempty
    simp [map_eq_ok_iff, hne]

/-- A token is found behind a place: it is the first one of what is left. -/
lemma Finder.placeBehind_eq_ok_some_iff {place : ℕ × ℕ} :
    Finder.placeBehind find text pos = .ok (some place) ↔
      ∃ piece, find (text.drop pos) = .ok (some piece) ∧ piece.placeBehind pos = place := by
  unfold Finder.placeBehind
  split_ifs with hempty
  · constructor
    · intro h
      cases h
    · rintro ⟨piece, -, -⟩
      exact absurd (List.isEmpty_iff.mp hempty) (ne_nil_of_piece piece)
  · simp [map_eq_ok_iff]

/-- Splitting what is left of a text cuts the text at the places of the scan that goes on in what is
left. -/
lemma splitText_drop_eq_cutAt (h : Scans (Finder.placeBehind find text) pos places) :
    splitText kind find close (text.drop pos) = cutAt close text pos places := by
  induction h with
  | @stop pos hfind =>
    unfold splitText cutAt Segment.ofText
    obtain hnil | hnone := Finder.placeBehind_eq_ok_none_iff.mp hfind
    · simp [hnil]
    · split_ifs with hempty
      · rfl
      · rw [hnone]
  | @place pos place places hfind hplaces ih =>
    obtain ⟨piece, hpiece, rfl⟩ := Finder.placeBehind_eq_ok_some_iff.mp hfind
    rw [splitText_of_piece hpiece, List.drop_drop]
    unfold cutAt
    have htext : textBetween text (piece.placeBehind pos).1 (piece.placeBehind pos).2 =
        piece.text := by
      simp only [textBetween, Piece.placeBehind, Piece.text, Span.text, List.drop_drop]
      congr 1
      omega
    have hfront : textBetween text pos (piece.placeBehind pos).1 =
        (text.drop pos).take piece.val.start := by
      simp only [textBetween, Piece.placeBehind]
      congr 1
      omega
    rw [htext, hfront, ← ih]
    rfl

/-- Splitting that is not given up has found the places of a scan. -/
lemma SplitsInto.exists_scans {rest : List Char} (h : SplitsInto find close rest segments) :
    ∀ pos, text.drop pos = rest → ∃ places, Scans (Finder.placeBehind find text) pos places := by
  induction h with
  | nil =>
    intro pos hrest
    exact ⟨[], .stop (Finder.placeBehind_eq_ok_none_iff.mpr (.inl hrest))⟩
  | rest _ hfind =>
    rintro pos rfl
    exact ⟨[], .stop (Finder.placeBehind_eq_ok_none_iff.mpr (.inr hfind))⟩
  | @piece _ piece _ _ hfind _ _ ih =>
    rintro pos rfl
    obtain ⟨places, hplaces⟩ := ih (pos + piece.val.stop) (List.drop_drop ..).symm
    have hplace := Finder.placeBehind_eq_ok_some_iff.mpr ⟨piece, hfind, rfl⟩
    exact ⟨piece.placeBehind pos :: places, .place hplace hplaces⟩

/-- That nothing is searched for where nothing is left makes no difference, unless the search would
be given up there. -/
lemma Finder.placeBehind_eq_map {place? : Option (ℕ × ℕ)}
    (h : (find (text.drop pos)).map (Option.map (Piece.placeBehind pos)) = .ok place?) :
    Finder.placeBehind find text pos =
      (find (text.drop pos)).map (Option.map (Piece.placeBehind pos)) := by
  unfold Finder.placeBehind
  split_ifs with hempty
  · obtain ⟨piece?, hpiece?, rfl⟩ := map_eq_ok_iff.mp h
    rw [hpiece?]
    cases piece? with
    | none => rfl
    | some piece => exact absurd (List.isEmpty_iff.mp hempty) (ne_nil_of_piece piece)
  · rfl

end Splitting

/-! ## Forward patterns -/

section Forward

variable {offset size size' : ℕ} {p : Pattern} {text : List Char} {pos : ℕ}
  {places : List (ℕ × ℕ)}

/-- A piece behind some more characters. -/
def Piece.moved (offset : ℕ) (h : offset + size ≤ size') (piece : Piece size) : Piece size' :=
  ⟨piece.val.moved offset h, Nat.add_lt_add_left piece.property offset⟩

/-- The token of a moved match starts at the moved place. -/
lemma Match.tokenStart_moved (h : offset + size ≤ size') (lookbehind : Bool) (m : Match size) :
    (m.moved offset h).tokenStart lookbehind = offset + m.tokenStart lookbehind := by
  have hcontext : (m.moved offset h).context? = m.context?.map (Span.moved offset h) := by
    unfold Match.context? Match.moved
    cases m.groups with
    | nil => rfl
    | cons group groups => cases group <;> rfl
  unfold Match.tokenStart
  rw [hcontext]
  cases lookbehind with
  | false => rfl
  | true =>
    cases m.context? with
    | none => rfl
    | some context =>
      simp only [Option.map_some, Match.moved, Span.moved]
      omega

/-- The token of a moved match is moved. -/
lemma Match.token?_moved (h : offset + size ≤ size') (lookbehind : Bool) (m : Match size) :
    (m.moved offset h).token? lookbehind = (m.token? lookbehind).map (Piece.moved offset h) := by
  have hstart := Match.tokenStart_moved h lookbehind m
  have hstop : (m.moved offset h).whole.stop = offset + m.whole.stop := rfl
  unfold Match.token?
  by_cases hne : m.tokenStart lookbehind < m.whole.stop
  · have hne' : (m.moved offset h).tokenStart lookbehind < (m.moved offset h).whole.stop := by
      omega
    rw [dif_pos hne, dif_pos hne']
    simp only [hstart]
    rfl
  · have hne' : ¬ (m.moved offset h).tokenStart lookbehind < (m.moved offset h).whole.stop := by
      omega
    rw [dif_neg hne, dif_neg hne']
    rfl

/-- The first token that a search finds behind some characters is the moved one, if this holds of
what the search finds. -/
lemma firstPiece_moved {ε : Type} {search : ℕ → Except ε (Option (Match size))}
    {search' : ℕ → Except ε (Option (Match size'))} (h : offset + size = size')
    (hsearch : ∀ pos, search' (offset + pos) =
      (search pos).map (Option.map (Match.moved offset (Nat.le_of_eq h))))
    (lookbehind : Bool) (pos : ℕ) :
    firstPiece search' lookbehind (offset + pos) =
      (firstPiece search lookbehind pos).map
        (Option.map (Piece.moved offset (Nat.le_of_eq h))) := by
  fun_induction firstPiece search lookbehind pos with
  | case1 pos hle e hfound =>
    have hle' : offset + pos ≤ size' := by omega
    rw [firstPiece, if_pos hle', hsearch, hfound]
    rfl
  | case2 pos hle hfound =>
    have hle' : offset + pos ≤ size' := by omega
    rw [firstPiece, if_pos hle', hsearch, hfound]
    rfl
  | case3 pos hle m hfound piece hpiece =>
    have hle' : offset + pos ≤ size' := by omega
    rw [firstPiece, if_pos hle', hsearch, hfound]
    simp only [Except.map, Option.map_some, Match.token?_moved, hpiece]
  | case4 pos hle m hfound hpiece ih =>
    have hle' : offset + pos ≤ size' := by omega
    have hnext : max (m.moved offset (Nat.le_of_eq h)).whole.start (offset + pos) + 1 =
        offset + (max m.whole.start pos + 1) := by
      simp only [Match.moved, Span.moved]
      omega
    rw [firstPiece, if_pos hle', hsearch, hfound]
    simp only [Except.map, Option.map_some, Match.token?_moved, hpiece, Option.map_none]
    rw [hnext, ih]
    rfl
  | case5 pos hgt =>
    have hgt' : ¬ offset + pos ≤ size' := by omega
    rw [firstPiece, if_neg hgt']
    rfl

/-- A pattern that looks forward only finds the same token from the end of a text on as in what
stands behind it. -/
lemma Pattern.placeFrom_append (hforward : p.regex.LooksForward) (front back : List Char) :
    p.placeFrom (front ++ back) front.length =
      (p.find back).map (Option.map (Piece.placeBehind front.length)) := by
  have hsize : front.length + back.length = (front ++ back).length := List.length_append.symm
  have hfirst := firstPiece_moved hsize (hforward front back) p.lookbehind 0
  unfold Pattern.placeFrom Pattern.find
  rw [← Nat.add_zero front.length, hfirst]
  cases firstPiece (p.regex.search back) p.lookbehind 0 with
  | error e => rfl
  | ok piece? =>
    cases piece? with
    | none => rfl
    | some piece => simp [Except.map, Piece.placeBehind, Piece.moved, Span.moved]

/-- A pattern that looks forward only finds the same in both ways, unless its search in the text is
given up. -/
lemma Pattern.placeBehind_eq_placeFrom (hforward : p.regex.LooksForward) (hle : pos ≤ text.length)
    {place? : Option (ℕ × ℕ)} (h : p.placeFrom text pos = .ok place?) :
    Finder.placeBehind p.find text pos = p.placeFrom text pos := by
  have hfrom := Pattern.placeFrom_append hforward (text.take pos) (text.drop pos)
  rw [List.take_append_drop, List.length_take, Nat.min_eq_left hle] at hfrom
  rw [hfrom] at h
  rw [hfrom, Finder.placeBehind_eq_map h]

/-- The places of a scan of a text are inside the text. -/
lemma Pattern.le_of_mem_scan (h : Scans (p.placeFrom text) pos places) :
    ∀ place ∈ places, place.2 ≤ text.length ∧ ∃ place?, p.placeFrom text place.2 = .ok place? := by
  induction h with
  | stop => exact List.forall_mem_nil _
  | @place pos place places hfind hplaces ih =>
    obtain ⟨piece?, -, hpiece?⟩ := map_eq_ok_iff.mp hfind
    obtain ⟨piece, -, rfl⟩ := Option.map_eq_some_iff.mp hpiece?
    have hle := piece.val.stop_le_size
    refine List.forall_mem_cons.mpr ⟨⟨?_, _, hplaces.find_eq⟩, ih⟩
    simp only [Piece.placeBehind]
    omega

/-- A pattern looks forward only if its text is read as a forward expression. -/
lemma Pattern.looksForward_of_compile {kind source : String}
    (hforward : (Regex.Expr.parse? source).any (fun parsed => parsed.1.isForward) = true)
    (h : Pattern.compile kind source = .ok p) : p.regex.LooksForward := by
  obtain ⟨⟨e, groups⟩, hparse, he⟩ := (Option.any_eq_true _ _).mp hforward
  unfold Pattern.compile at h
  cases hregex : Regex.compile? source with
  | none =>
    rw [hregex] at h
    cases h
  | some regex =>
    rw [hregex] at h
    cases h
    exact Regex.looksForward_of_compile? hparse he hregex

end Forward

/-- Splitting a text with a pattern succeeds with the segments of the text cut at the places of the
scan that goes on behind each token in what is left, as a text of its own.  These are the places of
the scan that goes on in the text itself exactly if at the end of each of them both ways of going on
find the same; so they are for a pattern that looks forward only. -/
theorem Pattern.splitText_eq_ok_iff_scans (p : Pattern) (kind : String)
    (close : List Char → Except TokenizeError Token) (text : List Char) :
    (∀ segments, splitText kind p.find close text = .ok segments ↔
      ∃ places, Scans (Finder.placeBehind p.find text) 0 places ∧
        cutAt close text 0 places = .ok segments) ∧
    ∀ places, Scans (p.placeFrom text) 0 places →
      (Scans (Finder.placeBehind p.find text) 0 places ↔
        ∀ place ∈ places, Finder.placeBehind p.find text place.2 = p.placeFrom text place.2) ∧
      (p.regex.LooksForward → splitText kind p.find close text = cutAt close text 0 places) := by
  constructor
  · intro segments
    constructor
    · intro h
      obtain ⟨places, hplaces⟩ := (splitText_eq_ok_iff.mp h).exists_scans 0 rfl
      exact ⟨places, hplaces, (splitText_drop_eq_cutAt hplaces).symm.trans h⟩
    · rintro ⟨places, hplaces, hcut⟩
      exact (splitText_drop_eq_cutAt hplaces).trans hcut
  · intro places hscan
    have hstart : Finder.placeBehind p.find text 0 = p.placeFrom text 0 :=
      Finder.placeBehind_eq_map hscan.find_eq
    have hagree := hscan.iff_forall_mem hstart
    refine ⟨hagree, fun hforward => ?_⟩
    have hsame : ∀ place ∈ places,
        Finder.placeBehind p.find text place.2 = p.placeFrom text place.2 := by
      intro place hmem
      obtain ⟨hle, place?, hfind⟩ := Pattern.le_of_mem_scan hscan place hmem
      exact Pattern.placeBehind_eq_placeFrom hforward hle hfind
    exact splitText_drop_eq_cutAt (hagree.mpr hsame)

/-- Words look forward only: both ways of going on find the second word behind the first one. -/
theorem splitText_eq_ok_iff_scans_of_words :
    let text := "ab c".toList
    let places := [(0, 2), (3, 4)]
    let close (part : List Char) : Except TokenizeError Token :=
      .ok (.matched "word" none (.text (String.ofList part)))
    ∃ p, Pattern.compile "word" "[a-z]+" = .ok p ∧ p.regex.LooksForward ∧
      Scans (p.placeFrom text) 0 places ∧
      (∀ place ∈ places, Finder.placeBehind p.find text place.2 = p.placeFrom text place.2) ∧
      (splitText "word" p.find close text).map (List.map Segment.toToken) =
        .ok [.matched "word" none (.text "ab"), .plain " ", .matched "word" none (.text "c")] := by
  intro text places close
  have hcut : (cutAt close text 0 places).map (List.map Segment.toToken) =
      .ok [.matched "word" none (.text "ab"), .plain " ", .matched "word" none (.text "c")] := by
    decide +revert +kernel
  have hrun : (Pattern.compile "word" "[a-z]+").toOption.map (fun p =>
      [0, 2, 4].map (p.placeFrom text) ++ [0, 2, 4].map (Finder.placeBehind p.find text)) =
        some [.ok (some (0, 2)), .ok (some (3, 4)), .ok none,
          .ok (some (0, 2)), .ok (some (3, 4)), .ok none] := by decide +kernel
  obtain ⟨p, hp, hfound⟩ := Option.map_eq_some_iff.mp hrun
  simp only [List.map_cons, List.map_nil, List.cons_append, List.nil_append, List.cons.injEq]
    at hfound
  obtain ⟨hfirst, hsecond, hlast, hfirst', hsecond', hlast', -⟩ := hfound
  have hcompile : Pattern.compile "word" "[a-z]+" = .ok p := toOption_eq_some_iff.mp hp
  have hforward : p.regex.LooksForward :=
    Pattern.looksForward_of_compile (by decide +kernel) hcompile
  have hscan : Scans (p.placeFrom text) 0 places := .place hfirst (.place hsecond (.stop hlast))
  have hscan' : Scans (Finder.placeBehind p.find text) 0 places :=
    .place hfirst' (.place hsecond' (.stop hlast'))
  obtain ⟨hagree, hsplit⟩ := (Pattern.splitText_eq_ok_iff_scans p "word" close text).2 places hscan
  have hsame := hsplit hforward
  refine ⟨p, hcompile, hforward, hscan, hagree.mp hscan', ?_⟩
  rw [hsame]
  exact hcut

/-- A letter at the start of the text: the scan of the text finds the first letter only, but
splitting finds the second one as well, which is at the start of what is left behind the first. -/
theorem splitText_ne_cutAt_of_text_start :
    let text := "aa".toList
    let places := [(0, 1)]
    let close (part : List Char) : Except TokenizeError Token :=
      .ok (.matched "first" none (.text (String.ofList part)))
    ∃ p, Pattern.compile "first" "^a" = .ok p ∧ Scans (p.placeFrom text) 0 places ∧
      (cutAt close text 0 places).map (List.map Segment.toToken) =
        .ok [.matched "first" none (.text "a"), .plain "a"] ∧
      (splitText "first" p.find close text).map (List.map Segment.toToken) =
        .ok [.matched "first" none (.text "a"), .matched "first" none (.text "a")] := by
  intro text places close
  have hcut : (cutAt close text 0 places).map (List.map Segment.toToken) =
      .ok [.matched "first" none (.text "a"), .plain "a"] := by
    decide +revert +kernel
  have hsplit : (Pattern.compile "first" "^a").toOption.map
      (fun p => (splitText "first" p.find close text).map (List.map Segment.toToken)) =
        some (.ok [.matched "first" none (.text "a"), .matched "first" none (.text "a")]) := by
    decide +revert +kernel
  have hrun : (Pattern.compile "first" "^a").toOption.map
      (fun p => [0, 1].map (p.placeFrom text)) = some [.ok (some (0, 1)), .ok none] := by
    decide +kernel
  obtain ⟨p, hp, hfound⟩ := Option.map_eq_some_iff.mp hrun
  simp only [List.map_cons, List.map_nil, List.cons.injEq] at hfound
  obtain ⟨hfirst, hlast, -⟩ := hfound
  rw [hp, Option.map_some, Option.some.injEq] at hsplit
  exact ⟨p, toOption_eq_some_iff.mp hp, .place hfirst (.stop hlast), hcut, hsplit⟩

end Highlight
