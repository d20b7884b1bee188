import Highlight.Json.Decode
import Highlight.Json.Printer
import Highlight.Json.Reader
import Mathlib.Data.List.TakeWhile
import Mathlib.Tactic.Common
import Mathlib.Tactic.IntervalCases

/-!
# Reading written JSON

A value without numbers that has been written is read back as it was if it does not nest too deeply,
and is refused otherwise (`parse?_render`).  Of an array the items up to the first that nests too
deeply are read back (`scanArray_render`).  And what is read does not nest too deeply, whoever has
written it (`depth_le_of_parse?`, `depth_le_of_scanArray`).

Writers put a text in front of a rest, and readers leave the rest: a reader *reads back* a part if it
finds the part in front of every rest (`ReadsBack`).  Items and fields are lists of such parts, so
that both are covered by one argument about lists (`inside_enumerated`).
-/

namespace Highlight.Json

universe u

/-- A character that is no blank is not skipped. -/
lemma skipBlanks_cons {c : Char} (h : isBlank c = false) (rest : List Char) :
    skipBlanks (c :: rest) = c :: rest := by
  simp [skipBlanks, h]

/-! ## Strings -/

/-- A character that needs no escape stands for itself. -/
lemma stringBody_cons_of_ne {c : Char} (hquote : c ≠ '\x22') (hslash : c ≠ '\\')
    (hraw : ¬ c < ' ') (rest : List Char) :
    stringBody (c :: rest) = (stringBody rest).map fun r => (c :: r.1, r.2) := by
  rw [stringBody.eq_def]
  split
  · simp_all
  · simp_all
  · simp_all
  · simp_all
  · next heq =>
    obtain ⟨rfl, rfl⟩ := List.cons.inj heq
    rw [if_neg hraw]

/-- The digits that are written for a control character write its number. -/
lemma hexWord?_hexDigit {n : ℕ} (h : n < 32) :
    hexWord? '0' '0' (hexDigit (n / 16)) (hexDigit (n % 16)) = some n := by
  interval_cases n <;> decide

/-- An escaped character is read as the character. -/
lemma stringBody_escape (c : Char) (rest : List Char) :
    stringBody (escape c ++ rest) = (stringBody rest).map fun r => (c :: r.1, r.2) := by
  unfold escape
  split_ifs with hquote hslash hb hf hn hr ht hraw
  · subst hquote; rfl
  · subst hslash; rfl
  · subst hb; rfl
  · subst hf; rfl
  · subst hn; rfl
  · subst hr; rfl
  · subst ht; rfl
  · have hlt : c.toNat < 32 := hraw
    have hhigh : isHighSurrogate c.toNat = false := by
      simp [isHighSurrogate]
      omega
    have hlow : isLowSurrogate c.toNat = false := by
      simp [isLowSurrogate]
      omega
    simp only [List.cons_append, List.nil_append]
    rw [stringBody]
    simp [hexWord?_hexDigit hlt, hhigh, hlow, Char.ofNat_toNat]
  · exact stringBody_cons_of_ne hquote hslash hraw rest

/-- The inside of a written string is read up to its closing mark. -/
lemma stringBody_emitChars (cs rest : List Char) :
    stringBody (emitChars cs ('\x22' :: rest)) = some (cs, rest) := by
  induction cs with
  | nil => rfl
  | cons c cs ih => rw [emitChars, stringBody_escape, ih, Option.map_some]

/-- A string is written in front of its rest. -/
lemma length_le_emitString (text : String) (rest : List Char) :
    rest.length ≤ (emitString text rest).length := by
  have hchars : ∀ cs rest, rest.length ≤ (emitChars cs rest).length := by
    intro cs rest
    induction cs with
    | nil => exact Nat.le_refl _
    | cons c cs ih =>
      rw [emitChars, List.length_append]
      omega
  have h := hchars text.toList ('\x22' :: rest)
  simp only [emitString, List.length_cons] at h ⊢
  omega

/-! ## Lists of parts -/

section Parts

variable {α : Type u} {one : List Char → Option (α × List Char)}
  {write : α → List Char → List Char} {close : Char} {Fits : α → Prop} [DecidablePred Fits]
  {a : α} {as : List α}

/-- A part that fits is read in front of every rest, and any other part is refused there.  Its text
begins neither with a blank nor with the mark that closes a list of parts. -/
structure ReadsBack (one : List Char → Option (α × List Char))
    (write : α → List Char → List Char) (close : Char) (Fits : α → Prop) [DecidablePred Fits]
    (a : α) : Prop where
  read : ∀ rest, one (write a rest) = if Fits a then some (a, rest) else none
  starts : ∀ rest, ∃ c cs, write a rest = c :: cs ∧ isBlank c = false ∧ c ≠ close
  length_le : ∀ rest, rest.length ≤ (write a rest).length

/-- Parts in front of a rest, each after a comma. -/
def separated (write : α → List Char → List Char) (as : List α) (rest : List Char) : List Char :=
  as.foldr (fun a rest => ',' :: write a rest) rest

/-- Parts in front of a rest, with commas between them. -/
def enumerated (write : α → List Char → List Char) : List α → List Char → List Char
  | [], rest => rest
  | a :: as, rest => write a (separated write as rest)

/-- Each part after a comma has a character at least, which is the comma. -/
lemma length_le_separated (h : ∀ a ∈ as, ReadsBack one write close Fits a) (rest : List Char) :
    rest.length + as.length ≤ (separated write as rest).length := by
  induction as with
  | nil => exact Nat.le_refl _
  | cons a as ih =>
    have hfirst := (h a List.mem_cons_self).length_le (separated write as rest)
    have hothers := ih fun b hb => h b (List.mem_cons_of_mem a hb)
    simp only [separated, List.foldr_cons, List.length_cons] at hfirst hothers ⊢
    omega

/-- Parts are written in front of their rest. -/
lemma length_le_enumerated (h : ∀ a ∈ as, ReadsBack one write close Fits a) (rest : List Char) :
    rest.length ≤ (enumerated write as rest).length := by
  cases as with
  | nil => exact Nat.le_refl _
  | cons a as =>
    have hfirst := (h a List.mem_cons_self).length_le (separated write as rest)
    have hothers := length_le_separated (fun b hb => h b (List.mem_cons_of_mem a hb)) rest
    rw [enumerated]
    omega

/-- Written parts are read up to the first that does not fit, and the rest is reached if all fit. -/
lemma parts_separated (hclose : isBlank close = false) (hcomma : ',' ≠ close)
    (h : ∀ b ∈ a :: as, ReadsBack one write close Fits b) {bound : ℕ} (hbound : as.length < bound)
    (rest : List Char) :
    parts one close bound (write a (separated write as (close :: rest))) =
      ((a :: as).takeWhile Fits, if ∀ b ∈ a :: as, Fits b then some rest else none) := by
  induction as generalizing a bound with
  | nil =>
    obtain ⟨bound, rfl⟩ := Nat.exists_eq_succ_of_ne_zero (Nat.ne_of_gt hbound)
    rw [parts, (h a List.mem_cons_self).read]
    by_cases ha : Fits a
    · simp [ha, separated, skipBlanks_cons hclose]
    · simp [ha]
  | cons b bs ih =>
    obtain ⟨bound, rfl⟩ := Nat.exists_eq_succ_of_ne_zero (Nat.ne_of_gt (Nat.zero_lt_of_lt hbound))
    have hothers := ih (fun c hc => h c (List.mem_cons_of_mem a hc)) (Nat.lt_of_succ_lt_succ hbound)
    rw [parts, (h a List.mem_cons_self).read]
    by_cases ha : Fits a
    · have hblank : isBlank ',' = false := by decide
      simp only [separated, List.foldr_cons] at hothers ⊢
      simp only [ha, if_true, skipBlanks_cons hblank, hcomma, if_false, hothers,
        List.forall_mem_cons (a := a), true_and]
      simp [ha]
    · simp [ha]

/-- The inside of a written list is read up to the first part that does not fit, and the rest is
reached if all parts fit. -/
lemma inside_enumerated (hclose : isBlank close = false) (hcomma : ',' ≠ close)
    (h : ∀ a ∈ as, ReadsBack one write close Fits a) (rest : List Char) :
    inside one close (enumerated write as (close :: rest)) =
      (as.takeWhile Fits, if ∀ a ∈ as, Fits a then some rest else none) := by
  cases as with
  | nil => simp [inside, enumerated, skipBlanks_cons hclose]
  | cons a as =>
    obtain ⟨c, cs, hwrite, hblank, hne⟩ :=
      (h a List.mem_cons_self).starts (separated write as (close :: rest))
    -- The reader allows as many parts as the text has characters.
    have hbound : as.length < cs.length.succ := by
      have hfirst := (h a List.mem_cons_self).length_le (separated write as (close :: rest))
      have hothers := length_le_separated (fun b hb => h b (List.mem_cons_of_mem a hb))
        (close :: rest)
      rw [hwrite] at hfirst
      simp only [List.length_cons] at hfirst hothers
      omega
    have hparts := parts_separated hclose hcomma h hbound rest
    rw [hwrite] at hparts
    rw [inside, enumerated, hwrite, skipBlanks_cons hblank]
    simp only [hne, if_false, hparts]

end Parts

/-! ## Values without numbers -/

mutual

/-- No number stands in a value. -/
def Numberless : Json → Prop
  | int _ | real _ => False
  | arr items => NumberlessItems items
  | obj fields => NumberlessFields fields
  | null | bool _ | str _ => True

def NumberlessItems : List Json → Prop
  | [] => True
  | item :: items => item.Numberless ∧ NumberlessItems items

def NumberlessFields : List (String × Json) → Prop
  | [] => True
  | (_, value) :: fields => value.Numberless ∧ NumberlessFields fields

end

/-- Fields in a row have no numbers if none of them has. -/
lemma numberlessFields_append {fields others : List (String × Json)} (h : NumberlessFields fields)
    (hothers : NumberlessFields others) : NumberlessFields (fields ++ others) := by
  induction fields with
  | nil => exact hothers
  | cons field fields ih => exact ⟨h.1, ih h.2⟩

/-- A list of strings has no numbers. -/
lemma numberless_ofStrings (texts : List String) : (ofStrings texts).Numberless := by
  rw [ofStrings, Numberless]
  induction texts with
  | nil => exact trivial
  | cons text texts ih => exact ⟨trivial, ih⟩

/-- Labels have no numbers. -/
lemma numberless_ofLabels (labels : Shorthand String) : (ofLabels labels).Numberless := by
  cases labels with
  | single label => exact trivial
  | list labels => exact numberless_ofStrings labels

/-! ## Arrays and objects as lists of parts -/

/-- A field in front of a rest. -/
def emitField (field : String × Json) (rest : List Char) : List Char :=
  emitString field.1 (':' :: field.2.emit rest)

/-- An array is written as a list of its items. -/
lemma emit_arr (items : List Json) (rest : List Char) :
    (arr items).emit rest = '[' :: enumerated emit items (']' :: rest) := by
  have hitems : ∀ items rest, emitItems items rest = separated emit items rest := by
    intro items rest
    induction items with
    | nil => rfl
    | cons item items ih =>
      rw [emitItems, ih]
      rfl
  cases items with
  | nil => rfl
  | cons item items =>
    rw [emit, hitems]
    rfl

/-- An object is written as a list of its fields. -/
lemma emit_obj (fields : List (String × Json)) (rest : List Char) :
    (obj fields).emit rest = '\x7b' :: enumerated emitField fields ('\x7d' :: rest) := by
  have hfields : ∀ fields rest, emitFields fields rest = separated emitField fields rest := by
    intro fields rest
    induction fields with
    | nil => rfl
    | cons field fields ih =>
      rw [emitFields, ih]
      rfl
  cases fields with
  | nil => rfl
  | cons field fields =>
    rw [emit, hfields]
    rfl

/-! ## Depth -/

/-- Items nest as deeply as the deepest of them. -/
lemma depthOfItems_le_iff {items : List Json} {d : ℕ} :
    depthOfItems items ≤ d ↔ ∀ item ∈ items, item.depth ≤ d := by
  induction items with
  | nil => simp [depthOfItems]
  | cons item items ih => simp [depthOfItems, ih]

/-- Fields nest as deeply as the deepest of them. -/
lemma depthOfFields_le_iff {fields : List (String × Json)} {d : ℕ} :
    depthOfFields fields ≤ d ↔ ∀ field ∈ fields, field.2.depth ≤ d := by
  induction fields with
  | nil => simp [depthOfFields]
  | cons field fields ih => simp [depthOfFields, ih]

/-- An array nests more deeply than its items. -/
lemma depth_lt_arr {items : List Json} {item : Json} (h : item ∈ items) :
    item.depth < (arr items).depth :=
  Nat.lt_succ_of_le (depthOfItems_le_iff.mp (Nat.le_refl _) item h)

/-- An object nests more deeply than the values of its fields. -/
lemma depth_lt_obj {fields : List (String × Json)} {field : String × Json} (h : field ∈ fields) :
    field.2.depth < (obj fields).depth :=
  Nat.lt_succ_of_le (depthOfFields_le_iff.mp (Nat.le_refl _) field h)

/-- A list of strings nests nothing but its items. -/
lemma depth_ofStrings (texts : List String) : (ofStrings texts).depth = 1 := by
  have hitems : depthOfItems (texts.map str) ≤ 0 := depthOfItems_le_iff.mpr (by simp [depth])
  rw [ofStrings, depth, Nat.le_zero.mp hitems]

/-- A list of strings is read from an array. -/
lemma one_le_depth_of_asStrings? {value : Json} {texts : List String}
    (h : value.asStrings? = some texts) : 1 ≤ value.depth := by
  cases value with
  | arr items => exact Nat.le_add_left 1 _
  | _ => cases h

/-- Labels nest no deeper than what they are read from. -/
lemma depth_ofLabels_le {value : Json} {labels : Shorthand String}
    (h : value.asLabels? = some labels) : (ofLabels labels).depth ≤ value.depth := by
  cases labels with
  | single label => exact Nat.zero_le _
  | list labels =>
    rw [asLabels?, asShorthand?] at h
    split at h
    · cases h
    · obtain ⟨texts, htexts, heq⟩ := Option.map_eq_some_iff.mp h
      exact (depth_ofStrings labels).trans_le (one_le_depth_of_asStrings? htexts)

/-! ## Reading values back -/

/-- With every limit for the nesting, a value is read back if it keeps to the limit. -/
def Reread (value : Json) : Prop :=
  ∀ d, ReadsBack (value? d) emit ']' (fun value => value.depth ≤ d) value

/-- A text that begins neither an array nor an object is read as a scalar. -/
lemma value?_cons {c : Char} (hblank : isBlank c = false) (harr : c ≠ '[') (hobj : c ≠ '\x7b')
    (d : ℕ) (cs : List Char) : value? d (c :: cs) = scalar? (c :: cs) := by
  cases d with
  | zero =>
    rw [value?, skipBlanks_cons hblank]
    split <;> simp_all
  | succ d =>
    rw [value?, skipBlanks_cons hblank]
    split <;> simp_all

/-- A scalar that is read back as a scalar is read back as a value. -/
lemma reread_of_scalar? {value : Json} (hdepth : value.depth = 0)
    (hread : ∀ rest, scalar? (value.emit rest) = some (value, rest))
    (hstarts : ∀ rest, ∃ c cs, value.emit rest = c :: cs ∧ isBlank c = false ∧ c ≠ ']' ∧
      c ≠ '[' ∧ c ≠ '\x7b')
    (hlength : ∀ rest, rest.length ≤ (value.emit rest).length) : value.Reread := by
  refine fun d => ⟨fun rest => ?_, fun rest => ?_, hlength⟩
  · obtain ⟨c, cs, hemit, hblank, -, harr, hobj⟩ := hstarts rest
    rw [hdepth, if_pos (Nat.zero_le d), ← hread, hemit, value?_cons hblank harr hobj]
  · obtain ⟨c, cs, hemit, hblank, hclose, -, -⟩ := hstarts rest
    exact ⟨c, cs, hemit, hblank, hclose⟩

/-- The word for nothing is read back. -/
lemma reread_null : null.Reread :=
  reread_of_scalar? rfl (fun _ => rfl)
    (fun _ => ⟨_, _, rfl, by decide, by decide, by decide, by decide⟩)
    (fun _ => by simp only [emit, List.length_cons]; omega)

/-- The words for truth values are read back. -/
lemma reread_bool (b : Bool) : (bool b).Reread := by
  cases b with
  | true =>
    exact reread_of_scalar? rfl (fun _ => rfl)
      (fun _ => ⟨_, _, rfl, by decide, by decide, by decide, by decide⟩)
      (fun _ => by simp only [emit, List.length_cons]; omega)
  | false =>
    exact reread_of_scalar? rfl (fun _ => rfl)
      (fun _ => ⟨_, _, rfl, by decide, by decide, by decide, by decide⟩)
      (fun _ => by simp only [emit, List.length_cons]; omega)

/-- Strings are read back. -/
lemma reread_str (text : String) : (str text).Reread :=
  reread_of_scalar? rfl
    (fun rest => by
      rw [emit, emitString, scalar?, stringBody_emitChars, Option.map_some, String.ofList_toList])
    (fun _ => ⟨_, _, rfl, by decide, by decide, by decide, by decide⟩)
    (length_le_emitString text)

/-- An array is read back if its items are. -/
lemma reread_arr {items : List Json} (h : ∀ item ∈ items, item.Reread) : (arr items).Reread := by
  intro d
  refine ⟨fun rest => ?_, fun rest => ⟨_, _, emit_arr items rest, by decide, by decide⟩,
    fun rest => ?_⟩
  · rw [emit_arr]
    cases d with
    | zero => simp [value?, skipBlanks_cons (c := '[') (by decide), depth]
    | succ d =>
      rw [value?, skipBlanks_cons (by decide)]
      simp only [inside_enumerated (by decide) (by decide) fun item hitem => h item hitem d,
        depth, Nat.add_le_add_iff_right, depthOfItems_le_iff]
      by_cases hd : ∀ item ∈ items, item.depth ≤ d
      · rw [if_pos hd, if_pos hd, List.takeWhile_eq_self_iff.mpr (by simpa using hd)]
      · rw [if_neg hd, if_neg hd]
  · have hle := length_le_enumerated (fun item hitem => h item hitem 0) (']' :: rest)
    rw [emit_arr]
    simp only [List.length_cons] at hle ⊢
    omega

/-- A field is read back if its value is. -/
lemma readsBack_field {field : String × Json} (h : field.2.Reread) (d : ℕ) :
    ReadsBack (field? (value? d)) emitField '\x7d' (fun field => field.2.depth ≤ d) field := by
  refine ⟨fun rest => ?_, fun rest => ⟨_, _, rfl, by decide, by decide⟩, fun rest => ?_⟩
  · rw [emitField, emitString, field?, skipBlanks_cons (by decide), string?, stringBody_emitChars]
    simp only [Option.map_some, String.ofList_toList, skipBlanks_cons (c := ':') (by decide),
      (h d).read]
    split_ifs <;> rfl
  · have hvalue := (h d).length_le rest
    have hname := length_le_emitString field.1 (':' :: field.2.emit rest)
    rw [emitField]
    simp only [List.length_cons] at hname ⊢
    omega

/-- An object is read back if the values of its fields are. -/
lemma reread_obj {fields : List (String × Json)} (h : ∀ field ∈ fields, field.2.Reread) :
    (obj fields).Reread := by
  intro d
  have hfields : ∀ d, ∀ field ∈ fields,
      ReadsBack (field? (value? d)) emitField '\x7d' (fun field => field.2.depth ≤ d) field :=
    fun d field hfield => readsBack_field (h field hfield) d
  refine ⟨fun rest => ?_, fun rest => ⟨_, _, emit_obj fields rest, by decide, by decide⟩,
    fun rest => ?_⟩
  · rw [emit_obj]
    cases d with
    | zero => simp [value?, skipBlanks_cons (c := '\x7b') (by decide), depth]
    | succ d =>
      rw [value?, skipBlanks_cons (by decide)]
      simp only [inside_enumerated (by decide) (by decide) (hfields d), depth,
        Nat.add_le_add_iff_right, depthOfFields_le_iff]
      by_cases hd : ∀ field ∈ fields, field.2.depth ≤ d
      · have htake : fields.takeWhile (fun field => decide (field.2.depth ≤ d)) = fields :=
          List.takeWhile_eq_self_iff.mpr fun field hfield => decide_eq_true (hd field hfield)
        rw [if_pos hd, if_pos hd, htake]
      · rw [if_neg hd, if_neg hd]
  · have hle := length_le_enumerated (hfields 0) ('\x7d' :: rest)
    rw [emit_obj]
    simp only [List.length_cons] at hle ⊢
    omega

mutual

/-- Every value without numbers is read back. -/
theorem Numberless.reread : ∀ {value : Json}, value.Numberless → value.Reread
  | null, _ => reread_null
  | bool b, _ => reread_bool b
  | str text, _ => reread_str text
  | arr _, h => reread_arr (NumberlessItems.reread h)
  | obj _, h => reread_obj (NumberlessFields.reread h)

theorem NumberlessItems.reread :
    ∀ {items : List Json}, NumberlessItems items → ∀ item ∈ items, item.Reread
  | [], _ => by simp
  | _ :: _, h => List.forall_mem_cons.mpr ⟨Numberless.reread h.1, NumberlessItems.reread h.2⟩

theorem NumberlessFields.reread :
    ∀ {fields : List (String × Json)}, NumberlessFields fields → ∀ field ∈ fields, field.2.Reread
  | [], _ => by simp
  | (_, _) :: _, h =>
    List.forall_mem_cons.mpr ⟨Numberless.reread h.1, NumberlessFields.reread h.2⟩

end

/-! ## Written texts -/

/-- The text of a value is read as the value, unless the value nests too deeply. -/
theorem parse?_render {value : Json} (h : value.Numberless) :
    parse? value.render = if value.depth ≤ maxDepth then some value else none := by
  rw [parse?, render, String.toList_ofList, (h.reread maxDepth).read]
  by_cases hdepth : value.depth ≤ maxDepth
  · rw [if_pos hdepth, if_pos hdepth]
    rfl
  · rw [if_neg hdepth, if_neg hdepth]

/-- Of the text of an array the items are read up to the first that nests too deeply, and there is a
fault of the text exactly if there is such an item. -/
theorem scanArray_render {items : List Json} (h : NumberlessItems items) :
    scanArray (arr items).render =
      (items.takeWhile fun item => item.depth ≤ maxDepth - 1,
        decide ((arr items).depth ≤ maxDepth)) := by
  have hdepth : (arr items).depth ≤ maxDepth ↔ ∀ item ∈ items, item.depth ≤ maxDepth - 1 := by
    rw [depth, ← depthOfItems_le_iff, maxDepth]
    omega
  rw [scanArray, render, String.toList_ofList, emit_arr, skipBlanks_cons (by decide)]
  simp only [inside_enumerated (by decide) (by decide) fun item hitem => h.reread item hitem _]
  by_cases hd : ∀ item ∈ items, item.depth ≤ maxDepth - 1
  · rw [if_pos hd, decide_eq_true (hdepth.mpr hd)]
    rfl
  · rw [if_neg hd, decide_eq_false (mt hdepth.mp hd)]

/-! ## The depth of what is read -/

section Depth

variable {α : Type u} {d : ℕ} {cs rest : List Char} {value : Json}

/-- Every part of a list has been read as a part. -/
lemma exists_of_mem_parts (one : List Char → Option (α × List Char)) (close : Char) (bound : ℕ)
    (cs : List Char) :
    ∀ a ∈ (parts one close bound cs).1, ∃ cs rest, one cs = some (a, rest) := by
  induction bound generalizing cs with
  | zero => simp [parts]
  | succ bound ih =>
    rw [parts]
    cases hone : one cs with
    | none => simp
    | some r =>
      obtain ⟨part, rest⟩ := r
      have hpart : ∃ cs rest, one cs = some (part, rest) := ⟨cs, rest, hone⟩
      dsimp only
      split
      · split_ifs
        · simpa using hpart
        · exact List.forall_mem_cons.mpr ⟨hpart, ih _⟩
        · simpa using hpart
      · simpa using hpart

/-- Every part of the inside of an array or object has been read as a part. -/
lemma exists_of_mem_inside (one : List Char → Option (α × List Char)) (close : Char)
    (cs : List Char) :
    ∀ a ∈ (inside one close cs).1, ∃ cs rest, one cs = some (a, rest) := by
  rw [inside]
  split
  · split_ifs
    · simp
    · exact exists_of_mem_parts one close _ _
  · simp

/-- The value of a field has been read as a value. -/
lemma exists_of_field? {one : List Char → Option (Json × List Char)} {field : String × Json}
    (h : field? one cs = some (field, rest)) : ∃ cs rest, one cs = some (field.2, rest) := by
  unfold field? at h
  split at h
  · cases h
  · split at h
    · obtain ⟨⟨value, rest⟩, hone, heq⟩ := Option.map_eq_some_iff.mp h
      cases heq
      exact ⟨_, _, hone⟩
    · cases h

/-- A number nests nothing. -/
lemma depth_of_unsigned? {negative : Bool} (h : unsigned? negative cs = some (value, rest)) :
    value.depth = 0 := by
  simp only [unsigned?, Option.bind_eq_bind, Option.bind_eq_some_iff] at h
  obtain ⟨-, -, fraction, -, exponent, -, h⟩ := h
  split at h
  · cases h
    rfl
  · simp only [Option.bind_eq_some_iff] at h
    obtain ⟨-, -, h⟩ := h
    cases h
    rfl

/-- A scalar nests nothing. -/
lemma depth_of_scalar? (h : scalar? cs = some (value, rest)) : value.depth = 0 := by
  unfold scalar? at h
  split at h
  · cases h
    rfl
  · cases h
    rfl
  · cases h
    rfl
  · obtain ⟨_, -, hr⟩ := Option.map_eq_some_iff.mp h
    cases hr
    rfl
  · unfold number? at h
    split at h
    · exact depth_of_unsigned? h
    · exact depth_of_unsigned? h

/-- What is read with a limit for the nesting keeps to it. -/
lemma depth_le_of_value? (h : value? d cs = some (value, rest)) : value.depth ≤ d := by
  induction d generalizing cs value rest with
  | zero =>
    rw [value?] at h
    split at h
    · cases h
    · cases h
    · rw [depth_of_scalar? h]
  | succ d ih =>
    rw [value?] at h
    split at h
    · next inner _ =>
      have hitems := exists_of_mem_inside (value? d) ']' inner
      split at h
      · next items _ heq =>
        cases h
        rw [heq] at hitems
        rw [depth, Nat.add_le_add_iff_right, depthOfItems_le_iff]
        intro item hitem
        obtain ⟨_, _, hread⟩ := hitems item hitem
        exact ih hread
      · cases h
    · next inner _ =>
      have hfields := exists_of_mem_inside (field? (value? d)) '\x7d' inner
      split at h
      · next fields _ heq =>
        cases h
        rw [heq] at hfields
        rw [depth, Nat.add_le_add_iff_right, depthOfFields_le_iff]
        intro field hfield
        obtain ⟨_, _, hfield⟩ := hfields field hfield
        obtain ⟨_, _, hread⟩ := exists_of_field? hfield
        exact ih hread
      · cases h
    · rw [depth_of_scalar? h]
      exact Nat.zero_le _

/-- What a text writes does not nest too deeply. -/
theorem depth_le_of_parse? {text : String} (h : parse? text = some value) :
    value.depth ≤ maxDepth := by
  unfold parse? at h
  split at h
  · next hread =>
    split_ifs at h
    cases h
    exact depth_le_of_value? hread
  · cases h

/-- What is read of the items of an array does not nest too deeply inside the array. -/
theorem depth_le_of_scanArray {text : String} :
    ∀ item ∈ (scanArray text).1, item.depth ≤ maxDepth - 1 := by
  rw [scanArray]
  split
  · next inner _ =>
    have hitems : ∀ item ∈ (inside (value? (maxDepth - 1)) ']' inner).1,
        item.depth ≤ maxDepth - 1 := by
      intro item hitem
      obtain ⟨_, _, hread⟩ := exists_of_mem_inside _ _ _ item hitem
      exact depth_le_of_value? hread
    rcases hinside : inside (value? (maxDepth - 1)) ']' inner with ⟨items, _ | rest⟩
    · rw [hinside] at hitems
      exact hitems
    · rw [hinside] at hitems
      exact hitems
  · simp

end Depth

/-! ## Arrays item by item -/

/-- The items of a text that is an array are scanned without a fault. -/
theorem scanArray_of_parse? {text : String} {items : List Json}
    (h : parse? text = some (.arr items)) : scanArray text = (items, true) := by
  unfold parse? at h
  split at h
  · next hread =>
    split_ifs at h with hrest
    cases h
    rw [show maxDepth = maxDepth - 1 + 1 from rfl, value?] at hread
    rw [scanArray]
    split at hread
    · next inner heq =>
      rw [heq]
      split at hread
      · next hinside =>
        cases hread
        simp [hinside, hrest]
      · cases hread
    · split at hread
      · cases hread
      · cases hread
    · exact absurd (depth_of_scalar? hread) (Nat.succ_ne_zero _)
  · cases h

end Highlight.Json
