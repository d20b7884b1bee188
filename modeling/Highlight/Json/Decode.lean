import Highlight.Json.Basic
import Highlight.Shorthand

/-!
# Values out of JSON

Readers for the simple shapes, each of which refuses a value of any other shape, and the one rule
for values that may be written alone or as a list: the value alone is tried first.
-/

namespace Highlight.Json

universe u

variable {α : Type u}

def asString? : Json → Option String
  | str text => some text
  | _ => none

def asBool? : Json → Option Bool
  | bool value => some value
  | _ => none

/-- A signed integer of 64 bits. -/
def asInt? : Json → Option Int
  | int n => if -0x8000000000000000 ≤ n ∧ n < 0x8000000000000000 then some n else none
  | _ => none

def asList? (one : Json → Option α) : Json → Option (List α)
  | arr items => items.mapM one
  | _ => none

def asStrings? : Json → Option (List String) := asList? asString?

/-- A value, or failing that a list of values. -/
def asShorthand? (one : Json → Option α) (value : Json) : Option (Shorthand α) :=
  match one value with
  | some x => some (.single x)
  | none => (value.asList? one).map .list

/-- A label or a list of labels. -/
def asLabels? : Json → Option (Shorthand String) := asShorthand? asString?

/-- What may be absent and may then be written as `null`. -/
def asOption? (one : Json → Option α) : Json → Option (Option α)
  | null => some none
  | value => (one value).map some

/-- What is not absent is read as it would be anywhere else. -/
theorem eq_some_of_asOption? {one : Json → Option α} {value : Json} {x : α}
    (h : value.asOption? one = some (some x)) : one value = some x := by
  unfold asOption? at h
  split at h
  · cases h
  · obtain ⟨y, hy, heq⟩ := Option.map_eq_some_iff.mp h
    cases heq
    exact hy

/-- Fills a field that may be given once. -/
def setOnce (slot : Option α) (value : Option α) : Option (Option α) :=
  match slot, value with
  | none, some x => some (some x)
  | _, _ => none

/-- A field that has been filled holds the value that was given. -/
theorem eq_some_of_setOnce {slot value filled : Option α} (h : setOnce slot value = some filled) :
    ∃ x, value = some x ∧ filled = some x := by
  unfold setOnce at h
  split at h
  · next x =>
    cases h
    exact ⟨x, rfl, rfl⟩
  · cases h

/-! ## Values into JSON -/

def ofStrings (texts : List String) : Json := arr (texts.map str)

/-- One value stands alone, a list is a list. -/
def ofShorthand (one : α → Json) : Shorthand α → Json
  | .single x => one x
  | .list xs => arr (xs.map one)

def ofLabels : Shorthand String → Json := ofShorthand str

/-- A written list is read back if each of its values is. -/
theorem asList?_map {one : Json → Option α} {write : α → Json} {xs : List α}
    (h : ∀ x ∈ xs, one (write x) = some x) : (arr (xs.map write)).asList? one = some xs := by
  rw [asList?]
  induction xs with
  | nil => rfl
  | cons x xs ih =>
    rw [List.map_cons, List.mapM_cons, h x List.mem_cons_self,
      ih fun y hy => h y (List.mem_cons_of_mem x hy)]
    rfl

/-- A written list of strings is read back. -/
theorem asStrings?_ofStrings (texts : List String) : (ofStrings texts).asStrings? = some texts :=
  asList?_map fun _ _ => rfl

/-- Written labels are read back, and one label stays apart from a list of one. -/
theorem asLabels?_ofLabels (labels : Shorthand String) :
    (ofLabels labels).asLabels? = some labels := by
  cases labels with
  | single label => rfl
  | list labels => exact congrArg (Option.map Shorthand.list) (asStrings?_ofStrings labels)

/-- Written labels are read back where they may be absent. -/
theorem asOption?_ofLabels (labels : Shorthand String) :
    (ofLabels labels).asOption? asLabels? = some (some labels) := by
  have h := asLabels?_ofLabels labels
  cases labels with
  | single label => rfl
  | list labels => exact congrArg (Option.map some) h

end Highlight.Json
