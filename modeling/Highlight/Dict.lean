/-!
# Dictionaries that keep the order of their entries

A dictionary holds at most one value under each name.  Writing a new name appends an entry; writing
a name that is already there replaces its value and keeps its place.  The view of a dictionary is
the look-up function `get?`: the lemmas below say what each operation does to it and to the list of
keys.
-/

namespace Highlight

universe u

/-- Finitely many named values, in the order in which the names were first written. -/
structure Dict (α : Type u) where
  entries : List (String × α)
  nodup : (entries.map Prod.fst).Nodup

namespace Dict

variable {α : Type u}

/-- The entries after writing `value` under `key`. -/
def insertEntry (key : String) (value : α) : List (String × α) → List (String × α)
  | [] => [(key, value)]
  | e :: rest => if e.1 = key then (key, value) :: rest else e :: insertEntry key value rest

theorem map_fst_insertEntry (key : String) (value : α) (es : List (String × α)) :
    (insertEntry key value es).map Prod.fst =
      if key ∈ es.map Prod.fst then es.map Prod.fst else es.map Prod.fst ++ [key] := by
  induction es with
  | nil => simp [insertEntry]
  | cons e rest ih =>
    by_cases h : e.1 = key
    · simp [insertEntry, h]
    · have h' : ¬ key = e.1 := fun hk => h hk.symm
      simp only [insertEntry, h, if_false, List.map_cons, ih, List.mem_cons, h', false_or]
      split <;> simp

theorem nodup_insertEntry (key : String) (value : α) {es : List (String × α)}
    (h : (es.map Prod.fst).Nodup) : ((insertEntry key value es).map Prod.fst).Nodup := by
  rw [map_fst_insertEntry]
  split
  · exact h
  · next hk =>
    rw [List.nodup_append]
    exact ⟨h, by simp, fun a ha b hb => by
      rw [List.mem_singleton] at hb
      rintro rfl
      exact hk (hb ▸ ha)⟩

/-- The dictionary without entries. -/
def empty : Dict α := ⟨[], by simp⟩

instance : Inhabited (Dict α) := ⟨empty⟩

/-- The value written under a name. -/
def get? (d : Dict α) (key : String) : Option α := d.entries.lookup key

def contains (d : Dict α) (key : String) : Bool := (d.get? key).isSome

/-- The names, in the order of their first writing. -/
def keys (d : Dict α) : List String := d.entries.map Prod.fst

def size (d : Dict α) : Nat := d.entries.length

def isEmpty (d : Dict α) : Bool := d.entries.isEmpty

/-- Writes `value` under `key`: at the place of the entry that is there, or at the end. -/
def insert (d : Dict α) (key : String) (value : α) : Dict α :=
  ⟨insertEntry key value d.entries, nodup_insertEntry key value d.nodup⟩

/-- Removes the entry under `key`, if there is one. -/
def erase (d : Dict α) (key : String) : Dict α :=
  ⟨d.entries.filter (fun e => e.1 ≠ key),
    d.nodup.sublist ((List.filter_sublist (p := fun e => e.1 ≠ key) (l := d.entries)).map Prod.fst)⟩

/-- Writes the pairs one after the other. -/
def insertAll (d : Dict α) (pairs : List (String × α)) : Dict α :=
  pairs.foldl (fun d e => d.insert e.1 e.2) d

/-- The dictionary of a list of pairs: of two pairs with one name the last gives the value and the
first the place. -/
def ofList (pairs : List (String × α)) : Dict α := empty.insertAll pairs

instance [DecidableEq α] : DecidableEq (Dict α) := fun a b =>
  decidable_of_iff (a.entries = b.entries) (by cases a; cases b; simp)

/-! ## Entries after writing -/

theorem insertEntry_of_not_mem {key : String} {value : α} {es : List (String × α)}
    (h : key ∉ es.map Prod.fst) : insertEntry key value es = es ++ [(key, value)] := by
  induction es with
  | nil => rfl
  | cons e rest ih =>
    rw [List.map_cons, List.mem_cons, not_or] at h
    rw [insertEntry, if_neg (Ne.symm h.1), ih h.2, List.cons_append]

theorem mem_insertEntry {key : String} {value : α} {es : List (String × α)} {e : String × α}
    (h : e ∈ insertEntry key value es) : e = (key, value) ∨ e ∈ es := by
  induction es with
  | nil => exact .inl (List.mem_singleton.mp h)
  | cons first rest ih =>
    rw [insertEntry] at h
    split at h
    · exact (List.mem_cons.mp h).imp_right (List.mem_cons_of_mem first)
    · obtain rfl | h := List.mem_cons.mp h
      · exact .inr List.mem_cons_self
      · exact (ih h).imp_right (List.mem_cons_of_mem first)

theorem entries_insertAll (d : Dict α) (pairs : List (String × α)) :
    (d.insertAll pairs).entries =
      pairs.foldl (fun es e => insertEntry e.1 e.2 es) d.entries := by
  induction pairs generalizing d with
  | nil => rfl
  | cons pair pairs ih => exact ih (d.insert pair.1 pair.2)

theorem insertAll_append (d : Dict α) (first second : List (String × α)) :
    d.insertAll (first ++ second) = (d.insertAll first).insertAll second :=
  List.foldl_append

/-- Writing pairs of new and distinct names appends them. -/
theorem entries_insertAll_of_nodup {d : Dict α} {pairs : List (String × α)}
    (h : ((d.entries ++ pairs).map Prod.fst).Nodup) :
    (d.insertAll pairs).entries = d.entries ++ pairs := by
  induction pairs generalizing d with
  | nil => rw [List.append_nil]; rfl
  | cons pair pairs ih =>
    have hnew : pair.1 ∉ d.entries.map Prod.fst := by
      rw [List.map_append, List.nodup_append] at h
      exact fun hmem => h.2.2 _ hmem _ List.mem_cons_self rfl
    have hinsert : (d.insert pair.1 pair.2).entries = d.entries ++ [pair] :=
      insertEntry_of_not_mem hnew
    rw [List.append_cons, ← hinsert] at h ⊢
    exact ih h

/-- An entry after writing pairs was there before or is one of the pairs. -/
theorem mem_entries_insertAll {d : Dict α} {pairs : List (String × α)} {e : String × α}
    (h : e ∈ (d.insertAll pairs).entries) : e ∈ d.entries ∨ e ∈ pairs := by
  induction pairs generalizing d with
  | nil => exact .inl h
  | cons pair pairs ih =>
    obtain h | h := ih h
    · obtain rfl | h := mem_insertEntry h
      · exact .inr List.mem_cons_self
      · exact .inl h
    · exact .inr (List.mem_cons_of_mem pair h)

/-! ## Look-up after each operation -/

theorem lookup_insertEntry (key : String) (value : α) (es : List (String × α)) (name : String) :
    (insertEntry key value es).lookup name = if name = key then some value else es.lookup name := by
  induction es with
  | nil =>
    by_cases h : name = key
    · simp [insertEntry, h]
    · have : (name == key) = false := by simpa using h
      simp [insertEntry, h, List.lookup_cons, this]
  | cons e rest ih =>
    obtain ⟨k, v⟩ := e
    by_cases hk : k = key
    · subst hk
      by_cases h : name = k
      · simp [insertEntry, h]
      · have : (name == k) = false := by simpa using h
        simp [insertEntry, h, List.lookup_cons, this]
    · by_cases h : name = k
      · subst h
        simp [insertEntry, hk]
      · have : (name == k) = false := by simpa using h
        simp [insertEntry, hk, List.lookup_cons, this, ih]

@[simp] theorem get?_empty (name : String) : (empty : Dict α).get? name = none := rfl

@[simp] theorem get?_insert (d : Dict α) (key : String) (value : α) (name : String) :
    (d.insert key value).get? name = if name = key then some value else d.get? name :=
  lookup_insertEntry key value d.entries name

theorem lookup_filter_ne (key : String) (es : List (String × α)) (name : String) :
    (es.filter (fun e => e.1 ≠ key)).lookup name =
      if name = key then none else es.lookup name := by
  induction es with
  | nil => simp
  | cons e rest ih =>
    obtain ⟨k, v⟩ := e
    by_cases hk : k = key
    · subst hk
      by_cases h : name = k
      · subst h
        simpa using ih
      · have hb : (name == k) = false := by simpa using h
        simp only [h, if_false] at ih
        simp [h, List.lookup_cons, hb, ← ih]
    · by_cases h : name = k
      · subst h
        simp [hk]
      · have hb : (name == k) = false := by simpa using h
        simp only [ne_eq, hk, not_false_eq_true, decide_true, List.filter_cons_of_pos,
          List.lookup_cons, hb]
        exact ih

@[simp] theorem get?_erase (d : Dict α) (key : String) (name : String) :
    (d.erase key).get? name = if name = key then none else d.get? name :=
  lookup_filter_ne key d.entries name

theorem keys_insert (d : Dict α) (key : String) (value : α) :
    (d.insert key value).keys = if key ∈ d.keys then d.keys else d.keys ++ [key] :=
  map_fst_insertEntry key value d.entries

theorem mem_keys_iff (d : Dict α) (name : String) : name ∈ d.keys ↔ d.contains name = true := by
  unfold keys contains get?
  induction d.entries with
  | nil => simp
  | cons e rest ih =>
    obtain ⟨k, v⟩ := e
    by_cases h : name = k
    · simp [h]
    · have hb : (name == k) = false := by simpa using h
      simp [List.lookup_cons, hb, h, ih]

/-- A dictionary without entries holds nothing under any name. -/
theorem isEmpty_iff (d : Dict α) : d.isEmpty = true ↔ ∀ name, d.get? name = none := by
  obtain ⟨entries, nodup⟩ := d
  cases entries with
  | nil => exact ⟨fun _ _ => rfl, fun _ => rfl⟩
  | cons e rest =>
    refine ⟨nofun, fun h => ?_⟩
    have hfirst : ((e :: rest).lookup e.1) = none := h e.1
    rw [List.lookup_cons_self] at hfirst
    cases hfirst

/-- Removing a name that is not there changes nothing. -/
theorem erase_eq_self {d : Dict α} {key : String} (h : d.contains key = false) :
    d.erase key = d := by
  have hkeys : key ∉ d.keys := by
    rw [mem_keys_iff, h]
    exact Bool.false_ne_true
  have hall : ∀ e ∈ d.entries, decide (e.1 ≠ key) = true := by
    intro e he
    rw [decide_eq_true_iff]
    rintro rfl
    exact hkeys (List.mem_map_of_mem he)
  obtain ⟨entries, nodup⟩ := d
  simp only [erase, List.filter_eq_self.mpr hall]

theorem insertEntry_eq_self {key : String} {value : α} {es : List (String × α)}
    (h : es.lookup key = some value) : insertEntry key value es = es := by
  induction es with
  | nil => cases h
  | cons e rest ih =>
    obtain ⟨k, v⟩ := e
    by_cases hk : k = key
    · subst hk
      rw [List.lookup_cons_self, Option.some.injEq] at h
      rw [insertEntry, if_pos rfl, h]
    · have hb : (key == k) = false := by simpa using Ne.symm hk
      rw [List.lookup_cons, hb] at h
      rw [insertEntry, if_neg hk, ih h]

/-- Writing the value that is there already changes nothing. -/
theorem insert_eq_self {d : Dict α} {key : String} {value : α} (h : d.get? key = some value) :
    d.insert key value = d := by
  obtain ⟨entries, nodup⟩ := d
  have hentries : insertEntry key value entries = entries := insertEntry_eq_self h
  simp only [insert, hentries]

/-- After writing pairs, the last pair with a name decides, and a name without a pair is as it was.
-/
theorem get?_insertAll (d : Dict α) (pairs : List (String × α)) (name : String) :
    (d.insertAll pairs).get? name = (pairs.reverse.lookup name).or (d.get? name) := by
  induction pairs generalizing d with
  | nil => rfl
  | cons pair pairs ih =>
    obtain ⟨key, value⟩ := pair
    have hfirst : (d.insert key value).get? name =
        ([(key, value)].lookup name).or (d.get? name) := by
      rw [get?_insert]
      by_cases h : name = key
      · simp [h]
      · have hb : (name == key) = false := by simpa using h
        simp [h, List.lookup_cons, hb]
    calc (d.insertAll ((key, value) :: pairs)).get? name
        = ((d.insert key value).insertAll pairs).get? name := rfl
      _ = (pairs.reverse.lookup name).or (([(key, value)].lookup name).or (d.get? name)) := by
          rw [ih, hfirst]
      _ = (((key, value) :: pairs).reverse.lookup name).or (d.get? name) := by
          rw [List.reverse_cons, List.lookup_append, Option.or_assoc]

/-- Writing the entries of a dictionary lays it over another one. -/
theorem get?_insertAll_entries (d upper : Dict α) (name : String) :
    (d.insertAll upper.entries).get? name = (upper.get? name).or (d.get? name) := by
  have hcopy : (empty.insertAll upper.entries).entries = upper.entries :=
    entries_insertAll_of_nodup upper.nodup
  have hlast : upper.entries.reverse.lookup name = upper.get? name := by
    have h := get?_insertAll empty upper.entries name
    rw [get?, hcopy, get?_empty, Option.or_none] at h
    exact h.symm
  rw [get?_insertAll, hlast]

end Dict

end Highlight
