import Highlight.Pattern.Decl
import Highlight.Proofs.JsonText

/-!
# Reading written grammars

A declared grammar is written without loss except in one place: a list of one text is written as an
array of a text, and such an array is read as a pattern with options, of which all but the text are
missing.  This changes the declaration and not its meaning, on any level, so that what is read back
compiles to the same (`PatternDecl.Distinct.keepsMeaning`).

What has been read from a text is never such a list, has distinct names on every level, and nests no
deeper when it is written than where it was read.  It is *settled*: written, it is read back as it is
(`GrammarDecl.settled_of_ofJson?`).
-/

namespace Highlight

open Json (depthOfItems depthOfFields)

/-! ## Distinct names -/

/-- The names of rules are keys: inside a declared pattern they are distinct, on every level. -/
inductive PatternDecl.Distinct : PatternDecl → Prop
  | plain (source : String) : Distinct (.plain source)
  | bare (source : String) (lookbehind : Bool) (labels : Option (Shorthand String)) :
    Distinct (.detailed source lookbehind labels none)
  | inside (source : String) (lookbehind : Bool) (labels : Option (Shorthand String))
    {rules : List (String × Shorthand PatternDecl)} (nodup : (rules.map Prod.fst).Nodup)
    (patterns : ∀ rule ∈ rules, ∀ pattern ∈ rule.2.toList, Distinct pattern) :
    Distinct (.detailed source lookbehind labels (some rules))

/-- The names of the rules of a declared grammar are distinct, on every level. -/
structure GrammarDecl.Distinct (decl : GrammarDecl) : Prop where
  nodup : (decl.map Prod.fst).Nodup
  patterns : ∀ rule ∈ decl, ∀ pattern ∈ rule.2.toList, pattern.Distinct

/-! ## Rules one by one -/

namespace PatternDecl

/-- Patterns are written one after the other. -/
lemma listToJson_eq_map (decls : List PatternDecl) : listToJson decls = decls.map toJson := by
  induction decls with
  | nil => rfl
  | cons decl decls ih => rw [listToJson, ih, List.map_cons]

/-- Patterns are read one after the other. -/
lemma listOfJson?_eq_mapM (items : List Json) : listOfJson? items = items.mapM ofJson? := by
  induction items with
  | nil => rfl
  | cons item items ih => rw [listOfJson?, ih, List.mapM_cons]

end PatternDecl

namespace GrammarDecl

/-- The patterns of a rule are written by themselves. -/
lemma toFields_cons (kind : String) (patterns : Shorthand PatternDecl) (decls : GrammarDecl) :
    toFields ((kind, patterns) :: decls) =
      (kind, Json.ofShorthand PatternDecl.toJson patterns) :: toFields decls := by
  cases patterns with
  | single decl => rw [toFields, Json.ofShorthand]
  | list decls => rw [toFields, Json.ofShorthand, PatternDecl.listToJson_eq_map]

/-- The patterns of a rule are read by themselves. -/
lemma rulesOfFields?_cons (kind : String) (value : Json) (fields : List (String × Json)) :
    rulesOfFields? ((kind, value) :: fields) = do
      let patterns ← value.asShorthand? PatternDecl.ofJson?
      let decls ← rulesOfFields? fields
      return (kind, patterns) :: decls := by
  have hitems : PatternDecl.itemsOfJson? value = value.asList? PatternDecl.ofJson? := by
    cases value with
    | arr items => exact PatternDecl.listOfJson?_eq_mapM items
    | _ => rfl
  rw [rulesOfFields?, hitems, Json.asShorthand?]
  cases PatternDecl.ofJson? value <;> rfl

/-- For the meaning of a rule it is the same whether its pattern stands alone or in a list. -/
lemma compile_cons (kind : String) (patterns : Shorthand PatternDecl) (decls : GrammarDecl) :
    compile ((kind, patterns) :: decls) = do
      let patterns ← PatternDecl.compileAll kind patterns.toList
      let rules ← compile decls
      return ⟨kind, patterns⟩ :: rules := by
  cases patterns with
  | single decl =>
    rw [compile, Shorthand.toList_single, PatternDecl.compileAll, PatternDecl.compileAll]
    cases decl.compile kind <;> rfl
  | list decls => rw [compile, Shorthand.toList_list]

/-! ## Collected rules -/

/-- Collected rules are the entries of a dictionary. -/
lemma collect_eq_entries (decl : GrammarDecl) : decl.collect = (Dict.ofList decl).entries :=
  (Dict.entries_insertAll .empty decl).symm

/-- Collected rules have distinct names. -/
lemma nodup_collect (decl : GrammarDecl) : (decl.collect.map Prod.fst).Nodup := by
  rw [collect_eq_entries]
  exact (Dict.ofList decl).nodup

/-- Rules of distinct names are collected as they are. -/
lemma collect_eq_self {decl : GrammarDecl} (h : (decl.map Prod.fst).Nodup) :
    decl.collect = decl := by
  rw [collect_eq_entries]
  exact Dict.entries_insertAll_of_nodup h

/-- Every collected rule is one of the rules. -/
lemma mem_of_mem_collect {decl : GrammarDecl} {rule : String × Shorthand PatternDecl}
    (h : rule ∈ decl.collect) : rule ∈ decl := by
  rw [collect_eq_entries] at h
  exact (Dict.mem_entries_insertAll h).resolve_left List.not_mem_nil

end GrammarDecl

/-! ## Written patterns -/

namespace PatternDecl

/-- A written pattern without rules inside is read back. -/
lemma ofJson?_toJson_bare (source : String) (lookbehind : Bool)
    (labels : Option (Shorthand String)) :
    ofJson? (toJson (.detailed source lookbehind labels none)) =
      some (.detailed source lookbehind labels none) := by
  cases labels <;>
    simp [toJson, GrammarDecl.insideToJson, ofJson?, draftOfFields?, Json.setOnce, Json.asString?,
      Json.asBool?, Json.asOption?_ofLabels, Draft.empty, Draft.finish?]

/-- A written pattern with rules inside is read back with what is read for these. -/
lemma ofJson?_toJson_inside (source : String) (lookbehind : Bool)
    (labels : Option (Shorthand String)) {decl decl' : GrammarDecl}
    (h : GrammarDecl.ofJson? decl.toJson = some decl') :
    ofJson? (toJson (.detailed source lookbehind labels (some decl))) =
      some (.detailed source lookbehind labels (some decl')) := by
  have hinside : GrammarDecl.insideOfJson? (.obj decl.toFields) = some (some decl') := by
    obtain ⟨rules, hrules, rfl⟩ := Option.map_eq_some_iff.mp h
    rw [GrammarDecl.insideOfJson?, hrules, Option.map_some]
  cases labels <;>
    simp [toJson, GrammarDecl.insideToJson, ofJson?, draftOfFields?, Json.setOnce, Json.asString?,
      Json.asBool?, Json.asOption?_ofLabels, hinside, Draft.empty, Draft.finish?]

/-- No pattern is written as a truth value. -/
lemma asBool?_toJson (decl : PatternDecl) : decl.toJson.asBool? = none := by
  cases decl with
  | plain source => rfl
  | detailed source lookbehind labels inside => rfl

/-- A written list of patterns is taken for one pattern exactly if it is a list of one text. -/
lemma ofJson?_arr_map_toJson (decls : List PatternDecl) :
    ofJson? (.arr (decls.map toJson)) =
      match decls with
      | [.plain source] => some (.detailed source false none none)
      | _ => none := by
  match decls with
  | [] => rfl
  | [.plain source] => rfl
  | [.detailed source lookbehind labels inside] => rfl
  | first :: second :: decls =>
    -- Of more than one part the second would have to be a flag.
    have h := asBool?_toJson second
    rw [List.map_cons, List.map_cons]
    generalize decls.map toJson = items
    match items with
    | [] => simp [ofJson?, h]
    | [third] => simp [ofJson?, h]
    | [third, fourth] => simp [ofJson?, h]
    | third :: fourth :: fifth :: items => simp [ofJson?]

/-! ## The meaning of written grammars -/

/-- A declared pattern is read back as one that compiles to the same. -/
def KeepsMeaning (decl : PatternDecl) : Prop :=
  ∃ decl', ofJson? decl.toJson = some decl' ∧ ∀ kind, decl'.compile kind = decl.compile kind

/-- A text means the same with all options missing. -/
lemma compile_detailed_plain (kind source : String) :
    (detailed source false none none).compile kind = (plain source).compile kind := by
  rw [compile, compile, Pattern.compile]
  cases Regex.compile? source <;> rfl

/-- Patterns keep their meaning together if each does. -/
lemma exists_mapM_ofJson? {decls : List PatternDecl} (h : ∀ decl ∈ decls, decl.KeepsMeaning) :
    ∃ decls', (decls.map toJson).mapM ofJson? = some decls' ∧
      ∀ kind, compileAll kind decls' = compileAll kind decls := by
  induction decls with
  | nil => exact ⟨[], rfl, fun _ => rfl⟩
  | cons decl decls ih =>
    rw [List.forall_mem_cons] at h
    obtain ⟨decl', hdecl, hcompile⟩ := h.1
    obtain ⟨decls', hdecls, hcompiles⟩ := ih h.2
    refine ⟨decl' :: decls', ?_, fun kind => ?_⟩
    · rw [List.map_cons, List.mapM_cons, hdecl, hdecls]
      rfl
    · rw [compileAll, compileAll, hcompile, hcompiles]

/-- The patterns of a rule keep their meaning if each does, also where a list of them is read as one
pattern. -/
lemma exists_asShorthand? {patterns : Shorthand PatternDecl}
    (h : ∀ pattern ∈ patterns.toList, pattern.KeepsMeaning) :
    ∃ patterns', (Json.ofShorthand toJson patterns).asShorthand? ofJson? = some patterns' ∧
      ∀ kind, compileAll kind patterns'.toList = compileAll kind patterns.toList := by
  cases patterns with
  | single decl =>
    obtain ⟨decl', hdecl, hcompile⟩ := h decl (List.mem_singleton_self decl)
    refine ⟨.single decl', ?_, fun kind => ?_⟩
    · rw [Json.ofShorthand, Json.asShorthand?, hdecl]
    · simp only [Shorthand.toList_single, compileAll, hcompile]
  | list decls =>
    obtain ⟨decls', hdecls, hcompile⟩ := exists_mapM_ofJson? h
    rw [Json.ofShorthand, Json.asShorthand?, ofJson?_arr_map_toJson]
    split
    · next heq =>
      split at heq
      · cases heq
        refine ⟨_, rfl, fun kind => ?_⟩
        simp only [Shorthand.toList_single, Shorthand.toList_list, compileAll,
          compile_detailed_plain]
      · cases heq
    · exact ⟨.list decls', congrArg (Option.map Shorthand.list) hdecls, hcompile⟩

end PatternDecl

/-- Rules keep their names and their meaning if their patterns keep theirs. -/
lemma GrammarDecl.exists_rulesOfFields? {decl : GrammarDecl}
    (h : ∀ rule ∈ decl, ∀ pattern ∈ rule.2.toList, pattern.KeepsMeaning) :
    ∃ decl', rulesOfFields? decl.toFields = some decl' ∧
      decl'.map Prod.fst = decl.map Prod.fst ∧ decl'.compile = decl.compile := by
  induction decl with
  | nil => exact ⟨[], rfl, rfl, rfl⟩
  | cons rule decl ih =>
    obtain ⟨kind, patterns⟩ := rule
    rw [List.forall_mem_cons] at h
    obtain ⟨patterns', hpatterns, hcompile⟩ := PatternDecl.exists_asShorthand? h.1
    obtain ⟨decl', hdecl, hnames, hrules⟩ := ih h.2
    refine ⟨(kind, patterns') :: decl', ?_, ?_, ?_⟩
    · rw [toFields_cons, rulesOfFields?_cons, hpatterns, hdecl]
      rfl
    · rw [List.map_cons, List.map_cons, hnames]
    · rw [compile_cons, compile_cons, hcompile, hrules]

/-- A grammar of distinct names keeps its meaning if its patterns keep theirs. -/
lemma GrammarDecl.exists_ofJson? {decl : GrammarDecl} (hnodup : (decl.map Prod.fst).Nodup)
    (h : ∀ rule ∈ decl, ∀ pattern ∈ rule.2.toList, pattern.KeepsMeaning) :
    ∃ decl', ofJson? decl.toJson = some decl' ∧ decl'.compile = decl.compile := by
  obtain ⟨decl', hread, hnames, hcompile⟩ := exists_rulesOfFields? h
  refine ⟨decl', ?_, hcompile⟩
  rw [toJson, ofJson?, hread, Option.map_some, collect_eq_self (hnames ▸ hnodup)]

/-- Patterns keep their meaning, whatever is inside them. -/
theorem PatternDecl.Distinct.keepsMeaning {decl : PatternDecl} (h : decl.Distinct) :
    decl.KeepsMeaning := by
  induction h with
  | plain source => exact ⟨.plain source, rfl, fun _ => rfl⟩
  | bare source lookbehind labels =>
    exact ⟨_, ofJson?_toJson_bare source lookbehind labels, fun _ => rfl⟩
  | inside source lookbehind labels hnodup _ ih =>
    obtain ⟨decl', hread, hcompile⟩ := GrammarDecl.exists_ofJson? hnodup ih
    refine ⟨_, ofJson?_toJson_inside source lookbehind labels hread, fun kind => ?_⟩
    simp only [compile, GrammarDecl.compileInside, hcompile]

/-! ## What patterns are read from -/

namespace PatternDecl

/-- The labels and the rules inside of a draft are read from some of the fields. -/
structure Draft.From (draft : Draft) (fields : List (String × Json)) : Prop where
  labels : ∀ labels, draft.labels.getD none = some labels →
    ∃ field ∈ fields, field.2.asLabels? = some labels
  inside : ∀ decl, draft.inside.getD none = some decl →
    ∃ field ∈ fields, GrammarDecl.insideOfJson? field.2 = some (some decl)

/-- Reading some of the fields keeps a draft read from the fields. -/
lemma Draft.From.draftOfFields? {fields all : List (String × Json)} {draft draft' : Draft}
    (h : PatternDecl.draftOfFields? draft fields = some draft') (hdraft : draft.From all)
    (hall : ∀ field ∈ fields, field ∈ all) : draft'.From all := by
  induction fields generalizing draft with
  | nil =>
    cases h
    exact hdraft
  | cons field fields ih =>
    obtain ⟨name, value⟩ := field
    rw [List.forall_mem_cons] at hall
    rw [PatternDecl.draftOfFields?] at h
    split_ifs at h
    · obtain ⟨source, -, h⟩ := Option.bind_eq_some_iff.mp h
      exact ih h ⟨hdraft.labels, hdraft.inside⟩ hall.2
    · obtain ⟨lookbehind, -, h⟩ := Option.bind_eq_some_iff.mp h
      exact ih h ⟨hdraft.labels, hdraft.inside⟩ hall.2
    · obtain ⟨slot, hslot, h⟩ := Option.bind_eq_some_iff.mp h
      obtain ⟨labels, hlabels, rfl⟩ := Json.eq_some_of_setOnce hslot
      refine ih h ⟨fun texts heq => ?_, hdraft.inside⟩ hall.2
      cases heq
      exact ⟨_, hall.1, Json.eq_some_of_asOption? hlabels⟩
    · obtain ⟨slot, hslot, h⟩ := Option.bind_eq_some_iff.mp h
      obtain ⟨inside, hinside, rfl⟩ := Json.eq_some_of_setOnce hslot
      refine ih h ⟨hdraft.labels, fun decl heq => ?_⟩ hall.2
      cases heq
      exact ⟨_, hall.1, hinside⟩

/-- What is read is a text, or a pattern with options, whose labels and rules inside are read from
parts. -/
lemma cases_of_ofJson? {value : Json} {decl : PatternDecl} (h : ofJson? value = some decl) :
    (∃ source, value = .str source ∧ decl = .plain source) ∨
    (∃ source lookbehind labels inside, decl = .detailed source lookbehind labels inside ∧
      0 < value.depth ∧
      (∀ texts, labels = some texts →
        ∃ part : Json, part.depth < value.depth ∧ part.asLabels? = some texts) ∧
      (∀ rules, inside = some rules →
        ∃ part : Json, part.depth < value.depth ∧
          GrammarDecl.insideOfJson? part = some (some rules))) := by
  rw [ofJson?.eq_def] at h
  split at h
  · cases h
    exact .inl ⟨_, rfl, rfl⟩
  · next fields =>
    obtain ⟨draft, hdraft, hfinish⟩ := Option.bind_eq_some_iff.mp h
    obtain ⟨source, -, rfl⟩ := Option.map_eq_some_iff.mp hfinish
    have hempty : Draft.empty.From fields := ⟨nofun, nofun⟩
    have hfrom := hempty.draftOfFields? hdraft fun _ => id
    refine .inr ⟨source, _, _, _, rfl, Nat.succ_pos _, fun texts htexts => ?_,
      fun rules hrules => ?_⟩
    · obtain ⟨field, hfield, hread⟩ := hfrom.labels texts htexts
      exact ⟨field.2, Json.depth_lt_obj hfield, hread⟩
    · obtain ⟨field, hfield, hread⟩ := hfrom.inside rules hrules
      exact ⟨field.2, Json.depth_lt_obj hfield, hread⟩
  · obtain ⟨source, -, rfl⟩ := Option.map_eq_some_iff.mp h
    exact .inr ⟨source, false, none, none, rfl, Nat.succ_pos _, nofun, nofun⟩
  · obtain ⟨source, -, h⟩ := Option.bind_eq_some_iff.mp h
    obtain ⟨lookbehind, -, h⟩ := Option.bind_eq_some_iff.mp h
    cases h
    exact .inr ⟨source, lookbehind, none, none, rfl, Nat.succ_pos _, nofun, nofun⟩
  · obtain ⟨source, -, h⟩ := Option.bind_eq_some_iff.mp h
    obtain ⟨lookbehind, -, h⟩ := Option.bind_eq_some_iff.mp h
    obtain ⟨labels, hlabels, h⟩ := Option.bind_eq_some_iff.mp h
    cases h
    refine .inr ⟨source, lookbehind, labels, none, rfl, Nat.succ_pos _, fun texts htexts => ?_,
      nofun⟩
    subst htexts
    exact ⟨_, Json.depth_lt_arr (by simp), Json.eq_some_of_asOption? hlabels⟩
  · obtain ⟨source, -, h⟩ := Option.bind_eq_some_iff.mp h
    obtain ⟨lookbehind, -, h⟩ := Option.bind_eq_some_iff.mp h
    obtain ⟨labels, hlabels, h⟩ := Option.bind_eq_some_iff.mp h
    obtain ⟨inside, hinside, h⟩ := Option.bind_eq_some_iff.mp h
    cases h
    refine .inr ⟨source, lookbehind, labels, inside, rfl, Nat.succ_pos _, fun texts htexts => ?_,
      fun rules hrules => ?_⟩
    · subst htexts
      exact ⟨_, Json.depth_lt_arr (by simp), Json.eq_some_of_asOption? hlabels⟩
    · subst hrules
      exact ⟨_, Json.depth_lt_arr (by simp), hinside⟩
  · cases h

/-- An array of nothing but a text is a pattern. -/
lemma ofJson?_arr_ne_none_of_plain {items : List Json} {source : String}
    (h : items.mapM ofJson? = some [.plain source]) : ofJson? (.arr items) ≠ none := by
  cases items with
  | nil => cases h
  | cons item items =>
    rw [List.mapM_cons] at h
    obtain ⟨decl, hdecl, h⟩ := Option.bind_eq_some_iff.mp h
    obtain ⟨others, hothers, heq⟩ := Option.bind_eq_some_iff.mp h
    cases heq
    obtain ⟨text, rfl, -⟩ | ⟨_, _, _, _, heq, -⟩ := cases_of_ofJson? hdecl
    · cases items with
      | nil => exact Option.some_ne_none _
      | cons item items =>
        rw [List.mapM_cons] at hothers
        obtain ⟨_, -, hothers⟩ := Option.bind_eq_some_iff.mp hothers
        obtain ⟨_, -, heq⟩ := Option.bind_eq_some_iff.mp hothers
        cases heq
    · cases heq

end PatternDecl

/-! ## Settled declarations -/

/-- A value is read back as it is, has distinct names, and nests no deeper than `d`. -/
structure Json.Settled {α : Type} (read : Json → Option α) (write : α → Json)
    (Distinct : α → Prop) (x : α) (d : ℕ) : Prop where
  reread : read (write x) = some x
  distinct : Distinct x
  depth_le : (write x).depth ≤ d

/-- What is settled within a limit is settled within any larger limit. -/
lemma Json.Settled.mono {α : Type} {read : Json → Option α} {write : α → Json}
    {Distinct : α → Prop} {x : α} {d e : ℕ} (h : Settled read write Distinct x d) (hle : d ≤ e) :
    Settled read write Distinct x e :=
  ⟨h.reread, h.distinct, h.depth_le.trans hle⟩

/-- A settled pattern. -/
abbrev PatternDecl.Settled (decl : PatternDecl) (d : ℕ) : Prop :=
  Json.Settled ofJson? toJson Distinct decl d

/-- The settled patterns of a rule. -/
abbrev PatternDecl.AllSettled (patterns : Shorthand PatternDecl) (d : ℕ) : Prop :=
  Json.Settled (Json.asShorthand? ofJson?) (Json.ofShorthand toJson)
    (fun patterns => ∀ pattern ∈ patterns.toList, pattern.Distinct) patterns d

/-- A settled grammar. -/
abbrev GrammarDecl.Settled (decl : GrammarDecl) (d : ℕ) : Prop :=
  Json.Settled ofJson? toJson Distinct decl d

/-- A pattern with options is settled if the rules inside it are. -/
lemma PatternDecl.settled_detailed {source : String} {lookbehind : Bool}
    {labels : Option (Shorthand String)} {inside : Option GrammarDecl} {d : ℕ}
    (hlabels : ∀ texts, labels = some texts → (Json.ofLabels texts).depth ≤ d)
    (hinside : ∀ decl, inside = some decl → decl.Settled d) :
    (detailed source lookbehind labels inside).Settled (d + 1) := by
  have hrules : depthOfFields (GrammarDecl.insideToJson inside) ≤ d := by
    cases inside with
    | none => exact Nat.zero_le d
    | some decl => exact max_le (hinside decl rfl).depth_le (Nat.zero_le d)
  have hdepth : (detailed source lookbehind labels inside).toJson.depth ≤ d + 1 := by
    cases labels with
    | none => simpa [toJson, Json.depth, depthOfFields] using hrules
    | some texts => simpa [toJson, Json.depth, depthOfFields, hrules] using hlabels texts rfl
  cases inside with
  | none =>
    exact ⟨ofJson?_toJson_bare source lookbehind labels, .bare source lookbehind labels, hdepth⟩
  | some decl =>
    obtain ⟨hread, ⟨hnodup, hpatterns⟩, -⟩ := hinside decl rfl
    exact ⟨ofJson?_toJson_inside source lookbehind labels hread,
      .inside source lookbehind labels hnodup hpatterns, hdepth⟩

namespace GrammarDecl

/-- Fields of settled patterns are read back as they are. -/
lemma rulesOfFields?_of_allSettled {decl : GrammarDecl} {d : ℕ}
    (h : ∀ rule ∈ decl, PatternDecl.AllSettled rule.2 d) :
    rulesOfFields? decl.toFields = some decl ∧ depthOfFields decl.toFields ≤ d := by
  induction decl with
  | nil => exact ⟨rfl, Nat.zero_le d⟩
  | cons rule decl ih =>
    obtain ⟨kind, patterns⟩ := rule
    rw [List.forall_mem_cons] at h
    obtain ⟨hread, hdepth⟩ := ih h.2
    constructor
    · rw [toFields_cons, rulesOfFields?_cons, h.1.reread, hread]
      rfl
    · rw [toFields_cons, depthOfFields]
      exact max_le h.1.depth_le hdepth

/-- Rules of settled patterns are settled once they are collected. -/
lemma settled_collect {decl : GrammarDecl} {d : ℕ}
    (h : ∀ rule ∈ decl, PatternDecl.AllSettled rule.2 d) : decl.collect.Settled (d + 1) := by
  have hsettled := fun rule hrule => h rule (mem_of_mem_collect hrule)
  obtain ⟨hread, hdepth⟩ := rulesOfFields?_of_allSettled hsettled
  refine ⟨?_, ⟨nodup_collect decl, fun rule hrule => (hsettled rule hrule).distinct⟩,
    Nat.succ_le_succ hdepth⟩
  rw [toJson, ofJson?, hread, Option.map_some, collect_eq_self (nodup_collect decl)]

end GrammarDecl

/-! ## What is read is settled -/

section Below

-- Patterns are settled by induction on the depth of what they are read from, and so are the lists,
-- rules and grammars inside of them.
variable {n : ℕ} (hbelow : ∀ {value : Json} {decl : PatternDecl}, value.depth < n →
  PatternDecl.ofJson? value = some decl → decl.Settled value.depth)
include hbelow

/-- Patterns that are read one after the other are settled. -/
lemma PatternDecl.settled_of_mapM_ofJson? {items : List Json} {decls : List PatternDecl}
    (h : items.mapM ofJson? = some decls) (hn : depthOfItems items < n) :
    (decls.map toJson).mapM ofJson? = some decls ∧ (∀ decl ∈ decls, decl.Distinct) ∧
      depthOfItems (decls.map toJson) ≤ depthOfItems items := by
  induction items generalizing decls with
  | nil =>
    cases h
    exact ⟨rfl, List.forall_mem_nil _, Nat.le_refl _⟩
  | cons item items ih =>
    rw [List.mapM_cons] at h
    obtain ⟨decl, hdecl, h⟩ := Option.bind_eq_some_iff.mp h
    obtain ⟨others, hothers, heq⟩ := Option.bind_eq_some_iff.mp h
    cases heq
    rw [depthOfItems, max_lt_iff] at hn
    have hfirst := hbelow hn.1 hdecl
    obtain ⟨hread, hdistinct, hdepth⟩ := ih hothers hn.2
    refine ⟨?_, List.forall_mem_cons.mpr ⟨hfirst.distinct, hdistinct⟩,
      max_le_max hfirst.depth_le hdepth⟩
    rw [List.map_cons, List.mapM_cons, hfirst.reread, hread]
    rfl

/-- The patterns that are read for a rule are settled.  They are no list of one text, since the array
of that text would have been read as one pattern. -/
lemma PatternDecl.allSettled_of_asShorthand? {value : Json} {patterns : Shorthand PatternDecl}
    (h : value.asShorthand? ofJson? = some patterns) (hn : value.depth < n) :
    AllSettled patterns value.depth := by
  rw [Json.asShorthand?] at h
  split at h
  · next decl hdecl =>
    cases h
    have hsettled := hbelow hn hdecl
    refine ⟨?_, List.forall_mem_singleton.mpr hsettled.distinct, hsettled.depth_le⟩
    rw [Json.ofShorthand, Json.asShorthand?, hsettled.reread]
  · next hnone =>
    obtain ⟨decls, hdecls, rfl⟩ := Option.map_eq_some_iff.mp h
    cases value with
    | arr items =>
      obtain ⟨hread, hdistinct, hdepth⟩ :=
        settled_of_mapM_ofJson? hbelow hdecls (Nat.lt_of_succ_lt hn)
      have hlist : ofJson? (.arr (decls.map toJson)) = none := by
        rw [ofJson?_arr_map_toJson]
        split
        · exact absurd hnone (ofJson?_arr_ne_none_of_plain hdecls)
        · rfl
      refine ⟨?_, hdistinct, Nat.succ_le_succ hdepth⟩
      rw [Json.ofShorthand, Json.asShorthand?, hlist]
      exact congrArg (Option.map Shorthand.list) hread
    | _ => cases hdecls

/-- The patterns of all rules that are read from fields are settled. -/
lemma GrammarDecl.allSettled_of_rulesOfFields? {fields : List (String × Json)} {decl : GrammarDecl}
    (h : rulesOfFields? fields = some decl) {d : ℕ} (hd : depthOfFields fields ≤ d) (hn : d < n) :
    ∀ rule ∈ decl, PatternDecl.AllSettled rule.2 d := by
  induction fields generalizing decl with
  | nil =>
    cases h
    exact List.forall_mem_nil _
  | cons field fields ih =>
    obtain ⟨kind, value⟩ := field
    rw [rulesOfFields?_cons] at h
    obtain ⟨patterns, hpatterns, h⟩ := Option.bind_eq_some_iff.mp h
    obtain ⟨others, hothers, heq⟩ := Option.bind_eq_some_iff.mp h
    cases heq
    rw [depthOfFields, max_le_iff] at hd
    have hfirst := PatternDecl.allSettled_of_asShorthand? hbelow hpatterns (hd.1.trans_lt hn)
    exact List.forall_mem_cons.mpr ⟨hfirst.mono hd.1, ih hothers hd.2⟩

/-- The grammar that is read for the inside of a pattern is settled. -/
lemma GrammarDecl.settled_of_insideOfJson? {value : Json} {decl : GrammarDecl}
    (h : insideOfJson? value = some (some decl)) (hn : value.depth ≤ n) :
    decl.Settled value.depth := by
  unfold insideOfJson? at h
  split at h
  · cases h
  · obtain ⟨rules, hrules, heq⟩ := Option.map_eq_some_iff.mp h
    cases heq
    exact settled_collect (allSettled_of_rulesOfFields? hbelow hrules (Nat.le_refl _) hn)
  · cases h

end Below

/-- Every pattern that is read is settled. -/
theorem PatternDecl.settled_of_ofJson? {value : Json} {decl : PatternDecl}
    (h : ofJson? value = some decl) : decl.Settled value.depth := by
  induction hn : value.depth using Nat.strong_induction_on generalizing value decl with
  | h n ih =>
    subst hn
    have hbelow : ∀ {part : Json} {decl : PatternDecl}, part.depth < value.depth →
        ofJson? part = some decl → decl.Settled part.depth := fun hlt h => ih _ hlt h rfl
    obtain ⟨source, rfl, rfl⟩ | ⟨source, lookbehind, labels, inside, rfl, hpos, hlabels, hinside⟩ :=
      cases_of_ofJson? h
    · exact ⟨rfl, .plain source, Nat.le_refl _⟩
    · obtain ⟨d, hd⟩ := Nat.exists_eq_succ_of_ne_zero hpos.ne'
      rw [hd] at hlabels hinside hbelow ⊢
      refine settled_detailed (fun texts htexts => ?_) fun rules hrules => ?_
      · obtain ⟨part, hpart, hread⟩ := hlabels texts htexts
        exact (Json.depth_ofLabels_le hread).trans (Nat.le_of_lt_succ hpart)
      · obtain ⟨part, hpart, hread⟩ := hinside rules hrules
        have hsettled := GrammarDecl.settled_of_insideOfJson? hbelow hread hpart.le
        exact hsettled.mono (Nat.le_of_lt_succ hpart)

/-- Every grammar that is read is settled. -/
theorem GrammarDecl.settled_of_ofJson? {value : Json} {decl : GrammarDecl}
    (h : ofJson? value = some decl) : decl.Settled value.depth := by
  cases value with
  | obj fields =>
    obtain ⟨rules, hrules, rfl⟩ := Option.map_eq_some_iff.mp h
    exact settled_collect (allSettled_of_rulesOfFields? (fun _ => PatternDecl.settled_of_ofJson?)
      hrules (Nat.le_refl _) (Nat.lt_succ_self _))
  | _ => cases h

/-! ## Texts -/

-- A pattern, a grammar inside it, a list of patterns and rules are written by one recursion.
mutual

/-- Patterns are written without numbers. -/
theorem PatternDecl.numberless_toJson : ∀ decl : PatternDecl, decl.toJson.Numberless
  | .plain _ => trivial
  | .detailed _ _ labels inside => by
    have hinside := GrammarDecl.numberless_insideToJson inside
    refine ⟨trivial, trivial, Json.numberlessFields_append ?_ hinside⟩
    cases labels with
    | none => trivial
    | some labels => exact ⟨Json.numberless_ofLabels labels, trivial⟩

/-- Grammars inside patterns are written without numbers. -/
theorem GrammarDecl.numberless_insideToJson :
    ∀ inside : Option GrammarDecl, Json.NumberlessFields (GrammarDecl.insideToJson inside)
  | none => trivial
  | some decl => ⟨GrammarDecl.numberless_toFields decl, trivial⟩

/-- Lists of patterns are written without numbers. -/
theorem PatternDecl.numberless_listToJson :
    ∀ decls : List PatternDecl, Json.NumberlessItems (PatternDecl.listToJson decls)
  | [] => trivial
  | decl :: decls => ⟨decl.numberless_toJson, PatternDecl.numberless_listToJson decls⟩

/-- Rules are written without numbers. -/
theorem GrammarDecl.numberless_toFields :
    ∀ decl : GrammarDecl, Json.NumberlessFields decl.toFields
  | [] => trivial
  | (_, .single decl) :: decls => ⟨decl.numberless_toJson, GrammarDecl.numberless_toFields decls⟩
  | (_, .list patterns) :: decls =>
    ⟨PatternDecl.numberless_listToJson patterns, GrammarDecl.numberless_toFields decls⟩

end

namespace GrammarDecl

/-- The text of a grammar is read as what the grammar is written as. -/
lemma parse?_render {decl : GrammarDecl} (h : decl.toJson.depth ≤ Json.maxDepth) :
    parse? decl.render = ofJson? decl.toJson := by
  have hnumberless : decl.toJson.Numberless := numberless_toFields decl
  rw [parse?, render, Json.parse?_render hnumberless, if_pos h, Option.bind_some]

/-- Every grammar that is read from a text is settled within the limit. -/
lemma settled_of_parse? {text : String} {decl : GrammarDecl} (h : parse? text = some decl) :
    decl.Settled Json.maxDepth := by
  obtain ⟨value, hvalue, hdecl⟩ := Option.bind_eq_some_iff.mp h
  exact (settled_of_ofJson? hdecl).mono (Json.depth_le_of_parse? hvalue)

/-- A grammar of distinct names whose text does not nest too deeply is read back from it as one that
compiles to the same, be it to a grammar or to an error.  A grammar that has been read from any text
has distinct names, its own text does not nest too deeply, and it is read back from that as it is. -/
theorem render_keeps_meaning :
    (∀ decl : GrammarDecl, decl.Distinct → decl.toJson.depth ≤ Json.maxDepth →
      ∃ decl', parse? decl.render = some decl' ∧ decl'.compile = decl.compile) ∧
    (∀ (text : String) (decl : GrammarDecl), parse? text = some decl →
      decl.Distinct ∧ decl.toJson.depth ≤ Json.maxDepth ∧ parse? decl.render = some decl) := by
  constructor
  · intro decl hdistinct hdepth
    rw [parse?_render hdepth]
    exact exists_ofJson? hdistinct.nodup fun rule hrule pattern hpattern =>
      (hdistinct.patterns rule hrule pattern hpattern).keepsMeaning
  · intro text decl h
    obtain ⟨hread, hdistinct, hdepth⟩ := settled_of_parse? h
    refine ⟨hdistinct, hdepth, ?_⟩
    rw [parse?_render hdepth, hread]

/-- A list of one text inside a pattern is read back as a pattern with options.  The grammar compiles
to the same, and the one that has been read stays as it is. -/
theorem render_keeps_meaning_of_listed_text :
    let decl : GrammarDecl := [("tag", .list [.detailed "<[^>]*>" true (some (.list ["markup"]))
      (some [("name", .list [.plain "[a-z]"])]), .plain "&"]), ("broken", .single (.plain "("))]
    let settled : GrammarDecl := [("tag", .list [.detailed "<[^>]*>" true (some (.list ["markup"]))
      (some [("name", .single (.detailed "[a-z]" false none none))]), .plain "&"]),
      ("broken", .single (.plain "("))]
    decl.Distinct ∧ decl.toJson.depth ≤ Json.maxDepth ∧
      (∃ decl', parse? decl.render = some decl' ∧ decl'.compile = decl.compile) ∧
      parse? decl.render = some settled ∧ parse? settled.render = some settled := by
  dsimp only
  refine ⟨?distinct, ?depth, render_keeps_meaning.1 _ ?distinct ?depth, ?read,
    (render_keeps_meaning.2 _ _ ?read).2.2⟩
  case distinct =>
    refine ⟨by decide, ?_⟩
    simp [PatternDecl.Distinct.plain, PatternDecl.Distinct.inside]
  case depth => decide
  case read =>
    rw [parse?_render (by decide)]
    rfl

end GrammarDecl

end Highlight
