import Highlight.Node.Hast
import Highlight.Proofs.Except
import Highlight.Proofs.JsonText

/-!
# Reading written trees

Trees are written by one recursion, from nodes to shapes and on to JSON, and read by another, which
also takes other forms of the same trees.  A written tree is read back as it was, unless its text
nests too deeply.  What the reader takes in another form nests at least as deeply there as it does
when it is written again (`Hast.depth_le_of_ofJson?`), so that it can always be written and read
again.
-/

namespace Highlight

open Json (depthOfItems depthOfFields)

namespace Hast

/-! ## Written shapes -/

-- A shape and a list of shapes are written by one recursion over both.
mutual

/-- Shapes are written without numbers. -/
theorem numberless_toJson : ∀ shape : Hast, shape.toJson.Numberless
  | text _ => ⟨trivial, trivial, trivial⟩
  | element _ classes children =>
    ⟨trivial, trivial, ⟨Json.numberless_ofStrings classes, trivial⟩, numberless_listToJson children,
      trivial⟩

/-- Lists of shapes are written without numbers. -/
theorem numberless_listToJson : ∀ shapes : List Hast, Json.NumberlessItems (listToJson shapes)
  | [] => trivial
  | shape :: shapes => ⟨numberless_toJson shape, numberless_listToJson shapes⟩

end

/-- A kind may be given by its name at the top of a tree and below. -/
lemma read?_of_ofJson? (top : Bool) {kind : Kind} {name : String}
    (h : Kind.ofJson? (.str name) = some kind) : Kind.read? top (.str name) = some kind := by
  cases top
  · exact h
  · exact h

mutual

/-- A written shape is read back, at the top of a tree and below. -/
theorem ofJson?_toJson : ∀ (shape : Hast) (top : Bool), ofJson? top shape.toJson = some shape
  | text value, top => by
    have hkind : Kind.read? top (.str "text") = some .text := read?_of_ofJson? top rfl
    simp [toJson, ofJson?, kindOfFields?, onlyField?, hkind, Json.asString?]
  | element tag classes children, top => by
    have hkind : Kind.read? top (.str "element") = some .element := read?_of_ofJson? top rfl
    have hchildren := listOfJson?_listToJson children
    simp [toJson, ofJson?, kindOfFields?, onlyField?, hkind, Json.asString?, draftOfFields?,
      Json.setOnce, Draft.empty, Draft.finish?, classesOfJson?, Json.asStrings?_ofStrings,
      childrenOfJson?, hchildren]

/-- A written list of shapes is read back. -/
theorem listOfJson?_listToJson :
    ∀ shapes : List Hast, listOfJson? (listToJson shapes) = some shapes
  | [] => rfl
  | shape :: shapes => by
    rw [listToJson, listOfJson?, ofJson?_toJson shape false, listOfJson?_listToJson shapes]
    rfl

end

/-! ## Nodes and their shapes -/

mutual

/-- The shape of a node is the shape of that node. -/
theorem toNode_ofNode : ∀ node : Node, (ofNode node).toNode = .ok node
  | .text value => rfl
  | .element classes children => by
    rw [ofNode, toNode, if_pos rfl, toNodes_ofNodes children]
    rfl

/-- The shapes of nodes are the shapes of those nodes. -/
theorem toNodes_ofNodes : ∀ nodes : List Node, toNodes (ofNodes nodes) = .ok nodes
  | [] => rfl
  | node :: nodes => by
    rw [ofNodes, toNodes, toNode_ofNode node, toNodes_ofNodes nodes]
    rfl

end

mutual

/-- A node has no other shape than the one that it is made from. -/
theorem ofNode_of_toNode :
    ∀ {shape : Hast} {node : Node}, shape.toNode = .ok node → ofNode node = shape
  | text value, node, h => by
    cases h
    rfl
  | element tag classes children, node, h => by
    rw [toNode] at h
    split_ifs at h with htag
    · obtain ⟨nodes, hnodes, heq⟩ := bind_eq_ok_iff.mp h
      cases heq
      rw [ofNode, ofNodes_of_toNodes hnodes, htag]

/-- Nodes have no other shapes than those that they are made from. -/
theorem ofNodes_of_toNodes :
    ∀ {shapes : List Hast} {nodes : List Node}, toNodes shapes = .ok nodes → ofNodes nodes = shapes
  | [], nodes, h => by
    cases h
    rfl
  | shape :: shapes, nodes, h => by
    obtain ⟨node, hnode, h⟩ := bind_eq_ok_iff.mp h
    obtain ⟨others, hothers, heq⟩ := bind_eq_ok_iff.mp h
    cases heq
    rw [ofNodes, ofNode_of_toNode hnode, ofNodes_of_toNodes hothers]

end

/-! ## The depth of shapes -/

/-- The only field of a name is one of the fields. -/
lemma exists_of_onlyField? {name : String} {fields : List (String × Json)} {value : Json}
    (h : onlyField? name fields = some value) : ∃ field ∈ fields, field.2 = value := by
  unfold onlyField? at h
  split at h
  · next heq =>
    cases h
    exact ⟨_, (List.mem_filter.mp (heq ▸ List.mem_singleton_self _)).1, rfl⟩
  · cases h

/-- Properties nest with their classes, in both of their forms. -/
lemma two_le_depth_of_classesOfJson? {value : Json} {classes : List String}
    (h : classesOfJson? value = some classes) : 2 ≤ value.depth := by
  unfold classesOfJson? at h
  split at h
  · next fields =>
    obtain ⟨item, hitem, hclasses⟩ := Option.bind_eq_some_iff.mp h
    obtain ⟨field, hfield, rfl⟩ := exists_of_onlyField? hitem
    exact (Json.one_le_depth_of_asStrings? hclasses).trans_lt (Json.depth_lt_obj hfield)
  · exact (Json.one_le_depth_of_asStrings? h).trans_lt (Json.depth_lt_arr List.mem_cons_self)
  · cases h

/-- How deeply an element nests depends on its children alone. -/
lemma depth_element (tag : String) (classes : List String) (children : List Hast) :
    (element tag classes children).toJson.depth =
      max 2 (depthOfItems (listToJson children) + 1) + 1 := by
  simp [toJson, Json.depth, depthOfFields, Json.depth_ofStrings]

/-- The classes and the children of a draft are read from some of the fields. -/
structure Draft.From (draft : Draft) (fields : List (String × Json)) : Prop where
  classes : ∀ classes, draft.classes = some classes →
    ∃ field ∈ fields, classesOfJson? field.2 = some classes
  children : ∀ children, draft.children = some children →
    ∃ field ∈ fields, childrenOfJson? field.2 = some children

/-- Reading some of the fields keeps a draft read from the fields. -/
lemma Draft.From.draftOfFields? {fields all : List (String × Json)} {draft draft' : Draft}
    (h : Hast.draftOfFields? draft fields = some draft') (hdraft : draft.From all)
    (hall : ∀ field ∈ fields, field ∈ all) : draft'.From all := by
  induction fields generalizing draft with
  | nil =>
    cases h
    exact hdraft
  | cons field fields ih =>
    obtain ⟨name, value⟩ := field
    rw [List.forall_mem_cons] at hall
    rw [Hast.draftOfFields?] at h
    split_ifs at h
    · obtain ⟨tag, -, h⟩ := Option.bind_eq_some_iff.mp h
      exact ih h ⟨hdraft.classes, hdraft.children⟩ hall.2
    · obtain ⟨slot, hslot, h⟩ := Option.bind_eq_some_iff.mp h
      obtain ⟨classes, hclasses, rfl⟩ := Json.eq_some_of_setOnce hslot
      refine ih h ⟨fun classes' heq => ?_, hdraft.children⟩ hall.2
      cases heq
      exact ⟨_, hall.1, hclasses⟩
    · obtain ⟨slot, hslot, h⟩ := Option.bind_eq_some_iff.mp h
      obtain ⟨children, hchildren, rfl⟩ := Json.eq_some_of_setOnce hslot
      refine ih h ⟨hdraft.classes, fun children' heq => ?_⟩ hall.2
      cases heq
      exact ⟨_, hall.1, hchildren⟩
    · exact ih h hdraft hall.2

/-- What is read is text, or an element, whose classes and children are read from parts. -/
lemma cases_of_ofJson? {top : Bool} {value : Json} {shape : Hast}
    (h : ofJson? top value = some shape) :
    (∃ text, shape = .text text ∧ 0 < value.depth) ∨
    (∃ tag classes children, shape = .element tag classes children ∧
      (∃ part : Json, part.depth < value.depth ∧ classesOfJson? part = some classes) ∧
      (∃ part : Json, part.depth < value.depth ∧ childrenOfJson? part = some children)) := by
  rw [ofJson?.eq_def] at h
  split at h
  · next fields =>
    split at h
    · obtain ⟨text, -, rfl⟩ := Option.map_eq_some_iff.mp h
      exact .inl ⟨text, rfl, Nat.succ_pos _⟩
    · obtain ⟨draft, hdraft, hfinish⟩ := Option.bind_eq_some_iff.mp h
      have hempty : Draft.empty.From fields := ⟨nofun, nofun⟩
      have hfrom := hempty.draftOfFields? hdraft fun _ => id
      unfold Draft.finish? at hfinish
      split at hfinish
      · cases hfinish
        obtain ⟨properties, hproperties, hclasses⟩ := hfrom.classes _ rfl
        obtain ⟨nested, hnested, hchildren⟩ := hfrom.children _ rfl
        exact .inr ⟨_, _, _, rfl, ⟨_, Json.depth_lt_obj hproperties, hclasses⟩,
          ⟨_, Json.depth_lt_obj hnested, hchildren⟩⟩
      · cases hfinish
    · cases h
  · split at h
    · obtain ⟨text, -, rfl⟩ := Option.map_eq_some_iff.mp h
      exact .inl ⟨text, rfl, Nat.succ_pos _⟩
    · cases h
  · split at h
    · obtain ⟨text, -, h⟩ := Option.bind_eq_some_iff.mp h
      obtain ⟨classes, hclasses, h⟩ := Option.bind_eq_some_iff.mp h
      obtain ⟨children, hchildren, h⟩ := Option.bind_eq_some_iff.mp h
      cases h
      exact .inr ⟨text, classes, children, rfl, ⟨_, Json.depth_lt_arr (by simp), hclasses⟩,
        ⟨.arr _, Json.depth_lt_arr (by simp), hchildren⟩⟩
    · cases h
  · cases h

/-- Shapes that are read one after the other nest no deeper than what they are read from, if each does
not. -/
lemma depthOfItems_le_of_listOfJson? {items : List Json} {shapes : List Hast}
    (hitems : ∀ item ∈ items, ∀ shape, ofJson? false item = some shape →
      shape.toJson.depth ≤ item.depth)
    (h : listOfJson? items = some shapes) :
    depthOfItems (listToJson shapes) ≤ depthOfItems items := by
  induction items generalizing shapes with
  | nil =>
    cases h
    exact Nat.le_refl _
  | cons item items ih =>
    obtain ⟨shape, hshape, h⟩ := Option.bind_eq_some_iff.mp h
    obtain ⟨others, hothers, heq⟩ := Option.bind_eq_some_iff.mp h
    cases heq
    rw [List.forall_mem_cons] at hitems
    exact max_le_max (hitems.1 shape hshape) (ih hitems.2 hothers)

/-- Children nest less deeply than the array that they are read from, if each nests no deeper than
what it is read from. -/
lemma depthOfItems_lt_of_childrenOfJson? {value : Json} {children : List Hast}
    (hbelow : ∀ {item : Json} {shape : Hast}, item.depth < value.depth →
      ofJson? false item = some shape → shape.toJson.depth ≤ item.depth)
    (h : childrenOfJson? value = some children) :
    depthOfItems (listToJson children) < value.depth := by
  cases value with
  | arr items =>
    exact Nat.lt_succ_of_le (depthOfItems_le_of_listOfJson?
      (fun item hitem shape => hbelow (Json.depth_lt_arr hitem)) h)
  | _ => cases h

/-- A shape nests no deeper than what it is read from, in whatever form. -/
theorem depth_le_of_ofJson? {value : Json} {top : Bool} {shape : Hast}
    (h : ofJson? top value = some shape) : shape.toJson.depth ≤ value.depth := by
  induction hn : value.depth using Nat.strong_induction_on generalizing value top shape with
  | h n ih =>
    subst hn
    obtain ⟨text, rfl, hpos⟩ | ⟨tag, classes, children, rfl, ⟨properties, hlt, hclasses⟩,
      ⟨nested, hlt', hchildren⟩⟩ := cases_of_ofJson? h
    · exact hpos
    · have htwo := two_le_depth_of_classesOfJson? hclasses
      have hnested := depthOfItems_lt_of_childrenOfJson?
        (fun hitem h => ih _ (hitem.trans hlt') h rfl) hchildren
      rw [depth_element]
      omega

end Hast

/-! ## Reading written nodes -/

namespace Node

/-- A written node is read back. -/
lemma ofJson_toJson (node : Node) : ofJson (Hast.ofNode node).toJson = .ok node := by
  rw [ofJson, Hast.ofJson?_toJson]
  exact Hast.toNode_ofNode node

/-- Written nodes are read back one after the other. -/
lemma mapM_ofJson_map (nodes : List Node) :
    (nodes.map fun node => (Hast.ofNode node).toJson).mapM ofJson = .ok nodes := by
  induction nodes with
  | nil => rfl
  | cons node nodes ih =>
    rw [List.map_cons, List.mapM_cons, ofJson_toJson, ih]
    rfl

/-- Nodes are written one after the other. -/
lemma listToJson_ofNodes (nodes : List Node) :
    Hast.listToJson (Hast.ofNodes nodes) = nodes.map fun node => (Hast.ofNode node).toJson := by
  induction nodes with
  | nil => rfl
  | cons node nodes ih => rw [Hast.ofNodes, Hast.listToJson, ih, List.map_cons]

/-- A node nests no deeper than what it is read from. -/
lemma depth_le_of_ofJson {value : Json} {node : Node} (h : ofJson value = .ok node) :
    (Hast.ofNode node).toJson.depth ≤ value.depth := by
  unfold ofJson at h
  split at h
  · next hshape =>
    rw [Hast.ofNode_of_toNode h]
    exact Hast.depth_le_of_ofJson? hshape
  · cases h

/-- Nodes nest no deeper than what they are read from. -/
lemma depthOfItems_le_of_mapM_ofJson {items : List Json} {nodes : List Node}
    (h : items.mapM ofJson = .ok nodes) :
    depthOfItems (Hast.listToJson (Hast.ofNodes nodes)) ≤ depthOfItems items := by
  induction items generalizing nodes with
  | nil =>
    cases h
    exact Nat.le_refl _
  | cons item items ih =>
    rw [List.mapM_cons] at h
    obtain ⟨node, hnode, h⟩ := bind_eq_ok_iff.mp h
    obtain ⟨others, hothers, heq⟩ := bind_eq_ok_iff.mp h
    cases heq
    exact max_le_max (depth_le_of_ofJson hnode) (ih hothers)

/-- A written list of nodes is read back, unless it nests too deeply. -/
lemma parse_render (nodes : List Node) :
    parse (render nodes) =
      if (jsonOf nodes).depth ≤ Json.maxDepth then .ok nodes else .error .malformed := by
  have hscan : Json.scanArray (render nodes) = (_, decide ((jsonOf nodes).depth ≤ Json.maxDepth)) :=
    Json.scanArray_render (Hast.numberless_listToJson (Hast.ofNodes nodes))
  simp only [parse, hscan, listToJson_ofNodes, List.takeWhile_map, mapM_ofJson_map]
  by_cases hdepth : (jsonOf nodes).depth ≤ Json.maxDepth
  · have hfits : ∀ node ∈ nodes, (Hast.ofNode node).toJson.depth ≤ Json.maxDepth - 1 := by
      rw [jsonOf, listToJson_ofNodes, Json.depth] at hdepth
      simpa using Json.depthOfItems_le_iff.mp (Nat.le_sub_of_add_le hdepth)
    rw [if_pos hdepth, if_pos (decide_eq_true hdepth),
      List.takeWhile_eq_self_iff.mpr (by simpa using hfits)]
  · rw [if_neg hdepth, if_neg (by simpa using hdepth)]

/-- What is read from a text can be written and read again. -/
lemma depth_le_of_parse {text : String} {nodes : List Node} (h : parse text = .ok nodes) :
    (jsonOf nodes).depth ≤ Json.maxDepth := by
  have hitems : depthOfItems (Json.scanArray text).1 ≤ Json.maxDepth - 1 :=
    Json.depthOfItems_le_iff.mpr Json.depth_le_of_scanArray
  simp only [parse] at h
  split at h
  · cases h
  · next hread =>
    split_ifs at h
    cases h
    exact Nat.succ_le_succ ((depthOfItems_le_of_mapM_ofJson hread).trans hitems)

/-- Every list of nodes is read back from its text as it was, or the text is refused because it
nests too deeply.  What is read from any text, in whatever form, is read back when it is written
again. -/
theorem parse_render_roundTrip :
    (∀ nodes : List Node, parse (render nodes) =
      if (jsonOf nodes).depth ≤ Json.maxDepth then .ok nodes else .error .malformed) ∧
    (∀ (text : String) (nodes : List Node), parse text = .ok nodes →
      parse (render nodes) = .ok nodes) := by
  refine ⟨parse_render, fun text nodes h => ?_⟩
  rw [parse_render, if_pos (depth_le_of_parse h)]

/-- Nodes that were given as arrays, by numbers or among other fields are read back from the one
form that is written. -/
theorem parse_render_roundTrip_of_other_forms :
    parse "[[\"element\", \"span\", [[\"a\"]], [[0, \"x\"]]],
      \x7b\"value\": \"y\", \"lang\": [], \"type\": \"text\"\x7d]" =
        .ok [element ["a"] [.text "x"], .text "y"] ∧
      parse (render [element ["a"] [.text "x"], .text "y"]) =
        .ok [element ["a"] [.text "x"], .text "y"] := by
  refine ⟨?read, parse_render_roundTrip.2 _ _ ?read⟩
  exact toOption_eq_some_iff.mp (by decide +kernel)

end Node

end Highlight
