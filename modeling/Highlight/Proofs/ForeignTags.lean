import Highlight.Proofs.NodeText
import Mathlib.Tactic.Common

/-!
# The first foreign tag

Elements may have any tag name as long as only the shape of a text is read; a node may not.  This
file says which texts are refused for a tag name, and for which one.

A place among shapes is an *address*: the number of a shape, then the number of one of its children,
and so on down.  In the lexicographic order of addresses an element comes before all that is below
it, and all that is below it comes before what is behind it; so this is document order.  Reading
stops at the first foreign tag in this order (`answers_toNodes`), although it goes down into each
element before it looks at the next.

The text is read node by node, and a fault of its JSON or of the shape of a node is found on the
way.  In a text without such a fault the tags alone decide (`Node.parse_eq_toNodes`).
-/

namespace Highlight

namespace Hast

/-! ## Addresses -/

/-- The tag name of an element; text has none. -/
def tag? : Hast → Option String
  | text _ => none
  | element tag _ _ => some tag

/-- The children of an element; text has none. -/
def children : Hast → List Hast
  | text _ => []
  | element _ _ children => children

/-- The shape at an address below a shape. -/
def below? (shape : Hast) : List ℕ → Option Hast
  | [] => some shape
  | i :: address => shape.children[i]?.bind fun child => child.below? address

/-- The tag name of the element at an address below a shape. -/
def tagBelow? (shape : Hast) (address : List ℕ) : Option String := (shape.below? address).bind tag?

/-- The tag name of the element at an address among shapes. -/
def tagAt? (shapes : List Hast) : List ℕ → Option String
  | [] => none
  | i :: address => shapes[i]?.bind fun shape => shape.tagBelow? address

/-- The elements at all addresses have the one tag name of nodes. -/
def AllNative (tagAt : List ℕ → Option String) : Prop :=
  ∀ address tag, tagAt address = some tag → tag = Node.tagName

/-- An element has another tag name, and no element at an address before it has. -/
def FirstForeign (tagAt : List ℕ → Option String) (tag : String) : Prop :=
  ∃ address, tagAt address = some tag ∧ tag ≠ Node.tagName ∧
    ∀ earlier < address, ∀ other, tagAt earlier = some other → other = Node.tagName

/-- Where there is a first foreign tag, not all tags are native. -/
lemma FirstForeign.not_allNative {tagAt : List ℕ → Option String} {tag : String}
    (h : FirstForeign tagAt tag) : ¬ AllNative tagAt := by
  obtain ⟨address, htag, hne, -⟩ := h
  exact fun hall => hne (hall address tag htag)

/-- The addresses below an element other than its own are those among its children. -/
lemma tagBelow?_cons (shape : Hast) (i : ℕ) (address : List ℕ) :
    shape.tagBelow? (i :: address) = tagAt? shape.children (i :: address) := by
  rw [tagBelow?, below?, tagAt?, Option.bind_assoc]
  rfl

/-- The order of addresses among some shapes is the same behind one more shape. -/
lemma succ_cons_lt_succ_cons_iff {i j : ℕ} {address other : List ℕ} :
    (i + 1) :: address < (j + 1) :: other ↔ i :: address < j :: other := by
  simp only [List.cons_lt_cons_iff, Nat.add_lt_add_iff_right, Nat.add_right_cancel_iff]

/-! ## Reading -/

/-- All elements have the one tag name, or the first that has not is the reason of the refusal. -/
abbrev AnswersForTags {α : Type} (tagAt : List ℕ → Option String) (x : Except Node.ReadError α) :
    Prop :=
  Answers (fun _ => AllNative tagAt)
    (fun error => ∃ tag, error = .foreignTag tag ∧ FirstForeign tagAt tag) x

/-- The tag of an element comes before the tags of its children. -/
lemma answers_toNode_element {tag : String} {classes : List String} {children : List Hast}
    (h : AnswersForTags (tagAt? children) (toNodes children)) :
    AnswersForTags (element tag classes children).tagBelow?
      (element tag classes children).toNode := by
  have hbelow : ∀ i address, (element tag classes children).tagBelow? (i :: address) =
      tagAt? children (i :: address) := tagBelow?_cons _
  rw [toNode]
  split_ifs with htag
  · cases hchildren : toNodes children with
    | ok nodes =>
      rw [hchildren] at h
      rintro (_ | ⟨i, address⟩) other hother
      · cases hother
        exact htag
      · exact h (i :: address) other ((hbelow i address).symm.trans hother)
    | error error =>
      rw [hchildren] at h
      obtain ⟨foreign, rfl, address, hforeign, hne, hearlier⟩ := h
      -- no shape stands at the empty address among the children
      obtain _ | ⟨i, address⟩ := address
      · cases hforeign
      refine ⟨foreign, rfl, i :: address, (hbelow i address).trans hforeign, hne, ?_⟩
      rintro (_ | ⟨j, earlier⟩) hlt other hother
      · cases hother
        exact htag
      · exact hearlier (j :: earlier) hlt other ((hbelow j earlier).symm.trans hother)
  · exact ⟨tag, rfl, [], rfl, htag, fun earlier hlt => absurd hlt (List.not_lt_nil earlier)⟩

/-- The tags below a shape come before the tags of the shapes behind it. -/
lemma answers_toNodes_cons {shape : Hast} {shapes : List Hast}
    (hfirst : AnswersForTags shape.tagBelow? shape.toNode)
    (hothers : AnswersForTags (tagAt? shapes) (toNodes shapes)) :
    AnswersForTags (tagAt? (shape :: shapes)) (toNodes (shape :: shapes)) := by
  rw [toNodes]
  cases hshape : shape.toNode with
  | error error =>
    rw [hshape] at hfirst
    obtain ⟨foreign, rfl, address, hforeign, hne, hearlier⟩ := hfirst
    refine ⟨foreign, rfl, 0 :: address, hforeign, hne, ?_⟩
    rintro (_ | ⟨j, earlier⟩) hlt other hother
    · cases hother
    · obtain hindex | ⟨rfl, hbelow⟩ := List.cons_lt_cons_iff.mp hlt
      · exact absurd hindex (Nat.not_lt_zero j)
      · exact hearlier earlier hbelow other hother
  | ok node =>
    rw [hshape] at hfirst
    cases hshapes : toNodes shapes with
    | ok nodes =>
      rw [hshapes] at hothers
      rintro (_ | ⟨_ | i, address⟩) other hother
      · cases hother
      · exact hfirst address other hother
      · exact hothers (i :: address) other hother
    | error error =>
      rw [hshapes] at hothers
      obtain ⟨foreign, rfl, address, hforeign, hne, hearlier⟩ := hothers
      obtain _ | ⟨i, address⟩ := address
      · cases hforeign
      refine ⟨foreign, rfl, (i + 1) :: address, hforeign, hne, ?_⟩
      rintro (_ | ⟨_ | j, earlier⟩) hlt other hother
      · cases hother
      · exact hfirst earlier other hother
      · exact hearlier (j :: earlier) (succ_cons_lt_succ_cons_iff.mp hlt) other hother

-- The recursion is the one of `toNode` and `toNodes`: over a shape and the list of its children.
mutual

/-- A shape is a node if all elements have the one tag name, and else it is refused for the first
that has not. -/
theorem answers_toNode : ∀ shape : Hast, AnswersForTags shape.tagBelow? shape.toNode
  | text value => by
    rintro (_ | ⟨i, address⟩) tag htag
    · cases htag
    · cases htag
  | element _ _ children => answers_toNode_element (answers_toNodes children)

/-- Shapes are nodes if all elements have the one tag name, and else they are refused for the first
that has not. -/
theorem answers_toNodes : ∀ shapes : List Hast, AnswersForTags (tagAt? shapes) (toNodes shapes)
  | [] => by
    rintro (_ | ⟨i, address⟩) tag htag
    · cases htag
    · cases htag
  | shape :: shapes => answers_toNodes_cons (answers_toNode shape) (answers_toNodes shapes)

end

/-! ## Texts -/

/-- A text is JSON and a list of nodes with these shapes, whatever their tag names. -/
def WrittenBy (shapes : List Hast) (text : String) : Prop :=
  ∃ items, Json.parse? text = some (.arr items) ∧ items.mapM (ofJson? true) = some shapes

/-- Written shapes are read back one after the other. -/
lemma mapM_ofJson?_listToJson (shapes : List Hast) :
    (listToJson shapes).mapM (ofJson? true) = some shapes := by
  induction shapes with
  | nil => rfl
  | cons shape shapes ih =>
    rw [listToJson, List.mapM_cons, ofJson?_toJson, ih]
    rfl

/-- All shapes are written by some text, unless they nest too deeply. -/
lemma writtenBy_render {shapes : List Hast}
    (h : (Json.arr (listToJson shapes)).depth ≤ Json.maxDepth) :
    WrittenBy shapes (Json.arr (listToJson shapes)).render := by
  have hnumberless : (Json.arr (listToJson shapes)).Numberless := numberless_listToJson shapes
  have hparse := Json.parse?_render hnumberless
  rw [if_pos h] at hparse
  exact ⟨_, hparse, mapM_ofJson?_listToJson shapes⟩

/-- Values that have the shapes of nodes are read as nodes if the shapes are. -/
lemma mapM_ofJson_eq_toNodes {items : List Json} {shapes : List Hast}
    (h : items.mapM (ofJson? true) = some shapes) : items.mapM Node.ofJson = toNodes shapes := by
  induction items generalizing shapes with
  | nil =>
    cases h
    rfl
  | cons item items ih =>
    rw [List.mapM_cons] at h
    obtain ⟨shape, hshape, h⟩ := Option.bind_eq_some_iff.mp h
    obtain ⟨others, hothers, heq⟩ := Option.bind_eq_some_iff.mp h
    cases heq
    have hitem : Node.ofJson item = shape.toNode := by rw [Node.ofJson, hshape]
    rw [List.mapM_cons, toNodes, hitem, ih hothers]

end Hast

namespace Node

/-- Of a text without a fault in its JSON and in the shapes of its nodes the shapes are read. -/
lemma parse_eq_toNodes {shapes : List Hast} {text : String} (h : Hast.WrittenBy shapes text) :
    parse text = Hast.toNodes shapes := by
  obtain ⟨items, hparse, hshapes⟩ := h
  have hscan : Json.scanArray text = (items, true) := Json.scanArray_of_parse? hparse
  simp only [parse, hscan, Hast.mapM_ofJson_eq_toNodes hshapes]
  cases Hast.toNodes shapes with
  | error error => rfl
  | ok nodes => rfl

/-- The message for a foreign tag names it. -/
lemma message?_foreignTag (tag : String) : (ReadError.foreignTag tag).message? =
    some ("unsupported tagName `" ++ tag ++ "`, expected `span`") := by
  rw [ReadError.message?, String.append_assoc, String.append_assoc]
  rfl

/-- A text that is a list of nodes but for the tag names of its elements is read exactly if the
elements at all depths have the one tag name of nodes; what is read are the nodes of these shapes.
Else the text is refused as a whole, and the message names the first other tag in document order.
There are such texts for all shapes that do not nest too deeply. -/
theorem parse_refuses_first_foreign_tag :
    (∀ (shapes : List Hast) (text : String), Hast.WrittenBy shapes text →
      ((∃ nodes, parse text = .ok nodes) ↔
        ∀ address tag, Hast.tagAt? shapes address = some tag → tag = "span") ∧
      (∀ nodes, parse text = .ok nodes → Hast.ofNodes nodes = shapes) ∧
      ∀ error, parse text = .error error → ∃ tag, Hast.FirstForeign (Hast.tagAt? shapes) tag ∧
        error.message? = some ("unsupported tagName `" ++ tag ++ "`, expected `span`")) ∧
    ∀ shapes : List Hast, (Json.arr (Hast.listToJson shapes)).depth ≤ Json.maxDepth →
      Hast.WrittenBy shapes (Json.arr (Hast.listToJson shapes)).render := by
  refine ⟨fun shapes text hwritten => ?_, fun shapes => Hast.writtenBy_render⟩
  have hanswers := Hast.answers_toNodes shapes
  rw [parse_eq_toNodes hwritten]
  refine ⟨?_, fun nodes => Hast.ofNodes_of_toNodes, ?_⟩
  · cases hnodes : Hast.toNodes shapes with
    | ok nodes =>
      rw [hnodes] at hanswers
      exact iff_of_true ⟨nodes, rfl⟩ hanswers
    | error error =>
      rw [hnodes] at hanswers
      obtain ⟨tag, -, hfirst⟩ := hanswers
      refine iff_of_false ?_ hfirst.not_allNative
      rintro ⟨nodes, hok⟩
      cases hok
  · intro error herror
    rw [herror] at hanswers
    obtain ⟨tag, rfl, hfirst⟩ := hanswers
    exact ⟨tag, hfirst, message?_foreignTag tag⟩

/-- Three foreign tags.  The first in document order stands below the first element, behind native
elements and text; it is named, although the other two stand higher up.  With native tags in their
places the text is read. -/
theorem parse_refuses_first_foreign_tag_of_nested_tags :
    let shapes (below behind last : String) : List Hast :=
      [.text "a", .element "span" ["token"] [.element "span" [] [.text "b", .element below [] []],
        .element behind [] []], .element last [] [.text "c"]]
    let text (shapes : List Hast) : String := (Json.arr (Hast.listToJson shapes)).render
    Hast.WrittenBy (shapes "em" "div" "b") (text (shapes "em" "div" "b")) ∧
      parse (text (shapes "em" "div" "b")) = .error (.foreignTag "em") ∧
      Hast.FirstForeign (Hast.tagAt? (shapes "em" "div" "b")) "em" ∧
      ∃ nodes, parse (text (shapes "span" "span" "span")) = .ok nodes ∧
        Hast.ofNodes nodes = shapes "span" "span" "span" := by
  intro shapes text
  have hdepth : (Json.arr (Hast.listToJson (shapes "em" "div" "b"))).depth ≤ Json.maxDepth ∧
      (Json.arr (Hast.listToJson (shapes "span" "span" "span"))).depth ≤ Json.maxDepth := by
    decide +revert
  obtain ⟨hread, hwritten⟩ := parse_refuses_first_foreign_tag
  have hforeign := hwritten (shapes "em" "div" "b") hdepth.1
  have hnative := hwritten (shapes "span" "span" "span") hdepth.2
  have herror : parse (text (shapes "em" "div" "b")) = .error (.foreignTag "em") :=
    parse_eq_toNodes hforeign
  obtain ⟨tag, hfirst, hmessage⟩ := (hread _ _ hforeign).2.2 _ herror
  rw [message?_foreignTag, Option.some_inj, String.append_left_inj, String.append_right_inj]
    at hmessage
  subst hmessage
  have hok : ∃ nodes, parse (text (shapes "span" "span" "span")) = .ok nodes :=
    ⟨_, parse_eq_toNodes hnative⟩
  obtain ⟨nodes, hnodes⟩ := hok
  exact ⟨hforeign, herror, hfirst, nodes, hnodes, (hread _ _ hnative).2.1 nodes hnodes⟩

end Node

end Highlight
