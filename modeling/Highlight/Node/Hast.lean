import Highlight.Json.Decode
import Highlight.Json.Printer
import Highlight.Json.Reader
import Highlight.Node.Basic

/-!
# Trees as hypertext syntax trees in JSON

Text is written as an object with `type` text and its `value`; an element as an object with `type`
element, a `tagName`, which is always `span`, the `properties`, which hold the classes under
`className`, and the `children`.

Reading goes in two steps.  The first finds the shape of a node, with any tag name: the fields may
come in any order and among others, but each that counts only once; a node or its properties may
also be the array of their parts.  The second refuses the first tag name other than `span`, in
document order.  A list of nodes is read one node after the other, both steps for each.
-/

namespace Highlight

/-! ## Shapes -/

/-- A node as it is written: elements may have any tag name. -/
inductive Hast where
  | text (value : String)
  | element (tag : String) (classes : List String) (children : List Hast)

namespace Hast

instance : Inhabited Hast := ⟨text ""⟩

mutual

/-- The shape of a node. -/
def ofNode : Node → Hast
  | .text value => text value
  | .element classes children => element Node.tagName classes (ofNodes children)

def ofNodes : List Node → List Hast
  | [] => []
  | node :: nodes => ofNode node :: ofNodes nodes

end

/-! ## Writing -/

mutual

def toJson : Hast → Json
  | text value => .obj [("type", .str "text"), ("value", .str value)]
  | element tag classes children =>
    .obj [("type", .str "element"), ("tagName", .str tag),
      ("properties", .obj [("className", Json.ofStrings classes)]),
      ("children", .arr (listToJson children))]

def listToJson : List Hast → List Json
  | [] => []
  | shape :: shapes => shape.toJson :: listToJson shapes

end

end Hast

namespace Node

/-- A list of nodes as it is written. -/
def jsonOf (nodes : List Node) : Json := .arr (Hast.listToJson (Hast.ofNodes nodes))

/-- The JSON text of a list of nodes. -/
def render (nodes : List Node) : String := (jsonOf nodes).render

end Node

/-! ## Reading shapes -/

namespace Hast

/-- The two kinds of nodes. -/
inductive Kind where
  | text
  | element
  deriving DecidableEq, Repr

/-- The kind that a `type` names. -/
def Kind.ofJson? : Json → Option Kind
  | .str name =>
    if name = "text" then some .text else if name = "element" then some .element else none
  | _ => none

/-- Below the top of a tree a kind may also be given by its number. -/
def Kind.ofNestedJson? : Json → Option Kind
  | .int 0 => some .text
  | .int 1 => some .element
  | value => Kind.ofJson? value

/-- How the kind of a node is read, at the top of a tree or below. -/
def Kind.read? (top : Bool) : Json → Option Kind :=
  if top then Kind.ofJson? else Kind.ofNestedJson?

/-- The kind that the only `type` among the fields of an object gives. -/
def kindOfFields? (top : Bool) (fields : List (String × Json)) : Option Kind :=
  match fields.filter (fun field => field.1 = "type") with
  | [(_, value)] => Kind.read? top value
  | _ => none

/-- The value of the field of a name, where it is given exactly once. -/
def onlyField? (name : String) (fields : List (String × Json)) : Option Json :=
  match fields.filter (fun field => field.1 = name) with
  | [(_, value)] => some value
  | _ => none

/-- The classes in the properties of an element. -/
def classesOfJson? : Json → Option (List String)
  | .obj fields => (onlyField? "className" fields).bind Json.asStrings?
  | .arr [classes] => classes.asStrings?
  | _ => none

/-- The fields of an element that have been read so far. -/
structure Draft where
  tag : Option String
  classes : Option (List String)
  children : Option (List Hast)

/-- No field has been read. -/
def Draft.empty : Draft := ⟨none, none, none⟩

/-- The element of a complete draft. -/
def Draft.finish? : Draft → Option Hast
  | ⟨some tag, some classes, some children⟩ => some (.element tag classes children)
  | _ => none

mutual

/-- The shape of a node, at the top of a tree or below. -/
def ofJson? (top : Bool) : Json → Option Hast
  | .obj fields =>
    match kindOfFields? top fields with
    | some .text => ((onlyField? "value" fields).bind Json.asString?).map .text
    | some .element => (draftOfFields? .empty fields).bind Draft.finish?
    | none => none
  | .arr [kind, value] =>
    match Kind.read? top kind with
    | some .text => value.asString?.map .text
    | _ => none
  | .arr [kind, tag, properties, .arr children] =>
    match Kind.read? top kind with
    | some .element => do
      let tag ← tag.asString?
      let classes ← classesOfJson? properties
      let children ← listOfJson? children
      return .element tag classes children
    | _ => none
  | _ => none

def listOfJson? : List Json → Option (List Hast)
  | [] => some []
  | item :: items => do
    let node ← ofJson? false item
    let nodes ← listOfJson? items
    return node :: nodes

/-- Reads the fields of an element in turn; a field of another name is passed over. -/
def draftOfFields? (draft : Draft) : List (String × Json) → Option Draft
  | [] => some draft
  | (name, value) :: fields =>
    if name = "tagName" then do
      let tag ← Json.setOnce draft.tag value.asString?
      draftOfFields? { draft with tag } fields
    else if name = "properties" then do
      let classes ← Json.setOnce draft.classes (classesOfJson? value)
      draftOfFields? { draft with classes } fields
    else if name = "children" then do
      let children ← Json.setOnce draft.children (childrenOfJson? value)
      draftOfFields? { draft with children } fields
    else draftOfFields? draft fields

def childrenOfJson? : Json → Option (List Hast)
  | .arr items => listOfJson? items
  | _ => none

end

end Hast

/-! ## Reading nodes -/

/-- Why a text is not a list of nodes. -/
inductive Node.ReadError where
  /-- The text is not JSON, or not of the shape of a list of nodes. -/
  | malformed
  /-- An element has a tag name other than `span`. -/
  | foreignTag (tag : String)
  deriving DecidableEq, Repr

/-- The text of an error, where the format has one. -/
def Node.ReadError.message? : Node.ReadError → Option String
  | malformed => none
  | foreignTag tag => some ("unsupported tagName `" ++ tag ++ "`, expected `" ++ tagName ++ "`")

namespace Hast

mutual

/-- The node of a shape whose elements are all of the one tag name. -/
def toNode : Hast → Except Node.ReadError Node
  | text value => .ok (.text value)
  | element tag classes children =>
    if tag = Node.tagName then do
      let children ← toNodes children
      return .element classes children
    else .error (.foreignTag tag)

def toNodes : List Hast → Except Node.ReadError (List Node)
  | [] => .ok []
  | shape :: shapes => do
    let node ← shape.toNode
    let nodes ← toNodes shapes
    return node :: nodes

end

end Hast

namespace Node

/-- The node that a value writes at the top of a tree. -/
def ofJson (value : Json) : Except ReadError Node :=
  match Hast.ofJson? true value with
  | some shape => shape.toNode
  | none => .error .malformed

/-- The nodes that a JSON text writes.  The first node at fault decides the error, and a fault of
the text counts only behind the nodes that are read before it. -/
def parse (text : String) : Except ReadError (List Node) :=
  let (items, complete) := Json.scanArray text
  match items.mapM ofJson with
  | .error e => .error e
  | .ok nodes => if complete then .ok nodes else .error .malformed

end Node

end Highlight
