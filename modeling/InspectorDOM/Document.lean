import Mathlib.Logic.Function.Basic
import Mathlib.Data.List.Basic

/-! The document tree the DOM agent observes, and the agent's view of it.
`innerFirstChild`, `innerNextSibling`, `innerPreviousSibling` and `innerParentNode` skip
whitespace-only text and cross from a frame owner into its content document. The tree's edits
are the DOM's own primitives; the agent only observes them. -/

namespace InspectorDOM

/-- Nodes are handles compared by reference, as `Node*` is. -/
abbrev Node := Nat

inductive NodeType where
  | element | attribute | text | cdataSection | entityReference | entity
  | processingInstruction | comment | document | documentType | documentFragment | notationNode
  deriving DecidableEq, Repr

/-- The `nodeType` codes of `Node.h`, as the agent sends them. -/
def NodeType.code : NodeType → Nat
  | .element => 1 | .attribute => 2 | .text => 3 | .cdataSection => 4
  | .entityReference => 5 | .entity => 6 | .processingInstruction => 7 | .comment => 8
  | .document => 9 | .documentType => 10 | .documentFragment => 11 | .notationNode => 12

/-- Element, document and fragment nodes: the ones whose children the agent describes. -/
def NodeType.isContainer : NodeType → Bool
  | .element | .document | .documentFragment => true
  | _ => false

/-- The tree as the agent reads it. Handles below `size` are the nodes in use. A document's
`ownerDocument` is null. `frames` lists, for a document, the documents of the frames
`Frame::tree()->traverseNext()` visits from its frame, in that order. -/
structure Dom where
  size : Nat
  nodeType : Node → NodeType
  parentNode : Node → Option Node
  childNodes : Node → List Node
  nodeName : Node → String
  localName : Node → String
  nodeValue : Node → String
  attributes : Node → List (String × String)
  isFrameOwnerElement : Node → Bool
  contentDocument : Node → Option Node
  ownerElement : Node → Option Node
  ownerDocument : Node → Option Node
  isHTMLElement : Node → Bool
  url : Node → String
  publicId : Node → String
  systemId : Node → String
  internalSubset : Node → String
  frames : Node → List (Option Node)

namespace Dom

variable (dom : Dom)

/-- WTF's `isSpaceOrNewline`: `isASCIISpace` (blank, tab, line feed, vertical tab, form feed,
return) below 0x80, and above it the characters of bidirectional class WS. -/
def isSpaceOrNewline (c : Char) : Bool :=
  if c.toNat ≤ 0x7F then c = ' ' || (9 ≤ c.toNat && c.toNat ≤ 13)
  else c.toNat = 0x1680 || (0x2000 ≤ c.toNat && c.toNat ≤ 0x200A) || c.toNat = 0x2028 ||
    c.toNat = 0x205F || c.toNat = 0x3000

/-- `InspectorDOMAgent::isWhitespace`: a text node whose value strips to nothing. -/
def isWhitespace (node : Node) : Bool :=
  dom.nodeType node = .text && (dom.nodeValue node).data.all isSpaceOrNewline

/-- The content document the agent descends into: only a frame owner has one. -/
def frameDocument (node : Node) : Option Node :=
  if dom.isFrameOwnerElement node then dom.contentDocument node else none

def firstChild (node : Node) : Option Node := (dom.childNodes node).head?

def documentElement (document : Node) : Option Node :=
  (dom.childNodes document).find? fun child => dom.nodeType child = .element

end Dom

def siblingsAfter (siblings : List Node) (node : Node) : List Node :=
  (siblings.dropWhile (· ≠ node)).drop 1

/-- The siblings before `node` in a child list, nearest last. -/
def siblingsBefore (siblings : List Node) (node : Node) : List Node :=
  siblings.takeWhile (· ≠ node)

namespace Dom

variable (dom : Dom)

def visible (node : Node) : Bool := !dom.isWhitespace node

def nextSibling (node : Node) : Option Node :=
  (dom.parentNode node).bind fun parent => (siblingsAfter (dom.childNodes parent) node).head?

def previousSibling (node : Node) : Option Node :=
  (dom.parentNode node).bind fun parent => (siblingsBefore (dom.childNodes parent) node).getLast?

/-- `innerFirstChild` without its `startListening` side effect: a frame owner's first child is
its content document's first child, taken as it is; otherwise whitespace is skipped. -/
def innerFirstChild (node : Node) : Option Node :=
  match dom.frameDocument node with
  | some document => dom.firstChild document
  | none => (dom.childNodes node).find? dom.visible

def innerNextSibling (node : Node) : Option Node :=
  (dom.parentNode node).bind fun parent =>
    (siblingsAfter (dom.childNodes parent) node).find? dom.visible

def innerPreviousSibling (node : Node) : Option Node :=
  (dom.parentNode node).bind fun parent =>
    (siblingsBefore (dom.childNodes parent) node).reverse.find? dom.visible

/-- The children the agent's loops `for (child = innerFirstChild(node); child;
child = innerNextSibling(child))` visit. -/
def innerChildren (node : Node) : List Node :=
  match dom.frameDocument node with
  | some document =>
    match dom.childNodes document with
    | [] => []
    | first :: rest => first :: rest.filter dom.visible
  | none => (dom.childNodes node).filter dom.visible

def innerChildNodeCount (node : Node) : Nat := (dom.innerChildren node).length

/-- A document's children hang, in the agent's view, under the document's owner element. -/
def innerParentNode (node : Node) : Option Node :=
  (dom.parentNode node).bind fun parent =>
    if dom.nodeType parent = .document then dom.ownerElement parent else some parent

/-- The child list after inserting `node` before `refChild`, or at the end. -/
def insertIn (siblings : List Node) (node : Node) : Option Node → List Node
  | none => siblings ++ [node]
  | some refChild => siblings.takeWhile (· ≠ refChild) ++ node :: siblings.dropWhile (· ≠ refChild)

def insertBefore (parent node : Node) (refChild : Option Node) : Dom :=
  { dom with
    childNodes := Function.update dom.childNodes parent (insertIn (dom.childNodes parent) node refChild)
    parentNode := Function.update dom.parentNode node (some parent) }

def removeChild (parent node : Node) : Dom :=
  { dom with
    childNodes := Function.update dom.childNodes parent ((dom.childNodes parent).erase node)
    parentNode := Function.update dom.parentNode node none }

def setNodeValue (node : Node) (value : String) : Dom :=
  { dom with nodeValue := Function.update dom.nodeValue node value }

def setAttributes (element : Node) (attributes : List (String × String)) : Dom :=
  { dom with attributes := Function.update dom.attributes element attributes }

end Dom

/-- The topmost ancestor of `node`, within `fuel` parent links. -/
def rootOf (parentNode : Node → Option Node) : Nat → Node → Node
  | 0, node => node
  | fuel + 1, node =>
    match parentNode node with
    | some parent => rootOf parentNode fuel parent
    | none => node

/-- A tree given by its nodes in document order: each node's type, parent, and text (the name
of an element, the value of text and comments), and the frame owners with their content
documents. -/
def Dom.ofNodes (nodes : List (NodeType × Option Node × String)) (frameOwners : List (Node × Node)) :
    Dom where
  size := nodes.length
  nodeType node := (nodes[node]?.map (·.1)).getD .element
  parentNode node := nodes[node]?.bind (·.2.1)
  childNodes parent := (List.range nodes.length).filter fun node => nodes[node]?.bind (·.2.1) = some parent
  nodeName node := match nodes[node]? with
    | some (.text, _, _) => "#text"
    | some (.comment, _, _) => "#comment"
    | some (.document, _, _) => "#document"
    | some (_, _, text) => text
    | none => ""
  localName node := match nodes[node]? with
    | some (.element, _, text) => text
    | _ => ""
  nodeValue node := match nodes[node]? with
    | some (.text, _, text) | some (.comment, _, text) => text
    | _ => ""
  attributes _ := []
  isFrameOwnerElement node := frameOwners.any (·.1 = node)
  contentDocument node := (frameOwners.find? (·.1 = node)).map (·.2)
  ownerElement document := (frameOwners.find? (·.2 = document)).map (·.1)
  ownerDocument node := if nodes[node]?.map (·.1) = some .document then none
    else some (rootOf (fun node => nodes[node]?.bind (·.2.1)) nodes.length node)
  isHTMLElement node := nodes[node]?.map (·.1) = some .element
  url _ := ""
  publicId _ := ""
  systemId _ := ""
  internalSubset _ := ""
  frames document := some document :: frameOwners.map fun owner => some owner.2

end InspectorDOM
