import InspectorDOM.Search

/-! The frontend's DOM requests. Each takes a call id and answers with one `did…` record. The
tree edits go through the tree's own primitives, which decide whether an edit is refused and
report each insertion and removal to the agent as it happens. -/

namespace InspectorDOM

structure RegisteredEventListener where
  useCapture : Bool
  isAttribute : Bool

/-- What the tree's primitives decide on their own: whether an edit is refused with an
exception code, the element `createElement` returns, the nodes markup parses into, the
markup serializer and the listeners registered on a node. -/
structure Primitives where
  setAttribute : Dom → Node → String → String → Bool
  removeAttribute : Dom → Node → String → Bool
  removeChild : Dom → Node → Node → Bool
  appendChild : Dom → Node → Node → Bool
  insertBefore : Dom → Node → Node → Option Node → Bool
  replaceWholeText : Dom → Node → String → Bool
  createElement : Dom → Node → String → Option Node
  setOuterHTML : Dom → Node → String → Option (List Node)
  outerHTML : Dom → Node → String
  eventListeners : Dom → Node → Option (List (String × List RegisteredEventListener))
  eventAncestors : Dom → Node → List Node

/-- The tree together with the agent observing it. -/
structure World where
  dom : Dom
  agent : Agent

namespace World

def respond (w : World) (record : Record) : World := { w with agent := w.agent.send record }

/-- `parent->removeChild(node)`: the agent hears of it just before the node leaves. -/
def removeChild (w : World) (parent node : Node) : World :=
  { dom := w.dom.removeChild parent node, agent := didRemoveDOMNode w.dom node w.agent }

/-- `parent->insertBefore(node, refChild)`: a node still in the tree first leaves its parent;
the agent hears of the insertion just after it. -/
def insertBefore (w : World) (parent node : Node) (refChild : Option Node) : World :=
  let w := match w.dom.parentNode node with
    | some oldParent => w.removeChild oldParent node
    | none => w
  let dom := w.dom.insertBefore parent node refChild
  { dom := dom, agent := didInsertDOMNode dom node w.agent }

end World

def setAttributeIn (attributes : List (String × String)) (name value : String) :
    List (String × String) :=
  if attributes.any (·.1 = name)
  then attributes.map fun pair => if pair.1 = name then (name,value) else pair
  else attributes ++ [(name,value)]

def getChildNodes (callId nodeId : Nat) (w : World) : Except Fault World :=
  (pushChildNodesToFrontend w.dom nodeId w.agent).map fun st =>
    { w with agent := st.send (.didGetChildNodes callId) }

def setAttribute (prims : Primitives) (callId elementId : Nat) (name value : String)
    (w : World) : World :=
  match nodeForId elementId w.agent with
  | some node =>
    if w.dom.nodeType node = .element then
      if prims.setAttribute w.dom node name value then
        let dom := w.dom.setAttributes node (setAttributeIn (w.dom.attributes node) name value)
        World.respond { dom := dom, agent := didModifyDOMAttr dom node w.agent }
          (.didApplyDomChange callId true)
      else w.respond (.didApplyDomChange callId false)
    else w.respond (.didApplyDomChange callId false)
  | none => w.respond (.didApplyDomChange callId false)

def removeAttribute (prims : Primitives) (callId elementId : Nat) (name : String)
    (w : World) : World :=
  match nodeForId elementId w.agent with
  | some node =>
    if w.dom.nodeType node = .element then
      if prims.removeAttribute w.dom node name then
        let dom := w.dom.setAttributes node ((w.dom.attributes node).filter (·.1 ≠ name))
        World.respond { dom := dom, agent := didModifyDOMAttr dom node w.agent }
          (.didApplyDomChange callId true)
      else w.respond (.didApplyDomChange callId false)
    else w.respond (.didApplyDomChange callId false)
  | none => w.respond (.didApplyDomChange callId false)

def removeNode (prims : Primitives) (callId nodeId : Nat) (w : World) : World :=
  match nodeForId nodeId w.agent with
  | none => w.respond (.didRemoveNode callId 0)
  | some node =>
    match w.dom.parentNode node with
    | none => w.respond (.didRemoveNode callId 0)
    | some parent =>
      if prims.removeChild w.dom parent node
      then (w.removeChild parent node).respond (.didRemoveNode callId nodeId)
      else w.respond (.didRemoveNode callId 0)

/-- `while ((child = oldNode->firstChild())) newElem->appendChild(child, ec)`, within `fuel` passes:
the primitive decides each append, and a refused one leaves the tree as it was. -/
def moveChildren (prims : Primitives) (oldNode newElem : Node) : Nat → World → Except Fault World
  | 0, _ => .error .endlessLoop
  | fuel + 1, w =>
    match w.dom.firstChild oldNode with
    | none => .ok w
    | some child =>
      moveChildren prims oldNode newElem fuel
        (if prims.appendChild w.dom newElem child then w.insertBefore newElem child none else w)

/-- `parent->insertBefore(node, refChild, ec)`: the primitive decides, and a refused insertion
leaves the tree as it was. -/
def World.callInsertBefore (prims : Primitives) (w : World) (parent node : Node)
    (refChild : Option Node) : World :=
  if prims.insertBefore w.dom parent node refChild then w.insertBefore parent node refChild else w

/-- `long newId = pushNodePathToFrontend(node); if (childrenRequested)
pushChildNodesToFrontend(newId);`, the tail `changeTagName` and `setOuterHTML` share. -/
def pushReplacement (dom : Dom) (node : Node) (childrenRequested : Bool) (st : Agent) :
    Except Fault (Nat × Agent) := do
  let pushed ← pushNodePathToFrontend dom node st
  if childrenRequested then
    let st ← pushChildNodesToFrontend dom pushed.1 pushed.2
    .ok (pushed.1, st)
  else .ok pushed

/-- After the children move, `parent->insertBefore` and `parent->removeChild` each reset the
exception code, so only the removal's outcome decides the answer. -/
def changeTagName (prims : Primitives) (callId nodeId : Nat) (tagName : String) (w : World) :
    Except Fault World :=
  match nodeForId nodeId w.agent with
  | none => .ok (w.respond (.didChangeTagName callId 0))
  | some oldNode =>
    if w.dom.nodeType oldNode ≠ .element then .ok (w.respond (.didChangeTagName callId 0)) else
    let childrenRequested := w.agent.childrenRequested nodeId
    match prims.createElement w.dom oldNode tagName with
    | none => .ok (w.respond (.didChangeTagName callId 0))
    | some newElem => do
      let w ← moveChildren prims oldNode newElem (w.dom.size + 1)
        { w with dom := w.dom.setAttributes newElem (w.dom.attributes oldNode) }
      match w.dom.parentNode oldNode with
      | none => .error .nullDereference
      | some parent =>
        let w := w.callInsertBefore prims parent newElem (w.dom.nextSibling oldNode)
        if !prims.removeChild w.dom parent oldNode then
          .ok (w.respond (.didChangeTagName callId 0)) else
        let w := w.removeChild parent oldNode
        let pushed ← pushReplacement w.dom newElem childrenRequested w.agent
        .ok { w with agent := pushed.2.send (.didChangeTagName callId pushed.1) }

def getOuterHTML (prims : Primitives) (callId nodeId : Nat) (w : World) : World :=
  match nodeForId nodeId w.agent with
  | some node =>
    if w.dom.isHTMLElement node then w.respond (.didGetOuterHTML callId (prims.outerHTML w.dom node))
    else w.respond (.didGetOuterHTML callId "")
  | none => w.respond (.didGetOuterHTML callId "")

/-- `replaceChild(fragment, node)`: the node leaves, then the parsed nodes come in where it was. -/
def replaceWithFragment (parent node : Node) (fragment : List Node) (w : World) : World :=
  let next := w.dom.nextSibling node
  fragment.foldl (fun w child => w.insertBefore parent child next) (w.removeChild parent node)

/-- `htmlElement->setOuterHTML(outerHTML, ec)`, answered with 0 when it sets `ec`. -/
def applyOuterHTML (prims : Primitives) (callId : Nat) (node : Node) (parentNode : Option Node)
    (outerHTML : String) (w : World) : World :=
  match parentNode, prims.setOuterHTML w.dom node outerHTML with
  | some parent, some fragment => replaceWithFragment parent node fragment w
  | _, _ => w.respond (.didSetOuterHTML callId 0)

/-- `previousSibling ? previousSibling->nextSibling() : parentNode->firstChild()`; `none` when
this reads through a null `parentNode`. -/
def replacementNode (dom : Dom) (previousSibling parentNode : Option Node) : Option (Option Node) :=
  match previousSibling, parentNode with
  | some previous, _ => some (dom.nextSibling previous)
  | none, some parent => some (dom.firstChild parent)
  | none, none => none

/-- On a refused edit the code answers 0 and carries on: the replacement is looked for next to
`previousSibling`, or as the first child of `parentNode`. A null replacement reaches
`pushNodePathToFrontend`, which reads its parent once the document is pushed. -/
def setOuterHTML (prims : Primitives) (callId nodeId : Nat) (outerHTML : String) (w : World) :
    Except Fault World :=
  match nodeForId nodeId w.agent with
  | none => .ok (w.respond (.didSetOuterHTML callId 0))
  | some node =>
    if !w.dom.isHTMLElement node then .ok (w.respond (.didSetOuterHTML callId 0)) else
    let childrenRequested := w.agent.childrenRequested nodeId
    let previousSibling := w.dom.previousSibling node
    let parentNode := w.dom.parentNode node
    let w := applyOuterHTML prims callId node parentNode outerHTML w
    match replacementNode w.dom previousSibling parentNode with
    | none => .error .nullDereference
    | some none =>
      let pushed := pushDocumentToFrontend w.dom w.agent
      if pushed.1 then .error .nullDereference
      else .ok (World.respond { w with agent := pushed.2 } (.didSetOuterHTML callId 0))
    | some (some newNode) => do
      let pushed ← pushReplacement w.dom newNode childrenRequested w.agent
      .ok { w with agent := pushed.2.send (.didSetOuterHTML callId pushed.1) }

def isTextNode (dom : Dom) (node : Node) : Bool :=
  dom.nodeType node = .text || dom.nodeType node = .cdataSection

/-- `Text::replaceWholeText`: the text siblings adjacent to `node` leave the tree, then `node`
takes the value, or leaves too when the value is empty. -/
def replaceWholeText (node : Node) (value : String) (w : World) : World :=
  match w.dom.parentNode node with
  | none => if value.isEmpty then w else { w with dom := w.dom.setNodeValue node value }
  | some parent =>
    let siblings := w.dom.childNodes parent
    let before := ((siblingsBefore siblings node).reverse.takeWhile (isTextNode w.dom)).reverse
    let after := (siblingsAfter siblings node).takeWhile (isTextNode w.dom)
    let w := (before ++ after).foldl (fun w text => w.removeChild parent text) w
    if value.isEmpty then w.removeChild parent node
    else { w with dom := w.dom.setNodeValue node value }

def setTextNodeValue (prims : Primitives) (callId nodeId : Nat) (value : String) (w : World) :
    World :=
  match nodeForId nodeId w.agent with
  | some node =>
    if w.dom.nodeType node = .text then
      if prims.replaceWholeText w.dom node value
      then (replaceWholeText node value w).respond (.didApplyDomChange callId true)
      else w.respond (.didApplyDomChange callId false)
    else w.respond (.didApplyDomChange callId false)
  | none => w.respond (.didApplyDomChange callId false)

/-- `buildObjectForEventListener` for each listener, in the order the code pushes them. -/
def pushListeners (dom : Dom) :
    List (Node × String × RegisteredEventListener) → Agent → Except Fault (List ListenerDesc × Agent)
  | [], st => .ok ([], st)
  | (node, type, listener) :: rest, st => do
    let pushed ← pushNodePathToFrontend dom node st
    let built ← pushListeners dom rest pushed.2
    .ok (⟨type,listener.useCapture,listener.isAttribute,pushed.1⟩ :: built.1, built.2)

/-- Ancestors top to bottom, then the node: capturing listeners in that order, then bubbling
listeners in the reverse order. -/
def getEventListenersForNode (prims : Primitives) (callId nodeId : Nat) (w : World) :
    Except Fault World :=
  let answer := fun (listeners : List ListenerDesc) (st : Agent) =>
    { w with agent := st.send (.didGetEventListenersForNode callId nodeId listeners) }
  match (nodeForId nodeId w.agent).bind fun node =>
      (prims.eventListeners w.dom node).map fun listenerMap => (node, listenerMap) with
  | none => .ok (answer [] w.agent)
  | some (node, listenerMap) =>
    let eventTypes := listenerMap.map (·.1)
    if eventTypes = [] then .ok (answer [] w.agent) else
    let listenersOf := fun (target : Node) (type : String) =>
      (((prims.eventListeners w.dom target).bind fun targetMap => targetMap.lookup type)).getD []
    let eventInformation :=
      ((prims.eventAncestors w.dom node).reverse.flatMap fun ancestor =>
        (eventTypes.filter fun type => !(listenersOf ancestor type).isEmpty).map fun type =>
          (ancestor, type, listenersOf ancestor type)) ++
      eventTypes.map fun type => (node, type, listenersOf node type)
    let capturing := eventInformation.flatMap fun info =>
      (info.2.2.filter (·.useCapture)).map fun listener => (info.1, info.2.1, listener)
    let bubbling := eventInformation.reverse.flatMap fun info =>
      (info.2.2.filter (!·.useCapture)).map fun listener => (info.1, info.2.1, listener)
    (pushListeners w.dom (capturing ++ bubbling) w.agent).map fun built => answer built.1 built.2

end InspectorDOM
