import InspectorDOM.Describe

/-! What the agent pushes to the frontend: the document, the children of a node, the path to a
node, and the records it sends when the tree reports an insertion, a removal, an attribute
change, or a load event of a listened document. -/

namespace InspectorDOM

def pushDocumentToFrontend (dom : Dom) (st : Agent) : Bool × Agent :=
  match st.mainFrameDocument with
  | none => (false, st)
  | some document =>
    if st.documentNodeToIdMap document ≠ 0 then (true, st) else
    let built := buildObjectForNode dom document 2 .live st
    (true, built.2.send (.setDocument (some built.1)))

def setChildrenRequested (nodeId : Nat) (requested : Bool) (st : Agent) : Agent :=
  { st with childrenRequested := Function.update st.childrenRequested nodeId requested }

/-- With no map recorded for `nodeId`, the children would be bound into a null map: that
dereferences null as soon as there is a child to bind. -/
def pushChildNodesToFrontend (dom : Dom) (nodeId : Nat) (st : Agent) : Except Fault Agent :=
  match nodeForId nodeId st with
  | none => .ok st
  | some node =>
    if !(dom.nodeType node).isContainer || st.childrenRequested nodeId then .ok st else
    match st.idToNodesMap nodeId with
    | some nodesMap =>
      let built := buildArrayForContainerChildren dom node 1 nodesMap st
      .ok ((setChildrenRequested nodeId true built.2).send (.setChildNodes nodeId built.1))
    | none =>
      if dom.innerChildren node = [] then
        .ok ((setChildrenRequested nodeId true (listen dom node st)).send (.setChildNodes nodeId []))
      else .error .nullDereference

/-- The ancestors the `while (true)` loop of `pushNodePathToFrontend` appends, nearest first,
up to the first one bound in the live map; `some root` when the walk instead ends at a node
without parent. `none` when `fuel` runs out, which a tree of `fuel` nodes never makes it do. -/
def pathToKnownAncestor (dom : Dom) (live : NodeToIdMap) :
    Nat → Node → Option (List Node × Option Node)
  | 0, _ => none
  | fuel + 1, node =>
    match dom.innerParentNode node with
    | none => some ([], some node)
    | some parent =>
      if live parent ≠ 0 then some ([parent], none) else
      (pathToKnownAncestor dom live fuel parent).map fun walk => (parent :: walk.1, walk.2)

/-- `new NodeToIdMap()`, appended to `m_danglingNodeToIdMaps`. -/
def allocateDanglingMap (st : Agent) : Agent :=
  { st with
    danglingMaps := Function.update st.danglingMaps st.nextDanglingMap fun _ => 0
    danglingNodeToIdMaps := st.danglingNodeToIdMaps ++ [st.nextDanglingMap]
    nextDanglingMap := st.nextDanglingMap + 1 }

/-- The detached root, described into a fresh detached map and sent as `setDetachedRoot`. -/
def pushDetachedRoot (dom : Dom) (root : Node) (st : Agent) : MapRef × Agent :=
  let nodesMap := MapRef.dangling st.nextDanglingMap
  let built := buildObjectForNode dom root 0 nodesMap (allocateDanglingMap st)
  (nodesMap, built.2.send (.setDetachedRoot built.1))

/-- The disclosure loop, farthest ancestor first: `pushChildNodesToFrontend(map->get(path[i]))`. -/
def pushPathChildren (dom : Dom) (nodesMap : MapRef) (path : List Node) (st : Agent) :
    Except Fault Agent :=
  path.reverse.foldlM (fun st ancestor =>
    pushChildNodesToFrontend dom (st.nodeToId nodesMap ancestor) st) st

def pushNodePathToFrontend (dom : Dom) (nodeToPush : Node) (st : Agent) :
    Except Fault (Nat × Agent) :=
  let pushed := pushDocumentToFrontend dom st
  let st := pushed.2
  if !pushed.1 then .ok (0, st) else
  if st.documentNodeToIdMap nodeToPush ≠ 0 then .ok (st.documentNodeToIdMap nodeToPush, st) else
  match pathToKnownAncestor dom st.documentNodeToIdMap (dom.size + 1) nodeToPush with
  | none => .error .endlessLoop
  | some (path, detachedRoot) =>
    let target := match detachedRoot with
      | some root => pushDetachedRoot dom root st
      | none => (.live, st)
    (pushPathChildren dom target.1 path target.2).map fun st => (st.nodeToId target.1 nodeToPush, st)

/-- The two event types the agent registers for on each listened document. -/
inductive Event where
  | domContentLoaded
  | load (target : Option Node)

def handleEvent (dom : Dom) (event : Event) (st : Agent) : Agent :=
  match event with
  | .domContentLoaded => (pushDocumentToFrontend dom (discardBindings st)).2
  | .load none => st
  | .load (some node) =>
    let frameOwnerId := st.documentNodeToIdMap node
    if frameOwnerId = 0 then st else
    if !st.childrenRequested frameOwnerId then
      (listen dom node st).send (.childNodeCountUpdated frameOwnerId (dom.innerChildNodeCount node))
    else
      let parentId := ((dom.innerParentNode node).map st.documentNodeToIdMap).getD 0
      let built := buildObjectForNode dom node 0 .live (st.send (.childNodeRemoved parentId frameOwnerId))
      let prevId := ((dom.innerPreviousSibling node).map built.2.documentNodeToIdMap).getD 0
      setChildrenRequested frameOwnerId false
        (built.2.send (.childNodeInserted parentId prevId built.1))

def didInsertDOMNode (dom : Dom) (node : Node) (st : Agent) : Agent :=
  if dom.isWhitespace node then st else
  let st := unbind dom node .live st
  match dom.parentNode node with
  | none => st
  | some parent =>
    let parentId := st.documentNodeToIdMap parent
    if parentId = 0 then st else
    if !st.childrenRequested parentId then
      (listen dom parent st).send (.childNodeCountUpdated parentId (dom.innerChildNodeCount parent))
    else
      let prevId := ((dom.innerPreviousSibling node).map st.documentNodeToIdMap).getD 0
      let built := buildObjectForNode dom node 0 .live st
      built.2.send (.childNodeInserted parentId prevId built.1)

/-- Called just before `node` leaves its parent, so `dom` still has it there. -/
def didRemoveDOMNode (dom : Dom) (node : Node) (st : Agent) : Agent :=
  if dom.isWhitespace node then st else
  match dom.parentNode node with
  | none => st
  | some parent =>
    let parentId := st.documentNodeToIdMap parent
    if parentId = 0 then st else
    let st := if !st.childrenRequested parentId then
        let st := listen dom parent st
        if dom.innerChildNodeCount parent = 1 then st.send (.childNodeCountUpdated parentId 0) else st
      else st.send (.childNodeRemoved parentId (st.documentNodeToIdMap node))
    unbind dom node .live st

def didModifyDOMAttr (dom : Dom) (element : Node) (st : Agent) : Agent :=
  let id := st.documentNodeToIdMap element
  if id = 0 then st else st.send (.attributesUpdated id (buildArrayForElementAttributes dom element))

def setDocument (dom : Dom) (doc : Option Node) (st : Agent) : Agent :=
  if doc = st.mainFrameDocument then st else
  let st := reset st
  match doc with
  | some document =>
    let st := startListening document st
    if (dom.documentElement document).isSome then (pushDocumentToFrontend dom st).2 else st
  | none => st.send (.setDocument none)

end InspectorDOM
