import InspectorDOM.Document

/-! The agent's state: the identity maps, the global index from ids back to nodes and to the
map that bound them, the disclosure tracker, the listened documents, the search queue and the
records sent to the frontend so far. `bind` and `unbind` are the only writers of the maps. -/

namespace InspectorDOM

/-- `HashMap<Node*, long>`; `get` answers 0 for an absent node. -/
abbrev NodeToIdMap := Node → Nat

/-- Which identity map: the live map `m_documentNodeToIdMap`, or the detached map that the
`handle`-th `new NodeToIdMap()` of `pushNodePathToFrontend` allocated. -/
inductive MapRef where
  | live
  | dangling (handle : Nat)
  deriving DecidableEq, Repr

/-- A node as `buildObjectForNode` serializes it; `children` is empty when the record
carries no children array. -/
inductive Desc where
  | mk (id : Nat) (nodeType : NodeType) (nodeName localName nodeValue : String)
      (childNodeCount : Option Nat) (children : List Desc) (attributes : Option (List String))
      (documentURL : Option String) (docType : Option (String × String × String))

namespace Desc

def id : Desc → Nat
  | mk id .. => id

def childNodeCount : Desc → Option Nat
  | mk _ _ _ _ _ count .. => count

def children : Desc → List Desc
  | mk _ _ _ _ _ _ children .. => children

end Desc

/-- The strategies of the `MatchJob` hierarchy; `MatchPlainTextJob` is an XPath job. -/
inductive MatchJob where
  | exactId (document : Node) (query : String)
  | exactClassNames (document : Node) (query : String)
  | exactTagNames (document : Node) (query : String)
  | querySelectorAll (document : Node) (query : String)
  | xpath (document : Node) (query : String)
  deriving DecidableEq, Repr

/-- `buildObjectForEventListener`, without the handler's body and source location. -/
structure ListenerDesc where
  type : String
  useCapture : Bool
  isAttribute : Bool
  nodeId : Nat

/-- One call on `RemoteInspectorFrontend`. The style replies say only whether they carried a
non-null value: their payloads come from the CSS store. -/
inductive Record where
  | setDocument (root : Option Desc)
  | setChildNodes (parentId : Nat) (children : List Desc)
  | childNodeCountUpdated (id count : Nat)
  | childNodeInserted (parentId prevId : Nat) (child : Desc)
  | childNodeRemoved (parentId id : Nat)
  | attributesUpdated (id : Nat) (attributes : List String)
  | setDetachedRoot (root : Desc)
  | addNodesToSearchResult (ids : List Nat)
  | didGetChildNodes (callId : Nat)
  | didApplyDomChange (callId : Nat) (success : Bool)
  | didRemoveNode (callId nodeId : Nat)
  | didChangeTagName (callId nodeId : Nat)
  | didGetOuterHTML (callId : Nat) (outerHTML : String)
  | didSetOuterHTML (callId nodeId : Nat)
  | didGetEventListenersForNode (callId nodeId : Nat) (listeners : List ListenerDesc)
  | didPushNodeByPathToFrontend (callId nodeId : Nat)
  | didGetStyles (callId : Nat) (found : Bool)
  | didGetAllStyles (callId : Nat)
  | didGetStyleSheet (callId : Nat) (found : Bool)
  | didGetInlineStyle (callId : Nat) (found : Bool)
  | didGetComputedStyle (callId : Nat) (found : Bool)
  | didApplyStyleText (callId : Nat) (success : Bool)
  | didSetStyleText (callId : Nat) (success : Bool)
  | didSetStyleProperty (callId : Nat) (success : Bool)
  | didToggleStyleEnabled (callId : Nat) (found : Bool)
  | didSetRuleSelector (callId : Nat) (found affectsNode : Bool)
  | didAddRule (callId : Nat) (found affectsNode : Bool)

/-- The call a record answers: each `did…` record carries the call id of its request. -/
def Record.answeredCall : Record → Option Nat
  | .didGetChildNodes callId | .didApplyDomChange callId _ | .didRemoveNode callId _
  | .didChangeTagName callId _ | .didGetOuterHTML callId _ | .didSetOuterHTML callId _
  | .didGetEventListenersForNode callId _ _ | .didPushNodeByPathToFrontend callId _
  | .didGetStyles callId _ | .didGetAllStyles callId | .didGetStyleSheet callId _
  | .didGetInlineStyle callId _ | .didGetComputedStyle callId _ | .didApplyStyleText callId _
  | .didSetStyleText callId _ | .didSetStyleProperty callId _ | .didToggleStyleEnabled callId _
  | .didSetRuleSelector callId _ _ | .didAddRule callId _ _ => some callId
  | _ => none

structure Agent where
  documentNodeToIdMap : NodeToIdMap
  danglingMaps : Nat → NodeToIdMap
  danglingNodeToIdMaps : List Nat
  nextDanglingMap : Nat
  idToNode : Nat → Option Node
  idToNodesMap : Nat → Option MapRef
  childrenRequested : Nat → Bool
  lastNodeId : Nat
  documents : List Node
  inspectedNodes : List Nat
  pendingMatchJobs : List MatchJob
  searchResults : List Node
  matchJobsTimerActive : Bool
  frontend : List Record

/-- The constructor: no bindings, ids start at 1. -/
def inspectorDOMAgent : Agent where
  documentNodeToIdMap := fun _ => 0
  danglingMaps := fun _ _ => 0
  danglingNodeToIdMaps := []
  nextDanglingMap := 0
  idToNode := fun _ => none
  idToNodesMap := fun _ => none
  childrenRequested := fun _ => false
  lastNodeId := 1
  documents := []
  inspectedNodes := []
  pendingMatchJobs := []
  searchResults := []
  matchJobsTimerActive := false
  frontend := []

namespace Agent

variable (st : Agent)

def nodeToId : MapRef → NodeToIdMap
  | .live => st.documentNodeToIdMap
  | .dangling handle => st.danglingMaps handle

def setNodeToId : MapRef → NodeToIdMap → Agent
  | .live, map => { st with documentNodeToIdMap := map }
  | .dangling handle, map => { st with danglingMaps := Function.update st.danglingMaps handle map }

/-- The maps that exist: the live map and the detached maps not yet released. -/
def IsCurrent : MapRef → Prop
  | .live => True
  | .dangling handle => handle ∈ st.danglingNodeToIdMaps

def send (record : Record) : Agent := { st with frontend := st.frontend ++ [record] }

def mainFrameDocument : Option Node := st.documents.head?

/-- The search in progress: the nodes reported since the last `searchCanceled`, the jobs still
queued, and whether the timer is armed. -/
def search : List Node × List MatchJob × Bool :=
  (st.searchResults,st.pendingMatchJobs,st.matchJobsTimerActive)

end Agent

def startListening (document : Node) (st : Agent) : Agent :=
  if document ∈ st.documents then st else { st with documents := st.documents ++ [document] }

def stopListening (document : Node) (st : Agent) : Agent :=
  if document ∈ st.documents then { st with documents := st.documents.erase document } else st

/-- The side effect of `innerFirstChild(node)`: listening to a frame owner's content document. -/
def listen (dom : Dom) (node : Node) (st : Agent) : Agent :=
  match dom.frameDocument node with
  | some document => startListening document st
  | none => st

/-- The first step of `unbind`: a frame owner's content document is no longer listened to. -/
def unlisten (dom : Dom) (node : Node) (st : Agent) : Agent :=
  match dom.frameDocument node with
  | some document => stopListening document st
  | none => st

def bind (node : Node) (nodesMap : MapRef) (st : Agent) : Nat × Agent :=
  if st.nodeToId nodesMap node ≠ 0 then (st.nodeToId nodesMap node, st) else
  let id := st.lastNodeId
  (id, { st.setNodeToId nodesMap (Function.update (st.nodeToId nodesMap) node id) with
    lastNodeId := id + 1
    idToNode := Function.update st.idToNode id (some node)
    idToNodesMap := Function.update st.idToNodesMap id (some nodesMap) })

/-- `unbind` with the depth of its recursion bounded by `fuel`; a path of visible children
in a tree of `dom.size` nodes never needs more than `dom.size + 1`. -/
def unbindWith (dom : Dom) : Nat → Node → MapRef → Agent → Agent
  | 0, _, _, st => st
  | fuel + 1, node, nodesMap, st =>
    let st := unlisten dom node st
    let id := st.nodeToId nodesMap node
    if id = 0 then st else
    let st := { st.setNodeToId nodesMap (Function.update (st.nodeToId nodesMap) node 0) with
      idToNode := Function.update st.idToNode id none }
    if st.childrenRequested id then
      let st := listen dom node
        { st with childrenRequested := Function.update st.childrenRequested id false }
      (dom.innerChildren node).foldl (fun st child => unbindWith dom fuel child nodesMap st) st
    else st

def unbind (dom : Dom) (node : Node) (nodesMap : MapRef) (st : Agent) : Agent :=
  unbindWith dom (dom.size + 1) node nodesMap st

/-- `unbind` is a chain of `unlisten` calls, entry removals and `listen` calls, so a reflexive and
transitive relation between states that each of them keeps holds across a whole `unbind`. -/
structure UnbindChain (dom : Dom) (keeps : Agent → Agent → Prop) : Prop where
  refl : ∀ st, keeps st st
  trans : ∀ {st st' st''}, keeps st st' → keeps st' st'' → keeps st st''
  unlistened : ∀ node st, keeps st (unlisten dom node st)
  removed : ∀ nodesMap node id requested st, keeps st
    { st.setNodeToId nodesMap (Function.update (st.nodeToId nodesMap) node 0) with
      idToNode := Function.update st.idToNode id none
      childrenRequested := requested }
  listened : ∀ node st, keeps st (listen dom node st)

theorem UnbindChain.unbindWith {dom : Dom} {keeps : Agent → Agent → Prop} (chain : UnbindChain dom keeps) :
    ∀ fuel node nodesMap st, keeps st (InspectorDOM.unbindWith dom fuel node nodesMap st)
  | 0, _, _, st => chain.refl st
  | fuel + 1, node, nodesMap, st => by
    have unlistened := chain.unlistened node st
    simp only [InspectorDOM.unbindWith]
    split
    · exact unlistened
    · split
      · refine List.foldlRecOn (motive := keeps st) _ _ _ ?_ fun _ before child _ =>
          chain.trans before (chain.unbindWith fuel child nodesMap _)
        exact chain.trans unlistened (chain.trans (chain.removed _ _ _ _ _) (chain.listened _ _))
      · exact chain.trans unlistened (chain.removed _ _ _ _ _)

def nodeForId (id : Nat) (st : Agent) : Option Node :=
  if id = 0 then none else st.idToNode id

def releaseDanglingNodes (st : Agent) : Agent :=
  { st with danglingMaps := fun _ _ => 0, danglingNodeToIdMaps := [] }

def discardBindings (st : Agent) : Agent :=
  { releaseDanglingNodes
      { st with documentNodeToIdMap := fun _ => 0, idToNode := fun _ => none } with
    childrenRequested := fun _ => false, inspectedNodes := [] }

def searchCanceled (st : Agent) : Agent :=
  { st with matchJobsTimerActive := false, pendingMatchJobs := [], searchResults := [] }

def reset (st : Agent) : Agent :=
  let st := discardBindings (searchCanceled st)
  st.documents.foldl (fun st document => stopListening document st) st

theorem stopListening_eq (document : Node) (st : Agent) :
    stopListening document st = { st with documents := st.documents.erase document } := by
  unfold stopListening
  split
  · rfl
  · rw [List.erase_of_not_mem ‹_›]

theorem foldl_stopListening (documents : List Node) (st : Agent) :
    documents.foldl (fun st document => stopListening document st) st =
      { st with documents := documents.foldl List.erase st.documents } := by
  induction documents generalizing st with
  | nil => rfl
  | cons document documents ih => rw [List.foldl_cons,stopListening_eq,ih]; rfl

/-- Erasing every element of a list from it, once each, leaves nothing. -/
theorem foldl_erase_self (documents : List Node) : documents.foldl List.erase documents = [] := by
  induction documents with
  | nil => rfl
  | cons document documents ih => simpa only [List.foldl_cons,List.erase_cons_head] using ih

/-- `reset` stops listening to every document it listened to. -/
theorem reset_eq (st : Agent) : reset st = { discardBindings (searchCanceled st) with documents := [] } := by
  simp only [reset,foldl_stopListening]
  rw [foldl_erase_self]

def addInspectedNode (nodeId : Nat) (st : Agent) : Agent :=
  { st with inspectedNodes := (nodeId :: st.inspectedNodes).take 5 }

def inspectedNode (num : Nat) (st : Agent) : Nat := st.inspectedNodes.getD num 0

end InspectorDOM
