import InspectorDOM.Described

/-! The frontend's mirror of the tree. For a node bound in the live map whose children the
frontend asked for, the child list it rebuilt from the records is the list of ids of the children
the agent visits under it; for one whose children it did not ask for, the count it last heard is
positive exactly when it has such children. This holds on tidy trees, frames included, as long as
the main document is no frame's, a bound node never becomes whitespace, no document is inserted,
and no edit is made under a frame owner or a content document: each of the agent's handlers, and
each insertion and removal the tree reports, keeps it. -/

namespace InspectorDOM

theorem Agent.mainFrameDocument_of_documents {st st' : Agent} (documents : st'.documents = st.documents) :
    st'.mainFrameDocument = st.mainFrameDocument := by
  simp [Agent.mainFrameDocument,documents]

theorem Agent.observer_of_frontend {st st' : Agent} (frontend : st'.frontend = st.frontend) :
    st'.observer = st.observer := by
  simp [Agent.observer,frontend]

@[simp] theorem Agent.send_documentNodeToIdMap (st : Agent) (record : Record) :
    (st.send record).documentNodeToIdMap = st.documentNodeToIdMap := rfl

@[simp] theorem Agent.send_childrenRequested (st : Agent) (record : Record) :
    (st.send record).childrenRequested = st.childrenRequested := rfl

@[simp] theorem Agent.send_documents (st : Agent) (record : Record) : (st.send record).documents = st.documents := rfl

@[simp] theorem setChildrenRequested_documentNodeToIdMap (nodeId : Nat) (requested : Bool) (st : Agent) :
    (setChildrenRequested nodeId requested st).documentNodeToIdMap = st.documentNodeToIdMap := rfl

@[simp] theorem setChildrenRequested_childrenRequested (nodeId : Nat) (requested : Bool) (st : Agent) :
    (setChildrenRequested nodeId requested st).childrenRequested =
      Function.update st.childrenRequested nodeId requested := rfl

@[simp] theorem setChildrenRequested_documents (nodeId : Nat) (requested : Bool) (st : Agent) :
    (setChildrenRequested nodeId requested st).documents = st.documents := rfl

@[simp] theorem setChildrenRequested_observer (nodeId : Nat) (requested : Bool) (st : Agent) :
    (setChildrenRequested nodeId requested st).observer = st.observer := rfl

@[simp] theorem listen_documentNodeToIdMap (dom : Dom) (node : Node) (st : Agent) :
    (listen dom node st).documentNodeToIdMap = st.documentNodeToIdMap := (listen_same dom node st).live

@[simp] theorem listen_childrenRequested (dom : Dom) (node : Node) (st : Agent) :
    (listen dom node st).childrenRequested = st.childrenRequested := (listen_same dom node st).requested

@[simp] theorem listen_observer (dom : Dom) (node : Node) (st : Agent) : (listen dom node st).observer = st.observer :=
  Agent.observer_of_frontend (listen_frontend dom node st)

theorem Dom.visible_of_container {dom : Dom} {node : Node} (container : (dom.nodeType node).isContainer) :
    dom.visible node = true := by
  simp only [Dom.visible,Dom.isWhitespace,Bool.not_eq_true']
  cases type : dom.nodeType node <;> simp_all [NodeType.isContainer]

/-- The bookkeeping the mirror relies on: a consistent index, a tidy tree, a main document that is a
document no frame owns and is bound in the live map as soon as anything is, a document listened to
as soon as any id is handed out, and bound nodes the agent's walks can reach. -/
structure Sound (w : World) : Prop where
  consistent : Consistent w.agent
  tidy : Tidy w.dom
  mainDocument : ∀ document, w.agent.mainFrameDocument = some document →
    w.dom.nodeType document = .document ∧ w.dom.ownerElement document = none
  anchored : ∀ node, w.agent.documentNodeToIdMap node ≠ 0 →
    ∃ document, w.agent.mainFrameDocument = some document ∧ w.agent.documentNodeToIdMap document ≠ 0
  listening : ∀ id node, w.agent.idToNode id = some node → w.agent.documents ≠ []
  placed : ∀ node, w.agent.documentNodeToIdMap node ≠ 0 → w.dom.Placed node

/-- What the frontend holds for a bound node whose children it asked for: the ids of the node's
visible children, in order, all of them bound. -/
def ChildrenMirrored (w : World) (node : Node) : Prop :=
  w.agent.observer.children (w.agent.documentNodeToIdMap node) = w.liveChildIds node ∧
    ∀ child ∈ w.dom.innerChildren node, w.agent.documentNodeToIdMap child ≠ 0

/-- What the frontend holds for a bound container whose children it did not ask for: a count that
is positive exactly when the container has visible children. -/
def CountMirrored (w : World) (node : Node) : Prop :=
  (w.dom.nodeType node).isContainer → ∃ count,
    w.agent.observer.childCount (w.agent.documentNodeToIdMap node) = some count ∧
      (0 < count ↔ 0 < w.dom.innerChildNodeCount node)

/-- The mirror at one node bound in the live map, by whether its children were requested. -/
def NodeMirrored (w : World) (node : Node) : Prop :=
  (w.agent.childrenRequested (w.agent.documentNodeToIdMap node) = true → ChildrenMirrored w node) ∧
    (w.agent.childrenRequested (w.agent.documentNodeToIdMap node) = false → CountMirrored w node)

structure Mirrored (w : World) extends Sound w : Prop where
  nodes : ∀ node, w.agent.documentNodeToIdMap node ≠ 0 → NodeMirrored w node

namespace Sound

variable {w : World} (sound : Sound w)
include sound

/-- Two nodes bound under one id in the live map are one node. -/
theorem injective {node other : Node} (bound : w.agent.documentNodeToIdMap node ≠ 0)
    (same : w.agent.documentNodeToIdMap other = w.agent.documentNodeToIdMap node) : other = node :=
  (@Consistent.entry_unique _ sound.consistent .live .live _ _ bound same).2

/-- The ids of a list of distinct bound nodes are distinct. -/
theorem nodup_ids {nodes : List Node} (nodup : nodes.Nodup) (bound : ∀ node ∈ nodes, w.agent.documentNodeToIdMap node ≠ 0) :
    (nodes.map w.agent.documentNodeToIdMap).Nodup :=
  nodup.map_on fun _ _ b mem same => sound.injective (bound b mem) same

theorem visible {node : Node} (bound : w.agent.documentNodeToIdMap node ≠ 0) : w.dom.visible node = true :=
  (sound.placed node bound).1

/-- A node bound in the live map is listened to. -/
theorem listening_of_bound {node : Node} (bound : w.agent.documentNodeToIdMap node ≠ 0) : w.agent.documents ≠ [] :=
  sound.listening _ node (sound.consistent.bound .live node bound).1

/-- What `unbind` needs of the agent: a main document no frame owns, and nothing bound while no
document is listened to. -/
theorem unowned (document : Node) (main : w.agent.mainFrameDocument = some document) :
    w.dom.ownerElement document = none :=
  (sound.mainDocument document main).2

theorem unbound_of_empty (empty : w.agent.documents = []) (node : Node) : w.agent.documentNodeToIdMap node = 0 :=
  by_contra fun bound => sound.listening_of_bound bound empty

/-- Nothing is bound in the live map while the main document is not. -/
theorem unbound_of_main {document : Node} (main : w.agent.mainFrameDocument = some document)
    (unbound : w.agent.documentNodeToIdMap document = 0) (node : Node) : w.agent.documentNodeToIdMap node = 0 := by
  by_contra bound
  obtain ⟨other,main',bound'⟩ := sound.anchored node bound
  rw [main] at main'
  cases main'
  exact bound' unbound

end Sound

theorem CountMirrored.of_countField {w : World} {node : Node}
    (counted : w.agent.observer.childCount (w.agent.documentNodeToIdMap node) = countField w.dom node) :
    CountMirrored w node := fun container =>
  ⟨_,by rw [counted,countField,if_pos container],Iff.rfl⟩

/-- A change of the agent alone keeps the bookkeeping when it keeps the main document and the live
entries, hands out ids only with a document listened to, and every node it newly binds is placed
and comes with the main document bound. -/
theorem Sound.of_agent {dom : Dom} {st st' : Agent} (sound : Sound ⟨dom,st⟩) (consistent : Consistent st')
    (main : st'.mainFrameDocument = st.mainFrameDocument)
    (listening : ∀ id node, st'.idToNode id = some node → st'.documents ≠ [])
    (kept : ∀ node, st.documentNodeToIdMap node ≠ 0 → st'.documentNodeToIdMap node = st.documentNodeToIdMap node)
    (newly : ∀ node, st'.documentNodeToIdMap node ≠ 0 → st.documentNodeToIdMap node = 0 →
      dom.Placed node ∧ ∃ document, st.mainFrameDocument = some document ∧ st'.documentNodeToIdMap document ≠ 0) :
    Sound ⟨dom,st'⟩ where
  consistent := consistent
  tidy := sound.tidy
  mainDocument document found := sound.mainDocument document (main ▸ found)
  anchored node bound := by
    rw [main]
    by_cases old : st.documentNodeToIdMap node = 0
    · exact (newly node bound old).2
    · obtain ⟨document,found,bound'⟩ := sound.anchored node old
      exact ⟨document,found,(kept document bound') ▸ bound'⟩
  listening := listening
  placed node bound := by
    by_cases old : st.documentNodeToIdMap node = 0
    · exact (newly node bound old).1
    · exact sound.placed node old

/-- After a build from a state listening to a document, every id is handed out with one listened to. -/
theorem listening_of_main {st st' : Agent} (main : st'.mainFrameDocument = st.mainFrameDocument)
    (present : st.documents ≠ []) : ∀ id node, st'.idToNode id = some node → st'.documents ≠ [] :=
  fun _ _ _ => Agent.documents_ne_nil_of_main main present

/-- The facts at a node carry over when nothing they read changed. -/
theorem NodeMirrored.transfer {w w' : World} {node : Node} (facts : NodeMirrored w node)
    (id : w'.agent.documentNodeToIdMap node = w.agent.documentNodeToIdMap node)
    (requested : w'.agent.childrenRequested (w.agent.documentNodeToIdMap node) =
      w.agent.childrenRequested (w.agent.documentNodeToIdMap node))
    (inner : w'.dom.innerChildren node = w.dom.innerChildren node) (type : w'.dom.nodeType node = w.dom.nodeType node)
    (children : ∀ child ∈ w.dom.innerChildren node,
      w'.agent.documentNodeToIdMap child = w.agent.documentNodeToIdMap child)
    (observed : w'.agent.observer.children (w.agent.documentNodeToIdMap node) =
      w.agent.observer.children (w.agent.documentNodeToIdMap node))
    (counted : w'.agent.observer.childCount (w.agent.documentNodeToIdMap node) =
      w.agent.observer.childCount (w.agent.documentNodeToIdMap node)) :
    NodeMirrored w' node := by
  unfold NodeMirrored ChildrenMirrored CountMirrored World.liveChildIds Dom.innerChildNodeCount
  rw [id,requested,inner,type,observed,counted,List.map_congr_left children]
  refine ⟨fun isRequested => ?_,facts.2⟩
  obtain ⟨mirrored,bound⟩ := facts.1 isRequested
  exact ⟨mirrored,fun child mem => (children child mem) ▸ bound child mem⟩

namespace Mirrored

variable {dom : Dom} {st : Agent}

/-- A change of the agent that keeps the live map, the index, the requests, the listened documents
and what the frontend was told keeps the mirror. -/
theorem of_live {st' : Agent} (mirrored : Mirrored ⟨dom,st⟩) (consistent : Consistent st')
    (live : st'.documentNodeToIdMap = st.documentNodeToIdMap) (indexed : st'.idToNode = st.idToNode)
    (requested : st'.childrenRequested = st.childrenRequested)
    (documents : st'.documents = st.documents) (observer : st'.observer = st.observer) : Mirrored ⟨dom,st'⟩ where
  toSound := mirrored.toSound.of_agent consistent (Agent.mainFrameDocument_of_documents documents)
    (fun id node found => documents ▸ mirrored.listening id node (indexed ▸ found)) (fun node _ => congrFun live node)
    fun node bound old => absurd ((congrFun live node).trans old) bound
  nodes node bound := by
    have same := congrFun live
    refine (mirrored.nodes node ((same node) ▸ bound)).transfer (same node) (by rw [requested]) rfl rfl
      (fun child _ => same child) ?_ ?_ <;> rw [observer]

theorem of_same {st' : Agent} (mirrored : Mirrored ⟨dom,st⟩) (same : SameBindings st' st)
    (documents : st'.documents = st.documents) (observer : st'.observer = st.observer) : Mirrored ⟨dom,st'⟩ :=
  mirrored.of_live (mirrored.consistent.of_same same) same.live same.idToNode same.requested documents observer

/-- A change of the tree that keeps every node's type and owner, leaves every bound node placed,
and keeps the visited children of every bound node, keeps the mirror. -/
theorem of_dom {dom' : Dom} (mirrored : Mirrored ⟨dom,st⟩) (tidy : Tidy dom') (type : dom'.nodeType = dom.nodeType)
    (owner : dom'.ownerElement = dom.ownerElement)
    (placed : ∀ node, st.documentNodeToIdMap node ≠ 0 → dom'.Placed node)
    (inner : ∀ node, st.documentNodeToIdMap node ≠ 0 → dom'.innerChildren node = dom.innerChildren node) :
    Mirrored ⟨dom',st⟩ where
  consistent := mirrored.consistent
  tidy := tidy
  mainDocument document main := type ▸ owner ▸ mirrored.mainDocument document main
  anchored := mirrored.anchored
  listening := mirrored.listening
  placed := placed
  nodes node bound := (mirrored.nodes node bound).transfer rfl rfl (inner node bound) (congrFun type node)
    (fun _ _ => rfl) rfl rfl

/-- With nothing bound, the mirror holds whatever the frontend was told. -/
theorem of_unbound (sound : Sound ⟨dom,st⟩) (unbound : ∀ node, st.documentNodeToIdMap node = 0) :
    Mirrored ⟨dom,st⟩ :=
  ⟨sound,fun node bound => absurd (unbound node) bound⟩

end Mirrored

namespace NodeMirrored

variable {dom : Dom} {st : Agent}

/-- After a build the frontend learns, a container bound in the live map whose children were not
asked for has the right count: it was described, or it was bound before and kept its count. -/
theorem count_learned {nodesMap : MapRef} {descs : List Desc} {st' : Agent} {node : Node}
    (facts : st.documentNodeToIdMap node ≠ 0 → NodeMirrored ⟨dom,st⟩ node)
    (described : Described dom nodesMap st descs st') (stable : Stable nodesMap st st') (consistent : Consistent st')
    (bound : st'.documentNodeToIdMap node ≠ 0)
    (unrequested : st.childrenRequested (st'.documentNodeToIdMap node) = false) (container : (dom.nodeType node).isContainer) :
    ∃ count, (st.observer.learnAll descs).childCount (st'.documentNodeToIdMap node) = some count ∧
      (0 < count ↔ 0 < dom.innerChildNodeCount node) := by
  rcases described.learnAll_childCount stable consistent st.observer bound with counted | ⟨same,counted⟩
  · exact ⟨_,by rw [counted,countField,if_pos container],Iff.rfl⟩
  · rw [same] at unrequested counted ⊢
    rw [counted]
    exact (facts (same ▸ bound)).2 unrequested container

/-- After a build, a node bound in the live map whose children were asked for was bound before,
under the same id, and so were its visited children. -/
theorem children_kept {nodesMap : MapRef} {st' : Agent} {node : Node} (consistent0 : Consistent st)
    (facts : st.documentNodeToIdMap node ≠ 0 → NodeMirrored ⟨dom,st⟩ node) (stable : Stable nodesMap st st')
    (bound : st'.documentNodeToIdMap node ≠ 0)
    (requested : st.childrenRequested (st'.documentNodeToIdMap node) = true) :
    st'.documentNodeToIdMap node = st.documentNodeToIdMap node ∧
      ChildrenMirrored ⟨dom,st⟩ node ∧
      ∀ child ∈ dom.innerChildren node, st'.documentNodeToIdMap child = st.documentNodeToIdMap child := by
  have same := stable.requested consistent0 requested
  have mirrored := (facts (same ▸ bound)).1 (same ▸ requested)
  exact ⟨same,mirrored,fun child mem => stable.liveKept child (mirrored.2 child mem)⟩

/-- After a build from `st`, a node bound in the live map keeps its facts when the frontend
learned the build's descriptions, kept its list for the node's id if the node's children were
asked for, and the node's request flag is the one it had. -/
theorem of_build {nodesMap : MapRef} {descs : List Desc} {st1 st' : Agent} {node : Node}
    (consistent0 : Consistent st) (facts : st.documentNodeToIdMap node ≠ 0 → NodeMirrored ⟨dom,st⟩ node)
    (described : Described dom nodesMap st descs st1) (stable : Stable nodesMap st st1) (consistent : Consistent st1)
    (live : st'.documentNodeToIdMap = st1.documentNodeToIdMap) (bound : st'.documentNodeToIdMap node ≠ 0)
    (requested : st'.childrenRequested (st'.documentNodeToIdMap node) = st.childrenRequested (st'.documentNodeToIdMap node))
    (observed : st.childrenRequested (st'.documentNodeToIdMap node) = true →
      st'.observer.children (st'.documentNodeToIdMap node) = st.observer.children (st'.documentNodeToIdMap node))
    (counted : st'.observer.childCount (st'.documentNodeToIdMap node) =
      (st.observer.learnAll descs).childCount (st'.documentNodeToIdMap node)) :
    NodeMirrored ⟨dom,st'⟩ node := by
  simp only [NodeMirrored,ChildrenMirrored,CountMirrored,World.liveChildIds] at requested observed counted ⊢
  rw [requested,counted,live]
  rw [live] at bound observed
  refine ⟨fun isRequested => ?_,fun unrequested container => count_learned facts described stable consistent
    bound unrequested container⟩
  obtain ⟨same,mirrored,children⟩ := children_kept consistent0 facts stable bound isRequested
  refine ⟨?_,fun child mem => (children child mem) ▸ mirrored.2 child mem⟩
  rw [observed isRequested,same,mirrored.1]
  exact List.map_congr_left fun child mem => (children child mem).symm

end NodeMirrored

namespace Mirrored

variable {dom : Dom} {st : Agent}

/-- `pushDocumentToFrontend` describes the main document when it is not bound, which on a mirrored
world means that nothing is: the frontend starts over from that description, and every node it
binds is new, so its children were not asked for and its description carries its count. -/
theorem pushDocumentToFrontend (mirrored : Mirrored ⟨dom,st⟩) :
    Mirrored ⟨dom,(InspectorDOM.pushDocumentToFrontend dom st).2⟩ := by
  unfold InspectorDOM.pushDocumentToFrontend
  split
  · exact mirrored
  · rename_i document main
    split
    · exact mirrored
    · rename_i unbound
      have empty : ∀ node, st.documentNodeToIdMap node = 0 := mirrored.unbound_of_main main (not_not.mp unbound)
      have positive := mirrored.consistent.positive
      obtain ⟨isDocument,unowned⟩ := mirrored.mainDocument document main
      have present : st.documents ≠ [] := fun empty => by simp [Agent.mainFrameDocument,empty] at main
      have root : dom.Placed document :=
        ⟨Dom.visible_of_container (by rw [isDocument]; rfl),
          fun _ linked => (by rw [mirrored.tidy.documents document isDocument] at linked; cases linked),fun _ => unowned⟩
      obtain ⟨described,stable,entered⟩ := buildObjectForNode_builds dom .live dom.Placed
        (fun _ _ mem => mirrored.tidy.placed_of_mem mem) document root 2 st positive
      dsimp only at described stable entered ⊢
      have self := buildObjectWith_entered dom document .live
        (fun st _ => (stableChain dom .live).buildArrayForContainerChildren 2 document st) st positive
      have consistent := ((growsChain dom .live).buildObjectForNode document 2 st mirrored.consistent trivial).consistent
      have requested := (requestedChain dom .live).buildObjectForNode document 2 st
      have kept := (mainChain dom .live).buildObjectForNode document 2 st present
      refine ⟨mirrored.toSound.of_agent (consistent.of_same (send_same _ _)) kept (listening_of_main kept present)
        (fun node bound => absurd (empty node) bound) fun node bound old =>
          ⟨entered node (fun same => bound (same.trans old)),document,main,fun gone => self.1 (self.2.symm.trans gone)⟩,
        fun node bound => ⟨fun isRequested => ?_,fun _ => CountMirrored.of_countField ?_⟩⟩
      · -- a new id is not requested
        have below := mirrored.consistent.requested_below (requested ▸ isRequested)
        exact absurd below (Nat.not_lt.mpr (stable.fresh node fun same => bound (same.trans (empty node))))
      · rcases described.learnAll_childCount stable consistent Observer.empty bound with counted | ⟨same,-⟩
        · dsimp only
          rw [Agent.observer_send]
          exact counted
        · exact absurd (same.trans (empty node)) bound

/-- `pushChildNodesToFrontend` of a bound container whose children were not asked for, in the map
that bound it: the frontend's list for its id becomes the ids of its visible children, every node
the build binds is described, and every other node keeps its facts. -/
theorem setChildNodes (mirrored : Mirrored ⟨dom,st⟩) {nodeId : Nat} {node : Node} {nodesMap : MapRef}
    (found : st.idToNode nodeId = some node) (owner : st.idToNodesMap nodeId = some nodesMap)
    (consistent : Consistent ((setChildrenRequested nodeId true (buildArrayForContainerChildren dom node 1 nodesMap st).2).send
      (.setChildNodes nodeId (buildArrayForContainerChildren dom node 1 nodesMap st).1))) :
    Mirrored ⟨dom,(setChildrenRequested nodeId true (buildArrayForContainerChildren dom node 1 nodesMap st).2).send
      (.setChildNodes nodeId (buildArrayForContainerChildren dom node 1 nodesMap st).1)⟩ := by
  have consistent0 : Consistent st := mirrored.consistent
  have positive := consistent0.positive
  have ids := buildArrayForContainerChildren_ids dom nodesMap node 0 st positive
  obtain ⟨described,stable,entered⟩ := buildArrayForContainerChildren_builds dom nodesMap dom.Placed
    (fun _ _ mem => mirrored.tidy.placed_of_mem mem) 1 node st positive
  have grown := (growsChain dom nodesMap).buildArrayForContainerChildren 1 node st consistent0
    (consistent0.owner_current found owner)
  have requested := (requestedChain dom nodesMap).buildArrayForContainerChildren 1 node st
  have present : st.documents ≠ [] := mirrored.listening nodeId node found
  have kept := (mainChain dom nodesMap).buildArrayForContainerChildren 1 node st present
  have frontend := (frontendChain dom nodesMap).buildArrayForContainerChildren 1 node st
  have below := consistent0.indexed_below found
  obtain ⟨nonzero,indexedIn,entry⟩ := consistent0.indexed nodeId node found
  generalize buildArrayForContainerChildren dom node 1 nodesMap st = built at *
  obtain ⟨descs,st1⟩ := built
  dsimp only at *
  -- the pushed node is bound in the live map only when `nodesMap` is the live map
  have live : ∀ n, st1.documentNodeToIdMap n = nodeId → n = node ∧ nodesMap = .live := by
    intro n named
    have old : st.documentNodeToIdMap n = nodeId := by
      by_contra differs
      exact absurd below (Nat.not_lt.mpr (named ▸ stable.liveFresh n (named ▸ Ne.symm differs)))
    obtain ⟨found',owner',-⟩ := consistent0.bound .live n (by rw [Agent.nodeToId_live,old]; exact nonzero)
    rw [Agent.nodeToId_live,old,found] at found'
    rw [Agent.nodeToId_live,old,owner] at owner'
    exact ⟨(Option.some.inj found').symm,Option.some.inj owner'⟩
  refine ⟨mirrored.toSound.of_agent consistent kept (listening_of_main kept present) stable.liveKept
    fun n bound old => ?_,fun n bound => ?_⟩
  · -- a node newly bound in the live map was built under a node bound there
    have changed : st1.documentNodeToIdMap n ≠ st.documentNodeToIdMap n := fun same => bound (same.trans old)
    cases nodesMap with
    | dangling _ => exact absurd (congrFun (stable.others .live nofun) n) changed
    | live =>
      obtain ⟨-,owner',-⟩ := consistent0.bound indexedIn node (by rw [entry]; exact nonzero)
      rw [entry,owner] at owner'
      cases owner'
      obtain ⟨document,main,bound'⟩ := mirrored.anchored node (by rw [← Agent.nodeToId_live,entry]; exact nonzero)
      exact ⟨entered n changed,document,main,(stable.liveKept document bound') ▸ bound'⟩
  · by_cases atNode : st1.documentNodeToIdMap n = nodeId
    · obtain ⟨rfl,rfl⟩ := live n atNode
      simp only [NodeMirrored,ChildrenMirrored,World.liveChildIds,Agent.observer_send,Agent.send_documentNodeToIdMap,
        Agent.send_childrenRequested,setChildrenRequested_documentNodeToIdMap,setChildrenRequested_childrenRequested,
        setChildrenRequested_observer,Observer.receive_setChildNodes_children,atNode,Function.update_same]
      refine ⟨fun _ => ⟨ids,fun child mem => ?_⟩,nofun⟩
      obtain ⟨desc,mem',named⟩ := List.mem_map.mp (ids ▸ List.mem_map_of_mem _ mem)
      rw [← Agent.nodeToId_live,← named]
      exact (described.faithful desc (Desc.mem_describedList mem')).1
    · exact NodeMirrored.of_build consistent0 (mirrored.nodes n) described stable grown.consistent (by rfl) bound
        (by simp [requested,atNode]) (fun _ => by simp [Agent.observer_of_frontend frontend,atNode])
        (by rw [Agent.observer_send,setChildrenRequested_observer,Agent.observer_of_frontend frontend]; rfl)

theorem pushChildNodesToFrontend (mirrored : Mirrored ⟨dom,st⟩) {nodeId : Nat} {st' : Agent}
    (ok : InspectorDOM.pushChildNodesToFrontend dom nodeId st = .ok st') : Mirrored ⟨dom,st'⟩ := by
  have consistent := pushChildNodesToFrontend_consistent dom nodeId mirrored.consistent ok
  unfold InspectorDOM.pushChildNodesToFrontend at ok
  split at ok
  · cases ok; exact mirrored
  · rename_i node found
    have found := nodeForId_some found
    split at ok
    · cases ok; exact mirrored
    · split at ok
      · rename_i nodesMap owner
        cases ok
        exact mirrored.setChildNodes found owner consistent
      · -- every indexed id has its map
        rename_i none
        obtain ⟨nonzero,other,entry⟩ := mirrored.consistent.indexed nodeId node found
        have owner := (mirrored.consistent.bound other node (entry ▸ nonzero)).2.1
        rw [entry,none] at owner
        cases owner

/-- `pushDetachedRoot`, with a document listened to, binds into a new detached map: the live map and
the requests stay, and the counts the frontend learns are of nodes of that map. -/
theorem pushDetachedRoot (mirrored : Mirrored ⟨dom,st⟩) (root : Node) (present : st.documents ≠ []) :
    Mirrored ⟨dom,(InspectorDOM.pushDetachedRoot dom root st).2⟩ := by
  have consistent0 : Consistent st := mirrored.consistent
  obtain ⟨allocated,current⟩ := allocateDanglingMap_consistent consistent0
  have mirrored0 : Mirrored ⟨dom,allocateDanglingMap st⟩ := mirrored.of_live allocated rfl rfl rfl rfl rfl
  have positive : 0 < (allocateDanglingMap st).lastNodeId := consistent0.positive
  obtain ⟨described,stable,-⟩ := buildObjectForNode_builds dom (.dangling st.nextDanglingMap) (fun _ => True)
    (fun _ _ _ => trivial) root trivial 0 (allocateDanglingMap st) positive
  have grown := (growsChain dom _).buildObjectForNode root 0 _ allocated current
  have requested := (requestedChain dom (.dangling st.nextDanglingMap)).buildObjectForNode root 0 (allocateDanglingMap st)
  have kept := (mainChain dom (.dangling st.nextDanglingMap)).buildObjectForNode root 0 (allocateDanglingMap st) present
  have frontend := (frontendChain dom (.dangling st.nextDanglingMap)).buildObjectForNode root 0 (allocateDanglingMap st)
  dsimp only [InspectorDOM.pushDetachedRoot] at *
  generalize buildObjectForNode dom root 0 (.dangling st.nextDanglingMap) (allocateDanglingMap st) = built at *
  obtain ⟨desc,st1⟩ := built
  dsimp only at *
  have live := congrFun (stable.others .live nofun)
  refine ⟨mirrored0.toSound.of_agent (grown.consistent.of_same (send_same _ _)) kept (listening_of_main kept present)
    stable.liveKept
    fun n bound old => absurd ((live n).trans old) bound,fun n bound => ?_⟩
  exact NodeMirrored.of_build allocated (mirrored0.nodes n) described stable grown.consistent (by rfl) bound
    (by simp [requested]) (fun _ => by simp [Agent.observer_of_frontend frontend])
    (by rw [Agent.observer_send,Agent.observer_of_frontend frontend]; rfl)

end Mirrored

end InspectorDOM
