import InspectorDOM.Identity
import Mathlib.Data.List.Forall2

/-! Ids after a `reset`. `reset` clears every binding, but `m_lastNodeId` and the count of
detached maps go on counting: an agent reset when `m_lastNodeId` was `L` hands out `L, L+1, …`
where a freshly constructed agent hands out `1, 2, …`. `Shifted` relates the two states: the reset
agent is the fresh one with every id moved up by `L - 1` (0, the null id, stays), every detached
map moved up by the number allocated before, and the records sent before the reset in front of
its own. The ids `1, …, L - 1` handed out before the reset name no node of the reset agent, so a
request naming one of them acts as a request naming the null id does on the fresh agent. Each
operation of the agent, fed the moved ids, keeps the relation. -/

namespace InspectorDOM

/-- The id the reset agent has where the fresh one has `id`; 0 stays 0. -/
def shiftId (offset id : Nat) : Nat := if id = 0 then 0 else id + offset

def MapRef.shift (handles : Nat) : MapRef → MapRef
  | .live => .live
  | .dangling handle => .dangling (handle + handles)

mutual

def Desc.shift (offset : Nat) : Desc → Desc
  | .mk id nodeType nodeName localName nodeValue count children attributes url docType =>
    .mk (shiftId offset id) nodeType nodeName localName nodeValue count (Desc.shiftList offset children)
      attributes url docType

def Desc.shiftList (offset : Nat) : List Desc → List Desc
  | [] => []
  | desc :: descs => desc.shift offset :: Desc.shiftList offset descs

end

def ListenerDesc.shift (offset : Nat) (listener : ListenerDesc) : ListenerDesc :=
  { listener with nodeId := shiftId offset listener.nodeId }

/-- A record with its node ids moved; call ids, counts and texts stay. -/
def Record.shift (offset : Nat) : Record → Record
  | .setDocument root => .setDocument (root.map (Desc.shift offset))
  | .setChildNodes parentId children => .setChildNodes (shiftId offset parentId) (Desc.shiftList offset children)
  | .childNodeCountUpdated id count => .childNodeCountUpdated (shiftId offset id) count
  | .childNodeInserted parentId prevId child =>
    .childNodeInserted (shiftId offset parentId) (shiftId offset prevId) (child.shift offset)
  | .childNodeRemoved parentId id => .childNodeRemoved (shiftId offset parentId) (shiftId offset id)
  | .attributesUpdated id attributes => .attributesUpdated (shiftId offset id) attributes
  | .setDetachedRoot root => .setDetachedRoot (root.shift offset)
  | .addNodesToSearchResult ids => .addNodesToSearchResult (ids.map (shiftId offset))
  | .didRemoveNode callId nodeId => .didRemoveNode callId (shiftId offset nodeId)
  | .didChangeTagName callId nodeId => .didChangeTagName callId (shiftId offset nodeId)
  | .didSetOuterHTML callId nodeId => .didSetOuterHTML callId (shiftId offset nodeId)
  | .didGetEventListenersForNode callId nodeId listeners =>
    .didGetEventListenersForNode callId (shiftId offset nodeId) (listeners.map (ListenerDesc.shift offset))
  | .didPushNodeByPathToFrontend callId nodeId => .didPushNodeByPathToFrontend callId (shiftId offset nodeId)
  | record => record

/-- An input with its node ids renamed by `rename`. -/
def Input.mapIds (rename : Nat → Nat) : Input → Input
  | .getChildNodes callId nodeId => .getChildNodes callId (rename nodeId)
  | .setAttribute callId elementId name value => .setAttribute callId (rename elementId) name value
  | .removeAttribute callId elementId name => .removeAttribute callId (rename elementId) name
  | .removeNode callId nodeId => .removeNode callId (rename nodeId)
  | .changeTagName callId nodeId tagName => .changeTagName callId (rename nodeId) tagName
  | .getOuterHTML callId nodeId => .getOuterHTML callId (rename nodeId)
  | .setOuterHTML callId nodeId outerHTML => .setOuterHTML callId (rename nodeId) outerHTML
  | .setTextNodeValue callId nodeId value => .setTextNodeValue callId (rename nodeId) value
  | .getEventListenersForNode callId nodeId => .getEventListenersForNode callId (rename nodeId)
  | .addInspectedNode nodeId => .addInspectedNode (rename nodeId)
  | .getStyles callId nodeId => .getStyles callId (rename nodeId)
  | .getInlineStyle callId nodeId => .getInlineStyle callId (rename nodeId)
  | .getComputedStyle callId nodeId => .getComputedStyle callId (rename nodeId)
  | .setRuleSelector callId ruleId selector selectedNodeId =>
    .setRuleSelector callId ruleId selector (rename selectedNodeId)
  | .addRule callId selector selectedNodeId => .addRule callId selector (rename selectedNodeId)
  | input => input

/-- An input with its node ids moved: what the frontend of the reset agent sends where the
frontend of the fresh one sends `input`. -/
def Input.shift (offset : Nat) : Input → Input := Input.mapIds (shiftId offset)

/-- The ids the reset agent may be sent where the fresh agent is sent `id`: the moved id or, when
`stale`, for the null id one of the ids `1, …, offset` handed out before the reset. -/
def IdRenamed (stale : Bool) (offset id id' : Nat) : Prop :=
  id' = shiftId offset id ∨ (stale = true ∧ id = 0 ∧ 0 < id' ∧ id' ≤ offset)

/-- The inputs the reset agent may be sent where the fresh agent is sent `input`. -/
def Input.Renamed (stale : Bool) (offset : Nat) (input input' : Input) : Prop :=
  ∃ rename : Nat → Nat, (∀ id, IdRenamed stale offset id (rename id)) ∧ input' = input.mapIds rename

/-- The records the reset agent may send where the fresh agent sends `record`: the moved record, or
the empty listener answer, which repeats the id it was asked about. -/
def Record.Renamed (stale : Bool) (offset : Nat) (record record' : Record) : Prop :=
  record' = record.shift offset ∨ ∃ callId nodeId nodeId', IdRenamed stale offset nodeId nodeId' ∧
    record = .didGetEventListenersForNode callId nodeId [] ∧ record' = .didGetEventListenersForNode callId nodeId' []

/-- The reset agent `st` against the fresh agent `fresh`: ids moved by `offset`, detached maps by
`handles`, no node under the ids `1, …, offset`, and the records `before` sent ahead of all of
`fresh`'s; with `stale`, the requests may have named those ids where the fresh agent's named the
null id. -/
structure Shifted (stale : Bool) (offset handles : Nat) (before : List Record) (fresh st : Agent) : Prop where
  nodeToId : ∀ nodesMap node,
    st.nodeToId (nodesMap.shift handles) node = shiftId offset (fresh.nodeToId nodesMap node)
  current : st.danglingNodeToIdMaps = fresh.danglingNodeToIdMaps.map (· + handles)
  nextMap : st.nextDanglingMap = fresh.nextDanglingMap + handles
  idToNode : ∀ id, st.idToNode (shiftId offset id) = fresh.idToNode id
  unindexed : ∀ id, 0 < id → id ≤ offset → st.idToNode id = none
  idToNodesMap : ∀ id, fresh.idToNode id ≠ none →
    st.idToNodesMap (shiftId offset id) = (fresh.idToNodesMap id).map (MapRef.shift handles)
  requested : ∀ id, st.childrenRequested (shiftId offset id) = fresh.childrenRequested id
  positive : 0 < fresh.lastNodeId
  lastNodeId : st.lastNodeId = shiftId offset fresh.lastNodeId
  documents : st.documents = fresh.documents
  inspectedNodes : List.Forall₂ (IdRenamed stale offset) fresh.inspectedNodes st.inspectedNodes
  searchResults : st.searchResults = fresh.searchResults
  pendingMatchJobs : st.pendingMatchJobs = fresh.pendingMatchJobs
  matchJobsTimerActive : st.matchJobsTimerActive = fresh.matchJobsTimerActive
  frontend : ∃ after, st.frontend = before ++ after ∧ List.Forall₂ (Record.Renamed stale offset) fresh.frontend after

section Ids

variable {offset : Nat}

@[simp] theorem shiftId_zero : shiftId offset 0 = 0 := rfl

@[simp] theorem shiftId_eq_zero {id : Nat} : shiftId offset id = 0 ↔ id = 0 := by
  unfold shiftId; split <;> omega

@[simp] theorem shiftId_inj {id id' : Nat} : shiftId offset id = shiftId offset id' ↔ id = id' := by
  unfold shiftId; split <;> split <;> omega

theorem shiftId_succ {id : Nat} (positive : 0 < id) : shiftId offset (id + 1) = shiftId offset id + 1 := by
  simp only [shiftId,Nat.add_one_ne_zero,Nat.pos_iff_ne_zero.mp positive,if_false]; omega

@[simp] theorem MapRef.shift_live {handles : Nat} : MapRef.shift handles .live = .live := rfl

/-- The id the code reads through an optional node, 0 when there is none, moves with the map. -/
@[simp] theorem getD_map_shiftId (node : Option Node) (ids : Node → Nat) :
    (node.map fun n => shiftId offset (ids n)).getD 0 = shiftId offset ((node.map ids).getD 0) := by
  cases node <;> rfl

@[simp] theorem MapRef.shift_inj {handles : Nat} {nodesMap other : MapRef} :
    nodesMap.shift handles = other.shift handles ↔ nodesMap = other := by
  cases nodesMap <;> cases other <;> simp [MapRef.shift]

theorem Desc.shiftList_eq_map (offset : Nat) : ∀ descs : List Desc, Desc.shiftList offset descs = descs.map (Desc.shift offset)
  | [] => rfl
  | desc :: descs => by rw [Desc.shiftList,Desc.shiftList_eq_map offset descs,List.map_cons]

theorem IdRenamed.shift_of_ne_zero {stale : Bool} {id id' : Nat} (renamed : IdRenamed stale offset id id')
    (nonzero : id ≠ 0) : id' = shiftId offset id :=
  renamed.resolve_right fun ⟨_,zero,_⟩ => nonzero zero

theorem nodeForId_ne_zero {st : Agent} {id : Nat} {node : Node} (found : nodeForId id st = some node) : id ≠ 0 :=
  fun zero => by simp [nodeForId,zero] at found

/-- Without stale ids the records are renamed by moving their ids. -/
theorem Record.renamed_false : ∀ {records records' : List Record},
    List.Forall₂ (Record.Renamed false offset) records records' → records' = records.map (Record.shift offset)
  | [], [], .nil => rfl
  | record :: _, _ :: _, .cons renamed rest => by
    rw [Record.renamed_false rest,List.map_cons]
    rcases renamed with rfl | ⟨callId,nodeId,nodeId',moved,rfl,rfl⟩
    · rfl
    · rw [moved.resolve_right nofun]; rfl

theorem bind_inspectedNodes (node : Node) (nodesMap : MapRef) (st : Agent) :
    (bind node nodesMap st).2.inspectedNodes = st.inspectedNodes := by
  unfold bind; split
  · rfl
  · cases nodesMap <;> rfl

end Ids

namespace Shifted

variable {stale : Bool} {offset handles : Nat} {before : List Record} {fresh st : Agent}
  (shifted : Shifted stale offset handles before fresh st)
include shifted

theorem live (node : Node) : st.documentNodeToIdMap node = shiftId offset (fresh.documentNodeToIdMap node) :=
  shifted.nodeToId .live node

/-- States whose identity maps are those of `fresh` and `st` relate their ids as these do. -/
theorem nodeToId_frame {fresh' st' : Agent} (live : fresh'.documentNodeToIdMap = fresh.documentNodeToIdMap)
    (dangling : fresh'.danglingMaps = fresh.danglingMaps) (live' : st'.documentNodeToIdMap = st.documentNodeToIdMap)
    (dangling' : st'.danglingMaps = st.danglingMaps) (nodesMap : MapRef) (node : Node) :
    st'.nodeToId (nodesMap.shift handles) node = shiftId offset (fresh'.nodeToId nodesMap node) := by
  cases nodesMap with
  | live => simpa only [Agent.nodeToId,MapRef.shift,live,live'] using shifted.nodeToId .live node
  | dangling handle =>
    simpa only [Agent.nodeToId,MapRef.shift,dangling,dangling'] using shifted.nodeToId (.dangling handle) node

theorem nodeForId (id : Nat) : InspectorDOM.nodeForId (shiftId offset id) st = InspectorDOM.nodeForId id fresh := by
  simp only [InspectorDOM.nodeForId,shiftId_eq_zero,shifted.idToNode]

/-- A stale id finds nothing, as the null id finds nothing on the fresh agent. -/
theorem nodeForId_renamed {id id' : Nat} (renamed : IdRenamed stale offset id id') :
    InspectorDOM.nodeForId id' st = InspectorDOM.nodeForId id fresh := by
  rcases renamed with rfl | ⟨-,rfl,positive,below⟩
  · exact shifted.nodeForId id
  · simp [InspectorDOM.nodeForId,Nat.pos_iff_ne_zero.mp positive,shifted.unindexed _ positive below]

theorem mainFrameDocument : st.mainFrameDocument = fresh.mainFrameDocument := by
  simp only [Agent.mainFrameDocument,shifted.documents]

theorem send_renamed {record record' : Record} (renamed : Record.Renamed stale offset record record') :
    Shifted stale offset handles before (fresh.send record) (st.send record') :=
  { shifted with
    frontend :=
      have ⟨after,sent,moved⟩ := shifted.frontend
      ⟨after ++ [record'],by simp [Agent.send,sent],List.rel_append moved (.cons renamed .nil)⟩ }

theorem send (record : Record) : Shifted stale offset handles before (fresh.send record) (st.send (record.shift offset)) :=
  shifted.send_renamed (.inl rfl)

/-- A change of the listened documents alone, made alike on both sides, keeps the relation. -/
theorem documents_eq (documents : List Node) :
    Shifted stale offset handles before { fresh with documents := documents } { st with documents := documents } :=
  { shifted with nodeToId := shifted.nodeToId_frame rfl rfl rfl rfl, documents := rfl }

theorem startListening (document : Node) :
    Shifted stale offset handles before (InspectorDOM.startListening document fresh) (InspectorDOM.startListening document st) := by
  unfold InspectorDOM.startListening
  rw [shifted.documents]
  split
  · exact shifted
  · exact shifted.documents_eq _

theorem stopListening (document : Node) :
    Shifted stale offset handles before (InspectorDOM.stopListening document fresh) (InspectorDOM.stopListening document st) := by
  simp only [stopListening_eq,shifted.documents]
  exact shifted.documents_eq _

theorem listen (dom : Dom) (node : Node) :
    Shifted stale offset handles before (InspectorDOM.listen dom node fresh) (InspectorDOM.listen dom node st) := by
  unfold InspectorDOM.listen
  split
  · exact shifted.startListening _
  · exact shifted

theorem unlisten (dom : Dom) (node : Node) :
    Shifted stale offset handles before (InspectorDOM.unlisten dom node fresh) (InspectorDOM.unlisten dom node st) := by
  unfold InspectorDOM.unlisten
  split
  · exact shifted.stopListening _
  · exact shifted

/-- `bind` on the moved map returns the moved id; a new id is the moved `m_lastNodeId` on both
sides, so the tables stay related. -/
theorem bind (node : Node) (nodesMap : MapRef) :
    (InspectorDOM.bind node (nodesMap.shift handles) st).1 = shiftId offset (InspectorDOM.bind node nodesMap fresh).1 ∧
    Shifted stale offset handles before (InspectorDOM.bind node nodesMap fresh).2
      (InspectorDOM.bind node (nodesMap.shift handles) st).2 := by
  have moved := shifted.nodeToId nodesMap node
  rcases bind_spec node nodesMap fresh with ⟨present,found⟩ | ⟨absent,id,entered⟩ <;>
    rcases bind_spec node (nodesMap.shift handles) st with ⟨present',found'⟩ | ⟨absent',id',entered'⟩
  · rw [found,found']; exact ⟨moved,shifted⟩
  · rw [absent'] at moved; exact absurd (shiftId_eq_zero.mp moved.symm) present
  · simp only [moved,absent,shiftId_zero] at present'; exact absurd rfl present'
  refine ⟨by rw [id,id',shifted.lastNodeId],?_⟩
  exact {
    nodeToId := fun other n => by
      simp only [entered.nodeToId,entered'.nodeToId,MapRef.shift_inj,shifted.nodeToId,shifted.lastNodeId]
      split <;> rfl
    current := by rw [entered.current,entered'.current,shifted.current]
    nextMap := by rw [entered.nextMap,entered'.nextMap,shifted.nextMap]
    idToNode := fun i => by
      simp only [entered.idToNode,entered'.idToNode,shifted.lastNodeId,Function.update_apply,shiftId_inj,
        shifted.idToNode]
    unindexed := fun i positive below => by
      have fresher : i ≠ shiftId offset fresh.lastNodeId := by
        have positive := shifted.positive
        simp only [shiftId,Nat.pos_iff_ne_zero.mp positive,if_false]; omega
      rw [entered'.idToNode,shifted.lastNodeId,Function.update_noteq fresher]
      exact shifted.unindexed i positive below
    idToNodesMap := fun i indexed => by
      simp only [entered.idToNode,Function.update_apply] at indexed
      simp only [entered.idToNodesMap,entered'.idToNodesMap,shifted.lastNodeId,Function.update_apply,
        shiftId_inj]
      split
      · rfl
      · exact shifted.idToNodesMap i (by simpa only [if_neg ‹_›] using indexed)
    requested := fun i => by rw [entered.requested,entered'.requested,shifted.requested]
    positive := by rw [entered.lastNodeId]; omega
    lastNodeId := by
      rw [entered.lastNodeId,entered'.lastNodeId,shifted.lastNodeId,shiftId_succ shifted.positive]
    documents := by rw [entered.documents,entered'.documents,shifted.documents]
    inspectedNodes := by rw [bind_inspectedNodes,bind_inspectedNodes]; exact shifted.inspectedNodes
    searchResults := (congrArg (·.1) entered'.search).trans
      (shifted.searchResults.trans (congrArg (·.1) entered.search).symm)
    pendingMatchJobs := (congrArg (·.2.1) entered'.search).trans
      (shifted.pendingMatchJobs.trans (congrArg (·.2.1) entered.search).symm)
    matchJobsTimerActive := (congrArg (·.2.2) entered'.search).trans
      (shifted.matchJobsTimerActive.trans (congrArg (·.2.2) entered.search).symm)
    frontend := by rw [entered.frontend,entered'.frontend]; exact shifted.frontend }

theorem setChildrenRequested (nodeId : Nat) (requested : Bool) :
    Shifted stale offset handles before (InspectorDOM.setChildrenRequested nodeId requested fresh)
      (InspectorDOM.setChildrenRequested (shiftId offset nodeId) requested st) :=
  { shifted with
    nodeToId := shifted.nodeToId_frame rfl rfl rfl rfl
    requested := fun id => by
      simp only [InspectorDOM.setChildrenRequested,Function.update_apply,shiftId_inj,shifted.requested] }

theorem addInspectedNode {nodeId nodeId' : Nat} (renamed : IdRenamed stale offset nodeId nodeId') :
    Shifted stale offset handles before (InspectorDOM.addInspectedNode nodeId fresh)
      (InspectorDOM.addInspectedNode nodeId' st) :=
  { shifted with
    nodeToId := shifted.nodeToId_frame rfl rfl rfl rfl
    inspectedNodes := List.forall₂_take 5 (.cons renamed shifted.inspectedNodes) }

/-- The search fields set alike on both sides. -/
theorem searched (searchResults : List Node) (pendingMatchJobs : List MatchJob) (matchJobsTimerActive : Bool) :
    Shifted stale offset handles before
      { fresh with
        searchResults := searchResults, pendingMatchJobs := pendingMatchJobs
        matchJobsTimerActive := matchJobsTimerActive }
      { st with
        searchResults := searchResults, pendingMatchJobs := pendingMatchJobs
        matchJobsTimerActive := matchJobsTimerActive } :=
  { shifted with
    nodeToId := shifted.nodeToId_frame rfl rfl rfl rfl
    searchResults := rfl
    pendingMatchJobs := rfl
    matchJobsTimerActive := rfl }

theorem searchCanceled :
    Shifted stale offset handles before (InspectorDOM.searchCanceled fresh) (InspectorDOM.searchCanceled st) :=
  shifted.searched [] [] false

/-- After `discardBindings` neither side has a binding, and the counters stay related. -/
theorem discardBindings :
    Shifted stale offset handles before (InspectorDOM.discardBindings fresh) (InspectorDOM.discardBindings st) :=
  { shifted with
    nodeToId := fun nodesMap _ => by cases nodesMap <;> rfl
    current := rfl
    idToNode := fun _ => rfl
    unindexed := fun _ _ _ => rfl
    idToNodesMap := fun _ absent => absurd rfl absent
    requested := fun _ => rfl
    inspectedNodes := .nil }

theorem reset : Shifted stale offset handles before (InspectorDOM.reset fresh) (InspectorDOM.reset st) := by
  rw [reset_eq,reset_eq]
  exact shifted.searchCanceled.discardBindings.documents_eq []

theorem allocateDanglingMap :
    Shifted stale offset handles before (InspectorDOM.allocateDanglingMap fresh) (InspectorDOM.allocateDanglingMap st) :=
  { shifted with
    nodeToId := fun nodesMap node => by
      cases nodesMap with
      | live => exact shifted.nodeToId .live node
      | dangling handle =>
        simp only [InspectorDOM.allocateDanglingMap,Agent.nodeToId,MapRef.shift,Function.update_apply,
          shifted.nextMap,Nat.add_right_cancel_iff]
        split
        · rfl
        · exact shifted.nodeToId (.dangling handle) node
    current := by simp [InspectorDOM.allocateDanglingMap,shifted.current,shifted.nextMap]
    nextMap := by simp only [InspectorDOM.allocateDanglingMap,shifted.nextMap]; omega }

/-- One entry removed by `unbind`, with its id dropped from `m_idToNode`; `requested` stands for
the table of requested ids the removal leaves, related on both sides. -/
theorem removed (nodesMap : MapRef) (node : Node) {requested requested' : Nat → Bool}
    (moved : ∀ id, requested' (shiftId offset id) = requested id) :
    Shifted stale offset handles before
      { fresh.setNodeToId nodesMap (Function.update (fresh.nodeToId nodesMap) node 0) with
        idToNode := Function.update fresh.idToNode (fresh.nodeToId nodesMap node) none
        childrenRequested := requested }
      { st.setNodeToId (nodesMap.shift handles) (Function.update (st.nodeToId (nodesMap.shift handles)) node 0) with
        idToNode := Function.update st.idToNode (shiftId offset (fresh.nodeToId nodesMap node)) none
        childrenRequested := requested' } where
  nodeToId other n := by
    simp only [Agent.nodeToId_with_index,Agent.nodeToId_setNodeToId_update,MapRef.shift_inj,shifted.nodeToId]
    split <;> rfl
  current := by simp only [Agent.danglingNodeToIdMaps_setNodeToId,shifted.current]
  nextMap := by simp only [Agent.nextDanglingMap_setNodeToId,shifted.nextMap]
  idToNode i := by simp only [Function.update_apply,shiftId_inj,shifted.idToNode]
  unindexed i positive below := by
    simp only [Function.update_apply]
    split
    · rfl
    · exact shifted.unindexed i positive below
  idToNodesMap i indexed := by
    simp only [Function.update_apply] at indexed
    simp only [Agent.idToNodesMap_setNodeToId]
    exact shifted.idToNodesMap i (by split at indexed <;> simp_all)
  requested := moved
  positive := by simpa only [Agent.lastNodeId_setNodeToId] using shifted.positive
  lastNodeId := by simp only [Agent.lastNodeId_setNodeToId,shifted.lastNodeId]
  documents := by simp only [Agent.documents_setNodeToId,shifted.documents]
  inspectedNodes := by simp only [Agent.inspectedNodes_setNodeToId]; exact shifted.inspectedNodes
  searchResults := by simp only [Agent.searchResults_setNodeToId,shifted.searchResults]
  pendingMatchJobs := by simp only [Agent.pendingMatchJobs_setNodeToId,shifted.pendingMatchJobs]
  matchJobsTimerActive := by simp only [Agent.matchJobsTimerActive_setNodeToId,shifted.matchJobsTimerActive]
  frontend := by simp only [Agent.frontend_setNodeToId]; exact shifted.frontend

end Shifted

/-- `unbind` on the moved map keeps the relation: it reads the same ids, moved, and makes the
same removals and the same recursive calls. -/
theorem Shifted.unbindWith {stale : Bool} {offset handles : Nat} {before : List Record} (dom : Dom) :
    ∀ fuel node nodesMap {fresh st : Agent}, Shifted stale offset handles before fresh st →
      Shifted stale offset handles before (InspectorDOM.unbindWith dom fuel node nodesMap fresh)
        (InspectorDOM.unbindWith dom fuel node (nodesMap.shift handles) st)
  | 0, _, _, _, _, shifted => shifted
  | fuel + 1, node, nodesMap, fresh, st, shifted => by
    have unlistened := shifted.unlisten dom node
    simp only [InspectorDOM.unbindWith,unlistened.nodeToId,shiftId_eq_zero,Agent.childrenRequested_setNodeToId,
      unlistened.requested]
    split
    · exact unlistened
    · split
      · refine List.foldl_rel _ (Shifted.listen ?_ dom node) fun child _ _ _ related =>
          Shifted.unbindWith dom fuel child nodesMap related
        exact unlistened.removed nodesMap node fun id => by
          simp only [Function.update_apply,shiftId_inj,Agent.childrenRequested_setNodeToId,unlistened.requested]
      · exact unlistened.removed nodesMap node fun id => by
          simp only [Agent.childrenRequested_setNodeToId,unlistened.requested]

theorem Shifted.unbind {stale : Bool} {offset handles : Nat} {before : List Record} {fresh st : Agent}
    (shifted : Shifted stale offset handles before fresh st) (dom : Dom) (node : Node) (nodesMap : MapRef) :
    Shifted stale offset handles before (InspectorDOM.unbind dom node nodesMap fresh)
      (InspectorDOM.unbind dom node (nodesMap.shift handles) st) :=
  Shifted.unbindWith dom _ node nodesMap shifted

section Builders

variable {stale : Bool} {offset handles : Nat} {before : List Record}

theorem Shifted.collect {α : Type} {f g : Node → Agent → α × Agent} (move : α → α)
    (each : ∀ node {fresh st}, Shifted stale offset handles before fresh st →
      (g node st).1 = move (f node fresh).1 ∧ Shifted stale offset handles before (f node fresh).2 (g node st).2) :
    ∀ nodes {fresh st}, Shifted stale offset handles before fresh st →
      (InspectorDOM.collect g nodes st).1 = (InspectorDOM.collect f nodes fresh).1.map move ∧
      Shifted stale offset handles before (InspectorDOM.collect f nodes fresh).2 (InspectorDOM.collect g nodes st).2
  | [], _, _, shifted => ⟨rfl,shifted⟩
  | node :: nodes, _, _, shifted => by
    obtain ⟨first,related⟩ := each node shifted
    obtain ⟨rest,related'⟩ := Shifted.collect move each nodes related
    exact ⟨by simp only [InspectorDOM.collect,first,rest,List.map_cons],related'⟩

theorem Shifted.buildObjectWith (dom : Dom) (node : Node) (nodesMap : MapRef)
    {children children' : Agent → List Desc × Agent}
    (built : ∀ {fresh st}, Shifted stale offset handles before fresh st →
      (children' st).1 = (children fresh).1.map (Desc.shift offset) ∧
        Shifted stale offset handles before (children fresh).2 (children' st).2)
    {fresh st : Agent} (shifted : Shifted stale offset handles before fresh st) :
    (InspectorDOM.buildObjectWith dom node (nodesMap.shift handles) children' st).1 =
        (InspectorDOM.buildObjectWith dom node nodesMap children fresh).1.shift offset ∧
      Shifted stale offset handles before (InspectorDOM.buildObjectWith dom node nodesMap children fresh).2
        (InspectorDOM.buildObjectWith dom node (nodesMap.shift handles) children' st).2 := by
  obtain ⟨id,bound⟩ := shifted.bind node nodesMap
  obtain ⟨kids,related⟩ := built (bound.listen dom node)
  dsimp only [InspectorDOM.buildObjectWith]
  split
  · exact ⟨by rw [id,kids,Desc.shift,Desc.shiftList_eq_map],related⟩
  · exact ⟨by rw [id,Desc.shift]; rfl,bound⟩

theorem Shifted.buildArrayForContainerChildren (dom : Dom) (nodesMap : MapRef) :
    ∀ depth container {fresh st}, Shifted stale offset handles before fresh st →
      (InspectorDOM.buildArrayForContainerChildren dom container depth (nodesMap.shift handles) st).1 =
        (InspectorDOM.buildArrayForContainerChildren dom container depth nodesMap fresh).1.map (Desc.shift offset) ∧
      Shifted stale offset handles before (InspectorDOM.buildArrayForContainerChildren dom container depth nodesMap fresh).2
        (InspectorDOM.buildArrayForContainerChildren dom container depth (nodesMap.shift handles) st).2
  | 0, container, _, _, shifted => by
    have twice := (shifted.listen dom container).listen dom container
    simp only [InspectorDOM.buildArrayForContainerChildren]
    split
    · split
      · split
        · obtain ⟨desc,related⟩ := @Shifted.buildObjectWith _ _ _ _ dom _ nodesMap (fun st => ([],st))
            (fun st => ([],st)) (fun shifted => ⟨rfl,shifted⟩) _ _ twice
          exact ⟨by rw [desc]; rfl,related⟩
        · exact ⟨rfl,twice⟩
      · exact ⟨rfl,twice⟩
    · exact ⟨rfl,shifted.listen dom container⟩
  | depth + 1, container, _, _, shifted =>
    Shifted.collect _ (fun child _ _ related => related.buildObjectWith dom child nodesMap fun related' =>
      Shifted.buildArrayForContainerChildren dom nodesMap depth child related') _ (shifted.listen dom container)

theorem Shifted.buildObjectForNode {fresh st : Agent} (shifted : Shifted stale offset handles before fresh st)
    (dom : Dom) (node : Node) (depth : Nat) (nodesMap : MapRef) :
    (InspectorDOM.buildObjectForNode dom node depth (nodesMap.shift handles) st).1 =
        (InspectorDOM.buildObjectForNode dom node depth nodesMap fresh).1.shift offset ∧
      Shifted stale offset handles before (InspectorDOM.buildObjectForNode dom node depth nodesMap fresh).2
        (InspectorDOM.buildObjectForNode dom node depth (nodesMap.shift handles) st).2 :=
  shifted.buildObjectWith dom node nodesMap fun related =>
    Shifted.buildArrayForContainerChildren dom nodesMap depth node related

end Builders

section Detached

variable {stale : Bool} {offset handles : Nat} {before : List Record}

/-- The reset agent allocates the moved detached map and sends the moved description. -/
theorem Shifted.pushDetachedRoot {fresh st : Agent} (shifted : Shifted stale offset handles before fresh st)
    (dom : Dom) (root : Node) :
    (InspectorDOM.pushDetachedRoot dom root st).1 = (InspectorDOM.pushDetachedRoot dom root fresh).1.shift handles ∧
      Shifted stale offset handles before (InspectorDOM.pushDetachedRoot dom root fresh).2
        (InspectorDOM.pushDetachedRoot dom root st).2 := by
  obtain ⟨desc,related⟩ :=
    shifted.allocateDanglingMap.buildObjectForNode dom root 0 (.dangling fresh.nextDanglingMap)
  simp only [MapRef.shift,← shifted.nextMap] at desc related
  refine ⟨by simp only [InspectorDOM.pushDetachedRoot,MapRef.shift,shifted.nextMap],?_⟩
  simp only [InspectorDOM.pushDetachedRoot,desc]
  exact related.send _

end Detached

/-- The agent reset at `st` against a freshly constructed agent: ids moved by `m_lastNodeId - 1`,
detached maps by the number `st` allocated, and `st`'s records in front. -/
theorem reset_shifted (stale : Bool) {st : Agent} (positive : 0 < st.lastNodeId) :
    Shifted stale (st.lastNodeId - 1) st.nextDanglingMap st.frontend inspectorDOMAgent (reset st) := by
  rw [reset_eq]
  exact {
    nodeToId := fun nodesMap _ => by cases nodesMap <;> rfl
    current := rfl
    nextMap := (Nat.zero_add _).symm
    idToNode := fun _ => rfl
    unindexed := fun _ _ _ => rfl
    idToNodesMap := fun _ absent => absurd rfl absent
    requested := fun _ => rfl
    positive := Nat.one_pos
    lastNodeId := by
      show st.lastNodeId = shiftId (st.lastNodeId - 1) 1
      simp only [shiftId,Nat.one_ne_zero,if_false]; omega
    documents := rfl
    inspectedNodes := .nil
    searchResults := rfl
    pendingMatchJobs := rfl
    matchJobsTimerActive := rfl
    frontend := ⟨[],(List.append_nil _).symm,.nil⟩ }

end InspectorDOM
