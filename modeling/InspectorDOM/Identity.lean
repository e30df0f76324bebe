import InspectorDOM.Observer

/-! Identity and global-index consistency. Every id in an identity map leads back, through
`m_idToNode` and `m_idToNodesMap`, to its node and to that map, which still exists; every id
of `m_idToNode` and of `m_childrenRequested` is bound. `bind`, `unbind`, `discardBindings` and
the allocation of a detached map keep this, and every entry point is built from them. The
description builders bind into one map, listen, and send nothing: they keep the invariant and the
map, and only add to the index. -/

namespace InspectorDOM

theorem except_bind_success {α β : Type} {first : Except Fault α} {next : α → Except Fault β}
    {result : β} (ok : (first >>= next) = .ok result) : ∃ value, first = .ok value ∧ next value = .ok result := by
  cases first with
  | error fault => cases ok
  | ok value => exact ⟨value,rfl,ok⟩

theorem except_map_success {α β : Type} {first : Except Fault α} {f : α → β} {result : β}
    (ok : first.map f = .ok result) : ∃ value, first = .ok value ∧ f value = result := by
  cases first with
  | error fault => cases ok
  | ok value => exact ⟨value,rfl,Except.ok.inj ok⟩

/-- A property every successful step keeps holds after a successful fold. -/
theorem except_foldlM_invariant {α β : Type} (holds : β → Prop) {f : β → α → Except Fault β}
    (step : ∀ b item b', holds b → f b item = .ok b' → holds b') :
    ∀ (items : List α) {b result : β}, holds b → items.foldlM f b = .ok result → holds result
  | [], _, _, initial, ok => by cases ok; exact initial
  | item :: items, b, _, initial, ok => by
    rw [List.foldlM_cons] at ok
    obtain ⟨next,first,rest⟩ := except_bind_success ok
    exact except_foldlM_invariant holds step items (step b item next initial first) rest

/-- `st'` has the identity maps, index, tracker and counters of `st`. -/
structure SameBindings (st' st : Agent) : Prop where
  live : st'.documentNodeToIdMap = st.documentNodeToIdMap
  dangling : st'.danglingMaps = st.danglingMaps
  current : st'.danglingNodeToIdMaps = st.danglingNodeToIdMaps
  nextMap : st'.nextDanglingMap = st.nextDanglingMap
  idToNode : st'.idToNode = st.idToNode
  idToNodesMap : st'.idToNodesMap = st.idToNodesMap
  requested : st'.childrenRequested = st.childrenRequested
  lastNodeId : st'.lastNodeId = st.lastNodeId

namespace SameBindings

variable {st st' st'' : Agent}

theorem refl (st : Agent) : SameBindings st st := ⟨rfl,rfl,rfl,rfl,rfl,rfl,rfl,rfl⟩

theorem trans (first : SameBindings st'' st') (second : SameBindings st' st) :
    SameBindings st'' st := by
  obtain ⟨a,b,c,d,e,f,g,h⟩ := first
  obtain ⟨a',b',c',d',e',f',g',h'⟩ := second
  exact ⟨a.trans a',b.trans b',c.trans c',d.trans d',e.trans e',f.trans f',g.trans g',h.trans h'⟩

theorem nodeToId (same : SameBindings st' st) (nodesMap : MapRef) :
    st'.nodeToId nodesMap = st.nodeToId nodesMap := by
  cases nodesMap <;> simp [Agent.nodeToId,same.live,same.dangling]

theorem isCurrent (same : SameBindings st' st) (nodesMap : MapRef) :
    st'.IsCurrent nodesMap ↔ st.IsCurrent nodesMap := by
  cases nodesMap <;> simp [Agent.IsCurrent,same.current]

end SameBindings

theorem send_same (st : Agent) (record : Record) : SameBindings (st.send record) st :=
  ⟨rfl,rfl,rfl,rfl,rfl,rfl,rfl,rfl⟩

theorem startListening_same (document : Node) (st : Agent) :
    SameBindings (startListening document st) st := by
  unfold startListening; split <;> exact ⟨rfl,rfl,rfl,rfl,rfl,rfl,rfl,rfl⟩

theorem stopListening_same (document : Node) (st : Agent) :
    SameBindings (stopListening document st) st := by
  unfold stopListening; split <;> exact ⟨rfl,rfl,rfl,rfl,rfl,rfl,rfl,rfl⟩

theorem listen_same (dom : Dom) (node : Node) (st : Agent) : SameBindings (listen dom node st) st := by
  unfold listen; split
  · exact startListening_same _ st
  · exact SameBindings.refl st

theorem searchCanceled_same (st : Agent) : SameBindings (searchCanceled st) st := ⟨rfl,rfl,rfl,rfl,rfl,rfl,rfl,rfl⟩

@[simp] theorem Agent.nodeToId_setNodeToId (st : Agent) (nodesMap other : MapRef) (map : NodeToIdMap) :
    (st.setNodeToId nodesMap map).nodeToId other =
      if other = nodesMap then map else st.nodeToId other := by
  cases nodesMap <;> cases other <;>
    simp [Agent.setNodeToId,Agent.nodeToId,Function.update_apply,eq_comm]

/-- Writing one entry of one map. -/
theorem Agent.nodeToId_setNodeToId_update (st : Agent) (nodesMap other : MapRef) (node n : Node)
    (id : Nat) :
    (st.setNodeToId nodesMap (Function.update (st.nodeToId nodesMap) node id)).nodeToId other n =
      if other = nodesMap ∧ n = node then id else st.nodeToId other n := by
  rw [Agent.nodeToId_setNodeToId]
  by_cases equal : other = nodesMap
  · subst equal
    by_cases same : n = node
    · subst same; simp
    · simp [same]
  · simp [equal]

/-- `setNodeToId` touches one map and nothing else. -/
theorem setNodeToId_same_rest (st : Agent) (nodesMap : MapRef) (map : NodeToIdMap) :
    (st.setNodeToId nodesMap map).danglingNodeToIdMaps = st.danglingNodeToIdMaps ∧
    (st.setNodeToId nodesMap map).nextDanglingMap = st.nextDanglingMap ∧
    (st.setNodeToId nodesMap map).idToNode = st.idToNode ∧
    (st.setNodeToId nodesMap map).idToNodesMap = st.idToNodesMap ∧
    (st.setNodeToId nodesMap map).childrenRequested = st.childrenRequested ∧
    (st.setNodeToId nodesMap map).lastNodeId = st.lastNodeId := by
  cases nodesMap <;> exact ⟨rfl,rfl,rfl,rfl,rfl,rfl⟩

@[simp] theorem Agent.nodeToId_with_index (st : Agent) (idToNode : Nat → Option Node) (requested : Nat → Bool)
    (nodesMap : MapRef) :
    ({ st with idToNode := idToNode, childrenRequested := requested } : Agent).nodeToId nodesMap =
      st.nodeToId nodesMap := by
  cases nodesMap <;> rfl

@[simp] theorem Agent.documents_setNodeToId (st : Agent) (nodesMap : MapRef) (map : NodeToIdMap) :
    (st.setNodeToId nodesMap map).documents = st.documents := by cases nodesMap <;> rfl

@[simp] theorem Agent.frontend_setNodeToId (st : Agent) (nodesMap : MapRef) (map : NodeToIdMap) :
    (st.setNodeToId nodesMap map).frontend = st.frontend := by cases nodesMap <;> rfl

@[simp] theorem Agent.inspectedNodes_setNodeToId (st : Agent) (nodesMap : MapRef) (map : NodeToIdMap) :
    (st.setNodeToId nodesMap map).inspectedNodes = st.inspectedNodes := by cases nodesMap <;> rfl

@[simp] theorem Agent.searchResults_setNodeToId (st : Agent) (nodesMap : MapRef) (map : NodeToIdMap) :
    (st.setNodeToId nodesMap map).searchResults = st.searchResults := by cases nodesMap <;> rfl

@[simp] theorem Agent.pendingMatchJobs_setNodeToId (st : Agent) (nodesMap : MapRef) (map : NodeToIdMap) :
    (st.setNodeToId nodesMap map).pendingMatchJobs = st.pendingMatchJobs := by cases nodesMap <;> rfl

@[simp] theorem Agent.matchJobsTimerActive_setNodeToId (st : Agent) (nodesMap : MapRef) (map : NodeToIdMap) :
    (st.setNodeToId nodesMap map).matchJobsTimerActive = st.matchJobsTimerActive := by cases nodesMap <;> rfl

@[simp] theorem Agent.danglingNodeToIdMaps_setNodeToId (st : Agent) (nodesMap : MapRef) (map : NodeToIdMap) :
    (st.setNodeToId nodesMap map).danglingNodeToIdMaps = st.danglingNodeToIdMaps := (setNodeToId_same_rest st nodesMap map).1

@[simp] theorem Agent.nextDanglingMap_setNodeToId (st : Agent) (nodesMap : MapRef) (map : NodeToIdMap) :
    (st.setNodeToId nodesMap map).nextDanglingMap = st.nextDanglingMap := (setNodeToId_same_rest st nodesMap map).2.1

@[simp] theorem Agent.isCurrent_setNodeToId (st : Agent) (nodesMap other : MapRef) (map : NodeToIdMap) :
    (st.setNodeToId nodesMap map).IsCurrent other ↔ st.IsCurrent other := by
  cases other <;> simp [Agent.IsCurrent,(setNodeToId_same_rest st nodesMap map).1]

@[simp] theorem Agent.idToNode_setNodeToId (st : Agent) (nodesMap : MapRef) (map : NodeToIdMap) :
    (st.setNodeToId nodesMap map).idToNode = st.idToNode := (setNodeToId_same_rest st nodesMap map).2.2.1

@[simp] theorem Agent.idToNodesMap_setNodeToId (st : Agent) (nodesMap : MapRef) (map : NodeToIdMap) :
    (st.setNodeToId nodesMap map).idToNodesMap = st.idToNodesMap :=
  (setNodeToId_same_rest st nodesMap map).2.2.2.1

@[simp] theorem Agent.childrenRequested_setNodeToId (st : Agent) (nodesMap : MapRef) (map : NodeToIdMap) :
    (st.setNodeToId nodesMap map).childrenRequested = st.childrenRequested :=
  (setNodeToId_same_rest st nodesMap map).2.2.2.2.1

@[simp] theorem Agent.lastNodeId_setNodeToId (st : Agent) (nodesMap : MapRef) (map : NodeToIdMap) :
    (st.setNodeToId nodesMap map).lastNodeId = st.lastNodeId :=
  (setNodeToId_same_rest st nodesMap map).2.2.2.2.2

/-- The invariant. A nonzero entry of a map is an id below `m_lastNodeId` that `m_idToNode`
and `m_idToNodesMap` send back to the node and to a map that exists; `m_idToNode` holds no other
ids; requested ids are indexed; detached-map handles are below the allocation counter. -/
structure Consistent (st : Agent) : Prop where
  bound : ∀ nodesMap node, st.nodeToId nodesMap node ≠ 0 →
    st.idToNode (st.nodeToId nodesMap node) = some node ∧
    st.idToNodesMap (st.nodeToId nodesMap node) = some nodesMap ∧
    st.nodeToId nodesMap node < st.lastNodeId ∧ st.IsCurrent nodesMap
  indexed : ∀ id node, st.idToNode id = some node → id ≠ 0 ∧ ∃ nodesMap, st.nodeToId nodesMap node = id
  requested : ∀ id, st.childrenRequested id = true → st.idToNode id ≠ none
  handles : ∀ handle ∈ st.danglingNodeToIdMaps, handle < st.nextDanglingMap
  positive : 0 < st.lastNodeId

theorem Consistent.of_same {st st' : Agent} (consistent : Consistent st) (same : SameBindings st' st) :
    Consistent st' := by
  obtain ⟨bound,indexed,requested,handles,positive⟩ := consistent
  refine ⟨?_,?_,?_,?_,?_⟩
  · intro nodesMap node present
    rw [same.nodeToId] at present ⊢
    rw [same.idToNode,same.idToNodesMap,same.lastNodeId,same.isCurrent]
    exact bound nodesMap node present
  · intro id node found
    simp only [same.nodeToId,same.idToNode] at found ⊢
    exact indexed id node found
  · intro id isRequested
    rw [same.idToNode]
    exact requested id (same.requested ▸ isRequested)
  · rw [same.current,same.nextMap]; exact handles
  · rw [same.lastNodeId]; exact positive

theorem consistent_initial : Consistent inspectorDOMAgent := by
  refine ⟨?_,?_,?_,?_,?_⟩
  · intro nodesMap node present
    cases nodesMap <;> simp [Agent.nodeToId,inspectorDOMAgent] at present
  · intro id node found
    simp [inspectorDOMAgent] at found
  · intro id isRequested
    simp [inspectorDOMAgent] at isRequested
  · simp [inspectorDOMAgent]
  · simp [inspectorDOMAgent]

/-- Two nonzero entries with the same id are the same entry. -/
theorem Consistent.entry_unique {st : Agent} (consistent : Consistent st) {nodesMap other : MapRef}
    {node node' : Node} (present : st.nodeToId nodesMap node ≠ 0)
    (equal : st.nodeToId other node' = st.nodeToId nodesMap node) : other = nodesMap ∧ node' = node := by
  have first := consistent.bound nodesMap node present
  have second := consistent.bound other node' (equal ▸ present)
  rw [equal] at second
  exact ⟨Option.some.inj (second.2.1.symm.trans first.2.1),
    Option.some.inj (second.1.symm.trans first.1)⟩

theorem Consistent.stale {st : Agent} (consistent : Consistent st) {nodesMap : MapRef}
    (gone : ¬ st.IsCurrent nodesMap) (node : Node) : st.nodeToId nodesMap node = 0 := by
  by_contra present
  exact gone (consistent.bound nodesMap node present).2.2.2

/-- Every indexed id was handed out already. -/
theorem Consistent.indexed_below {st : Agent} (consistent : Consistent st) {id : Nat} {node : Node}
    (found : st.idToNode id = some node) : id < st.lastNodeId := by
  obtain ⟨nonzero,nodesMap,entry⟩ := consistent.indexed id node found
  subst entry
  exact (consistent.bound nodesMap node nonzero).2.2.1

/-- `st'` is `st` with `node` entered in `nodesMap` under the id `m_lastNodeId`, and that id
entered in the index. -/
structure Entered (st' st : Agent) (nodesMap : MapRef) (node : Node) : Prop where
  nodeToId : ∀ other n, st'.nodeToId other n =
    if other = nodesMap ∧ n = node then st.lastNodeId else st.nodeToId other n
  idToNode : st'.idToNode = Function.update st.idToNode st.lastNodeId (some node)
  idToNodesMap : st'.idToNodesMap = Function.update st.idToNodesMap st.lastNodeId (some nodesMap)
  lastNodeId : st'.lastNodeId = st.lastNodeId + 1
  requested : st'.childrenRequested = st.childrenRequested
  current : st'.danglingNodeToIdMaps = st.danglingNodeToIdMaps
  nextMap : st'.nextDanglingMap = st.nextDanglingMap
  documents : st'.documents = st.documents
  frontend : st'.frontend = st.frontend
  search : st'.search = st.search

/-- `bind` returns the node's id, or enters the node under `m_lastNodeId`. -/
theorem bind_spec (node : Node) (nodesMap : MapRef) (st : Agent) :
    (st.nodeToId nodesMap node ≠ 0 ∧ bind node nodesMap st = (st.nodeToId nodesMap node,st)) ∨
    (st.nodeToId nodesMap node = 0 ∧ (bind node nodesMap st).1 = st.lastNodeId ∧
      Entered (bind node nodesMap st).2 st nodesMap node) := by
  unfold bind
  by_cases absent : st.nodeToId nodesMap node = 0
  · rw [if_neg (not_not.mpr absent)]
    refine .inr ⟨absent,rfl,⟨fun other n => ?_,rfl,rfl,rfl,?_,?_,?_,?_,?_,?_⟩⟩
    · exact Agent.nodeToId_setNodeToId_update st nodesMap other node n st.lastNodeId
    all_goals cases nodesMap <;> rfl
  · rw [if_pos absent]
    exact .inl ⟨absent,rfl⟩

theorem Consistent.enter {st st' : Agent} (consistent : Consistent st) {nodesMap : MapRef}
    {node : Node} (current : st.IsCurrent nodesMap) (absent : st.nodeToId nodesMap node = 0)
    (entered : Entered st' st nodesMap node) : Consistent st' := by
  obtain ⟨bound,indexed,requested,handles,positive⟩ := consistent
  have isCurrent : ∀ other, st'.IsCurrent other ↔ st.IsCurrent other := by
    intro other; cases other <;> simp [Agent.IsCurrent,entered.current]
  refine ⟨?_,?_,?_,?_,?_⟩
  · intro other n present
    rw [entered.idToNode,entered.idToNodesMap,entered.lastNodeId,isCurrent]
    by_cases same : other = nodesMap ∧ n = node
    · obtain ⟨rfl,rfl⟩ := same
      rw [entered.nodeToId,if_pos ⟨rfl,rfl⟩]
      simp [current]
    · -- an old entry is below `m_lastNodeId`, so it never meets the new id
      rw [entered.nodeToId,if_neg same] at present ⊢
      obtain ⟨found,owner,below,isCurrentOther⟩ := bound other n present
      simp [Function.update_apply,Nat.ne_of_lt below,found,owner,isCurrentOther]
      omega
  · intro id n found
    rw [entered.idToNode,Function.update_apply] at found
    split_ifs at found with fresh
    · cases found
      exact ⟨by omega,nodesMap,by simp [entered.nodeToId,fresh]⟩
    · obtain ⟨nonzero,other,present⟩ := indexed id n found
      refine ⟨nonzero,other,?_⟩
      rw [entered.nodeToId,if_neg]
      · exact present
      · rintro ⟨rfl,rfl⟩
        exact nonzero (present.symm.trans absent)
  · intro id isRequested
    rw [entered.idToNode,Function.update_apply]
    split
    · simp
    · exact requested id (entered.requested ▸ isRequested)
  · rw [entered.current,entered.nextMap]; exact handles
  · rw [entered.lastNodeId]; omega

theorem bind_consistent {st : Agent} (consistent : Consistent st) {nodesMap : MapRef}
    (current : st.IsCurrent nodesMap) (node : Node) :
    Consistent (bind node nodesMap st).2 ∧ (bind node nodesMap st).2.IsCurrent nodesMap := by
  rcases bind_spec node nodesMap st with ⟨-,found⟩ | ⟨absent,-,entered⟩
  · rw [found]; exact ⟨consistent,current⟩
  · refine ⟨consistent.enter current absent entered,?_⟩
    cases nodesMap <;> simp_all [Agent.IsCurrent,entered.current]

theorem unlisten_same (dom : Dom) (node : Node) (st : Agent) : SameBindings (unlisten dom node st) st := by
  unfold unlisten; split
  · exact stopListening_same _ st
  · exact SameBindings.refl st

/-- `st'` is `st` with the entry of `node` in `nodesMap` removed, from the map and from the
index, and that id no longer requested. -/
structure Removed (st' st : Agent) (nodesMap : MapRef) (node : Node) : Prop where
  nodeToId : ∀ other n, st'.nodeToId other n =
    if other = nodesMap ∧ n = node then 0 else st.nodeToId other n
  idToNode : st'.idToNode = Function.update st.idToNode (st.nodeToId nodesMap node) none
  idToNodesMap : st'.idToNodesMap = st.idToNodesMap
  requested : ∀ id, st'.childrenRequested id = true →
    st.childrenRequested id = true ∧ id ≠ st.nodeToId nodesMap node
  current : st'.danglingNodeToIdMaps = st.danglingNodeToIdMaps
  nextMap : st'.nextDanglingMap = st.nextDanglingMap
  lastNodeId : st'.lastNodeId = st.lastNodeId

/-- The state `unbind` leaves after `m_idToNode.remove(id)`, `nodesMap->remove(node)` and,
when asked for, `m_childrenRequested.remove(id)`. -/
theorem removed_entry (st : Agent) (nodesMap : MapRef) (node : Node) (requested : Nat → Bool)
    (cleared : ∀ id, requested id = true →
      st.childrenRequested id = true ∧ id ≠ st.nodeToId nodesMap node) :
    Removed { st.setNodeToId nodesMap (Function.update (st.nodeToId nodesMap) node 0) with
      idToNode := Function.update st.idToNode (st.nodeToId nodesMap node) none
      childrenRequested := requested } st nodesMap node :=
  ⟨fun other n => Agent.nodeToId_setNodeToId_update st nodesMap other node n 0,rfl,by simp,cleared,
    (setNodeToId_same_rest st nodesMap _).1,(setNodeToId_same_rest st nodesMap _).2.1,by simp⟩

theorem Consistent.remove {st st' : Agent} (consistent : Consistent st) {nodesMap : MapRef}
    {node : Node} (present : st.nodeToId nodesMap node ≠ 0) (removed : Removed st' st nodesMap node) :
    Consistent st' := by
  have isCurrent : ∀ other, st'.IsCurrent other ↔ st.IsCurrent other := by
    intro other; cases other <;> simp [Agent.IsCurrent,removed.current]
  refine ⟨?_,?_,?_,?_,?_⟩
  · intro other n entry
    rw [removed.nodeToId] at entry ⊢
    by_cases same : other = nodesMap ∧ n = node
    · rw [if_pos same] at entry; exact absurd rfl entry
    · rw [if_neg same] at entry ⊢
      -- no other entry shares the removed id
      have distinct : st.nodeToId other n ≠ st.nodeToId nodesMap node :=
        fun equal => same (consistent.entry_unique present equal)
      rw [removed.idToNode,Function.update_apply,if_neg distinct,removed.idToNodesMap,
        removed.lastNodeId,isCurrent]
      exact consistent.bound other n entry
  · intro id n found
    rw [removed.idToNode,Function.update_apply] at found
    split_ifs at found with gone
    obtain ⟨nonzero,other,entry⟩ := consistent.indexed id n found
    refine ⟨nonzero,other,?_⟩
    rw [removed.nodeToId,if_neg]
    · exact entry
    · rintro ⟨rfl,rfl⟩; exact gone entry.symm
  · intro id isRequested
    obtain ⟨wasRequested,distinct⟩ := removed.requested id isRequested
    rw [removed.idToNode,Function.update_apply,if_neg distinct]
    exact consistent.requested id wasRequested
  · rw [removed.current,removed.nextMap]; exact consistent.handles
  · rw [removed.lastNodeId]; exact consistent.positive

theorem unbindWith_consistent (dom : Dom) (fuel : Nat) :
    ∀ (node : Node) (nodesMap : MapRef) {st : Agent},
      Consistent st → Consistent (unbindWith dom fuel node nodesMap st) := by
  induction fuel with
  | zero => exact fun _ _ _ consistent => consistent
  | succ fuel ih =>
    intro node nodesMap st consistent
    have unlistened := consistent.of_same (unlisten_same dom node st)
    simp only [unbindWith]
    split
    · exact unlistened
    · rename_i present
      split
      · rename_i wasRequested
        refine List.foldlRecOn (motive := Consistent) _ _ _ ?_ fun _ consistent _ _ =>
          ih _ _ consistent
        refine (unlistened.remove present (removed_entry _ _ _ _ ?_)).of_same (listen_same _ _ _)
        intro id cleared
        simp only [Function.update_apply] at cleared
        split_ifs at cleared with distinct
        exact ⟨by simpa using cleared,distinct⟩
      · rename_i notRequested
        refine unlistened.remove present (removed_entry _ _ _ _ ?_)
        intro id isRequested
        simp only [Agent.childrenRequested_setNodeToId] at isRequested notRequested ⊢
        exact ⟨isRequested,fun equal => notRequested (equal ▸ isRequested)⟩

theorem unbind_consistent (dom : Dom) (node : Node) (nodesMap : MapRef) {st : Agent}
    (consistent : Consistent st) : Consistent (unbind dom node nodesMap st) :=
  unbindWith_consistent dom _ node nodesMap consistent

section Builders

variable {nodesMap : MapRef}

structure Grows (nodesMap : MapRef) (st' st : Agent) : Prop where
  consistent : Consistent st'
  current : st'.IsCurrent nodesMap
  indexed : ∀ id n, st.idToNode id = some n → st'.idToNode id = some n

theorem Grows.trans {st st' st'' : Agent} (second : Grows nodesMap st'' st')
    (first : Grows nodesMap st' st) : Grows nodesMap st'' st :=
  ⟨second.consistent,second.current,fun id n found => second.indexed id n (first.indexed id n found)⟩

theorem Grows.of_same {st st' : Agent} (consistent : Consistent st) (current : st.IsCurrent nodesMap)
    (same : SameBindings st' st) : Grows nodesMap st' st :=
  ⟨consistent.of_same same,(same.isCurrent nodesMap).mpr current,by simp [same.idToNode]⟩

/-- From a consistent state whose map exists, the invariant and the map carry over, and the
index only grows. -/
def GrowsFrom (nodesMap : MapRef) (st st' : Agent) : Prop :=
  Consistent st → st.IsCurrent nodesMap → Grows nodesMap st' st

theorem bind_grows (node : Node) (st : Agent) : GrowsFrom nodesMap st (bind node nodesMap st).2 := by
  intro consistent current
  rcases bind_spec node nodesMap st with ⟨-,found⟩ | ⟨absent,-,entered⟩
  · rw [found]; exact .of_same consistent current (.refl st)
  · obtain ⟨consistent',current'⟩ := bind_consistent consistent current node
    refine ⟨consistent',current',fun id n found => ?_⟩
    rw [entered.idToNode,Function.update_apply,if_neg (consistent.indexed_below found).ne]
    exact found

/-- The description builders bind into one map and listen: they keep the invariant. -/
theorem growsChain (dom : Dom) (nodesMap : MapRef) : BuildChain dom nodesMap (GrowsFrom nodesMap) where
  refl st consistent current := .of_same consistent current (.refl st)
  trans first second consistent current :=
    let grown := first consistent current
    (second grown.consistent grown.current).trans grown
  bound := bind_grows
  listened node st consistent current := .of_same consistent current (listen_same _ node st)

/-- The builders mark nothing requested. -/
theorem requestedChain (dom : Dom) (nodesMap : MapRef) :
    BuildChain dom nodesMap fun st st' => st'.childrenRequested = st.childrenRequested where
  refl _ := rfl
  trans first second := second.trans first
  bound node st := by
    rcases bind_spec node nodesMap st with ⟨-,found⟩ | ⟨-,-,entered⟩
    · rw [found]
    · exact entered.requested
  listened node st := (listen_same dom node st).requested

/-- The builders send nothing. -/
theorem frontendChain (dom : Dom) (nodesMap : MapRef) :
    BuildChain dom nodesMap fun st st' => st'.frontend = st.frontend where
  refl _ := rfl
  trans first second := second.trans first
  bound node st := by
    rcases bind_spec node nodesMap st with ⟨-,found⟩ | ⟨-,-,entered⟩
    · rw [found]
    · exact entered.frontend
  listened node st := by
    unfold listen startListening
    split
    · split <;> rfl
    · rfl

/-- The builders leave the search alone. -/
theorem searchChain (dom : Dom) (nodesMap : MapRef) :
    BuildChain dom nodesMap fun st st' => st'.search = st.search where
  refl _ := rfl
  trans first second := second.trans first
  bound node st := by
    rcases bind_spec node nodesMap st with ⟨-,found⟩ | ⟨-,-,entered⟩
    · rw [found]
    · exact entered.search
  listened node st := by
    unfold listen startListening
    split
    · split <;> rfl
    · rfl

end Builders

@[simp] theorem Agent.isCurrent_live (st : Agent) : st.IsCurrent .live := trivial

theorem nodeForId_some {st : Agent} {id : Nat} {node : Node} (found : nodeForId id st = some node) :
    st.idToNode id = some node := by
  unfold nodeForId at found
  split at found
  · cases found
  · exact found

/-- The map recorded for an indexed id exists. -/
theorem Consistent.owner_current {st : Agent} (consistent : Consistent st) {id : Nat} {node : Node}
    {nodesMap : MapRef} (found : st.idToNode id = some node) (owner : st.idToNodesMap id = some nodesMap) :
    st.IsCurrent nodesMap := by
  obtain ⟨nonzero,other,entry⟩ := consistent.indexed id node found
  subst entry
  obtain ⟨-,owner',-,current⟩ := consistent.bound other node nonzero
  rw [owner] at owner'
  cases owner'
  exact current

theorem discardBindings_consistent {st : Agent} (consistent : Consistent st) :
    Consistent (discardBindings st) := by
  refine ⟨fun nodesMap node entry => ?_,?_,?_,?_,consistent.positive⟩
  · cases nodesMap <;> simp [discardBindings,releaseDanglingNodes,Agent.nodeToId] at entry
  all_goals simp [discardBindings,releaseDanglingNodes]

theorem reset_consistent {st : Agent} (consistent : Consistent st) : Consistent (reset st) :=
  List.foldlRecOn (motive := Consistent) _ _ _
    (discardBindings_consistent (consistent.of_same (searchCanceled_same st)))
    fun _ consistent document _ => consistent.of_same (stopListening_same document _)

theorem allocateDanglingMap_consistent {st : Agent} (consistent : Consistent st) :
    Consistent (allocateDanglingMap st) ∧
      (allocateDanglingMap st).IsCurrent (.dangling st.nextDanglingMap) := by
  -- a handle not yet allocated names an empty map
  have fresh : ∀ node, st.nodeToId (.dangling st.nextDanglingMap) node = 0 := fun node =>
    consistent.stale (show ¬ st.IsCurrent (.dangling st.nextDanglingMap) from
      fun member => Nat.lt_irrefl _ (consistent.handles _ member)) node
  have entries : ∀ nodesMap node, (allocateDanglingMap st).nodeToId nodesMap node = st.nodeToId nodesMap node := by
    intro nodesMap node
    cases nodesMap with
    | live => rfl
    | dangling handle =>
      by_cases equal : handle = st.nextDanglingMap
      · subst equal
        simp only [allocateDanglingMap,Agent.nodeToId,Function.update_same]
        exact (fresh node).symm
      · simp [allocateDanglingMap,Agent.nodeToId,equal]
  have isCurrent : ∀ nodesMap, st.IsCurrent nodesMap → (allocateDanglingMap st).IsCurrent nodesMap := by
    intro nodesMap current
    cases nodesMap <;> simp_all [Agent.IsCurrent,allocateDanglingMap]
  refine ⟨⟨?_,?_,consistent.requested,?_,consistent.positive⟩,by simp [Agent.IsCurrent,allocateDanglingMap]⟩
  · intro nodesMap node entry
    rw [entries] at entry ⊢
    obtain ⟨found,owner,below,current⟩ := consistent.bound nodesMap node entry
    exact ⟨found,owner,below,isCurrent nodesMap current⟩
  · intro id node found
    simpa only [entries] using consistent.indexed id node found
  · intro handle member
    simp only [allocateDanglingMap,List.mem_append,List.mem_singleton] at member ⊢
    rcases member with old | rfl
    · exact Nat.lt_succ_of_lt (consistent.handles handle old)
    · exact Nat.lt_succ_self _

theorem setChildrenRequested_consistent {st : Agent} (consistent : Consistent st) {nodeId : Nat}
    {requested : Bool} (indexed : requested = true → st.idToNode nodeId ≠ none) :
    Consistent (setChildrenRequested nodeId requested st) := by
  refine ⟨consistent.bound,consistent.indexed,fun id isRequested => ?_,consistent.handles,
    consistent.positive⟩
  simp only [setChildrenRequested,Function.update_apply] at isRequested
  split_ifs at isRequested with same
  · subst same; exact indexed isRequested
  · exact consistent.requested id isRequested

theorem pushDocumentToFrontend_consistent (dom : Dom) {st : Agent} (consistent : Consistent st) :
    Consistent (pushDocumentToFrontend dom st).2 := by
  unfold pushDocumentToFrontend
  split
  · exact consistent
  · split
    · exact consistent
    · exact ((growsChain dom .live).buildObjectForNode _ 2 _ consistent (Agent.isCurrent_live st)).consistent.of_same
        (send_same _ _)

theorem pushChildNodesToFrontend_consistent (dom : Dom) (nodeId : Nat) {st st' : Agent}
    (consistent : Consistent st) (ok : pushChildNodesToFrontend dom nodeId st = .ok st') :
    Consistent st' := by
  unfold pushChildNodesToFrontend at ok
  split at ok
  · cases ok; exact consistent
  · rename_i node found
    have found := nodeForId_some found
    split at ok
    · cases ok; exact consistent
    · split at ok
      · rename_i nodesMap owner
        cases ok
        have built := (growsChain dom nodesMap).buildArrayForContainerChildren 1 node st consistent
          (consistent.owner_current found owner)
        refine (setChildrenRequested_consistent built.consistent fun _ => ?_).of_same (send_same _ _)
        simp [built.indexed nodeId node found]
      · split at ok
        · cases ok
          have listened := consistent.of_same (listen_same dom node st)
          refine (setChildrenRequested_consistent listened fun _ => ?_).of_same (send_same _ _)
          simp [(listen_same dom node st).idToNode,found]
        · cases ok

theorem pushPathChildren_consistent (dom : Dom) (nodesMap : MapRef) (path : List Node) {st st' : Agent}
    (consistent : Consistent st) (ok : pushPathChildren dom nodesMap path st = .ok st') : Consistent st' :=
  except_foldlM_invariant Consistent (fun _ _ _ consistent ok =>
    pushChildNodesToFrontend_consistent dom _ consistent ok) _ consistent ok

theorem pushDetachedRoot_consistent (dom : Dom) (root : Node) {st : Agent} (consistent : Consistent st) :
    Consistent (pushDetachedRoot dom root st).2 := by
  obtain ⟨allocated,current⟩ := allocateDanglingMap_consistent consistent
  exact ((growsChain dom _).buildObjectForNode root 0 _ allocated current).consistent.of_same
    (send_same _ _)

theorem pushNodePathToFrontend_consistent (dom : Dom) (node : Node) {st : Agent} {result : Nat × Agent}
    (consistent : Consistent st) (ok : pushNodePathToFrontend dom node st = .ok result) :
    Consistent result.2 := by
  have pushed := pushDocumentToFrontend_consistent dom consistent
  dsimp only [pushNodePathToFrontend] at ok
  split at ok
  · cases ok; exact pushed
  · split at ok
    · cases ok; exact pushed
    · split at ok
      · cases ok
      · obtain ⟨st',children,rfl⟩ := except_map_success ok
        refine pushPathChildren_consistent dom _ _ ?_ children
        split
        · exact pushDetachedRoot_consistent dom _ pushed
        · exact pushed

theorem handleEvent_consistent (dom : Dom) (event : Event) {st : Agent} (consistent : Consistent st) :
    Consistent (handleEvent dom event st) := by
  dsimp only [handleEvent]
  split
  · exact pushDocumentToFrontend_consistent dom (discardBindings_consistent consistent)
  · exact consistent
  · rename_i node
    split
    · exact consistent
    · split
      · exact consistent.of_same ((send_same _ _).trans (listen_same dom node st))
      · exact setChildrenRequested_consistent
          (((growsChain dom .live).buildObjectForNode node 0 _ (consistent.of_same (send_same st _))
            (Agent.isCurrent_live _)).consistent.of_same (send_same _ _)) nofun

theorem didInsertDOMNode_consistent (dom : Dom) (node : Node) {st : Agent} (consistent : Consistent st) :
    Consistent (didInsertDOMNode dom node st) := by
  have unbound := unbind_consistent dom node .live consistent
  dsimp only [didInsertDOMNode]
  split
  · exact consistent
  · split
    · exact unbound
    · rename_i parent _
      split
      · exact unbound
      · split
        · exact unbound.of_same ((send_same _ _).trans (listen_same dom parent _))
        · exact ((growsChain dom .live).buildObjectForNode node 0 _ unbound
            (Agent.isCurrent_live _)).consistent.of_same (send_same _ _)

theorem didRemoveDOMNode_consistent (dom : Dom) (node : Node) {st : Agent} (consistent : Consistent st) :
    Consistent (didRemoveDOMNode dom node st) := by
  dsimp only [didRemoveDOMNode]
  split
  · exact consistent
  · split
    · exact consistent
    · rename_i parent _
      split
      · exact consistent
      · refine unbind_consistent dom node .live (consistent.of_same ?_)
        split
        · have listened := listen_same dom parent st
          split
          · exact (send_same _ _).trans listened
          · exact listened
        · exact send_same _ _

theorem didModifyDOMAttr_consistent (dom : Dom) (element : Node) {st : Agent}
    (consistent : Consistent st) : Consistent (didModifyDOMAttr dom element st) := by
  dsimp only [didModifyDOMAttr]
  split
  · exact consistent
  · exact consistent.of_same (send_same _ _)

theorem setDocument_consistent (dom : Dom) (doc : Option Node) {st : Agent} (consistent : Consistent st) :
    Consistent (setDocument dom doc st) := by
  have reset := reset_consistent consistent
  dsimp only [setDocument]
  split
  · exact consistent
  · split
    · rename_i document _
      have listening := reset.of_same (startListening_same document _)
      split
      · exact pushDocumentToFrontend_consistent dom listening
      · exact listening
    · exact reset.of_same (send_same _ _)

end InspectorDOM
