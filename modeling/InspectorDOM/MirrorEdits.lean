import InspectorDOM.Mirror

/-! The mirror under the tree's own edits and the load event. A removal is reported before it
happens: a parent whose children the frontend holds loses the node's id, one whose count it holds
hears 0 when its last visible child goes, and the node's bindings go. An insertion is reported
after it happens: a parent whose children the frontend holds gets the node's new description
right after its inner previous sibling, one whose count it holds hears the new count. In each
case the frontend's list for the parent is again the ids of its visible children, in order. -/

namespace InspectorDOM

theorem getLast?_map_congr {f g : Node → Nat} {l : List Node} (same : ∀ a ∈ l, f a = g a) :
    l.getLast?.map f = l.getLast?.map g := by
  rw [← List.getLast?_map,← List.getLast?_map,List.map_congr_left same]

namespace Unbinding

variable {dom : Dom} {node : Node} {st st' : Agent}

/-- An entry visited under no bound node but one still bound stays, unless it is the unbound node. -/
theorem kept_child (unbinding : Unbinding dom node st st') {parent child : Node}
    (parentBound : st'.documentNodeToIdMap parent ≠ 0)
    (differs : child ≠ node)
    (unique : ∀ other, child ∈ dom.innerChildren other → st.documentNodeToIdMap other ≠ 0 → other = parent) :
    st'.documentNodeToIdMap child = st.documentNodeToIdMap child := by
  by_cases was : st.documentNodeToIdMap child = 0
  · rw [was]; exact unbinding.unbound was
  · by_contra changed
    have gone : st'.documentNodeToIdMap child = 0 := by_contra fun present => changed (unbinding.kept child present)
    rcases unbinding.cleared child was gone with same | ⟨other,link,bound,cleared⟩
    · exact differs same
    · rw [unique other link bound] at cleared
      exact parentBound cleared

/-- A node still bound keeps its request flag. -/
theorem requested_kept (unbinding : Unbinding dom node st st') (consistent : Consistent st) {q : Node}
    (bound : st'.documentNodeToIdMap q ≠ 0) :
    st'.childrenRequested (st.documentNodeToIdMap q) = st.childrenRequested (st.documentNodeToIdMap q) := by
  by_contra changed
  obtain ⟨n,named,-,gone⟩ := unbinding.requested _ changed
  have was : st.documentNodeToIdMap q ≠ 0 := (unbinding.kept q bound) ▸ bound
  obtain ⟨-,rfl⟩ := @Consistent.entry_unique _ consistent .live .live _ _ was named
  exact bound gone

end Unbinding

/-- A node still bound after an unbinding keeps its facts when each of its visited children is
visited under it in the tree the unbinding walked, and none is the unbound node: the bound nodes of
that tree being placed, no other bound node visits them. -/
theorem NodeMirrored.of_unbinding {dom dom' : Dom} {node q : Node} {st st' : Agent} (consistent : Consistent st)
    (tidy : Tidy dom) (placed : ∀ n, st.documentNodeToIdMap n ≠ 0 → dom.Placed n)
    (unbinding : Unbinding dom node st st') (facts : NodeMirrored ⟨dom',st⟩ q) (bound : st'.documentNodeToIdMap q ≠ 0)
    (children : ∀ child ∈ dom'.innerChildren q, child ∈ dom.innerChildren q ∧ child ≠ node) :
    NodeMirrored ⟨dom',st'⟩ q :=
  have observer := Agent.observer_of_frontend unbinding.frontend
  have placedQ := placed q ((unbinding.kept q bound) ▸ bound)
  facts.transfer (unbinding.kept q bound) (unbinding.requested_kept consistent bound) rfl rfl
    (fun child mem => unbinding.kept_child bound (children child mem).2 fun other link b =>
      tidy.eq_of_mem_innerChildren link (children child mem).1 (placed other b) placedQ)
    (by rw [observer]) (by rw [observer])

/-- The bookkeeping survives an unbinding of a node that is not a document: the main document,
which has no parent, is not unbound with it. -/
theorem Sound.of_unbinding {dom dom' : Dom} {node : Node} {st st' : Agent} (sound : Sound ⟨dom',st⟩)
    (unbinding : Unbinding dom node st st') (consistent : Consistent st') (tidy : Tidy dom)
    (type : dom'.nodeType = dom.nodeType) (notDocument : dom.nodeType node ≠ .document) : Sound ⟨dom',st'⟩ where
  consistent := consistent
  tidy := sound.tidy
  mainDocument document main := sound.mainDocument document (unbinding.main ▸ main)
  anchored q bound := by
    rw [unbinding.main]
    obtain ⟨document,main,bound'⟩ := sound.anchored q ((unbinding.kept q bound) ▸ bound)
    refine ⟨document,main,fun gone => ?_⟩
    have isDocument : dom.nodeType document = .document := type ▸ (sound.mainDocument document main).1
    rcases unbinding.cleared document bound' gone with rfl | ⟨parent,mem,-,-⟩
    · exact notDocument isDocument
    · have linked := (tidy.mem_innerChildren mem).1
      rw [tidy.documents document isDocument] at linked
      cases linked
  listening id n found :=
    Agent.documents_ne_nil_of_main unbinding.main (sound.listening id n (unbinding.indexed id n found))
  placed q bound := sound.placed q ((unbinding.kept q bound) ▸ bound)

/-- The bookkeeping on a changed tree that keeps types and owners and leaves bound nodes placed. -/
theorem Sound.of_dom {dom dom' : Dom} {st : Agent} (sound : Sound ⟨dom,st⟩) (tidy : Tidy dom')
    (type : dom'.nodeType = dom.nodeType) (owner : dom'.ownerElement = dom.ownerElement)
    (placed : ∀ node, st.documentNodeToIdMap node ≠ 0 → dom'.Placed node) : Sound ⟨dom',st⟩ where
  consistent := sound.consistent
  tidy := tidy
  mainDocument document main := type ▸ owner ▸ sound.mainDocument document main
  anchored := sound.anchored
  listening := sound.listening
  placed := placed

/-- `childNodeRemoved` edits the list of the parent's id only: a node keeps its facts unless its
children were asked for and it has that id. -/
theorem NodeMirrored.of_removed {w : World} {q : Node} (facts : NodeMirrored w q) (parentId id : Nat)
    (elsewhere : w.agent.childrenRequested (w.agent.documentNodeToIdMap q) = true →
      w.agent.documentNodeToIdMap q ≠ parentId) :
    NodeMirrored (w.respond (.childNodeRemoved parentId id)) q := by
  simp only [NodeMirrored,ChildrenMirrored,CountMirrored,World.liveChildIds,World.respond,Agent.observer_send,
    Agent.send_documentNodeToIdMap,Agent.send_childrenRequested,Observer.receive_childNodeRemoved_children,
    Observer.receive_childNodeRemoved_childCount]
  refine ⟨fun isRequested => ?_,facts.2⟩
  rw [Function.update_noteq (elsewhere isRequested)]
  exact facts.1 isRequested

theorem NodeMirrored.of_dom {dom dom' : Dom} {st : Agent} {node : Node} (facts : NodeMirrored ⟨dom,st⟩ node)
    (type : dom'.nodeType node = dom.nodeType node) (inner : dom'.innerChildren node = dom.innerChildren node) :
    NodeMirrored ⟨dom',st⟩ node :=
  facts.transfer rfl rfl inner type (fun _ _ => rfl) rfl rfl

/-- `childNodeCountUpdated` with a bound node's visible child count, for a node whose children
were not asked for, leaves every other node as it was and gives this one its count. -/
theorem Mirrored.of_countUpdated {dom : Dom} {st : Agent} {node : Node} (sound : Sound ⟨dom,st⟩)
    (bound : st.documentNodeToIdMap node ≠ 0) (unrequested : st.childrenRequested (st.documentNodeToIdMap node) = false)
    (others : ∀ q, st.documentNodeToIdMap q ≠ 0 → q ≠ node → NodeMirrored ⟨dom,st⟩ q) :
    Mirrored ⟨dom,st.send (.childNodeCountUpdated (st.documentNodeToIdMap node) (dom.innerChildNodeCount node))⟩ where
  toSound := sound.of_agent (sound.consistent.of_same (send_same _ _)) rfl sound.listening (fun _ _ => rfl)
    fun _ bound old => absurd old bound
  nodes q bound' := by
    by_cases same : q = node
    · subst same
      refine ⟨fun requested => (nomatch requested.symm.trans unrequested),fun _ _ => ⟨_,?_,Iff.rfl⟩⟩
      simp
    · have differs : st.documentNodeToIdMap q ≠ st.documentNodeToIdMap node := fun eq => same (sound.injective bound eq)
      exact (others q bound' same).transfer rfl rfl rfl rfl (fun _ _ => rfl) (by simp)
        (by simp [Function.update_noteq differs])

namespace Mirrored

variable {dom : Dom} {st : Agent}

theorem respond (mirrored : Mirrored ⟨dom,st⟩) {record : Record} (quiet : record.describesTree = false) :
    Mirrored (World.respond ⟨dom,st⟩ record) :=
  mirrored.of_same (send_same st record) rfl (by rw [Agent.observer_send,Observer.receive_quiet _ quiet])

theorem addInspectedNode (mirrored : Mirrored ⟨dom,st⟩) (nodeId : Nat) :
    Mirrored ⟨dom,InspectorDOM.addInspectedNode nodeId st⟩ :=
  mirrored.of_same ⟨rfl,rfl,rfl,rfl,rfl,rfl,rfl,rfl⟩ rfl rfl

theorem didModifyDOMAttr (mirrored : Mirrored ⟨dom,st⟩) (element : Node) :
    Mirrored ⟨dom,InspectorDOM.didModifyDOMAttr dom element st⟩ := by
  dsimp only [InspectorDOM.didModifyDOMAttr]
  split
  · exact mirrored
  · exact mirrored.respond rfl

theorem setAttributes (mirrored : Mirrored ⟨dom,st⟩) (element : Node) (attributes : List (String × String)) :
    Mirrored ⟨dom.setAttributes element attributes,st⟩ :=
  mirrored.of_dom (mirrored.tidy.setAttributes element attributes) rfl rfl mirrored.placed fun _ _ => rfl

/-- `listen` changes only the documents listened to, and keeps the main document once there is one. -/
theorem listen (mirrored : Mirrored ⟨dom,st⟩) (node : Node) (present : st.documents ≠ []) :
    Mirrored ⟨dom,InspectorDOM.listen dom node st⟩ := by
  have same := listen_same dom node st
  have main := listen_mainFrameDocument dom node present
  have observer := Agent.observer_of_frontend (listen_frontend dom node st)
  refine ⟨mirrored.toSound.of_agent (mirrored.consistent.of_same same) main (listening_of_main main present)
    (fun n _ => congrFun same.live n) fun n bound old => absurd ((congrFun same.live n).trans old) bound,
    fun n bound => ?_⟩
  have id := congrFun same.live n
  exact (mirrored.nodes n (id ▸ bound)).transfer id (by rw [same.requested]) rfl rfl
    (fun c _ => congrFun same.live c) (by rw [observer]) (by rw [observer])

/-- The load event of a node whose children were asked for: the frontend takes the node's id out
of its parent's list and gets a new description of it after the id of its inner previous sibling,
so the parent's list comes back as it was; the node's count, carried by the description, replaces
its list. -/
theorem reloaded (mirrored : Mirrored ⟨dom,st⟩) {node : Node} (bound : st.documentNodeToIdMap node ≠ 0)
    (requested : st.childrenRequested (st.documentNodeToIdMap node) = true) :
    Mirrored ⟨dom,InspectorDOM.handleEvent dom (.load (some node)) st⟩ := by
  have consistent0 : Consistent st := mirrored.consistent
  have final := handleEvent_consistent dom (.load (some node)) consistent0
  simp only [InspectorDOM.handleEvent,bound,requested,if_false,Bool.not_true,Bool.false_eq_true] at final ⊢
  generalize parentDef : ((dom.innerParentNode node).map st.documentNodeToIdMap).getD 0 = parentId at final ⊢
  set stR := st.send (.childNodeRemoved parentId (st.documentNodeToIdMap node)) with stRDef
  have consistentR : Consistent stR := consistent0.of_same (send_same _ _)
  obtain ⟨described,stable,entered⟩ := buildObjectForNode_builds dom .live dom.Placed
    (fun _ _ mem => mirrored.tidy.placed_of_mem mem) node (mirrored.placed node bound) 0 stR consistentR.positive
  have self : (buildObjectForNode dom node 0 .live stR).1.id ≠ 0 ∧
      (buildObjectForNode dom node 0 .live stR).2.nodeToId .live node = (buildObjectForNode dom node 0 .live stR).1.id :=
    buildObjectWith_entered dom node .live (fun st _ => (stableChain dom .live).buildArrayForContainerChildren 0 node st)
      stR consistentR.positive
  have grown := ((growsChain dom .live).buildObjectForNode node 0 stR consistentR (Agent.isCurrent_live _)).consistent
  have requestedB := (requestedChain dom .live).buildObjectForNode node 0 stR
  have frontendB := (frontendChain dom .live).buildObjectForNode node 0 stR
  have present : stR.documents ≠ [] := mirrored.listening_of_bound bound
  have mainB := (mainChain dom .live).buildObjectForNode node 0 stR present
  dsimp only at described stable entered
  generalize buildObjectForNode dom node 0 .live stR = built at *
  obtain ⟨desc,st1⟩ := built
  dsimp only at *
  have nodeKept : st1.documentNodeToIdMap node = st.documentNodeToIdMap node := stable.liveKept node bound
  have kept : ∀ q, st.documentNodeToIdMap q ≠ 0 → st1.documentNodeToIdMap q = st.documentNodeToIdMap q :=
    fun q b => stable.liveKept q b
  have descId : desc.id = st1.documentNodeToIdMap node := self.2.symm
  have bound1 : st1.documentNodeToIdMap node ≠ 0 := by rw [nodeKept]; exact bound
  have observer1 : st1.observer = st.observer.receive (.childNodeRemoved parentId (st.documentNodeToIdMap node)) := by
    rw [Agent.observer_of_frontend frontendB,stRDef,Agent.observer_send]
  refine ⟨mirrored.toSound.of_agent final mainB (listening_of_main mainB present) kept fun q boundQ old => ?_,
    fun q boundQ => ?_⟩
  · obtain ⟨document,main,bound'⟩ := mirrored.anchored node bound
    exact ⟨entered q fun same => boundQ (same.trans old),document,main,
      fun gone => bound' ((kept document bound').symm.trans gone)⟩
  by_cases atNode : q = node
  · -- the node: its children are no longer asked for, and its description carries its count
    subst atNode
    refine ⟨fun isRequested => by simp [nodeKept] at isRequested,fun _ => CountMirrored.of_countField ?_⟩
    simp only [setChildrenRequested_observer,Agent.observer_send,Observer.receive_childNodeInserted_childCount,
      setChildrenRequested_documentNodeToIdMap,Agent.send_documentNodeToIdMap]
    exact Observer.foldl_learn_childCount_of_exists _ _ _ _ (described.count_of_id grown bound1)
      ⟨desc,Desc.mem_describedList (List.mem_singleton_self desc),descId⟩
  have differsNode : st1.documentNodeToIdMap q ≠ st.documentNodeToIdMap node := fun same =>
    atNode (@Consistent.entry_unique _ grown .live .live _ _ bound1
      (same.trans nodeKept.symm)).2
  by_cases special : st1.documentNodeToIdMap q = parentId ∧ st.childrenRequested parentId = true
  · -- the parent, whose list the two records take apart and put back together
    obtain ⟨atParent,parentRequested⟩ := special
    have nonzero : parentId ≠ 0 := atParent ▸ boundQ
    obtain ⟨p,inner⟩ : ∃ p, dom.innerParentNode node = some p := by
      cases found : dom.innerParentNode node with
      | none => rw [found] at parentDef; exact absurd parentDef.symm nonzero
      | some p => exact ⟨p,rfl⟩
    simp only [inner,Option.map_some',Option.getD_some] at parentDef
    have pBound : st.documentNodeToIdMap p ≠ 0 := parentDef ▸ nonzero
    obtain ⟨-,rfl⟩ := @Consistent.entry_unique _ grown .live .live _ _ (fun gone => pBound ((kept p pBound).symm.trans gone))
      (atParent.trans (parentDef.symm.trans (kept p pBound).symm))
    have facts := (mirrored.nodes q pBound).1 (parentDef ▸ parentRequested)
    have agree : ∀ c ∈ dom.innerChildren q, st1.documentNodeToIdMap c = st.documentNodeToIdMap c :=
      fun c mem => kept c (facts.2 c mem)
    obtain ⟨container,attached⟩ : ∃ container, dom.parentNode node = some container := by
      cases linked : dom.parentNode node with
      | none => simp [Dom.innerParentNode,linked] at inner
      | some container => exact ⟨container,rfl⟩
    obtain ⟨before,after,split,-,previous⟩ := mirrored.tidy.children_split attached (mirrored.visible bound)
    replace split : dom.innerChildren q = before ++ node :: after := by
      rw [mirrored.tidy.innerChildren,
        mirrored.tidy.innerContainer_of_innerParentNode attached (mirrored.placed node bound) inner,split]
    have nodupSt := mirrored.nodup_ids (mirrored.tidy.innerChildren_nodup q) facts.2
    rw [split] at nodupSt
    have agreeSplit : ∀ c ∈ before ++ node :: after, st1.documentNodeToIdMap c = st.documentNodeToIdMap c :=
      fun c mem => agree c (split ▸ mem)
    have nodup1 : ((before ++ node :: after).map st1.documentNodeToIdMap).Nodup := by
      rw [List.map_congr_left agreeSplit]; exact nodupSt
    refine ⟨fun _ => ⟨?_,fun c mem => ?_⟩,fun unrequested => ?_⟩
    · simp only [World.liveChildIds,setChildrenRequested_observer,Agent.observer_send,
        Observer.receive_childNodeInserted_children,setChildrenRequested_documentNodeToIdMap,Agent.send_documentNodeToIdMap,
        observer1,Observer.receive_childNodeRemoved_children,atParent,Function.update_same]
      have listed : st.observer.children parentId = (before ++ node :: after).map st.documentNodeToIdMap := by
        rw [← parentDef,facts.1,World.liveChildIds,split]
      rw [listed,erase_ids_split _ nodupSt,previous,descId,split,
        ← List.map_congr_left fun c mem =>
          agreeSplit c (List.mem_append.mpr ((List.mem_append.mp mem).imp_right (List.mem_cons_of_mem _)))]
      exact childInserted_ids_split _ nodup1 fun a mem => by
        rw [agreeSplit a (List.mem_append_left _ mem)]; exact facts.2 a (split ▸ List.mem_append_left _ mem)
    · show st1.documentNodeToIdMap c ≠ 0
      rw [agree c mem]; exact facts.2 c mem
    · simp only [setChildrenRequested_childrenRequested,setChildrenRequested_documentNodeToIdMap,
        Agent.send_childrenRequested,Agent.send_documentNodeToIdMap] at unrequested
      rw [Function.update_noteq differsNode,requestedB,atParent] at unrequested
      exact nomatch parentRequested.symm.trans unrequested
  · -- any other node keeps its facts through the build
    have elsewhere : ∀ id, st1.documentNodeToIdMap q = id → st.childrenRequested id = true → id ≠ parentId :=
      fun id named isRequested same => special ⟨named.trans same,same ▸ isRequested⟩
    have factsR : stR.documentNodeToIdMap q ≠ 0 → NodeMirrored ⟨dom,stR⟩ q := fun b =>
      (mirrored.nodes q b).of_removed parentId (st.documentNodeToIdMap node) (elsewhere _ (kept q b))
    refine NodeMirrored.of_build consistentR factsR described stable grown (by rfl) boundQ ?_
      (fun isRequested => ?_) ?_
    · simp only [setChildrenRequested_childrenRequested,setChildrenRequested_documentNodeToIdMap,
        Agent.send_childrenRequested,Agent.send_documentNodeToIdMap]
      rw [Function.update_noteq differsNode,requestedB]
    · simp only [setChildrenRequested_observer,Agent.observer_send,Observer.receive_childNodeInserted_children,
        setChildrenRequested_documentNodeToIdMap,Agent.send_documentNodeToIdMap]
      rw [Function.update_noteq (elsewhere _ rfl isRequested),Agent.observer_of_frontend frontendB]
    · simp only [setChildrenRequested_observer,Agent.observer_send,Observer.receive_childNodeInserted_childCount,
        setChildrenRequested_documentNodeToIdMap,Agent.send_documentNodeToIdMap]
      rw [Agent.observer_of_frontend frontendB]

/-- The two events the agent listens to on each document keep the mirror: the document's
`DOMContentLoaded` starts over from a new description, and a load event either tells the owner's
count or rebuilds the owner's description. -/
theorem handleEvent (mirrored : Mirrored ⟨dom,st⟩) (event : Event) :
    Mirrored ⟨dom,InspectorDOM.handleEvent dom event st⟩ := by
  match event with
  | .domContentLoaded =>
    exact Mirrored.pushDocumentToFrontend (of_unbound ⟨discardBindings_consistent mirrored.consistent,mirrored.tidy,
      mirrored.mainDocument,fun _ bound => (bound rfl).elim,nofun,fun _ bound => (bound rfl).elim⟩ fun _ => rfl)
  | .load none => exact mirrored
  | .load (some node) =>
    by_cases bound : st.documentNodeToIdMap node = 0
    · simp only [InspectorDOM.handleEvent,bound,if_true]; exact mirrored
    · cases requested : st.childrenRequested (st.documentNodeToIdMap node)
      · have listened := mirrored.listen node (mirrored.listening_of_bound bound)
        have id := congrFun (listen_same dom node st).live node
        simp only [InspectorDOM.handleEvent,bound,requested,if_false,Bool.not_false,if_true]
        rw [← id]
        exact of_countUpdated listened.toSound (id ▸ bound) (by rw [id,(listen_same dom node st).requested]; exact requested)
          fun q b _ => listened.nodes q b
      · exact mirrored.reloaded bound requested

end Mirrored

end InspectorDOM
