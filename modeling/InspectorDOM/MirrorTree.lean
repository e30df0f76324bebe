import InspectorDOM.MirrorEdits

/-! The mirror under the tree's own insertions and removals, each reported as the code reports
it: `didRemoveDOMNode` just before a node leaves its parent, `didInsertDOMNode` just after it
comes in. The frontend hears about the parent's children only; the node's bindings go, with the
subtree the frontend knows, and an inserted node is bound again under a new id. On a tidy tree,
for a parent that is neither a frame owner nor a content document, every node bound in the live
map keeps its facts: the parent's list loses or gains the node's id where the node left or came
in, and its count is told when it crosses 0. What a removal leaves bound is another matter:
`unbind` recurses only into a node whose children were requested, while the pushes bind nodes a
level or two below the ones they describe without requesting them, the document at depth 2 and any
node's single text child at depth 0. -/

namespace InspectorDOM

/-- A record that names only the parent's id, and a tree that changed only the parent's visited
children: every other node keeps its facts, and the parent's are those given. -/
theorem Mirrored.of_told {dom dom' : Dom} {st st' : Agent} {parent : Node} (mirrored : Mirrored ⟨dom,st⟩)
    (tidy : Tidy dom') (type : dom'.nodeType = dom.nodeType) (owner : dom'.ownerElement = dom.ownerElement)
    (placed : ∀ node, st.documentNodeToIdMap node ≠ 0 → dom'.Placed node)
    (inner : ∀ q, q ≠ parent → dom'.innerChildren q = dom.innerChildren q)
    (same : SameBindings st' st) (main : st'.mainFrameDocument = st.mainFrameDocument)
    (children : ∀ id, id ≠ st.documentNodeToIdMap parent → st'.observer.children id = st.observer.children id)
    (counted : ∀ id, id ≠ st.documentNodeToIdMap parent → st'.observer.childCount id = st.observer.childCount id)
    (told : st.documentNodeToIdMap parent ≠ 0 → NodeMirrored ⟨dom',st'⟩ parent) : Mirrored ⟨dom',st'⟩ where
  toSound := (mirrored.toSound.of_dom tidy type owner placed).of_agent (mirrored.consistent.of_same same) main
    (fun id n found => Agent.documents_ne_nil_of_main main (mirrored.listening id n (same.idToNode ▸ found)))
    (fun n _ => congrFun same.live n) fun n bound old => absurd ((congrFun same.live n).trans old) bound
  nodes q bound := by
    have bound' : st.documentNodeToIdMap q ≠ 0 := (congrFun same.live q) ▸ bound
    by_cases atParent : q = parent
    · subst atParent; exact told bound'
    · have differs : st.documentNodeToIdMap q ≠ st.documentNodeToIdMap parent := fun eq =>
        atParent (mirrored.injective (eq ▸ bound') eq.symm).symm
      exact (mirrored.nodes q bound').transfer (congrFun same.live q) (by rw [same.requested]) (inner q atParent)
        (congrFun type q) (fun c _ => congrFun same.live c) (children _ differs) (counted _ differs)

/-- Unbinding a node that is no node's visited child keeps the mirror: what it unbinds is that node
and nodes visited under one it unbound, and a node still bound keeps its visited children. -/
theorem Mirrored.of_unbind {dom dom' : Dom} {st : Agent} {node : Node} (mirrored : Mirrored ⟨dom',st⟩)
    (tidy : Tidy dom) (type : dom'.nodeType = dom.nodeType) (owner : dom'.ownerElement = dom.ownerElement)
    (notDocument : dom.nodeType node ≠ .document) (placed : ∀ n, dom'.Placed n → dom.Placed n)
    (children : ∀ q child, child ∈ dom'.innerChildren q → child ∈ dom.innerChildren q ∧ child ≠ node) :
    Mirrored ⟨dom',InspectorDOM.unbind dom node .live st⟩ :=
  have unbinding := (tidy.unbind_unbinding node st (fun document main => owner ▸ mirrored.unowned document main)
    mirrored.unbound_of_empty).1
  ⟨mirrored.toSound.of_unbinding unbinding (unbind_consistent dom node .live mirrored.consistent) tidy type
      notDocument,
    fun q bound => NodeMirrored.of_unbinding mirrored.consistent tidy (fun n b => placed n (mirrored.placed n b))
      unbinding (mirrored.nodes q ((unbinding.kept q bound) ▸ bound)) bound (children q)⟩

/-- `didRemoveDOMNode` just before `parent->removeChild(node)`, for a parent that is neither a frame
owner nor a content document. A whitespace node, or a node whose parent is not bound, is not
reported and no bound node visits it; otherwise the parent's list loses the node's id, or its count
is told 0 when the node was its last visible child, and the node's bindings go. -/
theorem Mirrored.removeChild {w : World} (mirrored : Mirrored w) {parent node : Node}
    (attached : w.dom.parentNode node = some parent) (site : w.dom.isFramed parent = false) :
    Mirrored (w.removeChild parent node) := by
  obtain ⟨dom,st⟩ := w
  dsimp only at attached site
  have tidy : Tidy dom := mirrored.tidy
  have tidy' := tidy.removeChild attached
  have child := (tidy.childNodes parent node).mpr attached
  have placed : ∀ n, st.documentNodeToIdMap n ≠ 0 → (dom.removeChild parent node).Placed n :=
    fun n bound => (mirrored.placed n bound).removeChild parent node
  have inner : ∀ q, q ≠ parent → (dom.removeChild parent node).innerChildren q = dom.innerChildren q :=
    fun q other => by rw [tidy.innerChildren_removeChild attached site,if_neg other]
  unfold World.removeChild didRemoveDOMNode
  dsimp only
  split
  · -- a whitespace node is none of the visited children
    rename_i blank
    refine mirrored.of_dom tidy' rfl rfl placed fun q _ => ?_
    rw [tidy.innerChildren_removeChild attached site]
    split
    · subst q
      exact List.erase_of_not_mem fun mem => by simpa [Dom.visible,blank] using (tidy.mem_innerChildren mem).2
    · rfl
  · rename_i shown
    simp only [attached]
    split
    · rename_i unbound
      exact mirrored.of_dom tidy' rfl rfl placed fun q bound => inner q fun same => bound (same ▸ unbound)
    · rename_i bound
      have visible : dom.visible node = true := by simpa [Dom.visible] using shown
      have mem : node ∈ dom.innerChildren parent := by
        rw [tidy.innerChildren_of_unframed site]; exact List.mem_filter.mpr ⟨child,visible⟩
      have present := mirrored.listening_of_bound bound
      refine Mirrored.of_unbind ?_ tidy rfl rfl (tidy.not_document_of_mem child)
        (fun n placed' => placed'.of_removeChild attached (Dom.isFramed_eq_false.mp site).2) fun q c inChildren => ?_
      · have facts := mirrored.nodes parent bound
        cases requested : st.childrenRequested (st.documentNodeToIdMap parent)
        · -- the parent's count, told 0 when the node was its last visible child
          have length : 0 < dom.innerChildNodeCount parent := List.length_pos_of_mem mem
          have counted : (dom.removeChild parent node).innerChildNodeCount parent = dom.innerChildNodeCount parent - 1 := by
            rw [Dom.innerChildNodeCount,tidy.innerChildren_removeChild attached site,if_pos rfl,
              List.length_erase_of_mem mem]; rfl
          have main := listen_mainFrameDocument dom parent present
          simp only [Bool.not_false,if_true]
          split
          · rename_i last
            refine mirrored.of_told tidy' rfl rfl placed inner ((send_same _ _).trans (listen_same _ _ _)) main
              (fun _ _ => by simp) (fun id differs => by simp [Function.update_noteq differs]) fun _ =>
                ⟨fun isRequested => by simp [requested] at isRequested,fun _ _ => ⟨0,by simp,?_⟩⟩
            rw [counted,last]
          · rename_i notLast
            refine mirrored.of_told tidy' rfl rfl placed inner (listen_same _ _ _) main (fun _ _ => by simp)
              (fun _ _ => by simp) fun _ => ⟨fun isRequested => by simp [requested] at isRequested,fun _ container => ?_⟩
            obtain ⟨count,known,positive⟩ := facts.2 requested container
            refine ⟨count,by simpa using known,?_⟩
            dsimp only at positive ⊢
            rw [counted]
            omega
        · -- the parent's list loses the node's id
          obtain ⟨listed,allBound⟩ := facts.1 requested
          dsimp only [World.liveChildIds] at listed allBound
          simp only [Bool.not_true,Bool.false_eq_true,if_false]
          refine mirrored.of_told tidy' rfl rfl placed inner (send_same _ _) rfl
            (fun id differs => by simp [Function.update_noteq differs]) (fun _ _ => by simp) fun _ =>
              ⟨fun _ => ⟨?_,fun c inChildren => ?_⟩,fun unrequested => by simp [requested] at unrequested⟩
          · simp only [World.liveChildIds,Agent.observer_send,Observer.receive_childNodeRemoved_children,
              Agent.send_documentNodeToIdMap,Function.update_same,tidy.innerChildren_removeChild attached site,if_true]
            rw [listed,map_erase_of_injOn (f := st.documentNodeToIdMap) _
              fun o _ same => mirrored.injective (allBound node mem) same]
          · rw [tidy.innerChildren_removeChild attached site,if_pos rfl] at inChildren
            exact allBound c (List.mem_of_mem_erase inChildren)
      · rw [tidy.innerChildren_removeChild attached site] at inChildren
        split at inChildren
        · subst q
          exact ((tidy.innerChildren_nodup _).mem_erase_iff.mp inChildren).symm
        · rename_i other
          refine ⟨inChildren,?_⟩
          rintro rfl
          have linked := (tidy.mem_innerChildren inChildren).1
          rw [attached] at linked
          exact other ((tidy.innerContainer_eq_iff site q).mp (Option.some.inj linked).symm)

theorem Dom.filter_insertIn {p : Node → Bool} {node : Node} (hidden : p node = false) (l : List Node)
    (refChild : Option Node) : (Dom.insertIn l node refChild).filter p = l.filter p := by
  obtain ⟨before,after,inserted,rfl⟩ := Dom.insertIn_split l node refChild
  rw [inserted,List.filter_append,List.filter_cons_of_neg (by simp [hidden]),List.filter_append]

/-- A node without a binding comes in under a parent whose children the frontend holds: its new
description goes into the parent's list right after the id of its inner previous sibling, which
puts the ids back in the order of the parent's visible children; every node the description binds
is visible and described. -/
theorem Mirrored.childNodeInserted {dom : Dom} {st : Agent} (mirrored : Mirrored ⟨dom,st⟩) {parent node : Node}
    (refChild : Option Node) (detached : dom.parentNode node = none) (notDocument : dom.nodeType node ≠ .document)
    (site : dom.isFramed parent = false) (shown : dom.visible node = true) (bound : st.documentNodeToIdMap parent ≠ 0)
    (requested : st.childrenRequested (st.documentNodeToIdMap parent) = true) :
    Mirrored ⟨dom.insertBefore parent node refChild,
      (buildObjectForNode (dom.insertBefore parent node refChild) node 0 .live st).2.send
        (.childNodeInserted (st.documentNodeToIdMap parent)
          ((((dom.insertBefore parent node refChild).innerPreviousSibling node).map st.documentNodeToIdMap).getD 0)
          (buildObjectForNode (dom.insertBefore parent node refChild) node 0 .live st).1)⟩ := by
  have tidy : Tidy dom := mirrored.tidy
  have tidy' : Tidy (dom.insertBefore parent node refChild) := tidy.insertBefore refChild detached notDocument site
  have attached : (dom.insertBefore parent node refChild).parentNode node = some parent := by
    simp [Dom.insertBefore]
  have root : (dom.insertBefore parent node refChild).Placed node :=
    ⟨shown,fun above linked => by rw [attached] at linked; cases linked; exact (Dom.isFramed_eq_false.mp site).2,
      fun document => absurd document notDocument⟩
  have consistent0 : Consistent st := mirrored.consistent
  obtain ⟨listed,allBound⟩ := (mirrored.nodes parent bound).1 requested
  dsimp only [World.liveChildIds] at listed allBound
  obtain ⟨described,stable,entered⟩ := buildObjectForNode_builds (dom.insertBefore parent node refChild) .live
    (dom.insertBefore parent node refChild).Placed (fun _ _ mem => tidy'.placed_of_mem mem) node root 0 st
    consistent0.positive
  have self : (buildObjectForNode (dom.insertBefore parent node refChild) node 0 .live st).1.id ≠ 0 ∧
      (buildObjectForNode (dom.insertBefore parent node refChild) node 0 .live st).2.nodeToId .live node =
        (buildObjectForNode (dom.insertBefore parent node refChild) node 0 .live st).1.id :=
    buildObjectWith_entered (dom.insertBefore parent node refChild) node .live
    (fun st _ => (stableChain (dom.insertBefore parent node refChild) .live).buildArrayForContainerChildren 0 node st)
    st consistent0.positive
  have grown := ((growsChain (dom.insertBefore parent node refChild) .live).buildObjectForNode node 0 st consistent0
    (Agent.isCurrent_live _)).consistent
  have requestedB := (requestedChain (dom.insertBefore parent node refChild) .live).buildObjectForNode node 0 st
  have frontendB := (frontendChain (dom.insertBefore parent node refChild) .live).buildObjectForNode node 0 st
  have present : st.documents ≠ [] := mirrored.listening_of_bound bound
  have mainB := (mainChain (dom.insertBefore parent node refChild) .live).buildObjectForNode node 0 st present
  obtain ⟨before,after,split,rest,previous⟩ := tidy'.children_split attached shown
  replace split : (dom.insertBefore parent node refChild).innerChildren parent = before ++ node :: after := by
    rw [tidy'.innerChildren_of_unframed site,split]
  have absent : node ∉ dom.childNodes parent := fun mem => by simp [(tidy.childNodes parent node).mp mem] at detached
  have erased : ((dom.insertBefore parent node refChild).childNodes parent).erase node = dom.childNodes parent := by
    simp [Dom.insertBefore,Dom.insertIn_erase absent]
  have innerOld : dom.innerChildren parent = before ++ after := by
    rw [tidy.innerChildren_of_unframed site,← rest,erased]; rfl
  dsimp only at described stable entered self
  generalize buildObjectForNode (dom.insertBefore parent node refChild) node 0 .live st = built at *
  obtain ⟨desc,st1⟩ := built
  dsimp only at *
  simp only [Agent.nodeToId_live] at self
  have kept : ∀ q, st.documentNodeToIdMap q ≠ 0 → st1.documentNodeToIdMap q = st.documentNodeToIdMap q :=
    fun q b => stable.liveKept q b
  have sound : Sound ⟨dom.insertBefore parent node refChild,st1.send (.childNodeInserted (st.documentNodeToIdMap parent)
      ((before.getLast?.map st.documentNodeToIdMap).getD 0) desc)⟩ := by
    refine (mirrored.toSound.of_dom tidy' rfl rfl fun n b => (mirrored.placed n b).insertBefore
      (Dom.isFramed_eq_false.mp site).2 refChild).of_agent (grown.of_same (send_same _ _)) mainB
      (listening_of_main mainB present) kept fun q boundQ old => ?_
    obtain ⟨document,main,bound'⟩ := mirrored.anchored parent bound
    exact ⟨entered q fun same => boundQ (same.trans old),document,main,
      fun gone => bound' ((kept document bound').symm.trans gone)⟩
  rw [previous]
  refine ⟨sound,fun q boundQ => ?_⟩
  have parentKept := kept parent bound
  by_cases atParent : q = parent
  · -- the parent's list takes the new id after its inner previous sibling's
    subst atParent
    have agree : ∀ c ∈ before ++ after, st1.documentNodeToIdMap c = st.documentNodeToIdMap c :=
      fun c mem => kept c (allBound c (innerOld ▸ mem))
    have boundAll : ∀ c ∈ before ++ node :: after, st1.documentNodeToIdMap c ≠ 0 := by
      intro c mem
      rcases List.mem_append.mp mem with mem | mem
      · rw [agree c (List.mem_append_left _ mem)]; exact allBound c (innerOld ▸ List.mem_append_left _ mem)
      · rcases List.mem_cons.mp mem with rfl | mem
        · rw [self.2]; exact self.1
        · rw [agree c (List.mem_append_right _ mem)]; exact allBound c (innerOld ▸ List.mem_append_right _ mem)
    have nodup := sound.nodup_ids (split ▸ tidy'.innerChildren_nodup q) boundAll
    refine ⟨fun _ => ⟨?_,fun c mem => boundAll c (split ▸ mem)⟩,fun unrequested => ?_⟩
    · simp only [World.liveChildIds,Agent.observer_send,Observer.receive_childNodeInserted_children,
        Agent.send_documentNodeToIdMap,parentKept,Function.update_same,Agent.observer_of_frontend frontendB]
      rw [listed,innerOld,split,← self.2,← List.map_congr_left agree,
        ← getLast?_map_congr fun c mem => agree c (List.mem_append_left _ mem)]
      exact childInserted_ids_split _ nodup fun c mem => boundAll c (List.mem_append_left _ mem)
    · simp [parentKept,requestedB,requested] at unrequested
  · -- every other node was described by the build, or keeps its facts through it
    have differs : st1.documentNodeToIdMap q ≠ st.documentNodeToIdMap parent := fun same =>
      atParent (@Consistent.entry_unique _ grown .live .live _ _ (by rw [Agent.nodeToId_live,parentKept]; exact bound)
        (same.trans parentKept.symm)).2
    refine NodeMirrored.of_build consistent0 (fun b => (mirrored.nodes q b).of_dom rfl
        (by rw [tidy.innerChildren_insertBefore refChild detached notDocument site,if_neg atParent])) described stable grown (by rfl) boundQ
      (by simp [requestedB]) (fun _ => ?_) ?_
    · simp [Function.update_noteq differs,Agent.observer_of_frontend frontendB]
    · simp [Agent.observer_of_frontend frontendB]

/-- `didInsertDOMNode` just after a node with no parent came in under `parent`, which is neither a
frame owner nor a content document. A whitespace node is not reported and no bound node visits it;
otherwise the node's old bindings go, and the parent, if bound, hears its new count or gets the
node's description in its list. -/
theorem Mirrored.didInsertDOMNode {dom : Dom} {st : Agent} (mirrored : Mirrored ⟨dom,st⟩) {parent node : Node}
    (refChild : Option Node) (detached : dom.parentNode node = none) (notDocument : dom.nodeType node ≠ .document)
    (site : dom.isFramed parent = false) :
    Mirrored ⟨dom.insertBefore parent node refChild,
      InspectorDOM.didInsertDOMNode (dom.insertBefore parent node refChild) node st⟩ := by
  have tidy : Tidy dom := mirrored.tidy
  have tidy' : Tidy (dom.insertBefore parent node refChild) := tidy.insertBefore refChild detached notDocument site
  have attached : (dom.insertBefore parent node refChild).parentNode node = some parent := by
    simp [Dom.insertBefore]
  have inner : ∀ q, q ≠ parent → (dom.insertBefore parent node refChild).innerChildren q = dom.innerChildren q :=
    fun q other => by rw [tidy.innerChildren_insertBefore refChild detached notDocument site,if_neg other]
  have placed : ∀ n, dom.Placed n → (dom.insertBefore parent node refChild).Placed n :=
    fun n placed => placed.insertBefore (Dom.isFramed_eq_false.mp site).2 refChild
  unfold InspectorDOM.didInsertDOMNode
  split
  · -- a whitespace node is none of the visited children
    rename_i blank
    refine mirrored.of_dom tidy' rfl rfl (fun n b => placed n (mirrored.placed n b)) fun q _ => ?_
    rw [tidy.innerChildren_insertBefore refChild detached notDocument site]
    split
    · subst q
      rw [Dom.filter_insertIn (by simpa [Dom.visible] using blank),tidy.innerChildren_of_unframed site]
    · rfl
  · rename_i shown
    have visible : dom.visible node = true := by simpa [Dom.visible] using shown
    have unbound : Mirrored ⟨dom,InspectorDOM.unbind (dom.insertBefore parent node refChild) node .live st⟩ :=
      mirrored.of_unbind tidy' rfl rfl notDocument placed fun q c inChildren => by
        have differs : c ≠ node := by
          rintro rfl; have linked := (tidy.mem_innerChildren inChildren).1; rw [detached] at linked; cases linked
        refine ⟨?_,differs⟩
        rw [tidy.innerChildren_insertBefore refChild detached notDocument site]
        split
        · subst q
          rw [tidy.innerChildren_of_unframed site,List.mem_filter] at inChildren
          exact List.mem_filter.mpr ⟨(Dom.mem_insertIn refChild).mpr (Or.inl inChildren.1),inChildren.2⟩
        · exact inChildren
    simp only [attached]
    generalize InspectorDOM.unbind (dom.insertBefore parent node refChild) node .live st = st1 at unbound ⊢
    have placed1 : ∀ n, st1.documentNodeToIdMap n ≠ 0 → (dom.insertBefore parent node refChild).Placed n :=
      fun n b => placed n (unbound.placed n b)
    split
    · rename_i parentUnbound
      exact unbound.of_dom tidy' rfl rfl placed1 fun q bound => inner q fun same => bound (same ▸ parentUnbound)
    · rename_i bound
      cases requested : st1.childrenRequested (st1.documentNodeToIdMap parent)
      · -- the parent's count
        simp only [Bool.not_false,if_true]
        exact unbound.of_told tidy' rfl rfl placed1 inner ((send_same _ _).trans (listen_same _ _ _))
          (listen_mainFrameDocument _ parent (unbound.listening_of_bound bound)) (fun _ _ => by simp)
          (fun id differs => by simp [Function.update_noteq differs]) fun _ =>
            ⟨fun isRequested => by simp [requested] at isRequested,fun _ _ => ⟨_,by simp,Iff.rfl⟩⟩
      · simp only [Bool.not_true,Bool.false_eq_true,if_false]
        exact unbound.childNodeInserted refChild detached notDocument site visible bound requested

/-- `parent->insertBefore(node, refChild)` of a node that is not a document, under a parent and out
of an old parent that are neither frame owners nor content documents: the node first leaves the
parent it has, reported as a removal, then comes in, reported as an insertion. -/
theorem Mirrored.insertBefore {w : World} (mirrored : Mirrored w) (parent node : Node) (refChild : Option Node)
    (notDocument : w.dom.nodeType node ≠ .document) (site : w.dom.isFramed parent = false)
    (source : ∀ old, w.dom.parentNode node = some old → w.dom.isFramed old = false) :
    Mirrored (w.insertBefore parent node refChild) := by
  unfold World.insertBefore
  split
  · rename_i oldParent attached
    exact (mirrored.removeChild attached (source oldParent attached)).didInsertDOMNode refChild
      (by simp [World.removeChild,Dom.removeChild]) notDocument site
  · rename_i detached
    exact mirrored.didInsertDOMNode refChild detached notDocument site

/-- A visible node whose children the frontend did not ask for leaves its bound parent: its entry
goes, and a bound child of it keeps its id while it hangs under the unbound, detached node, a
visible child of no node bound in the live map. -/
theorem removeChild_orphans_bound_child {w : World} (tidy : Tidy w.dom) {parent node child : Node}
    (attached : w.dom.parentNode node = some parent) (distinct : node ≠ parent) (shown : w.dom.visible node = true)
    (parentBound : w.agent.documentNodeToIdMap parent ≠ 0)
    (unrequested : w.agent.childrenRequested (w.agent.documentNodeToIdMap node) = false)
    (linked : w.dom.parentNode child = some node) :
    (w.removeChild parent node).agent.documentNodeToIdMap node = 0 ∧
      (w.removeChild parent node).agent.documentNodeToIdMap child = w.agent.documentNodeToIdMap child ∧
      (w.removeChild parent node).dom.nodeType child ≠ .document ∧
      ∀ q, child ∈ (w.removeChild parent node).dom.innerChildren q →
        (w.removeChild parent node).agent.documentNodeToIdMap q = 0 := by
  obtain ⟨dom,st⟩ := w
  dsimp only at tidy attached shown parentBound unrequested linked
  have differs : child ≠ node := by
    rintro rfl; rw [attached] at linked; exact distinct (Option.some.inj linked).symm
  have blank : dom.isWhitespace node = false := by simpa [Dom.visible] using shown
  have notified : ∀ st1 : Agent, SameBindings st1 st →
      (InspectorDOM.unbind dom node .live st1).documentNodeToIdMap = Function.update st.documentNodeToIdMap node 0 :=
    fun st1 same => by
      rw [unbind_unrequested dom (by rw [same.requested,same.live]; exact unrequested),same.live]
  have live : (didRemoveDOMNode dom node st).documentNodeToIdMap = Function.update st.documentNodeToIdMap node 0 := by
    simp only [didRemoveDOMNode,blank,attached,parentBound,Bool.false_eq_true,if_false]
    split
    · split
      · exact notified _ ((send_same _ _).trans (listen_same _ _ _))
      · exact notified _ (listen_same _ _ _)
    · exact notified _ (send_same _ _)
  simp only [World.removeChild,live,Function.update_same,Function.update_noteq differs,true_and]
  refine ⟨fun document => (by rw [tidy.documents child document] at linked; cases linked),fun q mem => ?_⟩
  have above := ((tidy.removeChild attached).mem_innerChildren mem).1
  simp only [Dom.removeChild,Function.update_noteq differs,linked,Option.some.injEq] at above
  rw [tidy.eq_of_innerContainer_eq attached above.symm,Function.update_same]

/-- On `bodyTree`, once the document is pushed two levels deep, HTML leaves the document: BODY,
bound by the push with no request for HTML's children, stays bound below the unbound HTML. -/
theorem removeChild_orphans_body :
    let w : World := ⟨bodyTree,setDocument bodyTree (some 0) inspectorDOMAgent⟩
    Reachable Env.accepting bodyTree w ∧ w.agent.documentNodeToIdMap 2 ≠ 0 ∧
      (w.removeChild 0 1).agent.documentNodeToIdMap 1 = 0 ∧
      (w.removeChild 0 1).agent.documentNodeToIdMap 2 = w.agent.documentNodeToIdMap 2 ∧
      (w.removeChild 0 1).dom.nodeType 2 ≠ .document ∧
      ∀ q, 2 ∈ (w.removeChild 0 1).dom.innerChildren q → (w.removeChild 0 1).agent.documentNodeToIdMap q = 0 :=
  ⟨reachable_run Env.accepting bodyTree [.setDocument (some 0)] .initial rfl,by decide,
    removeChild_orphans_bound_child
      (Dom.ofNodes_tidy _ _ (by decide) (by decide) (by decide) (by decide) (by decide)) rfl (by decide) (by decide) (by decide)
      (by decide) rfl⟩

end InspectorDOM
