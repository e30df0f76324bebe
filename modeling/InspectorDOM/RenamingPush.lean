import InspectorDOM.Renaming

/-! The pushes, the tree's notifications and the search on the reset agent. Each keeps
`Shifted`; a call that can fail fails on both sides with the same fault, and the ids it returns
are the moved ids. -/

namespace InspectorDOM

/-- The outcomes of one call on each side: the same fault, or results related by `related`. -/
def Outcomes {α β : Type} (related : α → β → Prop) : Except Fault α → Except Fault β → Prop
  | .ok a, .ok b => related a b
  | .error fault, .error fault' => fault = fault'
  | _, _ => False

namespace Outcomes

variable {α β γ δ : Type} {related : α → β → Prop} {related' : γ → δ → Prop}

theorem bind : ∀ {x : Except Fault α} {y : Except Fault β}, Outcomes related x y →
    ∀ {f : α → Except Fault γ} {g : β → Except Fault δ}, (∀ a b, related a b → Outcomes related' (f a) (g b)) →
      Outcomes related' (x >>= f) (y >>= g)
  | .ok a, .ok b, outcomes, _, _, next => next a b outcomes
  | .error _, .error _, outcomes, _, _, _ => outcomes
  | .ok _, .error _, outcomes, _, _, _ => outcomes.elim
  | .error _, .ok _, outcomes, _, _, _ => outcomes.elim

theorem map : ∀ {x : Except Fault α} {y : Except Fault β}, Outcomes related x y →
    ∀ {f : α → γ} {g : β → δ}, (∀ a b, related a b → related' (f a) (g b)) →
      Outcomes related' (x.map f) (y.map g)
  | .ok a, .ok b, outcomes, _, _, next => next a b outcomes
  | .error _, .error _, outcomes, _, _, _ => outcomes
  | .ok _, .error _, outcomes, _, _, _ => outcomes.elim
  | .error _, .ok _, outcomes, _, _, _ => outcomes.elim

theorem foldlM {ε : Type} {related : α → β → Prop} {f : α → ε → Except Fault α} {g : β → ε → Except Fault β}
    (each : ∀ a b e, related a b → Outcomes related (f a e) (g b e)) :
    ∀ (l : List ε) {a b}, related a b → Outcomes related (l.foldlM f a) (l.foldlM g b)
  | [], _, _, holds => holds
  | e :: l, _, _, holds => (each _ _ e holds).bind fun _ _ holds' => foldlM each l holds'

theorem imp {other : α → β → Prop} (implies : ∀ a b, related a b → other a b) :
    ∀ {x : Except Fault α} {y : Except Fault β}, Outcomes related x y → Outcomes other x y
  | .ok a, .ok b, outcomes => implies a b outcomes
  | .error _, .error _, outcomes => outcomes
  | .ok _, .error _, outcomes => outcomes.elim
  | .error _, .ok _, outcomes => outcomes.elim

/-- Related outcomes read the same through maps that agree on related results. -/
theorem map_eq {f : α → γ} {g : β → γ} (agree : ∀ a b, related a b → g b = f a) :
    ∀ {x : Except Fault α} {y : Except Fault β}, Outcomes related x y → y.map g = x.map f
  | .ok a, .ok b, outcomes => congrArg Except.ok (agree a b outcomes)
  | .error _, .error _, outcomes => by subst outcomes; rfl
  | .ok _, .error _, outcomes => outcomes.elim
  | .error _, .ok _, outcomes => outcomes.elim

end Outcomes

/-- The live map's ids only matter through being 0, so the ancestor walk reads the moved map as
it reads the map. -/
theorem pathToKnownAncestor_shiftId (dom : Dom) (live : NodeToIdMap) (offset : Nat) :
    ∀ fuel node, pathToKnownAncestor dom (fun node => shiftId offset (live node)) fuel node =
      pathToKnownAncestor dom live fuel node
  | 0, _ => rfl
  | fuel + 1, node => by
    simp only [pathToKnownAncestor,ne_eq,shiftId_eq_zero,pathToKnownAncestor_shiftId dom live offset fuel]

section Push

variable {stale : Bool} {offset handles : Nat} {before : List Record}

/-- An id returned with the agent: the moved id, and the agents related. -/
def ShiftedPair (stale : Bool) (offset handles : Nat) (before : List Record) (a b : Nat × Agent) : Prop :=
  b.1 = shiftId offset a.1 ∧ Shifted stale offset handles before a.2 b.2

theorem Shifted.pushDocumentToFrontend {fresh st : Agent} (shifted : Shifted stale offset handles before fresh st)
    (dom : Dom) :
    (InspectorDOM.pushDocumentToFrontend dom st).1 = (InspectorDOM.pushDocumentToFrontend dom fresh).1 ∧
      Shifted stale offset handles before (InspectorDOM.pushDocumentToFrontend dom fresh).2
        (InspectorDOM.pushDocumentToFrontend dom st).2 := by
  unfold InspectorDOM.pushDocumentToFrontend
  rw [shifted.mainFrameDocument]
  split
  · exact ⟨rfl,shifted⟩
  · simp only [shifted.live,ne_eq,shiftId_eq_zero]
    split
    · exact ⟨rfl,shifted⟩
    · obtain ⟨desc,built⟩ := shifted.buildObjectForNode dom _ 2 .live
      simp only [MapRef.shift_live] at desc built
      rw [desc]
      exact ⟨rfl,built.send _⟩

theorem Shifted.pushChildNodesToFrontend {fresh st : Agent} (shifted : Shifted stale offset handles before fresh st)
    (dom : Dom) {nodeId nodeId' : Nat} (renamed : IdRenamed stale offset nodeId nodeId') :
    Outcomes (Shifted stale offset handles before) (InspectorDOM.pushChildNodesToFrontend dom nodeId fresh)
      (InspectorDOM.pushChildNodesToFrontend dom nodeId' st) := by
  unfold InspectorDOM.pushChildNodesToFrontend
  rw [shifted.nodeForId_renamed renamed]
  split
  · exact shifted
  · next _ node found =>
    obtain rfl := renamed.shift_of_ne_zero (nodeForId_ne_zero found)
    rw [shifted.requested]
    split
    · exact shifted
    · rw [shifted.idToNodesMap nodeId (by rw [nodeForId_some found]; exact Option.some_ne_none node)]
      rcases fresh.idToNodesMap nodeId with _ | nodesMap
      · dsimp only [Option.map_none']
        split
        · exact ((shifted.listen dom node).setChildrenRequested nodeId true).send _
        · rfl
      · obtain ⟨kids,built⟩ := shifted.buildArrayForContainerChildren dom nodesMap 1 node
        dsimp only [Option.map_some']
        rw [kids,← Desc.shiftList_eq_map]
        exact (built.setChildrenRequested nodeId true).send _

theorem Shifted.pushPathChildren {fresh st : Agent} (shifted : Shifted stale offset handles before fresh st)
    (dom : Dom) (nodesMap : MapRef) (path : List Node) :
    Outcomes (Shifted stale offset handles before) (InspectorDOM.pushPathChildren dom nodesMap path fresh)
      (InspectorDOM.pushPathChildren dom (nodesMap.shift handles) path st) :=
  Outcomes.foldlM (fun _ _ ancestor related => by
    rw [related.nodeToId]
    exact related.pushChildNodesToFrontend dom (.inl rfl)) path.reverse shifted

/-- The id `pushNodePathToFrontend` returns is the moved id. -/
theorem Shifted.pushNodePathToFrontend {fresh st : Agent} (shifted : Shifted stale offset handles before fresh st)
    (dom : Dom) (node : Node) :
    Outcomes (ShiftedPair stale offset handles before) (InspectorDOM.pushNodePathToFrontend dom node fresh) (InspectorDOM.pushNodePathToFrontend dom node st) := by
  obtain ⟨same,pushed⟩ := shifted.pushDocumentToFrontend dom
  have live := funext pushed.live
  simp only [InspectorDOM.pushNodePathToFrontend,same,live,ne_eq,shiftId_eq_zero,pathToKnownAncestor_shiftId]
  split
  · exact ⟨rfl,pushed⟩
  split
  · exact ⟨rfl,pushed⟩
  split
  · rfl
  · rename_i path detachedRoot _
    cases detachedRoot with
    | some root =>
      obtain ⟨moved,detached⟩ := pushed.pushDetachedRoot dom root
      dsimp only
      rw [moved]
      exact (detached.pushPathChildren dom _ path).map fun _ _ related =>
        ⟨related.nodeToId (InspectorDOM.pushDetachedRoot dom root _).1 node,related⟩
    | none => exact (pushed.pushPathChildren dom .live path).map fun _ _ related => ⟨related.nodeToId .live node,related⟩

theorem Shifted.didModifyDOMAttr {fresh st : Agent} (shifted : Shifted stale offset handles before fresh st)
    (dom : Dom) (element : Node) :
    Shifted stale offset handles before (InspectorDOM.didModifyDOMAttr dom element fresh)
      (InspectorDOM.didModifyDOMAttr dom element st) := by
  simp only [InspectorDOM.didModifyDOMAttr,shifted.live,shiftId_eq_zero]
  split
  · exact shifted
  · exact shifted.send _

theorem Shifted.didInsertDOMNode {fresh st : Agent} (shifted : Shifted stale offset handles before fresh st)
    (dom : Dom) (node : Node) :
    Shifted stale offset handles before (InspectorDOM.didInsertDOMNode dom node fresh)
      (InspectorDOM.didInsertDOMNode dom node st) := by
  have unbound := shifted.unbind dom node .live
  simp only [MapRef.shift_live] at unbound
  simp only [InspectorDOM.didInsertDOMNode,funext unbound.live,shiftId_eq_zero,unbound.requested,getD_map_shiftId]
  split
  · exact shifted
  split
  · exact unbound
  split
  · exact unbound
  split
  · exact (unbound.listen dom _).send _
  obtain ⟨desc,built⟩ := unbound.buildObjectForNode dom node 0 .live
  simp only [MapRef.shift_live] at desc built
  rw [desc]
  exact built.send _

theorem Shifted.didRemoveDOMNode {fresh st : Agent} (shifted : Shifted stale offset handles before fresh st)
    (dom : Dom) (node : Node) :
    Shifted stale offset handles before (InspectorDOM.didRemoveDOMNode dom node fresh)
      (InspectorDOM.didRemoveDOMNode dom node st) := by
  simp only [InspectorDOM.didRemoveDOMNode,shifted.live,shiftId_eq_zero,shifted.requested]
  split
  · exact shifted
  split
  · exact shifted
  split
  · exact shifted
  split
  · split
    · exact ((shifted.listen dom _).send _).unbind dom node .live
    · exact (shifted.listen dom _).unbind dom node .live
  · exact (shifted.send _).unbind dom node .live

theorem Shifted.setDocument {fresh st : Agent} (shifted : Shifted stale offset handles before fresh st)
    (dom : Dom) : ∀ doc, Shifted stale offset handles before (InspectorDOM.setDocument dom doc fresh)
      (InspectorDOM.setDocument dom doc st)
  | none => by
    simp only [InspectorDOM.setDocument,shifted.mainFrameDocument]
    split
    · exact shifted
    · exact shifted.reset.send (.setDocument none)
  | some document => by
    have listening := shifted.reset.startListening document
    simp only [InspectorDOM.setDocument,shifted.mainFrameDocument]
    split
    · exact shifted
    split
    · exact (listening.pushDocumentToFrontend dom).2
    · exact listening

theorem Shifted.handleEvent {fresh st : Agent} (shifted : Shifted stale offset handles before fresh st) (dom : Dom) :
    ∀ event, Shifted stale offset handles before (InspectorDOM.handleEvent dom event fresh)
      (InspectorDOM.handleEvent dom event st)
  | .domContentLoaded => (shifted.discardBindings.pushDocumentToFrontend dom).2
  | .load none => shifted
  | .load (some node) => by
    simp only [InspectorDOM.handleEvent,funext shifted.live,shiftId_eq_zero,shifted.requested,getD_map_shiftId]
    split
    · exact shifted
    split
    · exact (shifted.listen dom node).send _
    have removed : Shifted stale offset handles before
        (fresh.send (.childNodeRemoved (((dom.innerParentNode node).map fresh.documentNodeToIdMap).getD 0)
          (fresh.documentNodeToIdMap node)))
        (st.send (.childNodeRemoved (shiftId offset (((dom.innerParentNode node).map fresh.documentNodeToIdMap).getD 0))
          (shiftId offset (fresh.documentNodeToIdMap node)))) := shifted.send _
    obtain ⟨desc,built⟩ := removed.buildObjectForNode dom node 0 .live
    simp only [MapRef.shift_live] at desc built
    simp only [desc,funext built.live,getD_map_shiftId]
    exact (built.send _).setChildrenRequested _ false

end Push

section Search

variable {stale : Bool} {offset handles : Nat} {before : List Record}

/-- The reporting loop reports the same nodes, pushed under the moved ids. -/
theorem Shifted.reportEach (dom : Dom) :
    ∀ nodes {fresh st : Agent}, Shifted stale offset handles before fresh st →
      Outcomes (fun (a b : List Nat × Agent) => b.1 = a.1.map (shiftId offset) ∧ Shifted stale offset handles before a.2 b.2)
        (InspectorDOM.reportEach dom nodes fresh) (InspectorDOM.reportEach dom nodes st)
  | [], _, _, shifted => ⟨rfl,shifted⟩
  | node :: nodes, fresh, st, shifted => by
    simp only [InspectorDOM.reportEach,shifted.searchResults]
    split
    · exact Shifted.reportEach dom nodes shifted
    · have added : Shifted stale offset handles before { fresh with searchResults := fresh.searchResults ++ [node] }
          { st with searchResults := fresh.searchResults ++ [node] } :=
        { shifted with nodeToId := shifted.nodeToId_frame rfl rfl rfl rfl, searchResults := rfl }
      have pushed := added.pushNodePathToFrontend dom node
      split
      · next fault found =>
        split
        · next fault' found' => rw [found,found'] at pushed; exact pushed
        · next id' b found' => rw [found,found'] at pushed; exact pushed.elim
      · next id a found =>
        split
        · next fault' found' => rw [found,found'] at pushed; exact pushed.elim
        · next id' b found' =>
          rw [found,found'] at pushed
          obtain ⟨moved,related⟩ := pushed
          dsimp only at moved related
          exact (Shifted.reportEach dom nodes related).map fun _ _ reported =>
            ⟨by simp only [reported.1,moved,List.map_cons],reported.2⟩

theorem Shifted.reportNodesAsSearchResults {fresh st : Agent} (shifted : Shifted stale offset handles before fresh st)
    (dom : Dom) (resultCollector : List Node) :
    Outcomes (Shifted stale offset handles before) (InspectorDOM.reportNodesAsSearchResults dom resultCollector fresh)
      (InspectorDOM.reportNodesAsSearchResults dom resultCollector st) :=
  (Shifted.reportEach dom resultCollector shifted).map fun _ _ reported => by
    rw [reported.1]
    exact reported.2.send _

theorem Shifted.performSearch {fresh st : Agent} (shifted : Shifted stale offset handles before fresh st)
    (engines : Engines) (dom : Dom) (query : String) (runSynchronously : Bool) :
    Outcomes (Shifted stale offset handles before) (InspectorDOM.performSearch engines dom query runSynchronously fresh)
      (InspectorDOM.performSearch engines dom query runSynchronously st) := by
  simp only [InspectorDOM.performSearch,shifted.searchCanceled.mainFrameDocument]
  split
  · rfl
  · next mainDocument _ =>
    have queued := shifted.searched [] (matchJobs engines dom mainDocument query) false
    split
    · exact (queued.reportNodesAsSearchResults dom _).map fun _ _ related => related.searchCanceled
    · exact shifted.searched [] _ true

theorem Shifted.onMatchJobsTimer {fresh st : Agent} (shifted : Shifted stale offset handles before fresh st)
    (engines : Engines) (dom : Dom) :
    Outcomes (Shifted stale offset handles before) (InspectorDOM.onMatchJobsTimer engines dom fresh)
      (InspectorDOM.onMatchJobsTimer engines dom st) := by
  simp only [InspectorDOM.onMatchJobsTimer,shifted.pendingMatchJobs]
  split
  · exact shifted.searchCanceled
  · next rest _ =>
    have waiting : Shifted stale offset handles before { fresh with pendingMatchJobs := rest } { st with pendingMatchJobs := rest } :=
      { shifted with nodeToId := shifted.nodeToId_frame rfl rfl rfl rfl, pendingMatchJobs := rfl }
    exact (waiting.reportNodesAsSearchResults dom _).map fun _ _ related =>
      { related with nodeToId := related.nodeToId_frame rfl rfl rfl rfl, matchJobsTimerActive := rfl }

end Search

end InspectorDOM
