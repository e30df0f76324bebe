import InspectorDOM.Identity

/-! The identity invariant over whole runs: the search, every request handler, the timer and the
tree's notifications keep it, so it holds in every reachable state. -/

namespace InspectorDOM

theorem reportEach_consistent (dom : Dom) : ∀ (nodes : List Node) {st : Agent}
    {reported : List Nat × Agent}, Consistent st → reportEach dom nodes st = .ok reported →
      Consistent reported.2
  | [], _, _, consistent, ok => by cases ok; exact consistent
  | node :: nodes, st, _, consistent, ok => by
    rw [reportEach] at ok
    split at ok
    · exact reportEach_consistent dom nodes consistent ok
    · split at ok
      · cases ok
      · rename_i pushed
        obtain ⟨rest,reported,rfl⟩ := except_map_success ok
        refine (reportEach_consistent dom nodes (pushNodePathToFrontend_consistent dom node ?_ pushed)
          reported :)
        exact consistent.of_same ⟨rfl,rfl,rfl,rfl,rfl,rfl,rfl,rfl⟩

theorem reportNodesAsSearchResults_consistent (dom : Dom) (resultCollector : List Node)
    {st st' : Agent} (consistent : Consistent st)
    (ok : reportNodesAsSearchResults dom resultCollector st = .ok st') : Consistent st' := by
  obtain ⟨reported,each,rfl⟩ := except_map_success ok
  exact (reportEach_consistent dom _ consistent each).of_same (send_same _ _)

theorem performSearch_consistent (engines : Engines) (dom : Dom) (query : String)
    (runSynchronously : Bool) {st st' : Agent} (consistent : Consistent st)
    (ok : performSearch engines dom query runSynchronously st = .ok st') : Consistent st' := by
  have canceled := consistent.of_same (searchCanceled_same st)
  dsimp only [performSearch] at ok
  split at ok
  · cases ok
  · split at ok
    · obtain ⟨reported,report,rfl⟩ := except_map_success ok
      refine (reportNodesAsSearchResults_consistent dom _ ?_ report).of_same (searchCanceled_same _)
      exact canceled.of_same ⟨rfl,rfl,rfl,rfl,rfl,rfl,rfl,rfl⟩
    · cases ok
      exact canceled.of_same ⟨rfl,rfl,rfl,rfl,rfl,rfl,rfl,rfl⟩

theorem onMatchJobsTimer_consistent (engines : Engines) (dom : Dom) {st st' : Agent}
    (consistent : Consistent st) (ok : onMatchJobsTimer engines dom st = .ok st') : Consistent st' := by
  unfold onMatchJobsTimer at ok
  split at ok
  · cases ok; exact consistent.of_same (searchCanceled_same st)
  · obtain ⟨reported,report,rfl⟩ := except_map_success ok
    refine (reportNodesAsSearchResults_consistent dom _ ?_ report).of_same
      ⟨rfl,rfl,rfl,rfl,rfl,rfl,rfl,rfl⟩
    exact consistent.of_same ⟨rfl,rfl,rfl,rfl,rfl,rfl,rfl,rfl⟩

namespace World

variable {w : World}

theorem respond_consistent (consistent : Consistent w.agent) (record : Record) :
    Consistent (w.respond record).agent :=
  consistent.of_same (send_same _ _)

theorem removeChild_consistent (consistent : Consistent w.agent) (parent node : Node) :
    Consistent (w.removeChild parent node).agent :=
  didRemoveDOMNode_consistent _ _ consistent

theorem insertBefore_consistent (consistent : Consistent w.agent) (parent node : Node)
    (refChild : Option Node) : Consistent (w.insertBefore parent node refChild).agent := by
  refine didInsertDOMNode_consistent _ _ ?_
  split
  · exact removeChild_consistent consistent _ _
  · exact consistent

end World

variable (prims : Primitives) {w : World}

theorem getChildNodes_consistent (callId nodeId : Nat) {next : World} (consistent : Consistent w.agent)
    (ok : getChildNodes callId nodeId w = .ok next) : Consistent next.agent := by
  obtain ⟨st,pushed,rfl⟩ := except_map_success ok
  exact (pushChildNodesToFrontend_consistent _ _ consistent pushed).of_same (send_same _ _)

theorem setAttribute_consistent (callId elementId : Nat) (name value : String)
    (consistent : Consistent w.agent) : Consistent (setAttribute prims callId elementId name value w).agent := by
  unfold setAttribute
  split
  · split
    · split
      · exact World.respond_consistent (didModifyDOMAttr_consistent _ _ consistent) _
      · exact World.respond_consistent consistent _
    · exact World.respond_consistent consistent _
  · exact World.respond_consistent consistent _

theorem removeAttribute_consistent (callId elementId : Nat) (name : String)
    (consistent : Consistent w.agent) : Consistent (removeAttribute prims callId elementId name w).agent := by
  unfold removeAttribute
  split
  · split
    · split
      · exact World.respond_consistent (didModifyDOMAttr_consistent _ _ consistent) _
      · exact World.respond_consistent consistent _
    · exact World.respond_consistent consistent _
  · exact World.respond_consistent consistent _

theorem removeNode_consistent (callId nodeId : Nat) (consistent : Consistent w.agent) :
    Consistent (removeNode prims callId nodeId w).agent := by
  unfold removeNode
  split
  · exact World.respond_consistent consistent _
  · split
    · exact World.respond_consistent consistent _
    · split
      · exact World.respond_consistent (World.removeChild_consistent consistent _ _) _
      · exact World.respond_consistent consistent _

theorem moveChildren_consistent (oldNode newElem : Node) : ∀ (fuel : Nat) {w next : World},
    Consistent w.agent → moveChildren prims oldNode newElem fuel w = .ok next → Consistent next.agent
  | 0, _, _, _, ok => by cases ok
  | fuel + 1, _, _, consistent, ok => by
    rw [moveChildren] at ok
    split at ok
    · cases ok; exact consistent
    · refine moveChildren_consistent oldNode newElem fuel ?_ ok
      split
      · exact World.insertBefore_consistent consistent _ _ _
      · exact consistent

theorem callInsertBefore_consistent (consistent : Consistent w.agent) (parent node : Node)
    (refChild : Option Node) : Consistent (w.callInsertBefore prims parent node refChild).agent := by
  unfold World.callInsertBefore
  split
  · exact World.insertBefore_consistent consistent _ _ _
  · exact consistent

theorem pushReplacement_consistent (dom : Dom) (node : Node) (childrenRequested : Bool)
    {st : Agent} {result : Nat × Agent} (consistent : Consistent st)
    (ok : pushReplacement dom node childrenRequested st = .ok result) : Consistent result.2 := by
  obtain ⟨pushed,push,ok⟩ := except_bind_success ok
  have pushed := pushNodePathToFrontend_consistent dom node consistent push
  split at ok
  · obtain ⟨st',children,ok⟩ := except_bind_success ok
    cases ok
    exact pushChildNodesToFrontend_consistent dom _ pushed children
  · cases ok; exact pushed

theorem changeTagName_consistent (callId nodeId : Nat) (tagName : String) {next : World}
    (consistent : Consistent w.agent) (ok : changeTagName prims callId nodeId tagName w = .ok next) :
    Consistent next.agent := by
  dsimp only [changeTagName] at ok
  split at ok
  · cases ok; exact World.respond_consistent consistent _
  · rename_i oldNode _
    split at ok
    · cases ok; exact World.respond_consistent consistent _
    · split at ok
      · cases ok; exact World.respond_consistent consistent _
      · rename_i newElem _
        obtain ⟨moved,move,ok⟩ := except_bind_success ok
        have movedConsistent : Consistent moved.agent := by
          refine moveChildren_consistent prims _ _ _ ?_ move
          exact consistent
        split at ok
        · cases ok
        · rename_i parent _
          have inserted := callInsertBefore_consistent prims movedConsistent parent newElem
            (moved.dom.nextSibling oldNode)
          split at ok
          · cases ok; exact World.respond_consistent inserted _
          · obtain ⟨pushed,push,ok⟩ := except_bind_success ok
            cases ok
            exact (pushReplacement_consistent _ _ _ (World.removeChild_consistent inserted _ _)
              push).of_same (send_same _ _)

theorem getOuterHTML_consistent (callId nodeId : Nat) (consistent : Consistent w.agent) :
    Consistent (getOuterHTML prims callId nodeId w).agent := by
  unfold getOuterHTML
  split
  · split <;> exact World.respond_consistent consistent _
  · exact World.respond_consistent consistent _

theorem replaceWithFragment_consistent (parent node : Node) (fragment : List Node)
    (consistent : Consistent w.agent) : Consistent (replaceWithFragment parent node fragment w).agent :=
  List.foldlRecOn (motive := fun w : World => Consistent w.agent) _ _ _
    (World.removeChild_consistent consistent parent node)
    fun _ consistent child _ => World.insertBefore_consistent consistent parent child _

theorem applyOuterHTML_consistent (callId : Nat) (node : Node) (parentNode : Option Node)
    (outerHTML : String) (consistent : Consistent w.agent) :
    Consistent (applyOuterHTML prims callId node parentNode outerHTML w).agent := by
  unfold applyOuterHTML
  split
  · exact replaceWithFragment_consistent _ _ _ consistent
  · exact World.respond_consistent consistent _

theorem setOuterHTML_consistent (callId nodeId : Nat) (outerHTML : String) {next : World}
    (consistent : Consistent w.agent) (ok : setOuterHTML prims callId nodeId outerHTML w = .ok next) :
    Consistent next.agent := by
  dsimp only [setOuterHTML] at ok
  split at ok
  · cases ok; exact World.respond_consistent consistent _
  · rename_i node _
    split at ok
    · cases ok; exact World.respond_consistent consistent _
    · have applied := applyOuterHTML_consistent prims callId node (w.dom.parentNode node) outerHTML
        consistent
      split at ok
      · cases ok
      · split at ok
        · cases ok
        · cases ok
          exact World.respond_consistent (pushDocumentToFrontend_consistent _ applied) _
      · obtain ⟨pushed,push,ok⟩ := except_bind_success ok
        cases ok
        exact (pushReplacement_consistent _ _ _ applied push).of_same (send_same _ _)

theorem removeChildren_consistent (parent : Node) (children : List Node)
    (consistent : Consistent w.agent) :
    Consistent (children.foldl (fun w child => w.removeChild parent child) w).agent :=
  List.foldlRecOn (motive := fun w : World => Consistent w.agent) _ _ _ consistent
    fun _ consistent child _ => World.removeChild_consistent consistent parent child

theorem replaceWholeText_consistent (node : Node) (value : String) (consistent : Consistent w.agent) :
    Consistent (replaceWholeText node value w).agent := by
  dsimp only [replaceWholeText]
  split
  · split <;> exact consistent
  · split
    · exact World.removeChild_consistent (removeChildren_consistent _ _ consistent) _ _
    · exact removeChildren_consistent _ _ consistent

theorem setTextNodeValue_consistent (callId nodeId : Nat) (value : String)
    (consistent : Consistent w.agent) : Consistent (setTextNodeValue prims callId nodeId value w).agent := by
  unfold setTextNodeValue
  split
  · split
    · split
      · exact World.respond_consistent (replaceWholeText_consistent _ _ consistent) _
      · exact World.respond_consistent consistent _
    · exact World.respond_consistent consistent _
  · exact World.respond_consistent consistent _

theorem pushListeners_consistent (dom : Dom) : ∀ (listeners : List (Node × String × RegisteredEventListener))
    {st : Agent} {result : List ListenerDesc × Agent}, Consistent st →
      pushListeners dom listeners st = .ok result → Consistent result.2
  | [], _, _, consistent, ok => by cases ok; exact consistent
  | (node, _, _) :: rest, _, _, consistent, ok => by
    obtain ⟨pushed,push,ok⟩ := except_bind_success ok
    obtain ⟨built,build,ok⟩ := except_bind_success ok
    cases ok
    exact (pushListeners_consistent dom rest (pushNodePathToFrontend_consistent dom node consistent push)
      build :)

theorem getEventListenersForNode_consistent (callId nodeId : Nat) {next : World}
    (consistent : Consistent w.agent) (ok : getEventListenersForNode prims callId nodeId w = .ok next) :
    Consistent next.agent := by
  dsimp only [getEventListenersForNode] at ok
  split at ok
  · cases ok; exact consistent.of_same (send_same _ _)
  · split at ok
    · cases ok; exact consistent.of_same (send_same _ _)
    · obtain ⟨built,build,rfl⟩ := except_map_success ok
      exact (pushListeners_consistent _ _ consistent build).of_same (send_same _ _)

/-- Resolving a path only listens to the frames it passes. -/
theorem walkPath_same (dom : Dom) : ∀ (pairs : List (String × String)) (node : Node) (st : Agent),
    SameBindings (walkPath dom pairs node st).2 st
  | [], _, st => .refl st
  | _ :: rest, node, st => by
    have once := listen_same dom node st
    have twice := (listen_same dom node _).trans once
    dsimp only [walkPath]
    split
    · exact .refl st
    · split
      · exact once
      · split
        · exact twice
        · split
          · exact twice
          · exact (walkPath_same dom rest _ _).trans twice

theorem nodeForPath_same (dom : Dom) (path : String) (st : Agent) :
    SameBindings (nodeForPath dom path st).2 st := by
  dsimp only [nodeForPath]
  split
  · exact .refl st
  · split
    · exact .refl st
    · exact walkPath_same dom _ _ st

theorem pushNodeByPathToFrontend_consistent (callId : Nat) (path : String) {next : World}
    (consistent : Consistent w.agent) (ok : pushNodeByPathToFrontend callId path w = .ok next) :
    Consistent next.agent := by
  have found := consistent.of_same (nodeForPath_same w.dom path w.agent)
  dsimp only [pushNodeByPathToFrontend] at ok
  split at ok
  · cases ok; exact found.of_same (send_same _ _)
  · obtain ⟨pushed,push,rfl⟩ := except_map_success ok
    exact (pushNodePathToFrontend_consistent _ _ found push).of_same (send_same _ _)

/-- Every input that does not fault keeps the invariant. -/
theorem step_consistent (env : Env) (input : Input) {next : World} (consistent : Consistent w.agent)
    (stepped : step env w input = .ok next) : Consistent next.agent := by
  have responds : ∀ {record}, next = w.respond record → Consistent next.agent := by
    rintro _ rfl; exact World.respond_consistent consistent _
  cases input
  case setDocument => cases stepped; exact setDocument_consistent _ _ consistent
  case getChildNodes => exact getChildNodes_consistent _ _ consistent stepped
  case pushNodePathToFrontend node =>
    obtain ⟨pushed,push,rfl⟩ := except_map_success stepped
    exact pushNodePathToFrontend_consistent _ node consistent push
  case setAttribute => cases stepped; exact setAttribute_consistent _ _ _ _ _ consistent
  case removeAttribute => cases stepped; exact removeAttribute_consistent _ _ _ _ consistent
  case removeNode => cases stepped; exact removeNode_consistent _ _ _ consistent
  case changeTagName => exact changeTagName_consistent _ _ _ _ consistent stepped
  case getOuterHTML => cases stepped; exact getOuterHTML_consistent _ _ _ consistent
  case setOuterHTML => exact setOuterHTML_consistent _ _ _ _ consistent stepped
  case setTextNodeValue => cases stepped; exact setTextNodeValue_consistent _ _ _ _ consistent
  case getEventListenersForNode => exact getEventListenersForNode_consistent _ _ _ consistent stepped
  case pushNodeByPathToFrontend => exact pushNodeByPathToFrontend_consistent _ _ consistent stepped
  case addInspectedNode => cases stepped; exact consistent.of_same ⟨rfl,rfl,rfl,rfl,rfl,rfl,rfl,rfl⟩
  case getStyles callId nodeId =>
    cases stepped; exact responds (getStyles_responds env.styles callId nodeId w).choose_spec
  case getAllStyles => cases stepped; exact responds rfl
  case getStyleSheet => cases stepped; exact responds rfl
  case getRuleRangesForStyleSheetId callId styleSheetId =>
    cases stepped
    exact responds (getRuleRangesForStyleSheetId_responds env.styles callId styleSheetId w).choose_spec
  case getInlineStyle callId nodeId =>
    cases stepped; exact responds (getInlineStyle_responds callId nodeId w).choose_spec
  case getComputedStyle callId nodeId =>
    cases stepped; exact responds (getComputedStyle_responds env.styles callId nodeId w).choose_spec
  case applyStyleText callId styleId styleText propertyName =>
    cases stepped
    exact responds (applyStyleText_responds env.styles callId styleId styleText propertyName w).choose_spec
  case setStyleText callId styleId cssText =>
    cases stepped; exact responds (setStyleText_responds env.styles callId styleId cssText w).choose_spec
  case setStyleProperty callId styleId name value =>
    cases stepped
    exact responds (setStyleProperty_responds env.styles callId styleId name value w).choose_spec
  case toggleStyleEnabled callId styleId propertyName disabled =>
    cases stepped
    exact responds (toggleStyleEnabled_responds env.styles callId styleId propertyName disabled w).choose_spec
  case setRuleSelector =>
    obtain ⟨_,_,answered⟩ := setRuleSelector_responds _ _ _ _ _ stepped
    exact responds answered
  case addRule =>
    rcases addRule_responds _ _ _ _ stepped with rfl | ⟨_,_,answered⟩
    · exact consistent
    · exact responds answered
  case performSearch =>
    obtain ⟨st,searched,rfl⟩ := except_map_success stepped
    exact performSearch_consistent _ _ _ _ consistent searched
  case searchCanceled => cases stepped; exact consistent.of_same (searchCanceled_same _)
  case matchJobsTimer =>
    change (if w.agent.matchJobsTimerActive then _ else _) = _ at stepped
    split at stepped
    · obtain ⟨st,ticked,rfl⟩ := except_map_success stepped
      exact onMatchJobsTimer_consistent _ _ consistent ticked
    · cases stepped; exact consistent
  case handleEvent => cases stepped; exact handleEvent_consistent _ _ consistent
  case insertBefore =>
    cases stepped
    split
    · exact World.insertBefore_consistent consistent _ _ _
    · exact consistent
  case removeChild =>
    cases stepped
    split
    · exact World.removeChild_consistent consistent _ _
    · exact consistent

theorem reachable_consistent {env : Env} {dom : Dom} {w : World} (reachable : Reachable env dom w) :
    Consistent w.agent := by
  induction reachable with
  | initial => exact consistent_initial
  | step input _ stepped consistent => exact step_consistent env input consistent stepped

/-- Identity and index consistency in every reachable state: each entry of a map is an id in
`[1, m_lastNodeId)` of a map that exists; no two (map, node) pairs share an id; `m_idToNode`
holds exactly the entries of the existing maps, and `m_idToNodesMap` names the map of each entry;
requested ids are indexed; `bind` of a bound node returns its id and changes nothing. -/
theorem identity_maps_consistent {env : Env} {dom : Dom} {w : World} (reachable : Reachable env dom w) :
    (∀ nodesMap node, w.agent.nodeToId nodesMap node ≠ 0 → w.agent.IsCurrent nodesMap ∧
      0 < w.agent.nodeToId nodesMap node ∧ w.agent.nodeToId nodesMap node < w.agent.lastNodeId) ∧
    (∀ nodesMap other node node', w.agent.nodeToId nodesMap node ≠ 0 →
      w.agent.nodeToId other node' = w.agent.nodeToId nodesMap node → other = nodesMap ∧ node' = node) ∧
    (∀ id node, w.agent.idToNode id = some node ↔
      ∃ nodesMap, w.agent.IsCurrent nodesMap ∧ id ≠ 0 ∧ w.agent.nodeToId nodesMap node = id) ∧
    (∀ nodesMap node id, w.agent.nodeToId nodesMap node = id → id ≠ 0 → w.agent.idToNodesMap id = some nodesMap) ∧
    (∀ id, w.agent.childrenRequested id = true → w.agent.idToNode id ≠ none) ∧
    (∀ nodesMap node, w.agent.nodeToId nodesMap node ≠ 0 →
      bind node nodesMap w.agent = (w.agent.nodeToId nodesMap node, w.agent)) := by
  have consistent := reachable_consistent reachable
  refine ⟨fun nodesMap node entry => ?_,fun nodesMap _ node _ entry equal =>
    consistent.entry_unique entry equal,fun id node => ⟨fun found => ?_,?_⟩,
    fun nodesMap node _ entry nonzero => entry ▸ (consistent.bound nodesMap node (entry ▸ nonzero)).2.1,
    consistent.requested,fun nodesMap node entry => by simp [bind,entry]⟩
  · obtain ⟨-,-,below,current⟩ := consistent.bound nodesMap node entry
    exact ⟨current,Nat.pos_of_ne_zero entry,below⟩
  · obtain ⟨nonzero,nodesMap,rfl⟩ := consistent.indexed id node found
    exact ⟨nodesMap,(consistent.bound nodesMap node nonzero).2.2.2,nonzero,rfl⟩
  · rintro ⟨nodesMap,-,nonzero,rfl⟩
    exact (consistent.bound nodesMap node nonzero).1

/-- On `bodyTree`, after `setDocument` binds the document, `HTML` and `BODY` and the frontend
requests `HTML`'s children (id 2). -/
theorem identity_maps_consistent_body :
    ∃ w, run Env.accepting (World.initial bodyTree) [.setDocument (some 0),.getChildNodes 7 2] = .ok w ∧
      w.agent.documentNodeToIdMap 2 = 3 ∧ w.agent.childrenRequested 2 = true ∧
      (∀ nodesMap node, w.agent.nodeToId nodesMap node ≠ 0 → w.agent.IsCurrent nodesMap ∧
        0 < w.agent.nodeToId nodesMap node ∧ w.agent.nodeToId nodesMap node < w.agent.lastNodeId) ∧
      (∀ nodesMap other node node', w.agent.nodeToId nodesMap node ≠ 0 →
        w.agent.nodeToId other node' = w.agent.nodeToId nodesMap node → other = nodesMap ∧ node' = node) ∧
      (∀ id node, w.agent.idToNode id = some node ↔
        ∃ nodesMap, w.agent.IsCurrent nodesMap ∧ id ≠ 0 ∧ w.agent.nodeToId nodesMap node = id) ∧
      (∀ nodesMap node id, w.agent.nodeToId nodesMap node = id → id ≠ 0 → w.agent.idToNodesMap id = some nodesMap) ∧
      (∀ id, w.agent.childrenRequested id = true → w.agent.idToNode id ≠ none) ∧
      (∀ nodesMap node, w.agent.nodeToId nodesMap node ≠ 0 →
        bind node nodesMap w.agent = (w.agent.nodeToId nodesMap node, w.agent)) :=
  ⟨_,rfl,rfl,rfl,identity_maps_consistent
    (reachable_run Env.accepting bodyTree [.setDocument (some 0),.getChildNodes 7 2] .initial rfl)⟩

end InspectorDOM
