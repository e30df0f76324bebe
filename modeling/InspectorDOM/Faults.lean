import InspectorDOM.Disclosure

/-! Where a request dereferences null. In a reachable state the identity invariant rules out the
null map of `pushChildNodesToFrontend`, so `getChildNodes` always answers. `performSearch` reads
the main document, and `setRuleSelector` the selected node, without checking them. -/

namespace InspectorDOM

/-- An indexed id always has its map, so pushing its children never reaches the null map. -/
theorem pushChildNodesToFrontend_succeeds (dom : Dom) (nodeId : Nat) {st : Agent}
    (consistent : Consistent st) : ∃ st', pushChildNodesToFrontend dom nodeId st = .ok st' := by
  unfold pushChildNodesToFrontend
  split
  · exact ⟨_,rfl⟩
  · rename_i node found
    split
    · exact ⟨_,rfl⟩
    · obtain ⟨nonzero,nodesMap,rfl⟩ := consistent.indexed nodeId node (nodeForId_some found)
      rw [(consistent.bound nodesMap node nonzero).2.1]
      exact ⟨_,rfl⟩

/-- In every reachable state `getChildNodes` answers, whatever the id. -/
theorem getChildNodes_never_faults {env : Env} {dom : Dom} {w : World} (reachable : Reachable env dom w)
    (callId nodeId : Nat) : ∃ next, getChildNodes callId nodeId w = .ok next := by
  obtain ⟨st,pushed⟩ := pushChildNodesToFrontend_succeeds w.dom nodeId (reachable_consistent reachable)
  exact ⟨_,by rw [getChildNodes,pushed]; rfl⟩

/-- On `bodyTree`, after `setDocument` and a request for the document's children, a request for
the children of `HTML` (id 2), which holds `BODY`. -/
theorem getChildNodes_never_faults_html :
    ∃ w, run Env.accepting (World.initial bodyTree) [.setDocument (some 0),.getChildNodes 7 1] = .ok w ∧
      w.agent.childrenRequested 1 = true ∧ nodeForId 2 w.agent = some 1 ∧ ∃ next, getChildNodes 8 2 w = .ok next :=
  ⟨_,rfl,rfl,rfl,getChildNodes_never_faults
    (reachable_run Env.accepting bodyTree [.setDocument (some 0),.getChildNodes 7 1] .initial rfl) 8 2⟩

/-- With no document listened to, `mainFrameDocument()->frame()` reads through null. -/
theorem performSearch_without_document (engines : Engines) (dom : Dom) (query : String)
    (runSynchronously : Bool) {st : Agent} (unset : st.mainFrameDocument = none) :
    performSearch engines dom query runSynchronously st = .error .nullDereference := by
  simp only [performSearch]
  rw [show (searchCanceled st).mainFrameDocument = none from unset]

/-- A search before any `setDocument` dereferences null. -/
theorem performSearch_before_setDocument :
    step Env.accepting (World.initial bodyTree) (.performSearch "div" true) = .error .nullDereference := by
  unfold step
  simp only [performSearch_without_document _ _ _ _ (rfl : inspectorDOMAgent.mainFrameDocument = none)]
  rfl

/-- `node->ownerDocument()` with the selected node never checked: an unknown id faults once the
rule is replaced. -/
theorem setRuleSelector_unknown_node (engine : StyleEngine) (callId ruleId : Nat) (selector : String)
    (selectedNodeId : Nat) (w : World) (rule : engine.ruleForId ruleId = some true)
    (added : engine.addRuleFails selector = false) (deleted : engine.deleteRuleFails ruleId = false)
    (unknown : nodeForId selectedNodeId w.agent = none) :
    setRuleSelector engine callId ruleId selector selectedNodeId w = .error .nullDereference := by
  simp [setRuleSelector,rule,added,deleted,unknown]

end InspectorDOM
