import InspectorDOM.IdentityRuns

/-! The disclosure tracker `m_childrenRequested` against what the frontend was sent. The
builders mark nothing, and `setDocument` pushes the new document two levels deep: the
document's children reach the frontend while no id, the document's included, is requested. -/

namespace InspectorDOM

theorem pushDocumentToFrontend_unbound (dom : Dom) {st : Agent} {document : Node}
    (main : st.mainFrameDocument = some document) (unbound : st.documentNodeToIdMap document = 0) :
    pushDocumentToFrontend dom st = (true,(buildObjectForNode dom document 2 .live st).2.send
      (.setDocument (some (buildObjectForNode dom document 2 .live st).1))) := by
  simp [pushDocumentToFrontend,main,unbound]

/-- A new document with a document element is pushed with its visible children, and afterwards
no id is requested. -/
theorem setDocument_discloses_unrequested (dom : Dom) (document : Node) (st : Agent)
    (fresh : some document ≠ st.mainFrameDocument) (element : (dom.documentElement document).isSome)
    (isDocument : dom.nodeType document = .document) :
    ∃ desc, (setDocument dom (some document) st).frontend = st.frontend ++ [.setDocument (some desc)] ∧
      desc.children.length = dom.innerChildNodeCount document ∧
      ∀ id, (setDocument dom (some document) st).childrenRequested id = false := by
  -- after `reset`, the new document is the only one listened to, and nothing is bound
  have started : startListening document (reset st) =
      { discardBindings (searchCanceled st) with documents := [document] } := by
    rw [reset_eq]
    simp [startListening]
  have pushed := pushDocumentToFrontend_unbound dom
    (show (startListening document (reset st)).mainFrameDocument = some document by rw [started]; rfl)
    (show (startListening document (reset st)).documentNodeToIdMap document = 0 by rw [started]; rfl)
  simp only [setDocument,if_neg fresh,element,if_true,pushed]
  refine ⟨(buildObjectForNode dom document 2 .live (startListening document (reset st))).1,?_,
    buildObjectForNode_children_length dom document 1 .live _ (by simp [isDocument,NodeType.isContainer]),
    fun id => ?_⟩
  · rw [Agent.send,(frontendChain dom .live).buildObjectForNode document 2 _,started]
    rfl
  · show (buildObjectForNode dom document 2 .live _).2.childrenRequested id = false
    rw [(requestedChain dom .live).buildObjectForNode document 2 _,started]
    rfl

theorem setDocument_discloses_unrequested_body :
    some 0 ≠ inspectorDOMAgent.mainFrameDocument ∧ (bodyTree.documentElement 0).isSome ∧
    bodyTree.nodeType 0 = .document ∧
    ∃ desc, (setDocument bodyTree (some 0) inspectorDOMAgent).frontend =
        inspectorDOMAgent.frontend ++ [.setDocument (some desc)] ∧
      desc.children.length = bodyTree.innerChildNodeCount 0 ∧
      ∀ id, (setDocument bodyTree (some 0) inspectorDOMAgent).childrenRequested id = false :=
  ⟨by decide,by decide,by decide,
    setDocument_discloses_unrequested bodyTree 0 inspectorDOMAgent (by decide) (by decide) (by decide)⟩

/-- On `bodyTree`, the document (id 1) reaches the frontend with its children while its id is
not requested, so a comment inserted under it is reported as a bare count. -/
theorem document_children_disclosed_unrequested :
    ∃ w, run Env.accepting (World.initial bodyTree) [.setDocument (some 0),.insertBefore 0 3 none] = .ok w ∧
      w.agent.documentNodeToIdMap 0 = 1 ∧ w.agent.observer.carriesChildren 1 = true ∧
      w.agent.childrenRequested 1 = false ∧ w.agent.observer.childCount 1 = some 2 ∧
      w.agent.observer.children 1 = [] :=
  ⟨_,rfl,by decide⟩

end InspectorDOM
