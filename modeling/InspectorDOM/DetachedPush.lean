import InspectorDOM.Described
import InspectorDOM.Disclosure

/-! Which nodes `pushNodePathToFrontend` treats as detached. Its ancestor walk follows
`innerParentNode`, which for a child of a document answers with the document's owner element; a
main document has none, so the walk ends at the child itself as if it had no parent. A child of the
main document that the frontend has not been given yet is then pushed as a detached root, into a
new detached map, although it sits in the main document. -/

namespace InspectorDOM

/-- The builders keep the list of detached maps. -/
theorem danglingChain (dom : Dom) (nodesMap : MapRef) :
    BuildChain dom nodesMap fun st st' => st'.danglingNodeToIdMaps = st.danglingNodeToIdMaps where
  refl _ := rfl
  trans first second := second.trans first
  bound node st := by
    rcases bind_spec node nodesMap st with ⟨-,found⟩ | ⟨-,-,entered⟩
    · rw [found]
    · exact entered.current
  listened node st := (listen_same dom node st).current

/-- `pushDetachedRoot` adds one detached map, sends the root as the last record, and keeps the
live map. -/
theorem pushDetachedRoot_spec (dom : Dom) (root : Node) (st : Agent) :
    (pushDetachedRoot dom root st).2.documentNodeToIdMap = st.documentNodeToIdMap ∧
      (pushDetachedRoot dom root st).2.danglingNodeToIdMaps = st.danglingNodeToIdMaps ++ [st.nextDanglingMap] ∧
      ∃ desc, (pushDetachedRoot dom root st).2.frontend.getLast? = some (.setDetachedRoot desc) := by
  have stable := (stableChain dom (.dangling st.nextDanglingMap)).buildObjectForNode root 0 (allocateDanglingMap st)
  have listed := (danglingChain dom (.dangling st.nextDanglingMap)).buildObjectForNode root 0 (allocateDanglingMap st)
  refine ⟨stable.others .live MapRef.noConfusion,listed,?_⟩
  simp [pushDetachedRoot,Agent.send]

/-- A child of the main document whose document has no owner element, pushed while unbound in the
live map, comes back bound in a new detached map announced by `setDetachedRoot`, and the live map
does not change. -/
theorem pushNodePathToFrontend_detaches_main_document_child (dom : Dom) {st : Agent} {document node : Node}
    (main : st.mainFrameDocument = some document) (pushed : st.documentNodeToIdMap document ≠ 0)
    (child : dom.parentNode node = some document) (isDocument : dom.nodeType document = .document)
    (unowned : dom.ownerElement document = none) (unbound : st.documentNodeToIdMap node = 0) :
    ∃ id st', pushNodePathToFrontend dom node st = .ok (id,st') ∧
      st'.documentNodeToIdMap = st.documentNodeToIdMap ∧
      st'.danglingNodeToIdMaps = st.danglingNodeToIdMaps ++ [st.nextDanglingMap] ∧
      ∃ desc, st'.frontend.getLast? = some (.setDetachedRoot desc) := by
  have topmost : dom.innerParentNode node = none := by
    simp [Dom.innerParentNode,child,isDocument,unowned]
  have walk : pathToKnownAncestor dom st.documentNodeToIdMap (dom.size + 1) node = some ([],some node) := by
    simp [pathToKnownAncestor,topmost]
  refine ⟨(pushDetachedRoot dom node st).2.nodeToId (.dangling st.nextDanglingMap) node,_,?_,
    pushDetachedRoot_spec dom node st⟩
  simp only [pushNodePathToFrontend,pushDocumentToFrontend,main,pushed,ne_eq,not_false_eq_true,if_true,
    Bool.not_true,unbound,not_true_eq_false,if_false,walk]
  rfl

/-- On `bodyTree`, the comment inserted under the main document is one of its visible children;
pushing it makes a detached map and a detached-root record, and leaves it unbound in the live map. -/
theorem pushNodePathToFrontend_detaches_inserted_comment :
    ∃ w, run Env.accepting (World.initial bodyTree) [.setDocument (some 0),.insertBefore 0 3 none] = .ok w ∧
      3 ∈ w.dom.innerChildren 0 ∧ w.agent.mainFrameDocument = some 0 ∧ w.agent.documentNodeToIdMap 0 ≠ 0 ∧
      w.dom.parentNode 3 = some 0 ∧ w.dom.nodeType 0 = .document ∧ w.dom.ownerElement 0 = none ∧
      w.agent.documentNodeToIdMap 3 = 0 ∧
      ∃ id st', pushNodePathToFrontend w.dom 3 w.agent = .ok (id,st') ∧
        st'.documentNodeToIdMap = w.agent.documentNodeToIdMap ∧
        st'.danglingNodeToIdMaps = w.agent.danglingNodeToIdMaps ++ [w.agent.nextDanglingMap] ∧
        ∃ desc, st'.frontend.getLast? = some (.setDetachedRoot desc) :=
  ⟨_,rfl,by decide,by decide,by decide,by decide,rfl,rfl,by decide,
    pushNodePathToFrontend_detaches_main_document_child _ (show _ = some 0 by decide) (by decide) (by decide) (by rfl)
      (by rfl) (by decide)⟩

end InspectorDOM
