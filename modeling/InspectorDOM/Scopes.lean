import InspectorDOM.Handlers
import Mathlib.Data.List.Nodup

/-! The documents the agent listens to, `m_documents`. `startListening` and `stopListening` keep
it free of duplicates. `setDocument` empties it and puts the main document first; every later
entry is appended by `innerFirstChild` on a frame owner, so it is that owner's content document.
The owner need not stay bound: `unbind` listens again through a frame owner whose children were
requested, and path resolution listens through frame owners it never binds. Until a document is
set nothing is bound, so nothing else is listened to. -/

namespace InspectorDOM

theorem mem_tail_of_mem_tail_erase {documents : List Node} {document other : Node}
    (mem : other ∈ (documents.erase document).tail) : other ∈ documents.tail := by
  cases documents with
  | nil => simp at mem
  | cons first rest =>
    by_cases same : first = document
    · subst same
      simp only [List.erase_cons_head] at mem
      exact List.mem_of_mem_tail mem
    · simp only [List.erase_cons,beq_iff_eq,same,if_false,List.tail_cons] at mem ⊢
      exact List.mem_of_mem_erase mem

theorem mem_tail_append_singleton {documents : List Node} {document other : Node}
    (mem : other ∈ (documents ++ [document]).tail) : other ∈ documents.tail ∨ other = document := by
  cases documents with
  | nil => simp at mem
  | cons first rest => simpa using mem

/-- `m_documents` against the tree's frames and the document the last `setDocument` passed: no
document twice, every entry after the first some frame owner's content document, and the first
the main document whenever that is no frame's content document. -/
structure Scoped (main : Option Node) (w : World) : Prop where
  nodup : w.agent.documents.Nodup
  framed : ∀ document ∈ w.agent.documents.tail, ∃ owner, w.dom.frameDocument owner = some document
  first : ∀ document, main = some document → (∀ owner, w.dom.frameDocument owner ≠ some document) →
    w.agent.mainFrameDocument = some document

namespace Scoped

variable {main : Option Node} {w : World} (holds : Scoped main w)
include holds

theorem of_documents {w' : World} (frames : w'.dom.frameDocument = w.dom.frameDocument)
    (same : w'.agent.documents = w.agent.documents) : Scoped main w' where
  nodup := same ▸ holds.nodup
  framed := by rw [same,frames]; exact holds.framed
  first := by simp only [Agent.mainFrameDocument,same,frames]; exact holds.first

theorem startListening {owner document : Node} (framed : w.dom.frameDocument owner = some document) :
    Scoped main { w with agent := startListening document w.agent } := by
  unfold InspectorDOM.startListening
  split
  · exact holds.of_documents rfl rfl
  · rename_i absent
    refine ⟨?_,fun other mem => ?_,fun first set notFramed => ?_⟩
    · exact List.nodup_append.mpr ⟨holds.nodup,List.nodup_singleton _,by simpa using absent⟩
    · rcases mem_tail_append_singleton mem with mem | rfl
      · exact holds.framed other mem
      · exact ⟨owner,framed⟩
    · have head := holds.first first set notFramed
      simp only [Agent.mainFrameDocument] at head ⊢
      rw [List.head?_append,head]
      rfl

theorem stopListening {owner document : Node} (framed : w.dom.frameDocument owner = some document) :
    Scoped main { w with agent := stopListening document w.agent } := by
  rw [stopListening_eq]
  refine ⟨holds.nodup.erase document,fun other mem => holds.framed other (mem_tail_of_mem_tail_erase mem),
    fun first set notFramed => ?_⟩
  have head := holds.first first set notFramed
  have other : first ≠ document := by rintro rfl; exact notFramed owner framed
  simp only [Agent.mainFrameDocument] at head ⊢
  obtain ⟨rest,listed⟩ := List.head?_eq_some_iff.mp head
  rw [listed,List.erase_cons_tail (by simpa using other)]
  rfl

theorem listen (node : Node) : Scoped main { w with agent := listen w.dom node w.agent } := by
  unfold InspectorDOM.listen
  split
  · exact holds.startListening ‹_›
  · exact holds.of_documents rfl rfl

theorem unlisten (node : Node) : Scoped main { w with agent := unlisten w.dom node w.agent } := by
  unfold InspectorDOM.unlisten
  split
  · exact holds.stopListening ‹_›
  · exact holds.of_documents rfl rfl

end Scoped

/-- The relation the handlers' updates keep: the frames stay, and `Scoped` carries over, whatever
document was set last. -/
def KeepsScope (w w' : World) : Prop :=
  w'.dom.frameDocument = w.dom.frameDocument ∧ ∀ main, Scoped main w → Scoped main w'

theorem KeepsScope.of_documents {w w' : World} (frames : w'.dom.frameDocument = w.dom.frameDocument)
    (same : w'.agent.documents = w.agent.documents) : KeepsScope w w' :=
  ⟨frames,fun _ holds => holds.of_documents frames same⟩

theorem scopeSteps : StepChain fun _ => KeepsScope where
  refl _ := ⟨rfl,fun _ holds => holds⟩
  trans first second := ⟨second.1.trans first.1,fun main holds => second.2 main (first.2 main holds)⟩
  bound w nodesMap node := .of_documents rfl (documents_bind node nodesMap w.agent)
  listened w node := ⟨rfl,fun _ holds => holds.listen node⟩
  unlistened w node := ⟨rfl,fun _ holds => holds.unlisten node⟩
  removed w nodesMap _ _ _ := .of_documents rfl (by cases nodesMap <;> rfl)
  sent _ _ := .of_documents rfl rfl
  requested _ _ _ := .of_documents rfl rfl
  allocated _ := .of_documents rfl rfl
  discarded _ := .of_documents rfl rfl
  inspected _ _ := .of_documents rfl rfl
  inserted _ _ _ _ := .of_documents rfl rfl
  detached _ _ _ := .of_documents rfl rfl
  valueSet _ _ _ := .of_documents rfl rfl
  attributesSet _ _ _ := .of_documents rfl rfl

/-- After `setDocument`, the main document is the one it was passed. -/
theorem Scoped.setDocument {main : Option Node} {w : World} (holds : Scoped main w) (doc : Option Node) :
    Scoped doc (mapAgent w (InspectorDOM.setDocument w.dom doc)) := by
  show Scoped doc ⟨w.dom,InspectorDOM.setDocument w.dom doc w.agent⟩
  unfold InspectorDOM.setDocument
  by_cases current : doc = w.agent.mainFrameDocument
  · rw [if_pos current]
    exact ⟨holds.nodup,holds.framed,fun document set _ => set ▸ current.symm⟩
  · rw [if_neg current,reset_eq]
    cases doc with
    | some document =>
      have started : Scoped (some document) ⟨w.dom,InspectorDOM.startListening document
          { discardBindings (searchCanceled w.agent) with documents := [] }⟩ := by
        refine ⟨by simp [InspectorDOM.startListening],fun other mem => ?_,fun first set _ => ?_⟩
        · simp [InspectorDOM.startListening] at mem
        · cases set; rfl
      dsimp only
      split
      · exact (scopeSteps.pushDocumentToFrontend_keeps w.dom _).2 _ started
      · exact started
    | none => exact ⟨List.nodup_nil,fun _ mem => (List.not_mem_nil _ mem).elim,fun _ set => nomatch set⟩

/-- Nothing listened to and nothing bound: the agent as constructed, and after `setDocument`
with null. -/
structure Quiet (st : Agent) : Prop where
  documents : st.documents = []
  unindexed : ∀ id, st.idToNode id = none
  unbound : ∀ node, st.documentNodeToIdMap node = 0

namespace Quiet

variable {st : Agent} (quiet : Quiet st)
include quiet

theorem mainFrameDocument_none : st.mainFrameDocument = none := by
  simp [Agent.mainFrameDocument,quiet.documents]

theorem send (record : Record) : Quiet (st.send record) := ⟨quiet.documents,quiet.unindexed,quiet.unbound⟩

theorem pushDocumentToFrontend_eq (dom : Dom) : pushDocumentToFrontend dom st = (false,st) := by
  simp [pushDocumentToFrontend,quiet.mainFrameDocument_none]

theorem pushNodePathToFrontend_eq (dom : Dom) (node : Node) : pushNodePathToFrontend dom node st = .ok (0,st) := by
  simp [pushNodePathToFrontend,quiet.pushDocumentToFrontend_eq]

end Quiet

theorem Quiet.reportEach (dom : Dom) : ∀ (nodes : List Node) {st : Agent} {result : List Nat × Agent},
    Quiet st → InspectorDOM.reportEach dom nodes st = .ok result → Quiet result.2
  | [], _, _, quiet, ok => by cases ok; exact quiet
  | node :: nodes, st, _, quiet, ok => by
    unfold InspectorDOM.reportEach at ok
    split at ok
    · exact Quiet.reportEach dom nodes quiet ok
    · have listed : Quiet { st with searchResults := st.searchResults ++ [node] } :=
        ⟨quiet.documents,quiet.unindexed,quiet.unbound⟩
      simp only [listed.pushNodePathToFrontend_eq] at ok
      obtain ⟨reported,report,rfl⟩ := except_map_success ok
      exact (Quiet.reportEach dom nodes listed report :)

/-- A document with `HTML` holding an `IFRAME` (node 2), whose content document is node 3. -/
def frameTree : Dom :=
  Dom.ofNodes [(.document,none,""),(.element,some 0,"HTML"),(.element,some 1,"IFRAME"),(.document,none,""),
    (.element,some 3,"HTML")] [(2,3)]

theorem frameTree_frameDocument {owner document : Node} (framed : frameTree.frameDocument owner = some document) :
    owner = 2 ∧ document = 3 := by
  simp only [Dom.frameDocument,frameTree,Dom.ofNodes] at framed
  split at framed
  · rename_i owned
    simp only [List.any_cons,List.any_nil,Bool.or_false,decide_eq_true_eq] at owned
    subst owned
    simp at framed
    exact ⟨rfl,framed.symm⟩
  · cases framed

/-- The nodes of a document's tree, by child links from the document. -/
inductive Dom.Below (dom : Dom) (document : Node) : Node → Prop
  | child {node : Node} (mem : node ∈ dom.childNodes document) : Dom.Below dom document node
  | descendant {parent node : Node} (below : Dom.Below dom document parent) (mem : node ∈ dom.childNodes parent) :
      Dom.Below dom document node

/-- `unbind` never binds. -/
theorem unbindChain_unbound (dom : Dom) (nodesMap : MapRef) :
    UnbindChain dom fun st st' => ∀ node, st.nodeToId nodesMap node = 0 → st'.nodeToId nodesMap node = 0 where
  refl _ _ absent := absent
  trans first second node absent := second node (first node absent)
  unlistened node st n absent := by rw [(unlisten_same dom node st).nodeToId]; exact absent
  removed _ _ _ _ _ n absent := by
    rw [Agent.nodeToId_with_index,Agent.nodeToId_setNodeToId_update]
    split <;> simp_all
  listened node st n absent := by rw [(listen_same dom node st).nodeToId]; exact absent

/-- Unbinding a node of a document's tree that holds no frame owner keeps the document listened to. -/
theorem unbindWith_keeps_listening (dom : Dom) {document : Node}
    (noFrames : ∀ node, Dom.Below dom document node → dom.frameDocument node = none) (nodesMap : MapRef) :
    ∀ fuel node (st : Agent), Dom.Below dom document node → document ∈ st.documents →
      document ∈ (unbindWith dom fuel node nodesMap st).documents
  | 0, _, _, _, listened => listened
  | fuel + 1, node, st, below, listened => by
    have unframed := noFrames node below
    simp only [unbindWith,unlisten,listen,unframed]
    split
    · exact listened
    · split
      · refine List.foldlRecOn (motive := fun st => document ∈ st.documents) _ _ _ ?_
          fun st' kept child mem => unbindWith_keeps_listening dom noFrames nodesMap fuel child st' ?_ kept
        · simpa using listened
        · simp only [Dom.innerChildren,unframed,List.mem_filter] at mem
          exact .descendant below mem.1
      · simpa using listened

/-- `unbind` of a frame owner stops listening to its content document and, when the owner is bound
with its children requested, listens to it again: the loop over the owner's children starts with
`innerFirstChild`, which calls `startListening` on that document. So once `unbind` returns, the
owner is unbound and its content document is still listened to, whenever no frame owner sits in
that document's tree. -/
theorem unbind_relistens_frame_document (dom : Dom) {owner document : Node}
    (framed : dom.frameDocument owner = some document)
    (noFrames : ∀ node, Dom.Below dom document node → dom.frameDocument node = none) (nodesMap : MapRef)
    (st : Agent) (bound : st.nodeToId nodesMap owner ≠ 0)
    (requested : st.childrenRequested (st.nodeToId nodesMap owner) = true) :
    (unbind dom owner nodesMap st).nodeToId nodesMap owner = 0 ∧ document ∈ (unbind dom owner nodesMap st).documents := by
  have same := unlisten_same dom owner st
  have children : ∀ child ∈ dom.innerChildren owner, Dom.Below dom document child := by
    intro child mem
    simp only [Dom.innerChildren,framed] at mem
    split at mem
    · exact absurd mem (List.not_mem_nil _)
    · rename_i first rest listed
      exact .child (listed ▸ List.mem_cons.mpr ((List.mem_cons.mp mem).imp_right List.mem_of_mem_filter))
  simp only [unbind,unbindWith,same.nodeToId,bound,if_false,Agent.childrenRequested_setNodeToId,same.requested,
    requested,if_true]
  refine List.foldlRecOn (motive := fun st' => st'.nodeToId nodesMap owner = 0 ∧ document ∈ st'.documents) _ _ _
    ⟨?_,?_⟩ fun st' kept child mem => ⟨(unbindChain_unbound dom nodesMap).unbindWith _ child nodesMap st' owner kept.1,
      unbindWith_keeps_listening dom noFrames nodesMap _ child st' (children child mem) kept.2⟩
  · rw [(listen_same dom owner _).nodeToId]
    cases nodesMap <;> simp [Agent.nodeToId,Agent.setNodeToId]
  · simp [listen,framed,startListening]
    split <;> simp_all

theorem frameTree_below {node : Node} (below : Dom.Below frameTree 3 node) : node = 4 := by
  have inner : frameTree.childNodes 3 = [4] := rfl
  induction below with
  | child mem => rw [inner] at mem; exact List.mem_singleton.mp mem
  | descendant _ mem same =>
    subst same
    exact absurd mem (by rw [show frameTree.childNodes 4 = [] from rfl]; exact List.not_mem_nil _)

/-- On `frameTree`, with the children of the `IFRAME` (node 2, id 3) requested, `unbind` leaves the
`IFRAME` unbound and its content document (node 3) listened to. Removing the `IFRAME` from `HTML`
unbinds it so, and node 3 stays in `m_documents` while its only owner is bound in no map. -/
theorem unbind_relistens_iframe_document :
    ∃ w, run Env.accepting (World.initial frameTree) [.setDocument (some 0),.getChildNodes 7 3] = .ok w ∧
      w.agent.nodeToId .live 2 = 3 ∧ w.agent.childrenRequested 3 = true ∧
      ((unbind frameTree 2 .live w.agent).nodeToId .live 2 = 0 ∧ 3 ∈ (unbind frameTree 2 .live w.agent).documents) ∧
      ∃ w', run Env.accepting (World.initial frameTree) [.setDocument (some 0),.getChildNodes 7 3,.removeChild 1 2] =
          .ok w' ∧ w'.agent.documents = [0,3] ∧ w'.agent.documentNodeToIdMap 2 = 0 ∧ w'.agent.danglingNodeToIdMaps = [] ∧
        ∀ owner, frameTree.frameDocument owner = some 3 → owner = 2 :=
  ⟨_,rfl,rfl,rfl,unbind_relistens_frame_document frameTree (show frameTree.frameDocument 2 = some 3 from rfl) (fun node below => by
      cases framed : frameTree.frameDocument node with
      | none => rfl
      | some _ => exact absurd (frameTree_below below) (by rw [(frameTree_frameDocument framed).1]; decide))
      .live _ (by decide) rfl,
    _,rfl,by decide,by decide,by decide,fun _ framed => (frameTree_frameDocument framed).1⟩

end InspectorDOM
