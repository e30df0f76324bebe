import InspectorDOM.Scopes

/-! The trees the frontend's mirror is exact for, and what the tree's own edits do to the agent's
view of a node's children. On such a tree `innerFirstChild`/`innerNextSibling` visit a node's
children that are not whitespace, in order; removing a child drops it from that list, and
inserting one puts it right after the visible sibling before it. `unbind` of a node only takes
entries from the live map: the node's, and those of nodes visited under one it took. -/

namespace InspectorDOM

theorem find?_eq_head?_filter {α : Type} (p : α → Bool) : ∀ l : List α, l.find? p = (l.filter p).head?
  | [] => rfl
  | a :: l => by
    by_cases holds : p a
    · rw [List.find?_cons_of_pos _ holds,List.filter_cons_of_pos holds]; rfl
    · rw [List.find?_cons_of_neg _ holds,List.filter_cons_of_neg holds]; exact find?_eq_head?_filter p l

theorem find?_reverse {α : Type} (p : α → Bool) (l : List α) : l.reverse.find? p = (l.filter p).getLast? := by
  rw [find?_eq_head?_filter,List.filter_reverse,List.head?_reverse]

theorem takeWhile_ne_append_cons {l : List Node} {node : Node} (absent : node ∉ l) (rest : List Node) :
    (l ++ node :: rest).takeWhile (· ≠ node) = l := by
  rw [List.takeWhile_append_of_pos fun a mem => by
    simp only [ne_eq,decide_eq_true_eq]; rintro rfl; exact absent mem]
  simp

/-- `childNodeInserted` after `prevId`: the new id lands right after it when it is listed once. -/
theorem insertAfter_append {prevId id : Nat} : ∀ (before rest : List Nat), prevId ∉ before →
    insertAfter prevId id (before ++ prevId :: rest) = before ++ prevId :: id :: rest
  | [], rest, _ => by simp [insertAfter]
  | other :: before, rest, absent => by
    have differs : other ≠ prevId := fun same => absent (same ▸ List.mem_cons_self _ _)
    simp [insertAfter,differs,insertAfter_append before rest (fun mem => absent (List.mem_cons_of_mem _ mem))]

/-- The frontend's edits of a child list, replayed on the ids of a list split around `node`: taking
`node`'s id out leaves the ids of the rest, and putting it back after the id of the last node before
it (or first, with 0) restores the list. -/
theorem erase_ids_split (f : Node → Nat) {before after : List Node} {node : Node}
    (nodup : ((before ++ node :: after).map f).Nodup) :
    ((before ++ node :: after).map f).erase (f node) = (before ++ after).map f := by
  rw [List.map_append,List.map_cons,List.nodup_middle] at nodup
  rw [List.map_append,List.map_cons,
    List.erase_append_right _ fun mem => (List.nodup_cons.mp nodup).1 (List.mem_append_left _ mem),
    List.erase_cons_head,List.map_append]

theorem childInserted_ids_split (f : Node → Nat) {before after : List Node} {node : Node}
    (nodup : ((before ++ node :: after).map f).Nodup) (nonzero : ∀ a ∈ before, f a ≠ 0) :
    childInserted ((before.getLast?.map f).getD 0) (f node) ((before ++ after).map f) =
      (before ++ node :: after).map f := by
  rcases List.eq_nil_or_concat before with rfl | ⟨init,last,rfl⟩
  · simp [childInserted]
  · have lastId := nonzero last (by simp)
    have fresh : f last ∉ init.map f := by
      rw [List.concat_eq_append,List.map_append,List.map_append,List.append_assoc,List.nodup_append] at nodup
      exact fun mem => nodup.2.2 mem (by simp)
    rw [List.concat_eq_append,List.getLast?_concat]
    simp only [childInserted,Option.map_some',Option.getD_some,lastId,if_false,List.map_append,List.map_cons,
      List.map_nil,List.append_assoc,List.singleton_append]
    rw [insertAfter_append _ _ fresh]

/-- Erasing a node's id from the ids of a list is erasing the node, when no other node has it. -/
theorem map_erase_of_injOn {f : Node → Nat} {node : Node} : ∀ (l : List Node),
    (∀ other ∈ l, f other = f node → other = node) → (l.erase node).map f = (l.map f).erase (f node)
  | [], _ => rfl
  | other :: l, injective => by
    by_cases same : other = node
    · subst same; simp
    · have differs : f other ≠ f node := fun eq => same (injective other (List.mem_cons_self _ _) eq)
      simp only [List.erase_cons,beq_iff_eq,same,differs,if_false,List.map_cons]
      rw [map_erase_of_injOn l fun o mem => injective o (List.mem_cons_of_mem _ mem)]

theorem Dom.mem_insertIn {l : List Node} {node other : Node} (refChild : Option Node) :
    other ∈ Dom.insertIn l node refChild ↔ other ∈ l ∨ other = node := by
  cases refChild with
  | none => simp [Dom.insertIn]
  | some refChild =>
    simp only [Dom.insertIn,List.mem_append,List.mem_cons]
    constructor
    · rintro (mem | same | mem)
      · exact .inl ((List.takeWhile_sublist _).subset mem)
      · exact .inr same
      · exact .inl ((List.dropWhile_sublist _).subset mem)
    · rintro (mem | same)
      · rw [← List.takeWhile_append_dropWhile (p := (· ≠ refChild)) (l := l),List.mem_append] at mem
        rcases mem with mem | mem
        · exact .inl mem
        · exact .inr (.inr mem)
      · exact .inr (.inl same)

theorem Dom.nodup_insertIn {l : List Node} {node : Node} (nodup : l.Nodup) (absent : node ∉ l) (refChild : Option Node) :
    (Dom.insertIn l node refChild).Nodup := by
  cases refChild with
  | none => exact nodup.append (List.nodup_singleton node) (by simpa using absent)
  | some refChild =>
    have split := List.takeWhile_append_dropWhile (p := (· ≠ refChild)) (l := l)
    rw [← split] at nodup absent
    simp only [Dom.insertIn]
    rw [List.nodup_append] at nodup ⊢
    refine ⟨nodup.1,List.nodup_cons.mpr ⟨fun mem => absent (List.mem_append_right _ mem),nodup.2.1⟩,?_⟩
    intro a inTake inRest
    rcases List.mem_cons.mp inRest with same | inDrop
    · exact absent (same ▸ List.mem_append_left _ inTake)
    · exact nodup.2.2 inTake inDrop

@[simp] theorem Agent.nodeToId_live (st : Agent) : st.nodeToId .live = st.documentNodeToIdMap := rfl

/-- `insertIn` puts `node` between a prefix and a suffix of the old list. -/
theorem Dom.insertIn_split (l : List Node) (node : Node) (refChild : Option Node) :
    ∃ before after, Dom.insertIn l node refChild = before ++ node :: after ∧ l = before ++ after := by
  cases refChild with
  | none => exact ⟨l,[],rfl,(List.append_nil l).symm⟩
  | some refChild => exact ⟨_,_,rfl,(List.takeWhile_append_dropWhile _ l).symm⟩

theorem Dom.insertIn_erase {l : List Node} {node : Node} (absent : node ∉ l) (refChild : Option Node) :
    (Dom.insertIn l node refChild).erase node = l := by
  obtain ⟨before,after,inserted,rfl⟩ := Dom.insertIn_split l node refChild
  rw [inserted,List.erase_append_right _ fun mem => absent (List.mem_append_left _ mem),List.erase_cons_head]

theorem listen_frontend (dom : Dom) (node : Node) (st : Agent) : (listen dom node st).frontend = st.frontend := by
  unfold listen startListening; split <;> (try split) <;> rfl

theorem unlisten_frontend (dom : Dom) (node : Node) (st : Agent) : (unlisten dom node st).frontend = st.frontend := by
  unfold unlisten stopListening; split <;> (try split) <;> rfl

/-- A content document, or a frame owner that has one: a parent whose edits the agent does not
report as edits of the children it visits. -/
def Dom.isFramed (dom : Dom) (node : Node) : Bool :=
  (dom.nodeType node = .document && (dom.ownerElement node).isSome) || (dom.frameDocument node).isSome

/-- The node whose children `innerFirstChild`/`innerNextSibling` walk under `node`: a frame owner's
content document, or the node itself. -/
def Dom.innerContainer (dom : Dom) (node : Node) : Node := (dom.frameDocument node).getD node

/-- A node the agent's walks can bind in the live map: visible, not a frame owner's own child, and
no frame's document. -/
def Dom.Placed (dom : Dom) (node : Node) : Prop :=
  dom.visible node = true ∧ (∀ parent, dom.parentNode node = some parent → dom.frameDocument parent = none) ∧
    (dom.nodeType node = .document → dom.ownerElement node = none)

theorem Dom.isFramed_eq_false {dom : Dom} {node : Node} :
    dom.isFramed node = false ↔
      (dom.nodeType node = .document → dom.ownerElement node = none) ∧ dom.frameDocument node = none := by
  simp [Dom.isFramed]

/-- A removal leaves a node placed: the removed node loses its parent. -/
theorem Dom.Placed.removeChild {dom : Dom} {node : Node} (placed : dom.Placed node) (parent removed : Node) :
    (dom.removeChild parent removed).Placed node := by
  refine ⟨placed.1,fun above linked => ?_,placed.2.2⟩
  simp only [Dom.removeChild,Function.update_apply] at linked
  split at linked
  · cases linked
  · exact placed.2.1 above linked

/-- Before a removal from a parent that owns no frame, a node placed after it was placed. -/
theorem Dom.Placed.of_removeChild {dom : Dom} {node parent removed : Node}
    (placed : (dom.removeChild parent removed).Placed node) (attached : dom.parentNode removed = some parent)
    (site : dom.frameDocument parent = none) : dom.Placed node := by
  refine ⟨placed.1,fun above linked => ?_,placed.2.2⟩
  by_cases same : node = removed
  · subst same; rw [attached] at linked; cases linked; exact site
  · exact placed.2.1 above (by simpa [Dom.removeChild,Function.update_noteq same] using linked)

/-- An insertion under a node that owns no frame leaves a node placed. -/
theorem Dom.Placed.insertBefore {dom : Dom} {node parent inserted : Node} (placed : dom.Placed node)
    (site : dom.frameDocument parent = none) (refChild : Option Node) :
    (dom.insertBefore parent inserted refChild).Placed node := by
  refine ⟨placed.1,fun above linked => ?_,placed.2.2⟩
  simp only [Dom.insertBefore,Function.update_apply] at linked
  split at linked
  · cases linked; exact site
  · exact placed.2.1 above linked

/-- A tree the mirror can follow, as the DOM builds them: child lists and parent links agree, no
child is listed twice, a document has no parent, a frame owner is an element whose content document
has it as owner element and the other way round, and a frame's content document has no text child,
as `Document::childTypeAllowed` refuses one. -/
structure Tidy (dom : Dom) : Prop where
  childNodes : ∀ parent node, node ∈ dom.childNodes parent ↔ dom.parentNode node = some parent
  nodup : ∀ parent, (dom.childNodes parent).Nodup
  documents : ∀ node, dom.nodeType node = .document → dom.parentNode node = none
  framed : ∀ owner document, dom.frameDocument owner = some document →
    dom.nodeType owner = .element ∧ dom.nodeType document = .document ∧ dom.ownerElement document = some owner
  owned : ∀ owner document, dom.nodeType document = .document → dom.ownerElement document = some owner →
    dom.frameDocument owner = some document
  untexted : ∀ owner document child, dom.frameDocument owner = some document → child ∈ dom.childNodes document →
    dom.nodeType child ≠ .text

namespace Tidy

variable {dom : Dom} (tidy : Tidy dom)
include tidy

theorem frameDocument_of_document {node : Node} (document : dom.nodeType node = .document) :
    dom.frameDocument node = none := by
  cases framed : dom.frameDocument node with
  | none => rfl
  | some content => cases document.symm.trans (tidy.framed node content framed).1

theorem isFramed_of_content {owner document : Node} (framed : dom.frameDocument owner = some document) :
    dom.isFramed document = true := by
  obtain ⟨-,document,owned⟩ := tidy.framed owner document framed
  simp [Dom.isFramed,document,owned]

/-- Under an unframed node the agent walks the node's own children, and under no other node. -/
theorem innerContainer_eq_iff {parent : Node} (site : dom.isFramed parent = false) (other : Node) :
    dom.innerContainer other = parent ↔ other = parent := by
  unfold Dom.innerContainer
  cases framed : dom.frameDocument other with
  | none => rfl
  | some document =>
    rw [Option.getD_some]
    have content := tidy.isFramed_of_content framed
    constructor
    · rintro rfl; rw [content] at site; cases site
    · rintro rfl; rw [(Dom.isFramed_eq_false.mp site).2] at framed; cases framed

theorem innerChildren (node : Node) :
    dom.innerChildren node = (dom.childNodes (dom.innerContainer node)).filter dom.visible := by
  unfold Dom.innerChildren Dom.innerContainer
  split
  · rename_i document framed
    rw [framed,Option.getD_some]
    split
    · rename_i empty; rw [empty]; rfl
    · rename_i first rest children
      have shown : dom.visible first = true := by
        simp [Dom.visible,Dom.isWhitespace,tidy.untexted node document first framed (children ▸ List.mem_cons_self _ _)]
      rw [children,List.filter_cons_of_pos shown]
  · rename_i framed; rw [framed]; rfl

theorem innerChildren_of_unframed {node : Node} (site : dom.isFramed node = false) :
    dom.innerChildren node = (dom.childNodes node).filter dom.visible := by
  rw [tidy.innerChildren,(tidy.innerContainer_eq_iff site node).mpr rfl]

/-- A node with a parent is walked under itself alone. -/
theorem eq_of_innerContainer_eq {parent node other : Node} (attached : dom.parentNode node = some parent)
    (same : dom.innerContainer other = node) : other = node := by
  unfold Dom.innerContainer at same
  cases framed : dom.frameDocument other with
  | none => simpa [framed] using same
  | some document =>
    rw [framed,Option.getD_some] at same
    subst same
    rw [tidy.documents _ (tidy.framed other document framed).2.1] at attached
    cases attached

theorem mem_innerChildren {parent node : Node} (mem : node ∈ dom.innerChildren parent) :
    dom.parentNode node = some (dom.innerContainer parent) ∧ dom.visible node = true := by
  rw [tidy.innerChildren,List.mem_filter] at mem
  exact ⟨(tidy.childNodes _ node).mp mem.1,mem.2⟩

theorem innerChildren_nodup (node : Node) : (dom.innerChildren node).Nodup := by
  rw [tidy.innerChildren]
  exact (tidy.nodup _).filter _

theorem not_document_of_mem {parent node : Node} (mem : node ∈ dom.childNodes parent) :
    dom.nodeType node ≠ .document := fun document =>
  absurd ((tidy.childNodes parent node).mp mem) (by rw [tidy.documents node document]; exact nofun)

/-- A visited child is placed: it hangs under the node or under the node's content document, and a
document owns no frame. -/
theorem placed_of_mem {parent node : Node} (mem : node ∈ dom.innerChildren parent) : dom.Placed node := by
  obtain ⟨linked,shown⟩ := tidy.mem_innerChildren mem
  refine ⟨shown,fun above linked' => ?_,fun document => ?_⟩
  · rw [linked] at linked'
    cases linked'
    unfold Dom.innerContainer
    cases framed : dom.frameDocument parent with
    | none => exact framed
    | some content => exact tidy.frameDocument_of_document (tidy.framed parent content framed).2.1
  · rw [tidy.documents node document] at linked; cases linked

/-- A placed node walked under a frame's content document is the frame's owner. -/
theorem eq_of_innerContainer_content {owner node document : Node} (framed : dom.frameDocument owner = some document)
    (placed : dom.Placed node) (contained : dom.innerContainer node = document) : owner = node := by
  obtain ⟨-,isDocument,owned⟩ := tidy.framed owner document framed
  unfold Dom.innerContainer at contained
  cases framed' : dom.frameDocument node with
  | none =>
    rw [framed',Option.getD_none] at contained
    subst contained
    rw [placed.2.2 isDocument] at owned; cases owned
  | some content =>
    rw [framed',Option.getD_some] at contained
    subst contained
    exact Option.some.inj (owned.symm.trans (tidy.framed node content framed').2.2)

/-- Two placed nodes the agent walks under one container are one node. -/
theorem innerContainer_injective {first second : Node} (placedFirst : dom.Placed first)
    (placedSecond : dom.Placed second) (same : dom.innerContainer first = dom.innerContainer second) :
    first = second := by
  cases framed : dom.frameDocument first with
  | some document =>
    exact tidy.eq_of_innerContainer_content framed placedSecond (by rw [← same,Dom.innerContainer,framed]; rfl)
  | none =>
    cases framed' : dom.frameDocument second with
    | some document =>
      exact (tidy.eq_of_innerContainer_content framed' placedFirst (by rw [same,Dom.innerContainer,framed']; rfl)).symm
    | none => simpa [Dom.innerContainer,framed,framed'] using same

/-- Two placed nodes whose visited children meet are one node. -/
theorem eq_of_mem_innerChildren {node first second : Node} (inFirst : node ∈ dom.innerChildren first)
    (inSecond : node ∈ dom.innerChildren second) (placedFirst : dom.Placed first) (placedSecond : dom.Placed second) :
    first = second :=
  tidy.innerContainer_injective placedFirst placedSecond
    (Option.some.inj ((tidy.mem_innerChildren inFirst).1.symm.trans (tidy.mem_innerChildren inSecond).1))

/-- The parent a placed node has in the agent's view walks the node's parent: that is the parent
itself, or for a child of a content document its owner. -/
theorem innerContainer_of_innerParentNode {node parent container : Node}
    (attached : dom.parentNode node = some container) (placed : dom.Placed node)
    (inner : dom.innerParentNode node = some parent) : dom.innerContainer parent = container := by
  simp only [Dom.innerParentNode,attached,Option.some_bind] at inner
  split at inner
  · rename_i document
    rw [Dom.innerContainer,tidy.owned parent container document inner,Option.getD_some]
  · cases inner
    rw [Dom.innerContainer,placed.2.1 _ attached,Option.getD_none]

/-- `unlisten` stops listening to a content document, never to a main document no frame owns. -/
theorem unlisten_mainFrameDocument (node : Node) {st : Agent}
    (unowned : ∀ document, st.mainFrameDocument = some document → dom.ownerElement document = none) :
    (unlisten dom node st).mainFrameDocument = st.mainFrameDocument := by
  unfold unlisten
  split
  · rename_i content framed
    rw [stopListening_eq]
    cases documents : st.documents with
    | nil => simp [Agent.mainFrameDocument,documents]
    | cons main rest =>
      have differs : main ≠ content := fun same => by
        have unowned := unowned main (by simp [Agent.mainFrameDocument,documents])
        rw [same,(tidy.framed node content framed).2.2] at unowned
        cases unowned
      simp [Agent.mainFrameDocument,documents,List.erase_cons,differs]
  · rfl

theorem removeChild {parent node : Node} (attached : dom.parentNode node = some parent) :
    Tidy (dom.removeChild parent node) where
  childNodes p n := by
    simp only [Dom.removeChild]
    by_cases atParent : p = parent <;> by_cases same : n = node
    · subst atParent same
      simp [(tidy.nodup p).not_mem_erase]
    · subst atParent
      simp [Function.update_noteq same,(tidy.nodup p).mem_erase_iff,same,tidy.childNodes]
    · subst same
      have : n ∉ dom.childNodes p := fun mem => atParent (by
        rw [tidy.childNodes,attached] at mem; exact (Option.some.inj mem).symm)
      simp [Function.update_noteq atParent,this]
    · simp [Function.update_noteq atParent,Function.update_noteq same,tidy.childNodes]
  nodup p := by
    simp only [Dom.removeChild]
    by_cases atParent : p = parent
    · subst atParent; simpa using (tidy.nodup p).erase node
    · simpa [Function.update_noteq atParent] using tidy.nodup p
  documents n document := by
    simp only [Dom.removeChild]
    by_cases same : n = node
    · subst same; simp
    · simpa [Function.update_noteq same] using tidy.documents n document
  framed := tidy.framed
  owned := tidy.owned
  untexted owner document child framed mem := by
    simp only [Dom.removeChild,Function.update_apply] at mem
    split at mem
    · subst document
      exact tidy.untexted owner parent child framed (List.mem_of_mem_erase mem)
    · exact tidy.untexted owner document child framed mem

theorem insertBefore {parent node : Node} (refChild : Option Node) (detached : dom.parentNode node = none)
    (notDocument : dom.nodeType node ≠ .document) (site : dom.isFramed parent = false) :
    Tidy (dom.insertBefore parent node refChild) where
  childNodes p n := by
    have absent : node ∉ dom.childNodes parent := by rw [tidy.childNodes,detached]; exact nofun
    simp only [Dom.insertBefore]
    by_cases atParent : p = parent <;> by_cases same : n = node
    · subst atParent same; simp [Dom.mem_insertIn]
    · subst atParent; simp [Function.update_noteq same,Dom.mem_insertIn,same,tidy.childNodes]
    · subst same
      have : n ∉ dom.childNodes p := by rw [tidy.childNodes,detached]; exact nofun
      simp [Function.update_noteq atParent,this,Ne.symm atParent]
    · simp [Function.update_noteq atParent,Function.update_noteq same,tidy.childNodes]
  nodup p := by
    simp only [Dom.insertBefore]
    by_cases atParent : p = parent
    · subst atParent
      simpa using Dom.nodup_insertIn (tidy.nodup p) (by rw [tidy.childNodes,detached]; exact nofun) refChild
    · simpa [Function.update_noteq atParent] using tidy.nodup p
  documents n document := by
    simp only [Dom.insertBefore]
    by_cases same : n = node
    · subst same; exact absurd document notDocument
    · simpa [Function.update_noteq same] using tidy.documents n document
  framed := tidy.framed
  owned := tidy.owned
  untexted owner document child framed mem := by
    have differs : document ≠ parent := fun same => by
      rw [← same,tidy.isFramed_of_content framed] at site; cases site
    simp only [Dom.insertBefore,Function.update_noteq differs] at mem
    exact tidy.untexted owner document child framed mem

theorem setAttributes (element : Node) (attributes : List (String × String)) :
    Tidy (dom.setAttributes element attributes) :=
  ⟨tidy.childNodes,tidy.nodup,tidy.documents,tidy.framed,tidy.owned,tidy.untexted⟩

theorem setNodeValue (node : Node) (value : String) : Tidy (dom.setNodeValue node value) :=
  ⟨tidy.childNodes,tidy.nodup,tidy.documents,tidy.framed,tidy.owned,tidy.untexted⟩

/-- Removing `node` from an unframed `parent` takes it out of the children the agent visits there,
and changes no other node's. -/
theorem innerChildren_removeChild {parent node : Node} (attached : dom.parentNode node = some parent)
    (site : dom.isFramed parent = false) (other : Node) :
    (dom.removeChild parent node).innerChildren other =
      if other = parent then (dom.innerChildren parent).erase node else dom.innerChildren other := by
  rw [(tidy.removeChild attached).innerChildren,tidy.innerChildren,tidy.innerChildren]
  show ((dom.removeChild parent node).childNodes (dom.innerContainer other)).filter dom.visible = _
  simp only [Dom.removeChild,Function.update_apply,tidy.innerContainer_eq_iff site]
  split
  · subst other
    rw [(tidy.innerContainer_eq_iff site parent).mpr rfl,List.erase_filter]
  · rfl

theorem innerChildren_insertBefore {parent node : Node} (refChild : Option Node) (detached : dom.parentNode node = none)
    (notDocument : dom.nodeType node ≠ .document) (site : dom.isFramed parent = false) (other : Node) :
    (dom.insertBefore parent node refChild).innerChildren other =
      if other = parent then (Dom.insertIn (dom.childNodes parent) node refChild).filter dom.visible
      else dom.innerChildren other := by
  rw [(tidy.insertBefore refChild detached notDocument site).innerChildren,tidy.innerChildren]
  show ((dom.insertBefore parent node refChild).childNodes (dom.innerContainer other)).filter dom.visible = _
  simp only [Dom.insertBefore,Function.update_apply,tidy.innerContainer_eq_iff site]
  split <;> rfl

/-- A visible child sits among its parent's visible children, between the visible siblings before
it, the last of which is its inner previous sibling, and those after it; without it the parent's
visible children are those two runs. -/
theorem children_split {parent node : Node} (attached : dom.parentNode node = some parent)
    (shown : dom.visible node = true) :
    ∃ before after, (dom.childNodes parent).filter dom.visible = before ++ node :: after ∧
      ((dom.childNodes parent).erase node).filter dom.visible = before ++ after ∧
      dom.innerPreviousSibling node = before.getLast? := by
  obtain ⟨first,rest,split⟩ := List.append_of_mem ((tidy.childNodes parent node).mpr attached)
  have absent : node ∉ first := by
    have nodup := tidy.nodup parent
    rw [split,List.nodup_middle] at nodup
    exact fun mem => List.nodup_cons.mp nodup |>.1 (List.mem_append_left _ mem)
  refine ⟨first.filter dom.visible,rest.filter dom.visible,?_,?_,?_⟩
  · rw [split,List.filter_append,List.filter_cons_of_pos shown]
  · rw [split,List.erase_append_right _ absent,List.erase_cons_head,List.filter_append]
  · simp only [Dom.innerPreviousSibling,attached,Option.some_bind,siblingsBefore,split,
      takeWhile_ne_append_cons absent,find?_reverse]

end Tidy

theorem Dom.ofNodes_frameDocument {nodes : List (NodeType × Option Node × String)} {frameOwners : List (Node × Node)}
    (owners : (frameOwners.map Prod.fst).Nodup) (owner document : Node) :
    (Dom.ofNodes nodes frameOwners).frameDocument owner = some document ↔ (owner,document) ∈ frameOwners := by
  simp only [Dom.frameDocument,Dom.ofNodes]
  constructor
  · intro framed
    split at framed
    · obtain ⟨pair,found,rfl⟩ := Option.map_eq_some'.mp framed
      have named := List.find?_some found
      simp only [decide_eq_true_eq] at named
      subst named
      exact List.mem_of_find?_eq_some found
    · cases framed
  · intro mem
    have listed : frameOwners.any (·.1 = owner) = true := List.any_eq_true.mpr ⟨_,mem,by simp⟩
    obtain ⟨pair,found⟩ := Option.isSome_iff_exists.mp (List.find?_isSome.mpr ⟨_,mem,by simp⟩ :
      (frameOwners.find? (·.1 = owner)).isSome)
    have named := List.find?_some found
    simp only [decide_eq_true_eq] at named
    have same := List.inj_on_of_nodup_map owners (List.mem_of_find?_eq_some found) mem named
    rw [if_pos listed,found,same]
    rfl

theorem Dom.ofNodes_ownerElement {nodes : List (NodeType × Option Node × String)} {frameOwners : List (Node × Node)}
    (contents : (frameOwners.map Prod.snd).Nodup) (owner document : Node) :
    (Dom.ofNodes nodes frameOwners).ownerElement document = some owner ↔ (owner,document) ∈ frameOwners := by
  simp only [Dom.ofNodes]
  constructor
  · intro owned
    obtain ⟨pair,found,rfl⟩ := Option.map_eq_some'.mp owned
    have named := List.find?_some found
    simp only [decide_eq_true_eq] at named
    subst named
    exact List.mem_of_find?_eq_some found
  · intro mem
    obtain ⟨pair,found⟩ := Option.isSome_iff_exists.mp (List.find?_isSome.mpr ⟨_,mem,by simp⟩ :
      (frameOwners.find? (·.2 = document)).isSome)
    have named := List.find?_some found
    simp only [decide_eq_true_eq] at named
    have same := List.inj_on_of_nodup_map contents (List.mem_of_find?_eq_some found) mem named
    rw [found,same]
    rfl

/-- A tree given by its nodes is tidy when no document has a parent, each frame owner is an element
owning one document, each content document one owner, and no content document has a text child. -/
theorem Dom.ofNodes_tidy (nodes : List (NodeType × Option Node × String)) (frameOwners : List (Node × Node))
    (documents : ∀ entry ∈ nodes, entry.1 = .document → entry.2.1 = none)
    (owners : (frameOwners.map Prod.fst).Nodup) (contents : (frameOwners.map Prod.snd).Nodup)
    (types : ∀ pair ∈ frameOwners, nodes[pair.1]?.map (·.1) = some .element ∧ nodes[pair.2]?.map (·.1) = some .document)
    (texts : ∀ pair ∈ frameOwners, ∀ entry ∈ nodes, entry.2.1 = some pair.2 → entry.1 ≠ .text) :
    Tidy (Dom.ofNodes nodes frameOwners) where
  childNodes parent node := by
    simp only [Dom.ofNodes,List.mem_filter,List.mem_range,decide_eq_true_eq,and_iff_right_iff_imp]
    intro linked
    by_contra outside
    rw [List.getElem?_eq_none (Nat.le_of_not_lt outside)] at linked
    cases linked
  nodup _ := (List.nodup_range _).filter _
  documents node document := by
    simp only [Dom.ofNodes] at document ⊢
    cases found : nodes[node]? with
    | none => simp [found] at document
    | some entry =>
      simp only [found,Option.map_some',Option.getD_some] at document
      simpa using documents entry (List.getElem?_mem found) document
  framed owner document framed := by
    have mem := (Dom.ofNodes_frameDocument owners owner document).mp framed
    obtain ⟨element,isDocument⟩ := types _ mem
    refine ⟨?_,?_,(Dom.ofNodes_ownerElement contents owner document).mpr mem⟩
    · simp only [Dom.ofNodes]; rw [element]; rfl
    · simp only [Dom.ofNodes]; rw [isDocument]; rfl
  owned owner document _ owned :=
    (Dom.ofNodes_frameDocument owners owner document).mpr ((Dom.ofNodes_ownerElement contents owner document).mp owned)
  untexted owner document child framed mem := by
    have pair := (Dom.ofNodes_frameDocument owners owner document).mp framed
    simp only [Dom.ofNodes,List.mem_filter,List.mem_range,decide_eq_true_eq] at mem
    obtain ⟨inside,linked⟩ := mem
    obtain ⟨entry,found⟩ := Option.isSome_iff_exists.mp (by rw [List.getElem?_eq_getElem inside]; rfl :
      (nodes[child]?).isSome)
    rw [found,Option.some_bind] at linked
    simp only [Dom.ofNodes,found,Option.map_some',Option.getD_some]
    exact texts _ pair entry (List.getElem?_mem found) linked

/-- From `st` to `st'`, `unbind` of `node` on `dom` only removed entries of the live map, each of
`node` or of a node visited under one it removed; it cleared the requests of removed ids only; it
sent nothing, and kept the main document. -/
structure Unbinding (dom : Dom) (node : Node) (st st' : Agent) : Prop where
  kept : ∀ n, st'.documentNodeToIdMap n ≠ 0 → st'.documentNodeToIdMap n = st.documentNodeToIdMap n
  cleared : ∀ n, st.documentNodeToIdMap n ≠ 0 → st'.documentNodeToIdMap n = 0 →
    n = node ∨ ∃ parent, n ∈ dom.innerChildren parent ∧ st.documentNodeToIdMap parent ≠ 0 ∧
      st'.documentNodeToIdMap parent = 0
  requested : ∀ id, st'.childrenRequested id ≠ st.childrenRequested id →
    ∃ n, st.documentNodeToIdMap n = id ∧ id ≠ 0 ∧ st'.documentNodeToIdMap n = 0
  indexed : ∀ id n, st'.idToNode id = some n → st.idToNode id = some n
  frontend : st'.frontend = st.frontend
  main : st'.mainFrameDocument = st.mainFrameDocument

namespace Unbinding

variable {dom : Dom} {node : Node} {st st' : Agent}

theorem refl (dom : Dom) (node : Node) (st : Agent) : Unbinding dom node st st :=
  ⟨fun _ _ => rfl,fun _ bound gone => absurd gone bound,fun _ same => absurd rfl same,fun _ _ => id,rfl,rfl⟩

theorem unbound (unbinding : Unbinding dom node st st') {n : Node} (absent : st.documentNodeToIdMap n = 0) :
    st'.documentNodeToIdMap n = 0 := by
  by_contra present
  exact present ((unbinding.kept n present).trans absent)

/-- A step that changes no binding, sends nothing and keeps the main document continues an unbinding. -/
theorem of_same {s s' : Agent} (unbinding : Unbinding dom node st s) (same : SameBindings s' s)
    (frontend : s'.frontend = s.frontend) (main : s'.mainFrameDocument = s.mainFrameDocument) :
    Unbinding dom node st s' := by
  have live := congrFun same.live
  refine ⟨fun n b => (live n).trans (unbinding.kept n ((live n) ▸ b)),fun n b g => ?_,fun id c => ?_,
    fun id n f => unbinding.indexed id n (same.idToNode ▸ f),frontend.trans unbinding.frontend,
    main.trans unbinding.main⟩
  · simpa only [live] using unbinding.cleared n b ((live n).symm.trans g)
  · rw [same.requested] at c; simpa only [live] using unbinding.requested id c

/-- Taking the node's own entry out, and with it at most the request of its id, continues an
unbinding of the node. -/
theorem remove {s : Agent} (unbinding : Unbinding dom node st s) (bound : s.documentNodeToIdMap node ≠ 0)
    (requested : Nat → Bool) (only : ∀ id, requested id ≠ s.childrenRequested id → id = s.documentNodeToIdMap node) :
    Unbinding dom node st
      { s with documentNodeToIdMap := Function.update s.documentNodeToIdMap node 0,
               idToNode := Function.update s.idToNode (s.documentNodeToIdMap node) none,
               childrenRequested := requested } := by
  have named : st.documentNodeToIdMap node = s.documentNodeToIdMap node := (unbinding.kept node bound).symm
  have zero : ∀ n, s.documentNodeToIdMap n = 0 → Function.update s.documentNodeToIdMap node 0 n = 0 := fun n gone => by
    by_cases atNode : n = node
    · subst atNode; exact Function.update_same _ _ _
    · rw [Function.update_noteq atNode]; exact gone
  refine ⟨fun n present => ?_,fun n b gone => ?_,fun id changed => ?_,fun id n found => ?_,unbinding.frontend,
    unbinding.main⟩
  · by_cases atNode : n = node
    · subst atNode; simp at present
    · simp only [Function.update_noteq atNode] at present ⊢; exact unbinding.kept n present
  · by_cases atNode : n = node
    · exact .inl atNode
    · exact (unbinding.cleared n b (by simpa [Function.update_noteq atNode] using gone)).imp_right
        fun ⟨q,link,bound',gone'⟩ => ⟨q,link,bound',zero q gone'⟩
  · by_cases own : requested id = s.childrenRequested id
    · obtain ⟨n,named,nonzero,gone⟩ := unbinding.requested id (own ▸ changed)
      exact ⟨n,named,nonzero,zero n gone⟩
    · rw [only id own]; exact ⟨node,named,bound,Function.update_same _ _ _⟩
  · simp only [Function.update_apply] at found
    split_ifs at found
    exact unbinding.indexed id n found

/-- After `node` is removed, unbinding one of its visited children continues the unbinding of `node`. -/
theorem child {s s' : Agent} (first : Unbinding dom node st s) (bound : st.documentNodeToIdMap node ≠ 0)
    (gone : s.documentNodeToIdMap node = 0) {child : Node} (second : Unbinding dom child s s')
    (mem : child ∈ dom.innerChildren node) : Unbinding dom node st s' := by
  refine ⟨fun n present => (second.kept n present).trans (first.kept n ((second.kept n present) ▸ present)),
    fun n present absent => ?_,fun id changed => ?_,fun id n found => first.indexed id n (second.indexed id n found),
    second.frontend.trans first.frontend,second.main.trans first.main⟩
  · by_cases early : s.documentNodeToIdMap n = 0
    · rcases first.cleared n present early with rfl | ⟨q,link,bound',gone'⟩
      · exact .inl rfl
      · exact .inr ⟨q,link,bound',second.unbound gone'⟩
    · rcases second.cleared n early absent with rfl | ⟨q,link,bound',gone'⟩
      · exact .inr ⟨node,mem,bound,second.unbound gone⟩
      · exact .inr ⟨q,link,(first.kept q bound') ▸ bound',gone'⟩
  · by_cases early : s.childrenRequested id = st.childrenRequested id
    · obtain ⟨n,named,nonzero,gone'⟩ := second.requested id (early ▸ changed)
      exact ⟨n,(first.kept n (named ▸ nonzero)).symm.trans named,nonzero,gone'⟩
    · obtain ⟨n,named,nonzero,gone'⟩ := first.requested id early
      exact ⟨n,named,nonzero,second.unbound gone'⟩

end Unbinding

/-- `unbind` keeps a main document no frame owns, and nothing is bound while no document is
listened to: so it never listens while the list is empty, and it stops listening only to content
documents. -/
theorem Tidy.unbindWith_unbinding {dom : Dom} (tidy : Tidy dom) : ∀ (fuel : Nat) (node : Node) (st : Agent),
    (∀ document, st.mainFrameDocument = some document → dom.ownerElement document = none) →
    (st.documents = [] → ∀ n, st.documentNodeToIdMap n = 0) →
    Unbinding dom node st (unbindWith dom fuel node .live st) ∧
      (0 < fuel → (unbindWith dom fuel node .live st).documentNodeToIdMap node = 0)
  | 0, node, st, _, _ => ⟨.refl dom node st,nofun⟩
  | fuel + 1, node, st, unowned, listening => by
    have same := unlisten_same dom node st
    have main := tidy.unlisten_mainFrameDocument node unowned
    have unlistened : Unbinding dom node st (unlisten dom node st) :=
      (Unbinding.refl dom node st).of_same same (unlisten_frontend dom node st) main
    simp only [unbindWith,Agent.nodeToId_live,Agent.setNodeToId]
    generalize unlisten dom node st = st1 at same main unlistened
    split
    · exact ⟨unlistened,fun _ => by assumption⟩
    · rename_i bound
      have bound' : st.documentNodeToIdMap node ≠ 0 := by rw [← same.live]; exact bound
      have present : st.documents ≠ [] := fun empty => bound' (listening empty node)
      split
      · -- the visited children are unbound in turn, each from a state that kept the main document
        have step := unlistened.remove bound (Function.update st1.childrenRequested (st1.documentNodeToIdMap node) false)
          fun id changed => by
            simp only [Function.update_apply] at changed
            split_ifs at changed with atId
            exacts [atId,absurd rfl changed]
        have start := step.of_same (listen_same dom node _) (listen_frontend dom node _)
          (listen_mainFrameDocument dom node (Agent.documents_ne_nil_of_main step.main present))
        refine And.imp_right (fun gone _ => gone) (List.foldlRecOn
          (motive := fun s => Unbinding dom node st s ∧ s.documentNodeToIdMap node = 0) _ _ _
          ⟨start,?_⟩ fun s before child mem => ?_)
        · exact (congrFun (listen_same dom node _).live node).trans (Function.update_same _ _ _)
        · obtain ⟨unbinding,gone⟩ := before
          have next := (tidy.unbindWith_unbinding fuel child s (by rw [unbinding.main]; exact unowned)
            fun empty => absurd empty (Agent.documents_ne_nil_of_main unbinding.main present)).1
          exact ⟨unbinding.child bound' gone next mem,next.unbound gone⟩
      · exact ⟨unlistened.remove bound _ fun _ changed => absurd rfl changed,fun _ => Function.update_same _ _ _⟩

/-- With the node's children not requested, `unbind` takes the node's own entry alone. -/
theorem unbind_unrequested (dom : Dom) {node : Node} {st : Agent}
    (unrequested : st.childrenRequested (st.documentNodeToIdMap node) = false) :
    (unbind dom node .live st).documentNodeToIdMap = Function.update st.documentNodeToIdMap node 0 := by
  have same := unlisten_same dom node st
  simp only [unbind,unbindWith,Agent.nodeToId_live]
  generalize unlisten dom node st = st1 at same
  rw [← same.live,← same.requested] at *
  split
  · rename_i unbound
    exact (Function.update_eq_self_iff.mpr unbound.symm).symm
  · simp [unrequested,Agent.setNodeToId]

theorem Tidy.unbind_unbinding {dom : Dom} (tidy : Tidy dom) (node : Node) (st : Agent)
    (unowned : ∀ document, st.mainFrameDocument = some document → dom.ownerElement document = none)
    (listening : st.documents = [] → ∀ n, st.documentNodeToIdMap n = 0) :
    Unbinding dom node st (unbind dom node .live st) ∧ (unbind dom node .live st).documentNodeToIdMap node = 0 :=
  let unbinding := tidy.unbindWith_unbinding (dom.size + 1) node st unowned listening
  ⟨unbinding.1,unbinding.2 (Nat.succ_pos _)⟩

end InspectorDOM
