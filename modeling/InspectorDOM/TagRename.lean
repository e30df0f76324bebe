import InspectorDOM.Run

/-! `changeTagName` is four edits in a row: the new element takes the old one's attributes and,
one `appendChild` at a time, its children, then `insertBefore` puts it next to the old element and
`removeChild` takes the old one out. Nothing undoes an edit already made when a later one is
refused: a refused removal leaves the new element in the tree beside the old one and answers 0,
and a refused append is taken again, with the same child, forever. -/

namespace InspectorDOM

@[simp] theorem Dom.setAttributes_firstChild (dom : Dom) (element : Node) (attributes : List (String × String))
    (node : Node) : (dom.setAttributes element attributes).firstChild node = dom.firstChild node := rfl

@[simp] theorem Dom.setAttributes_parentNode (dom : Dom) (element : Node) (attributes : List (String × String)) :
    (dom.setAttributes element attributes).parentNode = dom.parentNode := rfl

theorem Dom.self_mem_insertIn (siblings : List Node) (node : Node) (refChild : Option Node) :
    node ∈ Dom.insertIn siblings node refChild := by
  cases refChild <;> simp [Dom.insertIn]

theorem except_ok_bind {α β : Type} (value : α) (next : α → Except Fault β) :
    (Except.ok value >>= next) = next value := rfl

/-- The new element goes in whether or not the old one comes out. With the old element childless
and its removal refused, the request answers 0 while its parent has gained the new element. -/
theorem changeTagName_refused_removal_keeps_new_element (prims : Primitives) (callId nodeId : Nat)
    (tagName : String) (w : World) {oldNode newElem parent : Node}
    (found : nodeForId nodeId w.agent = some oldNode) (element : w.dom.nodeType oldNode = .element)
    (created : prims.createElement w.dom oldNode tagName = some newElem)
    (childless : w.dom.firstChild oldNode = none) (attached : w.dom.parentNode oldNode = some parent)
    (inserted : prims.insertBefore (w.dom.setAttributes newElem (w.dom.attributes oldNode)) parent newElem
      (w.dom.nextSibling oldNode) = true)
    (refused : ∀ dom, prims.removeChild dom parent oldNode = false) (fresh : newElem ∉ w.dom.childNodes parent) :
    ∃ next, changeTagName prims callId nodeId tagName w = .ok next ∧
      next.agent.frontend.getLast? = some (.didChangeTagName callId 0) ∧
      newElem ∈ next.dom.childNodes parent ∧ next.dom.childNodes parent ≠ w.dom.childNodes parent := by
  set moved : World := { w with dom := w.dom.setAttributes newElem (w.dom.attributes oldNode) }
  have noMove : moveChildren prims oldNode newElem (w.dom.size + 1) moved = .ok moved := by
    simp [moveChildren,moved,childless]
  have sibling : moved.dom.nextSibling oldNode = w.dom.nextSibling oldNode := rfl
  set withNew := moved.callInsertBefore prims parent newElem (w.dom.nextSibling oldNode)
  have ran : changeTagName prims callId nodeId tagName w = .ok (withNew.respond (.didChangeTagName callId 0)) := by
    simp only [changeTagName,found,element,created,ne_eq,not_true_eq_false,if_false]
    rw [noMove,except_ok_bind]
    simp only [moved,Dom.setAttributes_parentNode,attached,sibling,refused,Bool.not_false,if_true]
  have gained : newElem ∈ withNew.dom.childNodes parent := by
    simp [withNew,World.callInsertBefore,inserted,World.insertBefore,Dom.insertBefore,Dom.self_mem_insertIn]
  exact ⟨_,ran,by simp [World.respond,Agent.send],gained,fun same => fresh (same ▸ gained)⟩

/-- Primitives that create node 3 and refuse every removal. -/
def Primitives.refusingRemoval : Primitives :=
  { Primitives.accepting with createElement := fun _ _ _ => some 3, removeChild := fun _ _ _ => false }

/-- A document whose `HTML` holds an empty `BR`, and a detached `SPAN`. -/
def renameTree : Dom :=
  Dom.ofNodes [(.document,none,""),(.element,some 0,"HTML"),(.element,some 1,"BR"),(.element,none,"SPAN")] []

theorem changeTagName_refused_removal_keeps_new_element_br :
    let w : World := ⟨renameTree,setDocument renameTree (some 0) inspectorDOMAgent⟩
    nodeForId 3 w.agent = some 2 ∧ w.dom.nodeType 2 = .element ∧
      Primitives.refusingRemoval.createElement w.dom 2 "SPAN" = some 3 ∧ w.dom.firstChild 2 = none ∧
      w.dom.parentNode 2 = some 1 ∧ 3 ∉ w.dom.childNodes 1 ∧
      ∃ next, changeTagName Primitives.refusingRemoval 7 3 "SPAN" w = .ok next ∧
        next.agent.frontend.getLast? = some (.didChangeTagName 7 0) ∧
        3 ∈ next.dom.childNodes 1 ∧ next.dom.childNodes 1 ≠ w.dom.childNodes 1 :=
  ⟨by decide,rfl,rfl,by decide,rfl,by decide,
    changeTagName_refused_removal_keeps_new_element Primitives.refusingRemoval 7 3 "SPAN"
      ⟨renameTree,setDocument renameTree (some 0) inspectorDOMAgent⟩ (show _ = some 2 by decide) (by rfl) (by rfl)
      (by decide) (by rfl) (by rfl) (fun _ => rfl) (by decide)⟩

/-- A refused append leaves the world as it was, so every pass of the loop takes the same child
again and the loop runs out of any fuel. -/
theorem moveChildren_refused (prims : Primitives) (oldNode newElem : Node) {w : World} {child : Node}
    (first : w.dom.firstChild oldNode = some child) (refused : prims.appendChild w.dom newElem child = false) :
    ∀ fuel, moveChildren prims oldNode newElem fuel w = .error .endlessLoop
  | 0 => rfl
  | fuel + 1 => by
    simp only [moveChildren,first,refused,Bool.false_eq_true,if_false]
    exact moveChildren_refused prims oldNode newElem first refused fuel

/-- A refused `appendChild` of the old element's first child ends the request in the loop that
never ends: no check before the loop catches it. -/
theorem changeTagName_refused_append_loops (prims : Primitives) (callId nodeId : Nat) (tagName : String)
    (w : World) {oldNode newElem child : Node}
    (found : nodeForId nodeId w.agent = some oldNode) (element : w.dom.nodeType oldNode = .element)
    (created : prims.createElement w.dom oldNode tagName = some newElem)
    (first : w.dom.firstChild oldNode = some child)
    (refused : prims.appendChild (w.dom.setAttributes newElem (w.dom.attributes oldNode)) newElem child = false) :
    changeTagName prims callId nodeId tagName w = .error .endlessLoop := by
  simp only [changeTagName,found,element,created,ne_eq,not_true_eq_false,if_false]
  rw [moveChildren_refused prims oldNode newElem (by exact first) refused]
  rfl

/-- Primitives that create node 3 and refuse every append. -/
def Primitives.refusingAppend : Primitives :=
  { Primitives.accepting with createElement := fun _ _ _ => some 3, appendChild := fun _ _ _ => false }

theorem changeTagName_refused_append_loops_html :
    let w : World := ⟨renameTree,setDocument renameTree (some 0) inspectorDOMAgent⟩
    nodeForId 2 w.agent = some 1 ∧ w.dom.firstChild 1 = some 2 ∧
      changeTagName Primitives.refusingAppend 7 2 "BODY" w = .error .endlessLoop :=
  ⟨by decide,by decide,changeTagName_refused_append_loops Primitives.refusingAppend 7 2 "BODY"
    ⟨renameTree,setDocument renameTree (some 0) inspectorDOMAgent⟩ (show _ = some 1 by decide) (by rfl) (by rfl)
    (show _ = some 2 by decide) (by rfl)⟩

end InspectorDOM
