import InspectorDOM.Described
import InspectorDOM.Disclosure

/-! The paths `nodeForPath` accepts. On a tree whose child lists and parent links agree, the walk
`innerFirstChild` then `innerNextSibling`, `childNumber` times, lands on the child with that index
in the agent's view of the children; so the path names a node exactly when its tokens are not
empty and each `(index, name)` pair the loop reads moves to a child with that index and name. The
loop reads the tokens two by two and leaves an unpaired last one unread, and `toUInt` admits
blanks and a `+` around the digits. -/

namespace InspectorDOM

/-- Child lists and parent links agree, and no child is listed twice: what a DOM tree has. -/
structure Dom.Linked (dom : Dom) : Prop where
  parentNode : ∀ parent child, child ∈ dom.childNodes parent → dom.parentNode child = some parent
  nodup : ∀ parent, (dom.childNodes parent).Nodup

theorem Dom.ofNodes_linked (nodes : List (NodeType × Option Node × String)) (frameOwners : List (Node × Node)) :
    (Dom.ofNodes nodes frameOwners).Linked where
  parentNode _ _ mem := of_decide_eq_true (List.mem_filter.mp mem).2
  nodup _ := (List.nodup_range _).filter _

/-- Moving `j` times from `index` through the children the agent visits, as the path does. -/
inductive PathLeadsTo (dom : Dom) : Node → List (String × String) → Node → Prop
  | here (node : Node) : PathLeadsTo dom node [] node
  | child {node child target : Node} {index name : String} {rest : List (String × String)} (j : Nat)
      (parsed : toUInt index = some j) (found : (dom.innerChildren node)[j]? = some child)
      (named : dom.nodeName child = name) (leads : PathLeadsTo dom child rest target) :
      PathLeadsTo dom node ((index,name) :: rest) target

namespace PathLeadsTo

@[simp] theorem nil_iff {dom : Dom} {node target : Node} : PathLeadsTo dom node [] target ↔ target = node :=
  ⟨fun | .here _ => rfl,by rintro rfl; exact .here _⟩

@[simp] theorem cons_iff {dom : Dom} {node target : Node} {index name : String} {rest : List (String × String)} :
    PathLeadsTo dom node ((index,name) :: rest) target ↔
      ∃ j child, toUInt index = some j ∧ (dom.innerChildren node)[j]? = some child ∧
        dom.nodeName child = name ∧ PathLeadsTo dom child rest target :=
  ⟨fun | .child j parsed found named leads => ⟨j,_,parsed,found,named,leads⟩,
   fun ⟨j,_,parsed,found,named,leads⟩ => .child j parsed found named leads⟩

end PathLeadsTo

theorem siblingsAfter_cons_self (node : Node) (l : List Node) : siblingsAfter (node :: l) node = l := by
  simp [siblingsAfter]

theorem siblingsAfter_cons_of_ne {node other : Node} (differs : other ≠ node) (l : List Node) :
    siblingsAfter (other :: l) node = siblingsAfter l node := by
  simp [siblingsAfter,differs]

theorem siblingsAfter_append_cons {node : Node} : ∀ {before : List Node}, node ∉ before → ∀ after : List Node,
    siblingsAfter (before ++ node :: after) node = after
  | [], _, after => siblingsAfter_cons_self node after
  | other :: before, absent, after => by
    rw [List.cons_append,siblingsAfter_cons_of_ne (by rintro rfl; exact absent (List.mem_cons_self _ _)),
      siblingsAfter_append_cons (fun mem => absent (List.mem_cons_of_mem _ mem))]

/-- In a list without repeats, the next sibling of `c` that passes `p` is the one after `c` among
those that pass. -/
theorem find?_siblingsAfter (p : Node → Bool) {l before after : List Node} {c : Node} (nodup : l.Nodup)
    (split : l.filter p = before ++ c :: after) : (siblingsAfter l c).find? p = after.head? := by
  have filtered : c ∈ l.filter p := split ▸ List.mem_append_right _ (List.mem_cons_self _ _)
  obtain ⟨front,back,rfl⟩ := List.append_of_mem (List.mem_of_mem_filter filtered)
  have absent : c ∉ front := fun mem => (List.nodup_append.mp nodup).2.2 mem (List.mem_cons_self _ _)
  have last : c ∉ back := (List.nodup_cons.mp (List.nodup_append.mp nodup).2.1).1
  rw [List.filter_append,List.filter_cons_of_pos (List.mem_filter.mp filtered).2] at split
  have back_after := ((List.append_cons_inj_of_not_mem (fun mem => absent (List.mem_of_mem_filter mem))
    fun mem => last (List.mem_of_mem_filter mem)).mp split).2.2
  rw [siblingsAfter_append_cons absent,find?_eq_head?_filter,back_after]

namespace Dom.Linked

variable {dom : Dom} (linked : dom.Linked)
include linked

/-- `innerNextSibling` steps along the children the agent visits. -/
theorem innerNextSibling_eq {node c : Node} {before after : List Node}
    (split : dom.innerChildren node = before ++ c :: after) : dom.innerNextSibling c = after.head? := by
  have listed : c ∈ before ++ c :: after := List.mem_append_right _ (List.mem_cons_self _ _)
  unfold Dom.innerChildren at split
  split at split
  case h_1 document _ =>
    split at split
    case h_1 => exact absurd split (by simp)
    case h_2 first rest children =>
      rw [← split] at listed
      have attached : dom.parentNode c = some document := linked.parentNode _ _
        (children ▸ List.mem_cons.mpr ((List.mem_cons.mp listed).imp_right List.mem_of_mem_filter))
      have nodup := linked.nodup document
      rw [children,List.nodup_cons] at nodup
      rw [Dom.innerNextSibling,attached,Option.some_bind,children]
      cases before with
      | nil =>
        obtain ⟨rfl,rfl⟩ := List.cons_eq_cons.mp (split.trans (List.nil_append _))
        rw [siblingsAfter_cons_self,find?_eq_head?_filter]
      | cons _ before =>
        rw [List.cons_append,List.cons_eq_cons] at split
        have inRest : c ∈ rest := List.mem_of_mem_filter (split.2 ▸ List.mem_append_right _ (List.mem_cons_self _ _))
        rw [siblingsAfter_cons_of_ne (by rintro rfl; exact nodup.1 inRest)]
        exact find?_siblingsAfter _ nodup.2 split.2
  case h_2 =>
    rw [← split] at listed
    rw [Dom.innerNextSibling,linked.parentNode _ _ (List.mem_of_mem_filter listed),Option.some_bind]
    exact find?_siblingsAfter _ (linked.nodup node) split

/-- Skipping `j` siblings from a child the agent visits lands `j` places further on. -/
theorem skipSiblings_split (node : Node) : ∀ (j : Nat) {before after : List Node} {c : Node},
    dom.innerChildren node = before ++ c :: after → skipSiblings dom j (some c) = (c :: after)[j]?
  | 0, _, _, _, _ => by simp [skipSiblings]
  | j + 1, before, after, c, split => by
    rw [skipSiblings,linked.innerNextSibling_eq split]
    cases after with
    | nil => cases j <;> rfl
    | cons next after =>
      rw [List.head?_cons,skipSiblings_split node j (show dom.innerChildren node = (before ++ [c]) ++ next :: after by simp [split]),
        List.getElem?_cons_succ]

/-- The loop `for (j = 0; child && j < childNumber; ++j) child = innerNextSibling(child)` from
`innerFirstChild(node)` reaches the child with index `j`. -/
theorem skipSiblings_innerFirstChild (node : Node) (j : Nat) :
    skipSiblings dom j (dom.innerFirstChild node) = (dom.innerChildren node)[j]? := by
  rw [Dom.innerFirstChild_eq_head?]
  cases children : dom.innerChildren node with
  | nil => cases j <;> rfl
  | cons c after => exact linked.skipSiblings_split node j (show dom.innerChildren node = [] ++ c :: after from children)

/-- The walk from `node` over the pairs ends at `target` exactly when the pairs lead there. -/
theorem walkPath_eq_some_iff : ∀ (pairs : List (String × String)) (node : Node) (st : Agent) (target : Node),
    (walkPath dom pairs node st).1 = some target ↔ PathLeadsTo dom node pairs target
  | [], node, st, target => by simp [walkPath,eq_comm]
  | (index,name) :: rest, node, st, target => by
    simp only [walkPath,PathLeadsTo.cons_iff]
    cases parsed : toUInt index with
    | none => simp
    | some j =>
      simp only [linked.skipSiblings_innerFirstChild,Option.some.injEq,exists_and_left,exists_eq_left']
      cases found : (dom.innerChildren node)[j]? with
      | none => split <;> simp
      | some child =>
        have below : j < dom.innerChildNodeCount node := (List.getElem?_eq_some_iff.mp found).1
        simp only [not_le.mpr below,if_false,Option.some.injEq,exists_eq_left']
        by_cases named : dom.nodeName child = name
        · simp only [named,ne_eq,not_true_eq_false,if_false,true_and]
          exact walkPath_eq_some_iff rest child _ target
        · simp [named]

end Dom.Linked

/-- With a main document, a path names a node exactly when its tokens are not empty and the
`(index, name)` pairs the loop reads lead from the main document to that node. -/
theorem nodeForPath_eq_some_iff {dom : Dom} (linked : dom.Linked) {st : Agent} {document : Node}
    (main : st.mainFrameDocument = some document) (path : String) (target : Node) :
    (nodeForPath dom path st).1 = some target ↔
      splitPath path ≠ [] ∧ PathLeadsTo dom document (pathPairs (splitPath path)) target := by
  by_cases empty : splitPath path = []
  · simp [nodeForPath,main,empty]
  · simp only [nodeForPath,main,if_neg empty,ne_eq,empty,not_false_eq_true,true_and]
    exact linked.walkPath_eq_some_iff _ _ _ target

theorem nodeForPath_eq_some_iff_body :
    bodyTree.Linked ∧ (startListening 0 inspectorDOMAgent).mainFrameDocument = some 0 ∧
      ((nodeForPath bodyTree "0,HTML,0,BODY" (startListening 0 inspectorDOMAgent)).1 = some 2 ↔
        splitPath "0,HTML,0,BODY" ≠ [] ∧ PathLeadsTo bodyTree 0 (pathPairs (splitPath "0,HTML,0,BODY")) 2) :=
  ⟨Dom.ofNodes_linked _ _,rfl,nodeForPath_eq_some_iff (Dom.ofNodes_linked _ _) (by rfl) _ _⟩

/-- On `bodyTree`: an unpaired last token is not read, a blank and a `+` around an index are
accepted, and the empty path, the walk of no pairs, names nothing. -/
theorem nodeForPath_unpaired_and_empty :
    (nodeForPath bodyTree "0,HTML,junk" (startListening 0 inspectorDOMAgent)).1 = some 1 ∧
      (nodeForPath bodyTree " +0,HTML" (startListening 0 inspectorDOMAgent)).1 = some 1 ∧
      (nodeForPath bodyTree "" (startListening 0 inspectorDOMAgent)).1 = none ∧
      (nodeForPath bodyTree ",," (startListening 0 inspectorDOMAgent)).1 = none := by
  decide

end InspectorDOM
