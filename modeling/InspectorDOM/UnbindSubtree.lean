import InspectorDOM.Disclosure

/-! What `unbind(node, nodesMap)` removes. It drops the node's entry and, when the node's id is in
`m_childrenRequested`, recurses into the node's visible children; a child already gone from the
map stops the recursion there. So it removes the subtree the frontend was shown below the node,
taken in the state before the call, and nothing else: the other entries of the map, the other
maps, and the other ids of `m_idToNode` and `m_childrenRequested` stay. The recursion is bounded
by `dom.size + 1`; each nested call happens after one more node in use left the map, so on a tree
whose children are nodes in use the bound is never reached. -/

namespace InspectorDOM

section Unbind

variable (dom : Dom) (nodesMap : MapRef)

/-- The subtree `unbind(root, nodesMap)` clears, computed in `st`: `root` when it is bound, and
each bound visible child of a member whose id is requested. -/
inductive Disclosed (st : Agent) (root : Node) : Node → Prop
  | root (bound : st.nodeToId nodesMap root ≠ 0) : Disclosed st root root
  | child {parent child : Node} (disclosed : Disclosed st root parent)
      (requested : st.childrenRequested (st.nodeToId nodesMap parent) = true)
      (visible : child ∈ dom.innerChildren parent) (bound : st.nodeToId nodesMap child ≠ 0) :
      Disclosed st root child

/-- From `st` to `st'`: the nodes of `gone`, each bound in `st`, left `nodesMap`, their ids left
`m_idToNode` and `m_childrenRequested`, and every other entry of these and every other map stayed. -/
structure Cleared (st : Agent) (gone : Node → Prop) (st' : Agent) : Prop where
  bound : ∀ n, gone n → st.nodeToId nodesMap n ≠ 0
  removed : ∀ n, gone n → st'.nodeToId nodesMap n = 0
  kept : ∀ n, ¬ gone n → st'.nodeToId nodesMap n = st.nodeToId nodesMap n
  others : ∀ other, other ≠ nodesMap → st'.nodeToId other = st.nodeToId other
  unindexed : ∀ n, gone n → st'.idToNode (st.nodeToId nodesMap n) = none
  indexed : ∀ id, (∀ n, gone n → st.nodeToId nodesMap n ≠ id) → st'.idToNode id = st.idToNode id
  unrequested : ∀ n, gone n → st'.childrenRequested (st.nodeToId nodesMap n) = false
  requested : ∀ id, (∀ n, gone n → st.nodeToId nodesMap n ≠ id) →
    st'.childrenRequested id = st.childrenRequested id

/-- No two nodes share an id in `nodesMap`. -/
def IdsDistinct (st : Agent) : Prop :=
  ∀ n n', st.nodeToId nodesMap n ≠ 0 → st.nodeToId nodesMap n' = st.nodeToId nodesMap n → n' = n

/-- The nodes in use bound in `nodesMap`: `unbind` removes one of them before each nested call. -/
def boundCount (st : Agent) : Nat := (List.range dom.size).countP fun n => st.nodeToId nodesMap n ≠ 0

/-- Enough fuel for `unbindWith` on `root`: a bound `root` has more fuel than there are bound nodes
in use, or as many when it is one of them. -/
def Fueled (fuel : Nat) (st : Agent) (root : Node) : Prop :=
  st.nodeToId nodesMap root ≠ 0 →
    boundCount dom nodesMap st < fuel ∨ (root < dom.size ∧ boundCount dom nodesMap st ≤ fuel)

/-- Midway through the loop over `root`'s children: the nodes gone so far, against the state `st`
before `root` was removed. They are part of the subtree, they hold every disclosed child of a
member other than `root`, and every child of `root` already visited that was bound. -/
structure Progress (st : Agent) (root : Node) (done : List Node) (gone : Node → Prop) (st' : Agent) : Prop where
  cleared : Cleared nodesMap st gone st'
  start : gone root
  within : ∀ n, gone n → Disclosed dom nodesMap st root n
  closed : ∀ parent child, gone parent → parent ≠ root →
    st.childrenRequested (st.nodeToId nodesMap parent) = true → child ∈ dom.innerChildren parent →
    st.nodeToId nodesMap child ≠ 0 → gone child
  covered : ∀ child ∈ done, st.nodeToId nodesMap child ≠ 0 → gone child

end Unbind

theorem Consistent.idsDistinct {st : Agent} (consistent : Consistent st) (nodesMap : MapRef) :
    IdsDistinct nodesMap st :=
  fun _ _ present equal => (consistent.entry_unique present equal).2

theorem countP_lt_of_mem {α : Type} {p q : α → Bool} {a : α} : ∀ {l : List α}, (∀ x ∈ l, p x → q x) →
    a ∈ l → q a = true → p a = false → l.countP p < l.countP q
  | b :: l, sub, mem, holds, fails => by
    have tail : ∀ x ∈ l, p x → q x := fun x mem' => sub x (List.mem_cons_of_mem b mem')
    have head := sub b (List.mem_cons_self b l)
    simp only [List.countP_cons]
    rcases List.mem_cons.mp mem with rfl | mem
    · have le := List.countP_mono_left tail
      simp only [holds,fails,if_true,Bool.false_eq_true,if_false]
      omega
    · have lt := countP_lt_of_mem tail mem holds fails
      by_cases first : p b
      · simp only [first,head first,if_true]
        omega
      · simp only [first,Bool.false_eq_true,if_false]
        split <;> omega

namespace Disclosed

variable {dom : Dom} {nodesMap : MapRef} {st : Agent} {root : Node}

theorem bound {n : Node} : Disclosed dom nodesMap st root n → st.nodeToId nodesMap n ≠ 0
  | .root bound | .child _ _ _ bound => bound

theorem root_bound {n : Node} (disclosed : Disclosed dom nodesMap st root n) : st.nodeToId nodesMap root ≠ 0 := by
  induction disclosed with
  | root bound => exact bound
  | child _ _ _ _ ih => exact ih

/-- With `root`'s children not requested, the subtree is `root` alone. -/
theorem eq_root (unrequested : st.childrenRequested (st.nodeToId nodesMap root) = false) {n : Node}
    (disclosed : Disclosed dom nodesMap st root n) : n = root := by
  induction disclosed with
  | root => rfl
  | child _ requested _ _ ih => subst ih; rw [unrequested] at requested; cases requested

end Disclosed

namespace Cleared

variable {nodesMap : MapRef} {st st' st'' : Agent} {gone gone' : Node → Prop}

theorem of_same (same : SameBindings st' st) : Cleared nodesMap st (fun _ => False) st' where
  bound _ := False.elim
  removed _ := False.elim
  kept _ _ := by rw [same.nodeToId]
  others _ _ := same.nodeToId _
  unindexed _ := False.elim
  indexed _ _ := by rw [same.idToNode]
  unrequested _ := False.elim
  requested _ _ := by rw [same.requested]

theorem same_left (same : SameBindings st' st) (cleared : Cleared nodesMap st' gone st'') :
    Cleared nodesMap st gone st'' := by
  obtain ⟨bound,removed,kept,others,unindexed,indexed,unrequested,requested⟩ := cleared
  simp only [same.nodeToId,same.idToNode,same.requested] at *
  exact ⟨bound,removed,kept,others,unindexed,indexed,unrequested,requested⟩

theorem same_right (cleared : Cleared nodesMap st gone st') (same : SameBindings st'' st') :
    Cleared nodesMap st gone st'' := by
  obtain ⟨bound,removed,kept,others,unindexed,indexed,unrequested,requested⟩ := cleared
  rw [← same.nodeToId,← same.idToNode,← same.requested] at *
  exact ⟨bound,removed,kept,fun other differs => (same.nodeToId other).trans (others other differs),unindexed,
    indexed,unrequested,requested⟩

theorem congr (cleared : Cleared nodesMap st gone st') (equal : ∀ n, gone n ↔ gone' n) :
    Cleared nodesMap st gone' st' := by
  obtain ⟨bound,removed,kept,others,unindexed,indexed,unrequested,requested⟩ := cleared
  simp only [equal] at *
  exact ⟨bound,removed,kept,others,unindexed,indexed,unrequested,requested⟩

/-- A node still bound afterwards was not cleared and kept its id. -/
theorem present (cleared : Cleared nodesMap st gone st') {n : Node} (bound : st'.nodeToId nodesMap n ≠ 0) :
    ¬ gone n ∧ st'.nodeToId nodesMap n = st.nodeToId nodesMap n := by
  have kept : ¬ gone n := fun isGone => bound (cleared.removed n isGone)
  exact ⟨kept,cleared.kept n kept⟩

/-- A node still bound afterwards keeps its request flag. -/
theorem requested_of (distinct : IdsDistinct nodesMap st) (cleared : Cleared nodesMap st gone st') {n : Node}
    (bound : st'.nodeToId nodesMap n ≠ 0) :
    st'.childrenRequested (st'.nodeToId nodesMap n) = st.childrenRequested (st.nodeToId nodesMap n) := by
  obtain ⟨kept,same⟩ := cleared.present bound
  rw [same]
  exact cleared.requested _ fun m isGone equal => kept (distinct _ m (same ▸ bound) equal ▸ isGone)

theorem distinct (distinct : IdsDistinct nodesMap st) (cleared : Cleared nodesMap st gone st') :
    IdsDistinct nodesMap st' := by
  intro n n' bound equal
  obtain ⟨-,same⟩ := cleared.present bound
  obtain ⟨-,same'⟩ := cleared.present (equal ▸ bound)
  exact distinct n n' (same ▸ bound) (same'.symm.trans (equal.trans same))

/-- Clearing `gone`, then `gone'` among what is still bound, clears both. -/
theorem trans (distinct : IdsDistinct nodesMap st) (first : Cleared nodesMap st gone st')
    (second : Cleared nodesMap st' gone' st'') : Cleared nodesMap st (fun n => gone n ∨ gone' n) st'' :=
  have later : ∀ n, gone' n → ¬ gone n ∧ st'.nodeToId nodesMap n = st.nodeToId nodesMap n :=
    fun n isGone' => first.present (second.bound n isGone')
  have apart : ∀ n, gone n → ∀ m, gone' m → st'.nodeToId nodesMap m ≠ st.nodeToId nodesMap n :=
    fun n isGone m isGone' same =>
      (later m isGone').1 (distinct n m (first.bound n isGone) ((later m isGone').2.symm.trans same) ▸ isGone)
  have fresh : ∀ id, (∀ n, (gone n ∨ gone' n) → st.nodeToId nodesMap n ≠ id) →
      ∀ m, gone' m → st'.nodeToId nodesMap m ≠ id :=
    fun _ outside m isGone' => (later m isGone').2 ▸ outside m (.inr isGone')
  { bound := fun n => Or.rec (first.bound n) fun isGone' => (later n isGone').2 ▸ second.bound n isGone'
    removed := fun n => Or.rec (fun isGone => (Classical.em (gone' n)).elim (second.removed n)
      fun isGone' => (second.kept n isGone').trans (first.removed n isGone)) (second.removed n)
    kept := fun n outside => (second.kept n fun isGone' => outside (.inr isGone')).trans
      (first.kept n fun isGone => outside (.inl isGone))
    others := fun other differs => (second.others other differs).trans (first.others other differs)
    unindexed := fun n => Or.rec (fun isGone => (second.indexed _ (apart n isGone)).trans (first.unindexed n isGone))
      fun isGone' => (later n isGone').2 ▸ second.unindexed n isGone'
    indexed := fun id outside => (second.indexed id (fresh id outside)).trans
      (first.indexed id fun n isGone => outside n (.inl isGone))
    unrequested := fun n => Or.rec
      (fun isGone => (second.requested _ (apart n isGone)).trans (first.unrequested n isGone))
      fun isGone' => (later n isGone').2 ▸ second.unrequested n isGone'
    requested := fun id outside => (second.requested id (fresh id outside)).trans
      (first.requested id fun n isGone => outside n (.inl isGone)) }

/-- The entry removal of one `unbind` call: `nodesMap->remove(node)`, `m_idToNode.remove(id)` and,
with `requested`, the request flags after it. -/
theorem entry {node : Node} (st : Agent) (present : st.nodeToId nodesMap node ≠ 0) (requested : Nat → Bool)
    (off : requested (st.nodeToId nodesMap node) = false)
    (kept : ∀ id, id ≠ st.nodeToId nodesMap node → requested id = st.childrenRequested id) :
    Cleared nodesMap st (· = node)
      { st.setNodeToId nodesMap (Function.update (st.nodeToId nodesMap) node 0) with
        idToNode := Function.update st.idToNode (st.nodeToId nodesMap node) none
        childrenRequested := requested } where
  bound _ same := same ▸ present
  removed _ same := by rw [Agent.nodeToId_with_index,Agent.nodeToId_setNodeToId_update]; simp [same]
  kept _ differs := by rw [Agent.nodeToId_with_index,Agent.nodeToId_setNodeToId_update]; simp [differs]
  others other differs := by rw [Agent.nodeToId_with_index,Agent.nodeToId_setNodeToId]; simp [differs]
  unindexed _ same := by subst same; exact Function.update_same _ _ _
  indexed id outside := Function.update_noteq (Ne.symm (outside node rfl)) _ _
  unrequested _ same := same ▸ off
  requested id outside := kept id (Ne.symm (outside node rfl))

end Cleared

section Unbind

variable {dom : Dom} {nodesMap : MapRef}

theorem Cleared.boundCount_le (dom : Dom) {st st' : Agent} {gone : Node → Prop} (cleared : Cleared nodesMap st gone st') :
    boundCount dom nodesMap st' ≤ boundCount dom nodesMap st :=
  List.countP_mono_left fun n _ bound => by
    simp only [decide_eq_true_eq] at bound ⊢
    exact (cleared.present bound).2 ▸ bound

theorem Cleared.boundCount_lt (dom : Dom) {st st' : Agent} {gone : Node → Prop} (cleared : Cleared nodesMap st gone st')
    {node : Node} (isGone : gone node) (inUse : node < dom.size) :
    boundCount dom nodesMap st' < boundCount dom nodesMap st :=
  countP_lt_of_mem (fun n _ bound => by
      simp only [decide_eq_true_eq] at bound ⊢
      exact (cleared.present bound).2 ▸ bound)
    (List.mem_range.mpr inUse) (by simpa using cleared.bound node isGone)
    (by simpa using cleared.removed node isGone)

variable {st : Agent} {root : Node}

/-- Once every child is visited, what is gone is the subtree. -/
theorem Progress.finished {gone : Node → Prop} {st' : Agent}
    (progress : Progress dom nodesMap st root (dom.innerChildren root) gone st') :
    Cleared nodesMap st (Disclosed dom nodesMap st root) st' := by
  refine progress.cleared.congr fun n => ⟨progress.within n,fun disclosed => ?_⟩
  induction disclosed with
  | root => exact progress.start
  | @child parent child _ requested visible bound ih =>
    by_cases atRoot : parent = root
    · exact progress.covered child (atRoot ▸ visible) bound
    · exact progress.closed parent child ih atRoot requested visible bound

/-- The subtree of a child, taken in a later state of the loop, lies in the subtree of `root`. -/
theorem Disclosed.lift {gone : Node → Prop} {st' : Agent} (distinct : IdsDistinct nodesMap st)
    (cleared : Cleared nodesMap st gone st') (rootBound : st.nodeToId nodesMap root ≠ 0)
    (requested : st.childrenRequested (st.nodeToId nodesMap root) = true) {child n : Node}
    (visible : child ∈ dom.innerChildren root) (disclosed : Disclosed dom nodesMap st' child n) :
    Disclosed dom nodesMap st root n := by
  induction disclosed with
  | root bound => exact .child (.root rootBound) requested visible ((cleared.present bound).2 ▸ bound)
  | child parentDisclosed parentRequested visible' bound ih =>
    exact .child ih (cleared.requested_of distinct parentDisclosed.bound ▸ parentRequested) visible'
      ((cleared.present bound).2 ▸ bound)

/-- One visit of the loop: the child's subtree, in the state reached so far, joins what is gone. -/
theorem Progress.visit {done : List Node} {gone : Node → Prop} {st' st'' : Agent} {child : Node}
    (distinct : IdsDistinct nodesMap st) (requested : st.childrenRequested (st.nodeToId nodesMap root) = true)
    (visible : child ∈ dom.innerChildren root) (progress : Progress dom nodesMap st root done gone st')
    (visited : Cleared nodesMap st' (Disclosed dom nodesMap st' child) st'') :
    Progress dom nodesMap st root (done ++ [child]) (fun n => gone n ∨ Disclosed dom nodesMap st' child n) st'' := by
  have rootBound := progress.cleared.bound root progress.start
  refine ⟨progress.cleared.trans distinct visited,.inl progress.start,
    fun n => Or.rec (progress.within n)
      (Disclosed.lift distinct progress.cleared rootBound requested visible),
    fun parent child' isGone atRoot parentRequested visible' bound => ?_,
    fun child' mem bound => ?_⟩
  · rcases isGone with isGone | disclosed
    · exact .inl (progress.closed parent child' isGone atRoot parentRequested visible' bound)
    · by_cases earlier : gone child'
      · exact .inl earlier
      · have kept := progress.cleared.kept child' earlier
        refine .inr (.child disclosed ?_ visible' (by rw [kept]; exact bound))
        rw [progress.cleared.requested_of distinct disclosed.bound]
        exact parentRequested
  · rcases List.mem_append.mp mem with mem | same
    · exact .inl (progress.covered child' mem bound)
    · rw [List.mem_singleton.mp same] at bound ⊢
      by_cases earlier : gone child
      · exact .inl earlier
      · exact .inr (.root (by rw [progress.cleared.kept child earlier]; exact bound))

theorem boundCount_pos {node : Node} (inUse : node < dom.size) (bound : st.nodeToId nodesMap node ≠ 0) :
    0 < boundCount dom nodesMap st :=
  List.countP_pos_iff.mpr ⟨node,List.mem_range.mpr inUse,by simpa using bound⟩

/-- The loop over `root`'s children, each visit an `unbind` that clears its child's subtree. -/
theorem Progress.foldl {fuel : Nat} (inUse : ∀ parent child, child ∈ dom.innerChildren parent → child < dom.size)
    (distinct : IdsDistinct nodesMap st) (requested : st.childrenRequested (st.nodeToId nodesMap root) = true)
    (budget : boundCount dom nodesMap st < fuel + 1 ∨ (root < dom.size ∧ boundCount dom nodesMap st ≤ fuel + 1))
    (visit : ∀ child st', child ∈ dom.innerChildren root → IdsDistinct nodesMap st' → Fueled dom nodesMap fuel st' child →
      Cleared nodesMap st' (Disclosed dom nodesMap st' child) (unbindWith dom fuel child nodesMap st')) :
    ∀ (todo done : List Node) (gone : Node → Prop) (st' : Agent), done ++ todo = dom.innerChildren root →
      Progress dom nodesMap st root done gone st' →
      ∃ gone', Progress dom nodesMap st root (dom.innerChildren root) gone'
        (todo.foldl (fun st child => unbindWith dom fuel child nodesMap st) st')
  | [], _, gone, _, split, progress => ⟨gone,by rw [← split,List.append_nil]; exact progress⟩
  | child :: todo, done, _, st', split, progress => by
    have mem : child ∈ dom.innerChildren root := split ▸ List.mem_append_right _ (List.mem_cons_self _ _)
    have fueled : Fueled dom nodesMap fuel st' child := fun _ => by
      have le := progress.cleared.boundCount_le dom
      refine .inr ⟨inUse _ _ mem,?_⟩
      rcases budget with short | ⟨inside,short⟩
      · omega
      · have lt := progress.cleared.boundCount_lt dom progress.start inside
        omega
    exact Progress.foldl inUse distinct requested budget visit todo (done ++ [child]) _ _
      (by rw [List.append_assoc]; exact split)
      (progress.visit distinct requested mem (visit child st' mem (progress.cleared.distinct distinct) fueled))

/-- With enough fuel, `unbindWith` clears exactly the subtree of `root`. -/
theorem unbindWith_cleared (inUse : ∀ parent child, child ∈ dom.innerChildren parent → child < dom.size) :
    ∀ (fuel : Nat) (root : Node) (st : Agent), IdsDistinct nodesMap st → Fueled dom nodesMap fuel st root →
      Cleared nodesMap st (Disclosed dom nodesMap st root) (unbindWith dom fuel root nodesMap st)
  | 0, root, st, _, fueled => by
    have unbound : st.nodeToId nodesMap root = 0 := by
      by_contra bound
      rcases fueled bound with short | ⟨inside,short⟩
      · exact Nat.not_lt_zero _ short
      · exact absurd (boundCount_pos inside bound) (by omega)
    exact (Cleared.of_same (.refl st)).congr fun n =>
      ⟨False.elim,fun disclosed => disclosed.root_bound unbound⟩
  | fuel + 1, root, st, distinct, fueled => by
    have same := unlisten_same dom root st
    simp only [unbindWith]
    split
    case isTrue unbound =>
      rw [same.nodeToId] at unbound
      exact (Cleared.of_same same).congr fun n => ⟨False.elim,fun disclosed => disclosed.root_bound unbound⟩
    case isFalse bound =>
      have bound' := bound
      rw [same.nodeToId] at bound'
      have entry := fun requested off kept =>
        (Cleared.entry (unlisten dom root st) bound requested off kept).same_left same
      split
      case isTrue requested =>
        have requested' := requested
        simp only [Agent.childrenRequested_setNodeToId,same.requested,same.nodeToId] at requested'
        refine (Progress.foldl inUse distinct requested' (fueled bound')
          (fun child st' _ => unbindWith_cleared inUse fuel child st') _ [] (· = root) _ rfl ?_).elim
          fun _ progress => progress.finished
        refine ⟨(entry _ (Function.update_same _ _ _) fun id differs => ?_).same_right (listen_same dom root _),rfl,
          fun _ same => by subst same; exact .root bound',fun _ _ same differs => absurd same differs,nofun⟩
        simp [Function.update_noteq differs]
      case isFalse unrequested =>
        simp only [Bool.not_eq_true] at unrequested
        have unrequested' := unrequested
        simp only [Agent.childrenRequested_setNodeToId,same.requested,same.nodeToId] at unrequested'
        exact (entry _ unrequested fun id _ => by simp).congr fun n =>
          ⟨fun same => by subst same; exact .root bound',Disclosed.eq_root unrequested'⟩

end Unbind

/-- `unbind(root, nodesMap)` terminates and removes exactly the subtree the frontend was shown
below `root`, as it stood before the call, from the map, from `m_idToNode` and from
`m_childrenRequested`; every other entry of these, and every other map, stays. -/
theorem unbind_clears_disclosed (dom : Dom) {st : Agent} (consistent : Consistent st)
    (inUse : ∀ parent child, child ∈ dom.innerChildren parent → child < dom.size) (root : Node) (nodesMap : MapRef) :
    Cleared nodesMap st (Disclosed dom nodesMap st root) (unbind dom root nodesMap st) :=
  unbindWith_cleared inUse (dom.size + 1) root st (consistent.idsDistinct nodesMap) fun _ =>
    .inl (Nat.lt_succ_of_le ((List.countP_le_length _).trans (List.length_range _).le))

/-- The children the agent visits are children of some node: of the node, or of a frame's document. -/
theorem Dom.mem_innerChildren {dom : Dom} {parent child : Node} (mem : child ∈ dom.innerChildren parent) :
    ∃ owner, child ∈ dom.childNodes owner := by
  unfold Dom.innerChildren at mem
  split at mem
  case h_1 document _ =>
    split at mem
    case h_1 => exact absurd mem (List.not_mem_nil _)
    case h_2 first rest children =>
      exact ⟨document,children ▸ List.mem_cons.mpr ((List.mem_cons.mp mem).imp_right List.mem_of_mem_filter)⟩
  case h_2 => exact ⟨parent,List.mem_of_mem_filter mem⟩

theorem Dom.ofNodes_inUse (nodes : List (NodeType × Option Node × String)) (frameOwners : List (Node × Node))
    (parent child : Node) (mem : child ∈ (Dom.ofNodes nodes frameOwners).innerChildren parent) :
    child < (Dom.ofNodes nodes frameOwners).size := by
  obtain ⟨_,listed⟩ := Dom.mem_innerChildren mem
  exact List.mem_range.mp (List.mem_of_mem_filter listed)

/-- On `bodyTree`, with `HTML`'s children requested, the subtree of `HTML` (node 1) holds `BODY`,
and `unbind` of `HTML` clears both. -/
theorem unbind_clears_disclosed_html :
    ∃ w, run Env.accepting (World.initial bodyTree) [.setDocument (some 0),.getChildNodes 7 2] = .ok w ∧
      Consistent w.agent ∧ (∀ parent child, child ∈ bodyTree.innerChildren parent → child < bodyTree.size) ∧
      Disclosed bodyTree .live w.agent 1 2 ∧
      Cleared .live w.agent (Disclosed bodyTree .live w.agent 1) (unbind bodyTree 1 .live w.agent) :=
  have consistent := reachable_consistent
    (reachable_run Env.accepting bodyTree [.setDocument (some 0),.getChildNodes 7 2] .initial rfl)
  ⟨_,rfl,consistent,Dom.ofNodes_inUse _ _,.child (.root (by decide)) rfl (by decide) (by decide),
    unbind_clears_disclosed bodyTree consistent (Dom.ofNodes_inUse _ _) 1 .live⟩

end InspectorDOM
