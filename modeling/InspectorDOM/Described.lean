import InspectorDOM.Tree

/-! What a description says. `buildObjectForNode` enters nodes in a map and returns their
descriptions: each description names a node by its id in that map and carries that node's child
count, every node the build entered is described, and the children array of a container built
one level deep lists its visible children's ids in order. The frontend learns the counts from the
descriptions it receives. -/

namespace InspectorDOM

/-- The child count a description of `node` carries: a container's visible children. -/
def countField (dom : Dom) (node : Node) : Option Nat :=
  if (dom.nodeType node).isContainer then some (dom.innerChildNodeCount node) else none

theorem Desc.describedList_append : ∀ first second : List Desc,
    Desc.describedList (first ++ second) = Desc.describedList first ++ Desc.describedList second
  | [], _ => rfl
  | desc :: first, second => by
    rw [List.cons_append,Desc.describedList,Desc.describedList,Desc.describedList_append first second,
      List.append_assoc]

theorem Desc.describedList_singleton (desc : Desc) : Desc.describedList [desc] = desc.described := by
  simp [Desc.describedList]

theorem Desc.mem_described_self (desc : Desc) : desc ∈ desc.described := by
  cases desc; exact List.mem_cons_self _ _

/-- A requested id is indexed, so it was handed out already. -/
theorem Consistent.requested_below {st : Agent} (consistent : Consistent st) {id : Nat}
    (requested : st.childrenRequested id = true) : id < st.lastNodeId := by
  obtain ⟨node,found⟩ := Option.ne_none_iff_exists'.mp (consistent.requested id requested)
  exact consistent.indexed_below found

/-- The innermost first child is the first of the children the agent's loops visit. -/
theorem Dom.innerFirstChild_eq_head? (dom : Dom) (node : Node) :
    dom.innerFirstChild node = (dom.innerChildren node).head? := by
  unfold Dom.innerFirstChild Dom.innerChildren Dom.firstChild
  split
  · split <;> simp_all
  · exact find?_eq_head?_filter _ _

/-- From `st` to `st'`: the entries of `nodesMap` already made stay, no other map changes, ids
only grow, and a new entry has an id not handed out at `st`. -/
structure Stable (nodesMap : MapRef) (st st' : Agent) : Prop where
  lastNodeId : st.lastNodeId ≤ st'.lastNodeId
  kept : ∀ node, st.nodeToId nodesMap node ≠ 0 → st'.nodeToId nodesMap node = st.nodeToId nodesMap node
  others : ∀ other, other ≠ nodesMap → st'.nodeToId other = st.nodeToId other
  fresh : ∀ node, st'.nodeToId nodesMap node ≠ st.nodeToId nodesMap node → st.lastNodeId ≤ st'.nodeToId nodesMap node

namespace Stable

variable {nodesMap : MapRef} {st st' st'' : Agent}

theorem refl (st : Agent) : Stable nodesMap st st := ⟨le_refl _,fun _ _ => rfl,fun _ _ => rfl,fun _ same => absurd rfl same⟩

theorem trans (first : Stable nodesMap st st') (second : Stable nodesMap st' st'') : Stable nodesMap st st'' := by
  refine ⟨first.lastNodeId.trans second.lastNodeId,
    fun node bound => (second.kept node (by rw [first.kept node bound]; exact bound)).trans (first.kept node bound),
    fun other differs => (second.others other differs).trans (first.others other differs),fun node changed => ?_⟩
  by_cases late : st''.nodeToId nodesMap node = st'.nodeToId nodesMap node
  · have early : st'.nodeToId nodesMap node ≠ st.nodeToId nodesMap node := late ▸ changed
    exact late ▸ first.fresh node early
  · exact first.lastNodeId.trans (second.fresh node late)

theorem of_same (same : SameBindings st' st) : Stable nodesMap st st' :=
  ⟨same.lastNodeId.ge,fun node _ => by rw [same.nodeToId],fun other _ => same.nodeToId other,
    fun node changed => absurd (by rw [same.nodeToId]) changed⟩

/-- The live map keeps its entries, whichever map the run entered nodes in. -/
theorem liveKept (stable : Stable nodesMap st st') (node : Node) (bound : st.documentNodeToIdMap node ≠ 0) :
    st'.documentNodeToIdMap node = st.documentNodeToIdMap node := by
  cases nodesMap with
  | live => exact stable.kept node bound
  | dangling _ => exact congrFun (stable.others .live nofun) node

theorem liveFresh (stable : Stable nodesMap st st') (node : Node)
    (changed : st'.documentNodeToIdMap node ≠ st.documentNodeToIdMap node) :
    st.lastNodeId ≤ st'.documentNodeToIdMap node := by
  cases nodesMap with
  | live => exact stable.fresh node changed
  | dangling _ => exact absurd (congrFun (stable.others .live nofun) node) changed

/-- A live entry whose id was requested at the start was there at the start: a new entry has an
id not handed out yet. -/
theorem requested (stable : Stable nodesMap st st') (consistent : Consistent st) {node : Node}
    (requested : st.childrenRequested (st'.documentNodeToIdMap node) = true) :
    st'.documentNodeToIdMap node = st.documentNodeToIdMap node := by
  by_contra changed
  exact absurd (consistent.requested_below requested) (Nat.not_lt.mpr (stable.liveFresh node changed))

end Stable

/-- `bind` enters `node` alone, under a nonzero id once ids are positive. -/
theorem bind_entry (node : Node) (nodesMap : MapRef) (st : Agent) (positive : 0 < st.lastNodeId) :
    (bind node nodesMap st).1 ≠ 0 ∧ (bind node nodesMap st).2.nodeToId nodesMap node = (bind node nodesMap st).1 ∧
      ∀ n, (bind node nodesMap st).2.nodeToId nodesMap n ≠ st.nodeToId nodesMap n → n = node := by
  rcases bind_spec node nodesMap st with ⟨bound,found⟩ | ⟨absent,fresh,entered⟩
  · rw [found]; exact ⟨bound,rfl,fun _ changed => absurd rfl changed⟩
  · refine ⟨by rw [fresh]; omega,by rw [entered.nodeToId,if_pos ⟨rfl,rfl⟩,fresh],fun n changed => ?_⟩
    rw [entered.nodeToId] at changed
    by_contra other
    exact changed (if_neg (fun both => other both.2))

theorem bind_stable (node : Node) (nodesMap : MapRef) (st : Agent) : Stable nodesMap st (bind node nodesMap st).2 := by
  rcases bind_spec node nodesMap st with ⟨-,found⟩ | ⟨absent,-,entered⟩
  · rw [found]; exact .refl st
  · refine ⟨by rw [entered.lastNodeId]; omega,fun n bound => ?_,fun other differs => funext fun n => ?_,
      fun n changed => ?_⟩
    · rw [entered.nodeToId,if_neg]
      rintro ⟨-,rfl⟩
      exact bound absent
    · rw [entered.nodeToId,if_neg]
      rintro ⟨rfl,-⟩
      exact differs rfl
    · rw [entered.nodeToId] at changed ⊢
      split_ifs at changed ⊢
      · exact le_refl _
      · exact absurd rfl changed

theorem stableChain (dom : Dom) (nodesMap : MapRef) : BuildChain dom nodesMap (Stable nodesMap) where
  refl := .refl
  trans := .trans
  bound node st := bind_stable node nodesMap st
  listened node st := .of_same (listen_same dom node st)

/-- The description `buildObjectWith` returns is the node's: its id is the node's id in the map. -/
theorem buildObjectWith_entered (dom : Dom) (node : Node) (nodesMap : MapRef) {children : Agent → List Desc × Agent}
    (stable : ∀ st, 0 < st.lastNodeId → Stable nodesMap st (children st).2) (st : Agent) (positive : 0 < st.lastNodeId) :
    (buildObjectWith dom node nodesMap children st).1.id ≠ 0 ∧
      (buildObjectWith dom node nodesMap children st).2.nodeToId nodesMap node =
        (buildObjectWith dom node nodesMap children st).1.id := by
  obtain ⟨nonzero,entered,-⟩ := bind_entry node nodesMap st positive
  have listened := listen_same dom node (bind node nodesMap st).2
  have later : 0 < (listen dom node (bind node nodesMap st).2).lastNodeId := by
    rw [listened.lastNodeId]; exact Nat.lt_of_lt_of_le positive (bind_stable node nodesMap st).lastNodeId
  dsimp only [buildObjectWith]
  split
  · refine ⟨nonzero,?_⟩
    rw [(stable _ later).kept node (by rw [listened.nodeToId,entered]; exact nonzero),listened.nodeToId,entered]
    rfl
  · exact ⟨nonzero,entered⟩

/-- A build from `st` to `st'` that returned `descs`: every description in them is of a node
entered in `nodesMap`, under its id there, with its child count, and every node the build entered
is described. -/
structure Described (dom : Dom) (nodesMap : MapRef) (st : Agent) (descs : List Desc) (st' : Agent) : Prop where
  faithful : ∀ desc ∈ Desc.describedList descs, desc.id ≠ 0 ∧
    ∃ node, st'.nodeToId nodesMap node = desc.id ∧ desc.childNodeCount = countField dom node
  covered : ∀ node, st'.nodeToId nodesMap node ≠ st.nodeToId nodesMap node →
    ∃ desc ∈ Desc.describedList descs, desc.id = st'.nodeToId nodesMap node

namespace Described

variable {dom : Dom} {nodesMap : MapRef}

theorem nil (st : Agent) : Described dom nodesMap st [] st :=
  ⟨fun _ mem => (nomatch mem),fun _ changed => absurd rfl changed⟩

theorem of_same {st st' : Agent} (same : SameBindings st' st) : Described dom nodesMap st [] st' :=
  ⟨fun _ mem => (nomatch mem),fun _ changed => absurd (by rw [same.nodeToId]) changed⟩

theorem append {st st' st'' : Agent} {first second : List Desc} (before : Described dom nodesMap st first st')
    (after : Described dom nodesMap st' second st'') (stable : Stable nodesMap st' st'') :
    Described dom nodesMap st (first ++ second) st'' := by
  refine ⟨fun desc mem => ?_,fun node changed => ?_⟩
  · rw [Desc.describedList_append,List.mem_append] at mem
    rcases mem with mem | mem
    · obtain ⟨nonzero,node,named,count⟩ := before.faithful desc mem
      exact ⟨nonzero,node,(stable.kept node (named ▸ nonzero)).trans named,count⟩
    · exact after.faithful desc mem
  · rw [Desc.describedList_append]
    by_cases early : st'.nodeToId nodesMap node = st.nodeToId nodesMap node
    · obtain ⟨desc,mem,named⟩ := after.covered node (early ▸ changed)
      exact ⟨desc,List.mem_append_right _ mem,named⟩
    · obtain ⟨desc,mem,named⟩ := before.covered node early
      have nonzero := (before.faithful desc mem).1
      exact ⟨desc,List.mem_append_left _ mem,named.trans (stable.kept node (named ▸ nonzero)).symm⟩

/-- A description of a node bound in the live map at the end carries that node's count: ids name
one entry of one map. -/
theorem count_of_id {st st' : Agent} {descs : List Desc} (described : Described dom nodesMap st descs st')
    (consistent : Consistent st') {node : Node} (bound : st'.documentNodeToIdMap node ≠ 0) :
    ∀ desc ∈ Desc.describedList descs, desc.id = st'.documentNodeToIdMap node →
      desc.childNodeCount = countField dom node := by
  intro desc mem named
  obtain ⟨-,n,entry,count⟩ := described.faithful desc mem
  obtain ⟨-,rfl⟩ := @Consistent.entry_unique _ consistent .live nodesMap _ _ bound (entry.trans named)
  exact count

end Described

/-- The facts of a build: its descriptions, the map it leaves, and that every node it enters
satisfies `entered`. -/
def Builds (dom : Dom) (nodesMap : MapRef) (entered : Node → Prop) (build : Agent → List Desc × Agent) : Prop :=
  ∀ st, 0 < st.lastNodeId → Described dom nodesMap st (build st).1 (build st).2 ∧ Stable nodesMap st (build st).2 ∧
    ∀ node, (build st).2.nodeToId nodesMap node ≠ st.nodeToId nodesMap node → entered node

section Builds

variable (dom : Dom) (nodesMap : MapRef) (entered : Node → Prop)

theorem Builds.nil : Builds dom nodesMap entered fun st => ([],st) :=
  fun st _ => ⟨.nil st,.refl st,fun _ changed => absurd rfl changed⟩

theorem buildObjectWith_builds (node : Node) (root : entered node) {children : Agent → List Desc × Agent}
    (built : Builds dom nodesMap entered children) :
    Builds dom nodesMap entered fun st => ([(buildObjectWith dom node nodesMap children st).1],
      (buildObjectWith dom node nodesMap children st).2) := by
  intro st positive
  obtain ⟨-,entry,only⟩ := bind_entry node nodesMap st positive
  have bound := bind_stable node nodesMap st
  have listened := listen_same dom node (bind node nodesMap st).2
  have self := buildObjectWith_entered dom node nodesMap (fun st positive => (built st positive).2.1) st positive
  dsimp only [buildObjectWith] at self ⊢
  split
  · rename_i container
    rw [if_pos container] at self
    obtain ⟨described,stable,chosen⟩ :=
      built _ (by rw [listened.lastNodeId]; exact Nat.lt_of_lt_of_le positive bound.lastNodeId)
    refine ⟨⟨fun desc mem => ?_,fun n changed => ?_⟩,bound.trans ((Stable.of_same listened).trans stable),
      fun n changed => ?_⟩
    · rw [Desc.describedList_singleton] at mem
      rcases List.mem_cons.mp mem with rfl | mem
      · exact ⟨self.1,node,self.2,by simp [Desc.childNodeCount,countField,container]⟩
      · exact described.faithful desc mem
    · rw [Desc.describedList_singleton]
      by_cases early : (bind node nodesMap st).2.nodeToId nodesMap n = st.nodeToId nodesMap n
      · rw [← listened.nodeToId] at early
        obtain ⟨desc,mem,named⟩ := described.covered n (early ▸ changed)
        exact ⟨desc,List.mem_cons_of_mem _ mem,named⟩
      · obtain rfl := only n early
        exact ⟨_,List.mem_cons_self _ _,self.2.symm⟩
    · by_cases early : (bind node nodesMap st).2.nodeToId nodesMap n = st.nodeToId nodesMap n
      · rw [← listened.nodeToId] at early
        exact chosen n (early ▸ changed)
      · exact (only n early) ▸ root
  · rename_i leaf
    rw [if_neg leaf] at self
    refine ⟨⟨fun desc mem => ?_,fun n changed => ?_⟩,bound,fun n changed => (only n changed) ▸ root⟩
    · rw [Desc.describedList_singleton] at mem
      rcases List.mem_cons.mp mem with rfl | mem
      · exact ⟨self.1,node,entry,by simp [Desc.childNodeCount,countField,leaf]⟩
      · exact nomatch mem
    · obtain rfl := only n changed
      rw [Desc.describedList_singleton]
      exact ⟨_,List.mem_cons_self _ _,entry.symm⟩

theorem Builds.mono {entered' : Node → Prop} (weaker : ∀ node, entered node → entered' node)
    {build : Agent → List Desc × Agent} (built : Builds dom nodesMap entered build) :
    Builds dom nodesMap entered' build := fun st positive =>
  let facts := built st positive
  ⟨facts.1,facts.2.1,fun node changed => weaker node (facts.2.2 node changed)⟩

theorem collect_builds {f : Node → Agent → Desc × Agent} :
    ∀ nodes : List Node, (∀ node ∈ nodes, Builds dom nodesMap entered fun st => ([(f node st).1],(f node st).2)) →
      Builds dom nodesMap entered (collect f nodes)
  | [], _, st, _ => ⟨.nil st,.refl st,fun _ changed => absurd rfl changed⟩
  | node :: nodes, each, st, positive => by
    obtain ⟨first,stable,chosen⟩ := each node (List.mem_cons_self _ _) st positive
    obtain ⟨rest,stable',chosen'⟩ := collect_builds nodes (fun n mem => each n (List.mem_cons_of_mem _ mem))
      (f node st).2 (Nat.lt_of_lt_of_le positive stable.lastNodeId)
    refine ⟨first.append rest stable',stable.trans stable',fun n changed => ?_⟩
    by_cases late : (collect f nodes (f node st).2).2.nodeToId nodesMap n = (f node st).2.nodeToId nodesMap n
    · exact chosen n (late ▸ changed)
    · exact chosen' n late

/-- Every node a children array enters is one of the children the agent's loops visit, at some
level: `entered` holds of all of them. -/
theorem buildArrayForContainerChildren_builds
    (shown : ∀ container child, child ∈ dom.innerChildren container → entered child) :
    ∀ (depth : Nat) (container : Node),
      Builds dom nodesMap entered (buildArrayForContainerChildren dom container depth nodesMap)
  | 0, container, st, positive => by
    have listened := listen_same dom container st
    have twice := (listen_same dom container _).trans listened
    dsimp only [buildArrayForContainerChildren]
    split
    · split
      · split
        · rename_i child first _
          rw [Dom.innerFirstChild_eq_head?] at first
          obtain ⟨described,stable,chosen⟩ := buildObjectWith_builds dom nodesMap entered child
            (shown container child (List.mem_of_mem_head? first)) (Builds.nil dom nodesMap entered) _
            (by rw [twice.lastNodeId]; exact positive)
          refine ⟨⟨described.faithful,fun n changed => described.covered n (by rwa [twice.nodeToId])⟩,
            (Stable.of_same twice).trans stable,fun n changed => chosen n (by rwa [twice.nodeToId])⟩
        · exact ⟨.of_same twice,.of_same twice,fun _ changed => absurd (by rw [twice.nodeToId]) changed⟩
      · exact ⟨.of_same twice,.of_same twice,fun _ changed => absurd (by rw [twice.nodeToId]) changed⟩
    · exact ⟨.of_same listened,.of_same listened,fun _ changed => absurd (by rw [listened.nodeToId]) changed⟩
  | depth + 1, container, st, positive => by
    have listened := listen_same dom container st
    obtain ⟨described,stable,chosen⟩ := collect_builds dom nodesMap entered (dom.innerChildren container)
      (fun child mem => buildObjectWith_builds dom nodesMap entered child (shown container child mem)
        (buildArrayForContainerChildren_builds shown depth child))
      _ (by rw [listened.lastNodeId]; exact positive)
    exact ⟨⟨described.faithful,fun n changed => described.covered n (by rwa [listened.nodeToId])⟩,
      (Stable.of_same listened).trans stable,fun n changed => chosen n (by rwa [listened.nodeToId])⟩

theorem buildObjectForNode_builds (shown : ∀ container child, child ∈ dom.innerChildren container → entered child)
    (node : Node) (root : entered node) (depth : Nat) :
    Builds dom nodesMap entered fun st => ([(buildObjectForNode dom node depth nodesMap st).1],
      (buildObjectForNode dom node depth nodesMap st).2) :=
  buildObjectWith_builds dom nodesMap entered node root
    (buildArrayForContainerChildren_builds dom nodesMap entered shown depth node)

/-- The children array built one level deep lists the ids the visible children have at the end,
in order. -/
theorem buildArrayForContainerChildren_ids (container : Node) (depth : Nat) (st : Agent)
    (positive : 0 < st.lastNodeId) :
    (buildArrayForContainerChildren dom container (depth + 1) nodesMap st).1.map Desc.id =
      (dom.innerChildren container).map
        ((buildArrayForContainerChildren dom container (depth + 1) nodesMap st).2.nodeToId nodesMap) := by
  rw [buildArrayForContainerChildren_succ]
  have listened := listen_same dom container st
  generalize dom.innerChildren container = nodes
  generalize listen dom container st = st' at listened
  have positive' : 0 < st'.lastNodeId := by rw [listened.lastNodeId]; exact positive
  clear listened positive
  have chain := stableChain dom nodesMap
  induction nodes generalizing st' with
  | nil => rfl
  | cons node nodes ih =>
    have self : (buildObjectForNode dom node depth nodesMap st').1.id ≠ 0 ∧
        (buildObjectForNode dom node depth nodesMap st').2.nodeToId nodesMap node =
          (buildObjectForNode dom node depth nodesMap st').1.id :=
      buildObjectWith_entered dom node nodesMap (fun st _ => chain.buildArrayForContainerChildren depth node st) st'
        positive'
    have later := Nat.lt_of_lt_of_le positive' (chain.buildObjectForNode node depth st').lastNodeId
    have rest := chain.collect (fun child st => chain.buildObjectForNode child depth st) nodes
      (buildObjectForNode dom node depth nodesMap st').2
    simp only [collect,List.map_cons]
    rw [ih _ later,rest.kept node (self.2 ▸ self.1),self.2]

end Builds

namespace Observer

@[simp] theorem learnAll_children (observer : Observer) (descs : List Desc) :
    (observer.learnAll descs).children = observer.children := by
  unfold learnAll
  generalize Desc.describedList descs = descs
  induction descs generalizing observer with
  | nil => rfl
  | cons desc descs ih => exact ih _

theorem foldl_learn_childCount_of_forall (id : Nat) :
    ∀ (descs : List Desc) (observer : Observer), (∀ desc ∈ descs, desc.id ≠ id) →
      (descs.foldl learn observer).childCount id = observer.childCount id
  | [], _, _ => rfl
  | desc :: descs, observer, other => by
    rw [List.foldl_cons,foldl_learn_childCount_of_forall id descs _ fun d mem => other d (List.mem_cons_of_mem _ mem)]
    simp [learn,Function.update_apply,Ne.symm (other desc (List.mem_cons_self _ _))]

theorem foldl_learn_childCount_of_exists (id : Nat) (count : Option Nat) :
    ∀ (descs : List Desc) (observer : Observer), (∀ desc ∈ descs, desc.id = id → desc.childNodeCount = count) →
      (∃ desc ∈ descs, desc.id = id) → (descs.foldl learn observer).childCount id = count
  | [], _, _, ⟨_,mem,_⟩ => nomatch mem
  | desc :: descs, observer, same, mentioned => by
    rw [List.foldl_cons]
    by_cases later : ∃ d ∈ descs, d.id = id
    · exact foldl_learn_childCount_of_exists id count descs _ (fun d mem => same d (List.mem_cons_of_mem _ mem)) later
    · push_neg at later
      obtain ⟨d,mem,named⟩ := mentioned
      rcases List.mem_cons.mp mem with rfl | mem
      · rw [foldl_learn_childCount_of_forall id descs _ later]
        simp [learn,named,same d (List.mem_cons_self _ _) named]
      · exact absurd named (later d mem)

@[simp] theorem receive_setChildNodes_children (observer : Observer) (parentId : Nat) (children : List Desc) :
    (observer.receive (.setChildNodes parentId children)).children =
      Function.update observer.children parentId (children.map Desc.id) := by
  simp [receive]

@[simp] theorem receive_setChildNodes_childCount (observer : Observer) (parentId : Nat) (children : List Desc) :
    (observer.receive (.setChildNodes parentId children)).childCount = (observer.learnAll children).childCount := rfl

@[simp] theorem receive_childNodeCountUpdated_children (observer : Observer) (id count : Nat) :
    (observer.receive (.childNodeCountUpdated id count)).children = observer.children := rfl

@[simp] theorem receive_childNodeCountUpdated_childCount (observer : Observer) (id count : Nat) :
    (observer.receive (.childNodeCountUpdated id count)).childCount =
      Function.update observer.childCount id (some count) := rfl

@[simp] theorem receive_childNodeInserted_children (observer : Observer) (parentId prevId : Nat) (child : Desc) :
    (observer.receive (.childNodeInserted parentId prevId child)).children =
      Function.update observer.children parentId (childInserted prevId child.id (observer.children parentId)) := by
  simp [receive]

@[simp] theorem receive_childNodeInserted_childCount (observer : Observer) (parentId prevId : Nat) (child : Desc) :
    (observer.receive (.childNodeInserted parentId prevId child)).childCount =
      (observer.learnAll [child]).childCount := rfl

@[simp] theorem receive_childNodeRemoved_children (observer : Observer) (parentId id : Nat) :
    (observer.receive (.childNodeRemoved parentId id)).children =
      Function.update observer.children parentId ((observer.children parentId).erase id) := rfl

@[simp] theorem receive_childNodeRemoved_childCount (observer : Observer) (parentId id : Nat) :
    (observer.receive (.childNodeRemoved parentId id)).childCount = observer.childCount := rfl

@[simp] theorem receive_setDetachedRoot_children (observer : Observer) (root : Desc) :
    (observer.receive (.setDetachedRoot root)).children = observer.children := learnAll_children _ _

@[simp] theorem receive_setDetachedRoot_childCount (observer : Observer) (root : Desc) :
    (observer.receive (.setDetachedRoot root)).childCount = (observer.learnAll [root]).childCount := rfl

end Observer

theorem Desc.mem_describedList {desc : Desc} {descs : List Desc} (mem : desc ∈ descs) :
    desc ∈ Desc.describedList descs := by
  induction descs with
  | nil => exact nomatch mem
  | cons first descs ih =>
    rw [Desc.describedList,List.mem_append]
    rcases List.mem_cons.mp mem with rfl | mem
    · exact .inl desc.mem_described_self
    · exact .inr (ih mem)

/-- After a build, the frontend that learns its descriptions holds the right count for every node
bound in the live map: the node was described, or it was bound before and its count stays. -/
theorem Described.learnAll_childCount {dom : Dom} {nodesMap : MapRef} {st st' : Agent} {descs : List Desc}
    (described : Described dom nodesMap st descs st') (stable : Stable nodesMap st st') (consistent : Consistent st')
    (observer : Observer) {node : Node} (bound : st'.documentNodeToIdMap node ≠ 0) :
    (observer.learnAll descs).childCount (st'.documentNodeToIdMap node) = countField dom node ∨
      st'.documentNodeToIdMap node = st.documentNodeToIdMap node ∧
        (observer.learnAll descs).childCount (st'.documentNodeToIdMap node) =
          observer.childCount (st'.documentNodeToIdMap node) := by
  by_cases mentioned : ∃ desc ∈ Desc.describedList descs, desc.id = st'.documentNodeToIdMap node
  · exact .inl (Observer.foldl_learn_childCount_of_exists _ _ _ _ (described.count_of_id consistent bound) mentioned)
  · push_neg at mentioned
    refine .inr ⟨?_,Observer.foldl_learn_childCount_of_forall _ _ _ mentioned⟩
    by_cases live : nodesMap = .live
    · subst live
      by_contra changed
      obtain ⟨desc,mem,named⟩ := described.covered node changed
      exact mentioned desc mem named
    · exact congrFun (stable.others .live (Ne.symm live)) node

@[simp] theorem Agent.observer_send (st : Agent) (record : Record) :
    (st.send record).observer = st.observer.receive record := by
  simp [Agent.observer,Agent.send,List.foldl_append]

end InspectorDOM
