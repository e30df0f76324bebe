import InspectorDOM.Faults

/-! What every handler is made of. Apart from `setDocument` and the search, each entry point is a
chain of a few updates of the world: `bind`, `listen` and `unlisten` on the world's tree, an entry
removal, a record sent, a disclosure flag set, a detached map allocated, the bindings discarded, a
node inspected, and the tree's own edits. A relation between worlds, graded by the calls the sent
records answer, that each of these updates keeps, holds across every such handler; the lemmas
below say it once for all such relations. The edits change child lists and parent links only, and
an insertion moves the inserted node alone; each edit a handler makes is under an `editable`
parent, and a node comes in where `insertable` allows: a node taken from an editable parent, a node
the primitives create, a node of the input. Each request answers its call id once, `setOuterHTML`
after a refused edit twice, and the search's steps change its own fields and push the nodes they
report. -/

namespace InspectorDOM

/-- A relation between worlds, graded by the call ids answered on the way, that every update the
handlers are made of keeps. -/
structure StepChain (keeps : List Nat → World → World → Prop) : Prop where
  refl : ∀ w, keeps [] w w
  trans : ∀ {calls calls' : List Nat} {w w' w'' : World}, keeps calls w w' → keeps calls' w' w'' →
    keeps (calls ++ calls') w w''
  bound : ∀ (w : World) nodesMap node, keeps [] w { w with agent := (bind node nodesMap w.agent).2 }
  listened : ∀ (w : World) node, keeps [] w { w with agent := listen w.dom node w.agent }
  unlistened : ∀ (w : World) node, keeps [] w { w with agent := unlisten w.dom node w.agent }
  removed : ∀ (w : World) nodesMap node id requested, keeps [] w { w with agent :=
    { w.agent.setNodeToId nodesMap (Function.update (w.agent.nodeToId nodesMap) node 0) with
      idToNode := Function.update w.agent.idToNode id none
      childrenRequested := requested } }
  sent : ∀ (w : World) record, keeps record.answeredCall.toList w (w.respond record)
  requested : ∀ (w : World) nodeId requested,
    keeps [] w { w with agent := setChildrenRequested nodeId requested w.agent }
  allocated : ∀ w : World, keeps [] w { w with agent := allocateDanglingMap w.agent }
  discarded : ∀ w : World, keeps [] w { w with agent := discardBindings w.agent }
  inspected : ∀ (w : World) nodeId, keeps [] w { w with agent := addInspectedNode nodeId w.agent }
  inserted : ∀ (w : World) parent node refChild,
    keeps [] w { w with dom := w.dom.insertBefore parent node refChild }
  detached : ∀ (w : World) parent node, keeps [] w { w with dom := w.dom.removeChild parent node }
  valueSet : ∀ (w : World) node value, keeps [] w { w with dom := w.dom.setNodeValue node value }
  attributesSet : ∀ (w : World) element attributes,
    keeps [] w { w with dom := w.dom.setAttributes element attributes }

namespace StepChain

variable {keeps : List Nat → World → World → Prop} (chain : StepChain keeps)
include chain

theorem quiet_trans {calls : List Nat} {w w' w'' : World} (first : keeps [] w w')
    (second : keeps calls w' w'') : keeps calls w w'' :=
  chain.trans first second

theorem trans_quiet {calls : List Nat} {w w' w'' : World} (first : keeps calls w w')
    (second : keeps [] w' w'') : keeps calls w w'' := by
  simpa using chain.trans first second

theorem send_quiet (dom : Dom) (st : Agent) {record : Record} (quiet : record.answeredCall = none) :
    keeps [] ⟨dom,st⟩ ⟨dom,st.send record⟩ := by
  simpa [quiet] using chain.sent ⟨dom,st⟩ record

theorem respond_keeps {calls : List Nat} (w : World) (record : Record)
    (answered : record.answeredCall.toList = calls) : keeps calls w (w.respond record) :=
  answered ▸ chain.sent w record

/-- The builders are chains of `bind` and `listen`. -/
theorem build (dom : Dom) (nodesMap : MapRef) :
    BuildChain dom nodesMap fun st st' => keeps [] ⟨dom,st⟩ ⟨dom,st'⟩ where
  refl _ := chain.refl _
  trans first second := chain.quiet_trans first second
  bound node st := chain.bound ⟨dom,st⟩ nodesMap node
  listened node st := chain.listened ⟨dom,st⟩ node

/-- `unbind` is a chain of `unlisten`, entry removals and `listen`. -/
theorem unbinding (dom : Dom) : UnbindChain dom fun st st' => keeps [] ⟨dom,st⟩ ⟨dom,st'⟩ where
  refl _ := chain.refl _
  trans first second := chain.quiet_trans first second
  unlistened node st := chain.unlistened ⟨dom,st⟩ node
  removed nodesMap node id requested st := chain.removed ⟨dom,st⟩ nodesMap node id requested
  listened node st := chain.listened ⟨dom,st⟩ node

variable (dom : Dom)

theorem pushDocumentToFrontend_keeps (st : Agent) : keeps [] ⟨dom,st⟩ ⟨dom,(pushDocumentToFrontend dom st).2⟩ := by
  unfold pushDocumentToFrontend
  split
  · exact chain.refl _
  · split
    · exact chain.refl _
    · exact chain.quiet_trans ((chain.build dom .live).buildObjectForNode _ 2 st) (chain.send_quiet _ _ rfl)

theorem pushChildNodesToFrontend_keeps (nodeId : Nat) {st st' : Agent}
    (ok : pushChildNodesToFrontend dom nodeId st = .ok st') : keeps [] ⟨dom,st⟩ ⟨dom,st'⟩ := by
  unfold pushChildNodesToFrontend at ok
  split at ok
  · cases ok; exact chain.refl _
  · split at ok
    · cases ok; exact chain.refl _
    · split at ok
      · cases ok
        refine chain.quiet_trans ?_ (chain.send_quiet _ _ rfl)
        refine chain.quiet_trans ?_ (chain.requested ⟨dom,_⟩ _ _)
        exact (chain.build dom _).buildArrayForContainerChildren 1 _ st
      · split at ok
        · cases ok
          refine chain.quiet_trans ?_ (chain.send_quiet _ _ rfl)
          exact chain.quiet_trans (chain.listened ⟨dom,st⟩ _) (chain.requested ⟨dom,_⟩ _ _)
        · cases ok

theorem pushDetachedRoot_keeps (root : Node) (st : Agent) :
    keeps [] ⟨dom,st⟩ ⟨dom,(pushDetachedRoot dom root st).2⟩ :=
  chain.quiet_trans (chain.quiet_trans (chain.allocated ⟨dom,st⟩)
    ((chain.build dom _).buildObjectForNode root 0 _)) (chain.send_quiet _ _ rfl)

theorem unbind_keeps (node : Node) (nodesMap : MapRef) (st : Agent) :
    keeps [] ⟨dom,st⟩ ⟨dom,unbind dom node nodesMap st⟩ :=
  (chain.unbinding dom).unbindWith _ node nodesMap st

theorem didInsertDOMNode_keeps (node : Node) (st : Agent) :
    keeps [] ⟨dom,st⟩ ⟨dom,didInsertDOMNode dom node st⟩ := by
  have unbound := chain.unbind_keeps dom node .live st
  dsimp only [didInsertDOMNode]
  split
  · exact chain.refl _
  · split
    · exact unbound
    · split
      · exact unbound
      · split
        · exact chain.quiet_trans unbound (chain.quiet_trans (chain.listened ⟨dom,_⟩ _) (chain.send_quiet _ _ rfl))
        · exact chain.quiet_trans unbound (chain.quiet_trans ((chain.build dom .live).buildObjectForNode node 0 _)
            (chain.send_quiet _ _ rfl))

theorem didRemoveDOMNode_keeps (node : Node) (st : Agent) :
    keeps [] ⟨dom,st⟩ ⟨dom,didRemoveDOMNode dom node st⟩ := by
  dsimp only [didRemoveDOMNode]
  split
  · exact chain.refl _
  · split
    · exact chain.refl _
    · rename_i parent _
      split
      · exact chain.refl _
      · refine chain.quiet_trans ?_ (chain.unbind_keeps dom node .live _)
        split
        · have listened := chain.listened ⟨dom,st⟩ parent
          split
          · exact chain.quiet_trans listened (chain.send_quiet _ _ rfl)
          · exact listened
        · exact chain.send_quiet _ _ rfl

theorem didModifyDOMAttr_keeps (element : Node) (st : Agent) :
    keeps [] ⟨dom,st⟩ ⟨dom,didModifyDOMAttr dom element st⟩ := by
  dsimp only [didModifyDOMAttr]
  split
  · exact chain.refl _
  · exact chain.send_quiet _ _ rfl

theorem handleEvent_keeps (event : Event) (st : Agent) : keeps [] ⟨dom,st⟩ ⟨dom,handleEvent dom event st⟩ := by
  unfold handleEvent
  split
  · exact chain.quiet_trans (chain.discarded ⟨dom,st⟩) (chain.pushDocumentToFrontend_keeps dom _)
  · exact chain.refl _
  · dsimp only
    split
    · exact chain.refl _
    · split
      · exact chain.quiet_trans (chain.listened ⟨dom,st⟩ _) (chain.send_quiet _ _ rfl)
      · refine chain.quiet_trans ?_ (chain.requested ⟨dom,_⟩ _ _)
        refine chain.quiet_trans ?_ (chain.send_quiet _ _ rfl)
        refine chain.quiet_trans ?_ ((chain.build dom .live).buildObjectForNode _ 0 _)
        exact chain.send_quiet _ _ rfl

theorem removeChild_keeps (w : World) (parent node : Node) : keeps [] w (w.removeChild parent node) :=
  chain.quiet_trans (chain.didRemoveDOMNode_keeps w.dom node w.agent)
    (chain.detached ⟨w.dom,didRemoveDOMNode w.dom node w.agent⟩ parent node)

theorem insertBefore_keeps (w : World) (parent node : Node) (refChild : Option Node) :
    keeps [] w (w.insertBefore parent node refChild) := by
  have removed : keeps [] w (match w.dom.parentNode node with
      | some oldParent => w.removeChild oldParent node
      | none => w) := by
    split
    · exact chain.removeChild_keeps w _ node
    · exact chain.refl w
  exact chain.quiet_trans removed (chain.quiet_trans (chain.inserted _ parent node refChild)
    (chain.didInsertDOMNode_keeps _ node _))

theorem removeChildren_keeps (w : World) (parent : Node) (children : List Node) :
    keeps [] w (children.foldl (fun w child => w.removeChild parent child) w) :=
  List.foldlRecOn (motive := keeps [] w) _ _ _ (chain.refl w)
    fun _ before child _ => chain.quiet_trans before (chain.removeChild_keeps _ parent child)

theorem replaceWholeText_keeps (w : World) (node : Node) (value : String) :
    keeps [] w (replaceWholeText node value w) := by
  dsimp only [replaceWholeText]
  split
  · split
    · exact chain.refl w
    · exact chain.valueSet w node value
  · split
    · exact chain.quiet_trans (chain.removeChildren_keeps w _ _) (chain.removeChild_keeps _ _ node)
    · exact chain.quiet_trans (chain.removeChildren_keeps w _ _) (chain.valueSet _ node value)

/-- `setTextNodeValue` answers its call id once. -/
theorem setTextNodeValue_keeps (prims : Primitives) (w : World) (callId nodeId : Nat) (value : String) :
    keeps [callId] w (setTextNodeValue prims callId nodeId value w) := by
  unfold setTextNodeValue
  split
  · split
    · split
      · exact chain.quiet_trans (chain.replaceWholeText_keeps w _ _) (chain.respond_keeps _ _ (by rfl))
      · exact chain.respond_keeps w _ (by rfl)
    · exact chain.respond_keeps w _ (by rfl)
  · exact chain.respond_keeps w _ (by rfl)

end StepChain

theorem World.insertBefore_nodeType (w : World) (parent node : Node) (refChild : Option Node) :
    (w.insertBefore parent node refChild).dom.nodeType = w.dom.nodeType := by
  unfold World.insertBefore
  split <;> rfl

theorem moveChildren_nodeType (prims : Primitives) (oldNode newElem : Node) : ∀ (fuel : Nat) {w next : World},
    moveChildren prims oldNode newElem fuel w = .ok next → next.dom.nodeType = w.dom.nodeType
  | 0, _, _, ok => by cases ok
  | fuel + 1, w, _, ok => by
    rw [moveChildren] at ok
    split at ok
    · cases ok; rfl
    · have moved := moveChildren_nodeType prims oldNode newElem fuel ok
      split at moved
      · exact moved.trans (World.insertBefore_nodeType w _ _ _)
      · exact moved

theorem World.insertBefore_parentNode (w : World) (parent node : Node) (refChild : Option Node) (other : Node) :
    (w.insertBefore parent node refChild).dom.parentNode other =
      if other = node then some parent else w.dom.parentNode other := by
  unfold World.insertBefore
  split <;> by_cases same : other = node <;>
    simp [World.removeChild,Dom.removeChild,Dom.insertBefore,same,Function.update_noteq]

theorem World.removeChild_parentNode (w : World) (parent node other : Node) :
    (w.removeChild parent node).dom.parentNode other = if other = node then none else w.dom.parentNode other := by
  simp [World.removeChild,Dom.removeChild,Function.update_apply]

/-- Moving children changes a parent link only to the new element. -/
theorem moveChildren_parentNode (prims : Primitives) (oldNode newElem : Node) : ∀ (fuel : Nat) {w next : World},
    moveChildren prims oldNode newElem fuel w = .ok next → ∀ node old, next.dom.parentNode node = some old →
      w.dom.parentNode node = some old ∨ old = newElem
  | 0, _, _, ok => by cases ok
  | fuel + 1, w, _, ok => by
    rw [moveChildren] at ok
    split at ok
    · cases ok; exact fun _ _ linked => .inl linked
    · intro node old linked
      rcases moveChildren_parentNode prims oldNode newElem fuel ok node old linked with moved | moved
      · split at moved
        · rw [World.insertBefore_parentNode] at moved
          split at moved
          · exact .inr (Option.some.inj moved).symm
          · exact .inl moved
        · exact .inl moved
      · exact .inr moved

theorem World.callInsertBefore_parentNode (prims : Primitives) (w : World) {parent : Node} (node : Node)
    (refChild : Option Node) {oldNode : Node} (attached : w.dom.parentNode oldNode = some parent) :
    (w.callInsertBefore prims parent node refChild).dom.parentNode oldNode = some parent := by
  unfold World.callInsertBefore
  split
  · rw [World.insertBefore_parentNode]
    split
    · rfl
    · exact attached
  · exact attached

/-- `pushDocumentToFrontend` reports success only with a main document, which it keeps. -/
theorem pushDocumentToFrontend_listening (dom : Dom) (st : Agent) (pushed : (pushDocumentToFrontend dom st).1 = true) :
    (pushDocumentToFrontend dom st).2.documents ≠ [] := by
  unfold pushDocumentToFrontend at pushed ⊢
  cases main : st.mainFrameDocument with
  | none => simp [main] at pushed
  | some document =>
    have listening : st.documents ≠ [] := fun empty => by simp [Agent.mainFrameDocument,empty] at main
    simp only [main]
    split
    · exact listening
    · exact Agent.documents_ne_nil_of_main ((mainChain dom .live).buildObjectForNode document 2 st listening) listening

/-- The same, one level up: a relation kept by each unit the request handlers are made of, the
pushes, the tree's edits with their notifications, the event handler and the records sent. A
detached root is pushed, and a node listened at, once a document is listened to, as the code does
it. An edit is kept only where the code makes it: a node leaves the parent it has, a node comes in
when `insertable` holds of it, and the parent edited is `editable`. -/
structure HandlerChain (editable : Node → Prop) (insertable : World → Node → Prop)
    (keeps : List Nat → World → World → Prop) : Prop where
  refl : ∀ w, keeps [] w w
  trans : ∀ {calls calls' : List Nat} {w w' w'' : World}, keeps calls w w' → keeps calls' w' w'' →
    keeps (calls ++ calls') w w''
  pushedDocument : ∀ w : World, keeps [] w { w with agent := (pushDocumentToFrontend w.dom w.agent).2 }
  pushedChildren : ∀ (w : World) nodeId {st : Agent}, pushChildNodesToFrontend w.dom nodeId w.agent = .ok st →
    keeps [] w { w with agent := st }
  pushedDetachedRoot : ∀ (w : World) root, w.agent.documents ≠ [] →
    keeps [] w { w with agent := (pushDetachedRoot w.dom root w.agent).2 }
  listened : ∀ (w : World) node, w.agent.documents ≠ [] → keeps [] w { w with agent := listen w.dom node w.agent }
  sent : ∀ (w : World) record, record.describesTree = false → keeps record.answeredCall.toList w (w.respond record)
  inspected : ∀ (w : World) nodeId, keeps [] w { w with agent := addInspectedNode nodeId w.agent }
  handled : ∀ (w : World) event, keeps [] w { w with agent := handleEvent w.dom event w.agent }
  attributesSet : ∀ (w : World) element attributes,
    keeps [] w { w with dom := w.dom.setAttributes element attributes }
  attributeModified : ∀ (w : World) element, keeps [] w { w with agent := didModifyDOMAttr w.dom element w.agent }
  removedChild : ∀ (w : World) parent node, w.dom.parentNode node = some parent → editable parent →
    keeps [] w (w.removeChild parent node)
  insertedChild : ∀ (w : World) parent node refChild, insertable w node → editable parent →
    keeps [] w (w.insertBefore parent node refChild)

/-- A relation every primitive update keeps is kept by every unit, wherever it is made. -/
theorem StepChain.handlers {keeps : List Nat → World → World → Prop} (chain : StepChain keeps)
    (editable : Node → Prop) (insertable : World → Node → Prop) : HandlerChain editable insertable keeps where
  refl := chain.refl
  trans := chain.trans
  pushedDocument w := chain.pushDocumentToFrontend_keeps w.dom w.agent
  pushedChildren w _ _ ok := chain.pushChildNodesToFrontend_keeps w.dom _ ok
  pushedDetachedRoot w root _ := chain.pushDetachedRoot_keeps w.dom root w.agent
  listened w node _ := chain.listened w node
  sent w record _ := chain.sent w record
  inspected := chain.inspected
  handled w event := chain.handleEvent_keeps w.dom event w.agent
  attributesSet := chain.attributesSet
  attributeModified w element := chain.didModifyDOMAttr_keeps w.dom element w.agent
  removedChild w parent node _ _ := chain.removeChild_keeps w parent node
  insertedChild w parent node refChild _ _ := chain.insertBefore_keeps w parent node refChild

namespace HandlerChain

variable {editable : Node → Prop} {insertable : World → Node → Prop} {keeps : List Nat → World → World → Prop}
  (chain : HandlerChain editable insertable keeps)
include chain

theorem quiet_trans {calls : List Nat} {w w' w'' : World} (first : keeps [] w w')
    (second : keeps calls w' w'') : keeps calls w w'' :=
  chain.trans first second

theorem trans_quiet {calls : List Nat} {w w' w'' : World} (first : keeps calls w w')
    (second : keeps [] w' w'') : keeps calls w w'' := by
  simpa using chain.trans first second

theorem send_quiet (dom : Dom) (st : Agent) {record : Record} (quiet : record.answeredCall = none)
    (unseen : record.describesTree = false) : keeps [] ⟨dom,st⟩ ⟨dom,st.send record⟩ := by
  simpa [quiet] using chain.sent ⟨dom,st⟩ record unseen

/-- An answer: it answers its call, and the frontend's view of the tree does not change. -/
theorem respond_keeps {calls : List Nat} (w : World) (record : Record)
    (answered : record.answeredCall.toList = calls) (unseen : record.describesTree = false) :
    keeps calls w (w.respond record) :=
  answered ▸ chain.sent w record unseen

variable (dom : Dom)

theorem pushDocumentToFrontend_keeps (st : Agent) : keeps [] ⟨dom,st⟩ ⟨dom,(pushDocumentToFrontend dom st).2⟩ :=
  chain.pushedDocument ⟨dom,st⟩

theorem pushPathChildren_keeps (nodesMap : MapRef) (path : List Node) {st st' : Agent}
    (ok : pushPathChildren dom nodesMap path st = .ok st') : keeps [] ⟨dom,st⟩ ⟨dom,st'⟩ :=
  except_foldlM_invariant (fun st' => keeps [] ⟨dom,st⟩ ⟨dom,st'⟩) (fun _ _ _ before ok =>
    chain.quiet_trans before (chain.pushedChildren ⟨dom,_⟩ _ ok)) _ (chain.refl _) ok

theorem pushNodePathToFrontend_keeps (node : Node) {st : Agent} {result : Nat × Agent}
    (ok : pushNodePathToFrontend dom node st = .ok result) : keeps [] ⟨dom,st⟩ ⟨dom,result.2⟩ := by
  have pushed := chain.pushDocumentToFrontend_keeps dom st
  dsimp only [pushNodePathToFrontend] at ok
  split at ok
  · cases ok; exact pushed
  · rename_i success
    split at ok
    · cases ok; exact pushed
    · split at ok
      · cases ok
      · obtain ⟨st',children,rfl⟩ := except_map_success ok
        refine chain.quiet_trans pushed (chain.quiet_trans ?_ (chain.pushPathChildren_keeps dom _ _ children))
        split
        · exact chain.pushedDetachedRoot ⟨dom,_⟩ _ (pushDocumentToFrontend_listening dom st (by simpa using success))
        · exact chain.refl _

theorem pushReplacement_keeps (node : Node) (childrenRequested : Bool) {st : Agent} {result : Nat × Agent}
    (ok : pushReplacement dom node childrenRequested st = .ok result) : keeps [] ⟨dom,st⟩ ⟨dom,result.2⟩ := by
  obtain ⟨pushed,push,ok⟩ := except_bind_success ok
  have pushed := chain.pushNodePathToFrontend_keeps dom node push
  split at ok
  · obtain ⟨st',children,ok⟩ := except_bind_success ok
    cases ok
    exact chain.quiet_trans pushed (chain.pushedChildren ⟨dom,_⟩ _ children)
  · cases ok; exact pushed

theorem walkPath_keeps : ∀ (pairs : List (String × String)) (node : Node) {st : Agent}, st.documents ≠ [] →
    keeps [] ⟨dom,st⟩ ⟨dom,(walkPath dom pairs node st).2⟩
  | [], _, _, _ => chain.refl _
  | _ :: rest, node, st, listening => by
    have still : ∀ {st : Agent}, st.documents ≠ [] → (listen dom node st).documents ≠ [] := fun listening =>
      Agent.documents_ne_nil_of_main (listen_mainFrameDocument dom node listening) listening
    have once := chain.listened ⟨dom,st⟩ node listening
    have twice := chain.quiet_trans once (chain.listened ⟨dom,_⟩ node (still listening))
    dsimp only [walkPath]
    split
    · exact chain.refl _
    · split
      · exact once
      · split
        · exact twice
        · split
          · exact twice
          · exact chain.quiet_trans twice (walkPath_keeps rest _ (still (still listening)))

theorem nodeForPath_keeps (path : String) (st : Agent) : keeps [] ⟨dom,st⟩ ⟨dom,(nodeForPath dom path st).2⟩ := by
  dsimp only [nodeForPath]
  split
  · exact chain.refl _
  · rename_i main
    split
    · exact chain.refl _
    · exact chain.walkPath_keeps dom _ _ fun empty => by simp [Agent.mainFrameDocument,empty] at main

theorem pushListeners_keeps : ∀ (listeners : List (Node × String × RegisteredEventListener))
    {st : Agent} {result : List ListenerDesc × Agent},
      pushListeners dom listeners st = .ok result → keeps [] ⟨dom,st⟩ ⟨dom,result.2⟩
  | [], _, _, ok => by cases ok; exact chain.refl _
  | (node, _, _) :: rest, _, _, ok => by
    obtain ⟨pushed,push,ok⟩ := except_bind_success ok
    obtain ⟨built,build,ok⟩ := except_bind_success ok
    cases ok
    exact chain.quiet_trans (chain.pushNodePathToFrontend_keeps dom node push) (pushListeners_keeps rest build :)

theorem insertEach_keeps (parent : Node) (next : Option Node) (origin : Node → Option Node) (site : editable parent) :
    ∀ (fragment : List Node) (w : World),
    (∀ child ∈ fragment, ∀ old, w.dom.parentNode child = some old → origin child = some old ∨ old = parent) →
    (∀ child ∈ fragment, ∀ w' : World, w'.dom.nodeType = w.dom.nodeType →
      (∀ old, w'.dom.parentNode child = some old → origin child = some old ∨ old = parent) → insertable w' child) →
      keeps [] w (fragment.foldl (fun w child => w.insertBefore parent child next) w)
  | [], w, _, _ => chain.refl w
  | child :: rest, w, origins, fresh =>
    chain.quiet_trans
      (chain.insertedChild w parent child next
        (fresh child (List.mem_cons_self _ _) w rfl (origins child (List.mem_cons_self _ _))) site)
      (insertEach_keeps parent next origin site rest _
        (fun other mem old linked => by
          rw [World.insertBefore_parentNode] at linked
          split at linked
          · exact .inr (Option.some.inj linked).symm
          · exact origins other (List.mem_cons_of_mem _ mem) old linked)
        fun other mem w' same =>
          fresh other (List.mem_cons_of_mem _ mem) w' (same.trans (World.insertBefore_nodeType w parent child next)))

theorem replaceWithFragment_keeps (w : World) (parent node : Node) (fragment : List Node)
    (attached : w.dom.parentNode node = some parent) (site : editable parent)
    (fresh : ∀ child ∈ fragment, ∀ w' : World, w'.dom.nodeType = w.dom.nodeType →
      (∀ old, w'.dom.parentNode child = some old → w.dom.parentNode child = some old ∨ old = parent) →
        insertable w' child) :
    keeps [] w (replaceWithFragment parent node fragment w) :=
  chain.quiet_trans (chain.removedChild w parent node attached site)
    (chain.insertEach_keeps parent _ w.dom.parentNode site fragment _
      (fun child _ old linked => by
        rw [World.removeChild_parentNode] at linked
        split at linked
        · cases linked
        · exact .inl linked)
      fresh)

variable (prims : Primitives)

theorem moveChildren_keeps (moved : ∀ (w : World) node other, node ∈ w.dom.childNodes other → editable other →
      insertable w node)
    (oldNode newElem : Node) (source : editable oldNode) (target : editable newElem) : ∀ (fuel : Nat) {w next : World},
    moveChildren prims oldNode newElem fuel w = .ok next → keeps [] w next
  | 0, _, _, ok => by cases ok
  | fuel + 1, w, _, ok => by
    rw [moveChildren] at ok
    split at ok
    · cases ok; exact chain.refl w
    · rename_i child first
      have rest := moveChildren_keeps moved oldNode newElem source target fuel ok
      split at rest
      · exact chain.quiet_trans
          (chain.insertedChild w _ _ _ (moved w child oldNode (List.mem_of_mem_head? first) source) target) rest
      · exact rest

theorem callInsertBefore_keeps (w : World) (parent node : Node) (refChild : Option Node) (fresh : insertable w node)
    (site : editable parent) : keeps [] w (w.callInsertBefore prims parent node refChild) := by
  unfold World.callInsertBefore
  split
  · exact chain.insertedChild w parent node refChild fresh site
  · exact chain.refl w

variable (w : World)

theorem getChildNodes_keeps (callId nodeId : Nat) {next : World}
    (ok : getChildNodes callId nodeId w = .ok next) : keeps [callId] w next := by
  obtain ⟨st,pushed,rfl⟩ := except_map_success ok
  exact chain.quiet_trans (chain.pushedChildren w _ pushed) (chain.respond_keeps ⟨w.dom,st⟩ _ (by rfl) (by rfl))

theorem setAttribute_keeps (callId elementId : Nat) (name value : String) :
    keeps [callId] w (setAttribute prims callId elementId name value w) := by
  unfold setAttribute
  split
  · split
    · split
      · exact chain.quiet_trans (chain.attributesSet w _ _)
          (chain.quiet_trans (chain.attributeModified _ _) (chain.respond_keeps _ _ (by rfl) (by rfl)))
      · exact chain.respond_keeps w _ (by rfl) (by rfl)
    · exact chain.respond_keeps w _ (by rfl) (by rfl)
  · exact chain.respond_keeps w _ (by rfl) (by rfl)

theorem removeAttribute_keeps (callId elementId : Nat) (name : String) :
    keeps [callId] w (removeAttribute prims callId elementId name w) := by
  unfold removeAttribute
  split
  · split
    · split
      · exact chain.quiet_trans (chain.attributesSet w _ _)
          (chain.quiet_trans (chain.attributeModified _ _) (chain.respond_keeps _ _ (by rfl) (by rfl)))
      · exact chain.respond_keeps w _ (by rfl) (by rfl)
    · exact chain.respond_keeps w _ (by rfl) (by rfl)
  · exact chain.respond_keeps w _ (by rfl) (by rfl)

theorem removeNode_keeps (callId nodeId : Nat)
    (site : ∀ node parent, nodeForId nodeId w.agent = some node → w.dom.parentNode node = some parent → editable parent) :
    keeps [callId] w (removeNode prims callId nodeId w) := by
  unfold removeNode
  split
  · exact chain.respond_keeps w _ (by rfl) (by rfl)
  · rename_i node found
    split
    · exact chain.respond_keeps w _ (by rfl) (by rfl)
    · rename_i parent attached
      split
      · exact chain.quiet_trans (chain.removedChild w _ _ attached (site node parent found attached))
          (chain.respond_keeps _ _ (by rfl) (by rfl))
      · exact chain.respond_keeps w _ (by rfl) (by rfl)

theorem changeTagName_keeps
    (moved : ∀ (w : World) node other, node ∈ w.dom.childNodes other → editable other → insertable w node)
    (created : ∀ oldNode tagName newElem, prims.createElement w.dom oldNode tagName = some newElem →
      editable newElem ∧ ∀ w' : World, w'.dom.nodeType = w.dom.nodeType →
        (∀ old, w'.dom.parentNode newElem = some old → w.dom.parentNode newElem = some old ∨ old = newElem) →
          insertable w' newElem)
    (callId nodeId : Nat) (tagName : String)
    (site : ∀ oldNode, nodeForId nodeId w.agent = some oldNode →
      editable oldNode ∧ ∀ parent, w.dom.parentNode oldNode = some parent → editable parent)
    {next : World} (ok : changeTagName prims callId nodeId tagName w = .ok next) : keeps [callId] w next := by
  dsimp only [changeTagName] at ok
  split at ok
  · cases ok; exact chain.respond_keeps w _ (by rfl) (by rfl)
  · rename_i oldNode found
    obtain ⟨source,upper⟩ := site oldNode found
    split at ok
    · cases ok; exact chain.respond_keeps w _ (by rfl) (by rfl)
    · split at ok
      · cases ok; exact chain.respond_keeps w _ (by rfl) (by rfl)
      · rename_i newElem creation
        obtain ⟨target,fresh⟩ := created _ _ _ creation
        obtain ⟨moved',move,ok⟩ := except_bind_success ok
        have movedKeeps := chain.quiet_trans (chain.attributesSet w newElem _)
          (chain.moveChildren_keeps prims moved _ _ source target _ move)
        have parents := moveChildren_parentNode prims _ _ _ move
        split at ok
        · cases ok
        · rename_i parent attached
          have site : editable parent := by
            rcases parents oldNode parent attached with linked | rfl
            · exact upper parent linked
            · exact target
          have inserted := chain.quiet_trans movedKeeps
            (chain.callInsertBefore_keeps prims moved' parent newElem (moved'.dom.nextSibling oldNode)
              (fresh moved' ((moveChildren_nodeType prims _ _ _ move).trans rfl) (parents newElem)) site)
          split at ok
          · cases ok; exact chain.quiet_trans inserted (chain.respond_keeps _ _ (by rfl) (by rfl))
          · obtain ⟨pushed,push,ok⟩ := except_bind_success ok
            cases ok
            have removed := chain.removedChild _ parent oldNode
              (World.callInsertBefore_parentNode prims moved' newElem (moved'.dom.nextSibling oldNode) attached) site
            exact chain.quiet_trans (chain.quiet_trans inserted removed)
              (chain.quiet_trans (chain.pushReplacement_keeps _ _ _ push) (chain.respond_keeps ⟨_,pushed.2⟩ _ (by rfl) (by rfl)))

theorem getOuterHTML_keeps (callId nodeId : Nat) : keeps [callId] w (getOuterHTML prims callId nodeId w) := by
  unfold getOuterHTML
  split
  · split <;> exact chain.respond_keeps w _ (by rfl) (by rfl)
  · exact chain.respond_keeps w _ (by rfl) (by rfl)

theorem applyOuterHTML_keeps
    (parsed : ∀ node outerHTML fragment, prims.setOuterHTML w.dom node outerHTML = some fragment →
      ∀ child ∈ fragment, ∀ (w' : World) parent, w'.dom.nodeType = w.dom.nodeType → editable parent →
        (∀ old, w'.dom.parentNode child = some old → w.dom.parentNode child = some old ∨ old = parent) →
          insertable w' child)
    (callId : Nat) (node : Node) (outerHTML : String) (site : ∀ parent, w.dom.parentNode node = some parent → editable parent) :
    keeps [] w (applyOuterHTML prims callId node (w.dom.parentNode node) outerHTML w) ∨
      keeps [callId] w (applyOuterHTML prims callId node (w.dom.parentNode node) outerHTML w) := by
  unfold applyOuterHTML
  split
  · rename_i parent fragment attached parsing
    exact .inl (chain.replaceWithFragment_keeps w _ _ _ attached (site _ attached) fun child mem w' same origins =>
      parsed _ _ _ parsing child mem w' parent same (site _ attached) origins)
  · exact .inr (chain.respond_keeps w _ (by rfl) (by rfl))

/-- After `applyOuterHTML`, whatever it answered, the handler answers once more with the node it
finds in the old one's place. -/
theorem setOuterHTML_keeps_after (callId nodeId : Nat) (outerHTML : String) {node : Node} {first : List Nat}
    (found : nodeForId nodeId w.agent = some node) (html : w.dom.isHTMLElement node = true)
    (applied : keeps first w (applyOuterHTML prims callId node (w.dom.parentNode node) outerHTML w))
    {next : World} (ok : setOuterHTML prims callId nodeId outerHTML w = .ok next) :
    keeps (first ++ [callId]) w next := by
  simp only [setOuterHTML,found,html,Bool.not_true,Bool.false_eq_true,if_false] at ok
  split at ok
  · cases ok
  · split at ok
    · cases ok
    · cases ok
      exact chain.trans (chain.trans_quiet applied (chain.pushDocumentToFrontend_keeps _ _)) (chain.respond_keeps _ _ (by rfl) (by rfl))
  · obtain ⟨pushed,push,ok⟩ := except_bind_success ok
    cases ok
    exact chain.trans (chain.trans_quiet applied (chain.pushReplacement_keeps _ _ _ push)) (chain.respond_keeps ⟨_,pushed.2⟩ _ (by rfl) (by rfl))

/-- `setOuterHTML` answers once, or twice when `applyOuterHTML` already answered. -/
theorem setOuterHTML_keeps
    (parsed : ∀ node outerHTML fragment, prims.setOuterHTML w.dom node outerHTML = some fragment →
      ∀ child ∈ fragment, ∀ (w' : World) parent, w'.dom.nodeType = w.dom.nodeType → editable parent →
        (∀ old, w'.dom.parentNode child = some old → w.dom.parentNode child = some old ∨ old = parent) →
          insertable w' child)
    (callId nodeId : Nat) (outerHTML : String)
    (site : ∀ node parent, nodeForId nodeId w.agent = some node → w.dom.parentNode node = some parent → editable parent)
    {next : World} (ok : setOuterHTML prims callId nodeId outerHTML w = .ok next) :
    keeps [callId] w next ∨ keeps [callId,callId] w next := by
  cases found : nodeForId nodeId w.agent with
  | none =>
    simp only [setOuterHTML,found] at ok
    cases ok; exact .inl (chain.respond_keeps w _ (by rfl) (by rfl))
  | some node =>
    cases html : w.dom.isHTMLElement node with
    | false =>
      simp only [setOuterHTML,found,html,Bool.not_false,if_true] at ok
      cases ok; exact .inl (chain.respond_keeps w _ (by rfl) (by rfl))
    | true =>
      rcases chain.applyOuterHTML_keeps prims w parsed callId node outerHTML
        (fun parent attached => site node parent found attached) with applied | applied
      · exact .inl (chain.setOuterHTML_keeps_after prims w callId nodeId outerHTML found html applied ok)
      · exact .inr (chain.setOuterHTML_keeps_after prims w callId nodeId outerHTML found html applied ok)

theorem getEventListenersForNode_keeps (callId nodeId : Nat) {next : World}
    (ok : getEventListenersForNode prims callId nodeId w = .ok next) : keeps [callId] w next := by
  dsimp only [getEventListenersForNode] at ok
  split at ok
  · cases ok; exact chain.respond_keeps w _ (by rfl) (by rfl)
  · split at ok
    · cases ok; exact chain.respond_keeps w _ (by rfl) (by rfl)
    · obtain ⟨built,build,rfl⟩ := except_map_success ok
      exact chain.quiet_trans (chain.pushListeners_keeps w.dom _ build) (chain.respond_keeps ⟨w.dom,built.2⟩ _ (by rfl) (by rfl))

theorem pushNodeByPathToFrontend_keeps (callId : Nat) (path : String) {next : World}
    (ok : pushNodeByPathToFrontend callId path w = .ok next) : keeps [callId] w next := by
  have found := chain.nodeForPath_keeps w.dom path w.agent
  dsimp only [pushNodeByPathToFrontend] at ok
  split at ok
  · cases ok; exact chain.quiet_trans found (chain.respond_keeps _ _ (by rfl) (by rfl))
  · obtain ⟨pushed,push,rfl⟩ := except_map_success ok
    exact chain.quiet_trans (chain.quiet_trans found (chain.pushNodePathToFrontend_keeps _ _ push))
      (chain.respond_keeps ⟨w.dom,pushed.2⟩ _ (by rfl) (by rfl))

end HandlerChain

/-- The call id of a frontend request; the other inputs answer no call. -/
def Input.callId : Input → Option Nat
  | .getChildNodes callId _ | .setAttribute callId .. | .removeAttribute callId .. | .removeNode callId _
  | .changeTagName callId .. | .getOuterHTML callId _ | .setOuterHTML callId .. | .setTextNodeValue callId ..
  | .getEventListenersForNode callId _ | .pushNodeByPathToFrontend callId _ | .getStyles callId _
  | .getAllStyles callId | .getStyleSheet callId _ | .getRuleRangesForStyleSheetId callId _
  | .getInlineStyle callId _ | .getComputedStyle callId _ | .applyStyleText callId .. | .setStyleText callId ..
  | .setStyleProperty callId .. | .toggleStyleEnabled callId .. | .setRuleSelector callId ..
  | .addRule callId .. => some callId
  | _ => none

/-- The inputs that reset the agent, or start, advance or cancel a search. -/
def Input.searches : Input → Bool
  | .setDocument _ | .performSearch .. | .searchCanceled | .matchJobsTimer => true
  | _ => false

/-- The parents an input edits, read at the world it starts from, are `editable`: the parent it
inserts into or removes from, the parent of the node it names, and for `changeTagName` that node
too, whose children it moves. -/
def Input.EditsAt (editable : Node → Prop) (w : World) : Input → Prop
  | .insertBefore parent _ _ | .removeChild parent _ => editable parent
  | .removeNode _ nodeId | .setOuterHTML _ nodeId _ | .setTextNodeValue _ nodeId _ =>
    ∀ node parent, nodeForId nodeId w.agent = some node → w.dom.parentNode node = some parent → editable parent
  | .changeTagName _ nodeId _ => ∀ node, nodeForId nodeId w.agent = some node →
    editable node ∧ ∀ parent, w.dom.parentNode node = some parent → editable parent
  | _ => True

theorem Input.editsAt_true (w : World) (input : Input) : input.EditsAt (fun _ => True) w := by
  cases input <;> simp [Input.EditsAt]

/-- Every input but `setDocument`, the search and `setTextNodeValue` is a chain of units, and
answers its call id once, but for `setOuterHTML`, which may answer twice, and `addRule`, which may
not answer. -/
theorem HandlerChain.request_keeps {editable : Node → Prop} {insertable : World → Node → Prop}
    {keeps : List Nat → World → World → Prop} (chain : HandlerChain editable insertable keeps) (env : Env)
    (moved : ∀ (w : World) node other, node ∈ w.dom.childNodes other → editable other → insertable w node)
    {w next : World}
    (created : ∀ oldNode tagName newElem, env.prims.createElement w.dom oldNode tagName = some newElem →
      editable newElem ∧ ∀ w' : World, w'.dom.nodeType = w.dom.nodeType →
        (∀ old, w'.dom.parentNode newElem = some old → w.dom.parentNode newElem = some old ∨ old = newElem) →
          insertable w' newElem)
    (parsed : ∀ node outerHTML fragment, env.prims.setOuterHTML w.dom node outerHTML = some fragment →
      ∀ child ∈ fragment, ∀ (w' : World) parent, w'.dom.nodeType = w.dom.nodeType → editable parent →
        (∀ old, w'.dom.parentNode child = some old → w.dom.parentNode child = some old ∨ old = parent) →
          insertable w' child)
    (input : Input) (quiet : input.searches = false)
    (notText : ∀ callId nodeId value, input ≠ .setTextNodeValue callId nodeId value)
    (edits : input.EditsAt editable w)
    (inserted : ∀ parent node refChild, input = .insertBefore parent node refChild → insertable w node)
    (stepped : step env w input = .ok next) :
    ∃ calls, keeps calls w next ∧ (calls = input.callId.toList ∨
      (∃ callId nodeId outerHTML, input = .setOuterHTML callId nodeId outerHTML ∧ calls = [callId,callId]) ∨
      (∃ callId selector selectedNodeId, input = .addRule callId selector selectedNodeId ∧ calls = [])) := by
  have responds : ∀ record, next = w.respond record → record.describesTree = false →
      keeps record.answeredCall.toList w next := by
    rintro record rfl unseen; exact chain.sent w record unseen
  cases input <;> cases quiet
  case getChildNodes => exact ⟨_,chain.getChildNodes_keeps w _ _ stepped,.inl rfl⟩
  case pushNodePathToFrontend =>
    obtain ⟨pushed,push,rfl⟩ := except_map_success stepped
    exact ⟨_,chain.pushNodePathToFrontend_keeps _ _ push,.inl rfl⟩
  case setAttribute => cases stepped; exact ⟨_,chain.setAttribute_keeps _ w _ _ _ _,.inl rfl⟩
  case removeAttribute => cases stepped; exact ⟨_,chain.removeAttribute_keeps _ w _ _ _,.inl rfl⟩
  case removeNode => cases stepped; exact ⟨_,chain.removeNode_keeps _ w _ _ edits,.inl rfl⟩
  case changeTagName => exact ⟨_,chain.changeTagName_keeps _ w moved created _ _ _ edits stepped,.inl rfl⟩
  case getOuterHTML => cases stepped; exact ⟨_,chain.getOuterHTML_keeps _ w _ _,.inl rfl⟩
  case setOuterHTML =>
    rcases chain.setOuterHTML_keeps _ w parsed _ _ _ edits stepped with answered | answered
    · exact ⟨_,answered,.inl rfl⟩
    · exact ⟨_,answered,.inr (.inl ⟨_,_,_,rfl,rfl⟩)⟩
  case setTextNodeValue callId nodeId value => exact absurd rfl (notText callId nodeId value)
  case getEventListenersForNode => exact ⟨_,chain.getEventListenersForNode_keeps _ w _ _ stepped,.inl rfl⟩
  case pushNodeByPathToFrontend => exact ⟨_,chain.pushNodeByPathToFrontend_keeps w _ _ stepped,.inl rfl⟩
  case addInspectedNode => cases stepped; exact ⟨[],chain.inspected w _,.inl rfl⟩
  case getStyles nodeId =>
    cases stepped; exact ⟨_,responds _ (getStyles_responds env.styles _ nodeId w).choose_spec rfl,.inl rfl⟩
  case getAllStyles => cases stepped; exact ⟨_,responds _ rfl rfl,.inl rfl⟩
  case getStyleSheet => cases stepped; exact ⟨_,responds _ rfl rfl,.inl rfl⟩
  case getRuleRangesForStyleSheetId styleSheetId =>
    cases stepped
    exact ⟨_,responds _ (getRuleRangesForStyleSheetId_responds env.styles _ styleSheetId w).choose_spec rfl,.inl rfl⟩
  case getInlineStyle nodeId =>
    cases stepped; exact ⟨_,responds _ (getInlineStyle_responds _ nodeId w).choose_spec rfl,.inl rfl⟩
  case getComputedStyle nodeId =>
    cases stepped; exact ⟨_,responds _ (getComputedStyle_responds env.styles _ nodeId w).choose_spec rfl,.inl rfl⟩
  case applyStyleText styleId styleText propertyName =>
    cases stepped
    exact ⟨_,responds _ (applyStyleText_responds env.styles _ styleId styleText propertyName w).choose_spec rfl,.inl rfl⟩
  case setStyleText styleId cssText =>
    cases stepped; exact ⟨_,responds _ (setStyleText_responds env.styles _ styleId cssText w).choose_spec rfl,.inl rfl⟩
  case setStyleProperty styleId name value =>
    cases stepped
    exact ⟨_,responds _ (setStyleProperty_responds env.styles _ styleId name value w).choose_spec rfl,.inl rfl⟩
  case toggleStyleEnabled styleId propertyName disabled =>
    cases stepped
    exact ⟨_,responds _ (toggleStyleEnabled_responds env.styles _ styleId propertyName disabled w).choose_spec rfl,
      .inl rfl⟩
  case setRuleSelector =>
    obtain ⟨_,_,answered⟩ := setRuleSelector_responds _ _ _ _ _ stepped
    exact ⟨_,responds _ answered rfl,.inl rfl⟩
  case addRule =>
    rcases addRule_responds _ _ _ _ stepped with rfl | ⟨_,_,answered⟩
    · exact ⟨[],chain.refl _,.inr (.inr ⟨_,_,_,rfl,rfl⟩)⟩
    · exact ⟨_,responds _ answered rfl,.inl rfl⟩
  case handleEvent => cases stepped; exact ⟨[],chain.handled w _,.inl rfl⟩
  case insertBefore parent node refChild =>
    cases stepped
    refine ⟨[],?_,.inl rfl⟩
    split
    · exact chain.insertedChild w _ _ _ (inserted parent node refChild rfl) edits
    · exact chain.refl w
  case removeChild =>
    cases stepped
    refine ⟨[],?_,.inl rfl⟩
    split
    · exact chain.removedChild w _ _ ‹_› edits
    · exact chain.refl w

/-- Every input but `setDocument` and the search is a chain of the handlers' updates, and answers
its call id once, but for `setOuterHTML`, which may answer twice, and `addRule`, which may not
answer. -/
theorem StepChain.step_keeps {keeps : List Nat → World → World → Prop} (chain : StepChain keeps) (env : Env)
    {w next : World} (input : Input) (quiet : input.searches = false) (stepped : step env w input = .ok next) :
    ∃ calls, keeps calls w next ∧ (calls = input.callId.toList ∨
      (∃ callId nodeId outerHTML, input = .setOuterHTML callId nodeId outerHTML ∧ calls = [callId,callId]) ∨
      (∃ callId selector selectedNodeId, input = .addRule callId selector selectedNodeId ∧ calls = [])) := by
  by_cases text : ∃ callId nodeId value, input = .setTextNodeValue callId nodeId value
  · obtain ⟨callId,nodeId,value,rfl⟩ := text
    cases stepped
    exact ⟨_,chain.setTextNodeValue_keeps env.prims w callId nodeId value,.inl rfl⟩
  · exact (chain.handlers (fun _ => True) fun _ _ => True).request_keeps env (fun _ _ _ _ _ => trivial)
      (fun _ _ _ _ => ⟨trivial,fun _ _ _ => trivial⟩) (fun _ _ _ _ _ _ _ _ _ _ _ => trivial) input quiet
      (fun callId nodeId value same => text ⟨callId,nodeId,value,same⟩) (input.editsAt_true w)
      (fun _ _ _ _ => trivial) stepped

section Search

variable {editable : Node → Prop} {insertable : World → Node → Prop} {keeps : List Nat → World → World → Prop}
  (chain : HandlerChain editable insertable keeps)
  (searched : ∀ (w : World) results jobs active, keeps [] w { w with agent :=
    { w.agent with searchResults := results, pendingMatchJobs := jobs, matchJobsTimerActive := active } })
include chain searched

theorem HandlerChain.reportEach_keeps (dom : Dom) : ∀ (nodes : List Node) {st : Agent} {result : List Nat × Agent},
    reportEach dom nodes st = .ok result → keeps [] ⟨dom,st⟩ ⟨dom,result.2⟩
  | [], _, _, ok => by cases ok; exact chain.refl _
  | node :: nodes, st, _, ok => by
    unfold reportEach at ok
    split at ok
    · exact HandlerChain.reportEach_keeps dom nodes ok
    · split at ok
      · cases ok
      · rename_i pushed
        obtain ⟨reported,report,rfl⟩ := except_map_success ok
        refine chain.quiet_trans
          (searched ⟨dom,st⟩ (st.searchResults ++ [node]) st.pendingMatchJobs st.matchJobsTimerActive) ?_
        exact chain.quiet_trans (chain.pushNodePathToFrontend_keeps dom node pushed)
          (HandlerChain.reportEach_keeps dom nodes report :)

theorem HandlerChain.reportNodesAsSearchResults_keeps (dom : Dom) (nodes : List Node) {st st' : Agent}
    (ok : reportNodesAsSearchResults dom nodes st = .ok st') : keeps [] ⟨dom,st⟩ ⟨dom,st'⟩ := by
  obtain ⟨reported,report,rfl⟩ := except_map_success ok
  exact chain.quiet_trans (chain.reportEach_keeps searched dom nodes report) (chain.send_quiet dom _ rfl rfl)

/-- The search's steps, but `setDocument`, are chains of field updates and pushes. -/
theorem HandlerChain.search_keeps (env : Env) {w next : World} (input : Input) (searches : input.searches = true)
    (notSet : ∀ doc, input ≠ .setDocument doc) (stepped : step env w input = .ok next) : keeps [] w next := by
  have canceled : ∀ w : World, keeps [] w (mapAgent w searchCanceled) := fun w => searched w [] [] false
  cases input <;> cases searches
  case setDocument doc => exact absurd rfl (notSet doc)
  case performSearch query runSynchronously =>
    obtain ⟨st,searched',rfl⟩ := except_map_success stepped
    dsimp only [performSearch] at searched'
    split at searched'
    · cases searched'
    · rename_i document _
      refine chain.quiet_trans (canceled w)
        (chain.quiet_trans (searched _ [] (matchJobs env.engines w.dom document query) false) ?_)
      split at searched'
      · obtain ⟨reported,report,rfl⟩ := except_map_success searched'
        exact chain.quiet_trans (chain.reportNodesAsSearchResults_keeps searched _ _ report) (canceled _)
      · cases searched'; exact searched _ _ _ true
  case searchCanceled => cases stepped; exact canceled w
  case matchJobsTimer =>
    change (if w.agent.matchJobsTimerActive then _ else _) = _ at stepped
    split at stepped
    · obtain ⟨st,timed,rfl⟩ := except_map_success stepped
      dsimp only [onMatchJobsTimer] at timed
      split at timed
      · cases timed; exact canceled w
      · rename_i rest _
        obtain ⟨reported,report,rfl⟩ := except_map_success timed
        refine chain.quiet_trans (searched w w.agent.searchResults rest w.agent.matchJobsTimerActive) ?_
        exact chain.quiet_trans (chain.reportNodesAsSearchResults_keeps searched _ _ report) (searched _ _ _ true)
    · cases stepped; exact chain.refl w

end Search

end InspectorDOM
