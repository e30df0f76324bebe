import InspectorDOM.Run

/-! The frontend's view of the tree, rebuilt from the records the agent sent it: the child
list it holds for each id, the child count it last heard for each id, and whether the last
record about an id's children carried them. This is what the agent's records are for, and what
the mirror compares with the tree. -/

namespace InspectorDOM

mutual

/-- A description and, recursively, every description in its children array. -/
def Desc.described : Desc → List Desc
  | .mk id nodeType nodeName localName nodeValue count children attributes url docType =>
    .mk id nodeType nodeName localName nodeValue count children attributes url docType ::
      Desc.describedList children

def Desc.describedList : List Desc → List Desc
  | [] => []
  | desc :: descs => desc.described ++ Desc.describedList descs

end

/-- `childNodeInserted(parentId, prevId, …)`: the new id goes right after `prevId`, or first
when `prevId` is 0 (and last when the list does not hold `prevId`). -/
def insertAfter (prevId id : Nat) : List Nat → List Nat
  | [] => [id]
  | other :: rest => if other = prevId then other :: id :: rest else other :: insertAfter prevId id rest

def childInserted (prevId id : Nat) (ids : List Nat) : List Nat :=
  if prevId = 0 then id :: ids else insertAfter prevId id ids

/-- The records that change the frontend's view of the tree; answers and search results do not. -/
def Record.describesTree : Record → Bool
  | .setDocument _ | .setChildNodes .. | .childNodeCountUpdated .. | .childNodeInserted ..
  | .childNodeRemoved .. | .setDetachedRoot _ => true
  | _ => false

structure Observer where
  children : Nat → List Nat
  childCount : Nat → Option Nat
  carriesChildren : Nat → Bool

def Observer.empty : Observer := ⟨fun _ => [],fun _ => none,fun _ => false⟩

namespace Observer

/-- What one description tells: the node's child count, and whether its children came along. -/
def learn (observer : Observer) (desc : Desc) : Observer :=
  { observer with
    childCount := Function.update observer.childCount desc.id desc.childNodeCount
    carriesChildren := Function.update observer.carriesChildren desc.id !desc.children.isEmpty }

def learnAll (observer : Observer) (descs : List Desc) : Observer :=
  (Desc.describedList descs).foldl learn observer

def receive (observer : Observer) : Record → Observer
  | .setDocument root => Observer.empty.learnAll root.toList
  | .setChildNodes parentId children =>
    let observer := observer.learnAll children
    { observer with
      children := Function.update observer.children parentId (children.map Desc.id)
      carriesChildren := Function.update observer.carriesChildren parentId true }
  | .childNodeCountUpdated id count =>
    { observer with childCount := Function.update observer.childCount id (some count) }
  | .childNodeInserted parentId prevId child =>
    let observer := observer.learnAll [child]
    let ids := childInserted prevId child.id (observer.children parentId)
    { observer with children := Function.update observer.children parentId ids }
  | .childNodeRemoved parentId id =>
    let ids := (observer.children parentId).erase id
    { observer with children := Function.update observer.children parentId ids }
  | .setDetachedRoot root => observer.learnAll [root]
  | _ => observer

theorem receive_quiet (observer : Observer) {record : Record} (quiet : record.describesTree = false) :
    observer.receive record = observer := by
  cases record <;> first | rfl | cases quiet

end Observer

/-- The frontend after every record the agent sent. -/
def Agent.observer (st : Agent) : Observer := st.frontend.foldl Observer.receive Observer.empty

/-- The ids of `node`'s visible children in the live map; 0 for an unbound child. -/
def World.liveChildIds (w : World) (node : Node) : List Nat :=
  (w.dom.innerChildren node).map w.agent.documentNodeToIdMap

end InspectorDOM
