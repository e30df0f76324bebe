import InspectorDOM.Agent

/-! The description builder: `buildObjectForNode` binds a node and serializes it, with its
visible children down to `depth` levels; at depth 0 a container still carries its children
when it has exactly one visible child and that child is a text node. -/

namespace InspectorDOM

/-- How a call ends when it does not return: `Node*` null dereferenced, or a loop that makes
no progress. -/
inductive Fault where
  | nullDereference
  | endlessLoop
  deriving DecidableEq, Repr

def documentURLString (dom : Dom) : Option Node → String
  | some document => dom.url document
  | none => ""

def buildArrayForElementAttributes (dom : Dom) (element : Node) : List String :=
  (dom.attributes element).flatMap fun pair => [pair.1, pair.2]

/-- The `nodeName`, `localName` and `nodeValue` strings, chosen by node type. -/
def nameFields (dom : Dom) (node : Node) : String × String × String :=
  match dom.nodeType node with
  | .text | .comment => ("", "", dom.nodeValue node)
  | .attribute => ("", dom.localName node, "")
  | .documentFragment => ("", "", "")
  | _ => (dom.nodeName node, dom.localName node, "")

def documentURLField (dom : Dom) (node : Node) : Option String :=
  match dom.nodeType node with
  | .element => if dom.isFrameOwnerElement node
      then some (documentURLString dom (dom.contentDocument node)) else none
  | .document => some (documentURLString dom (some node))
  | _ => none

def docTypeField (dom : Dom) (node : Node) : Option (String × String × String) :=
  if dom.nodeType node = .documentType
  then some (dom.publicId node, dom.systemId node, dom.internalSubset node) else none

/-- Runs `f` on each node in order, threading the agent: the shape of the agent's
`for (child = innerFirstChild(..); child; child = innerNextSibling(child))` loops. -/
def collect {α : Type} (f : Node → Agent → α × Agent) : List Node → Agent → List α × Agent
  | [], st => ([], st)
  | node :: nodes, st =>
    let first := f node st
    let rest := collect f nodes first.2
    (first.1 :: rest.1, rest.2)

theorem collect_length {α : Type} (f : Node → Agent → α × Agent) :
    ∀ nodes st, (collect f nodes st).1.length = nodes.length
  | [], _ => rfl
  | _ :: nodes, _ => congrArg Nat.succ (collect_length f nodes _)

/-- `buildObjectForNode` with the children array left to `children`. -/
def buildObjectWith (dom : Dom) (node : Node) (nodesMap : MapRef)
    (children : Agent → List Desc × Agent) (st : Agent) : Desc × Agent :=
  let bound := bind node nodesMap st
  let names := nameFields dom node
  let nodeType := dom.nodeType node
  if nodeType.isContainer then
    let built := children (listen dom node bound.2)
    (.mk bound.1 nodeType names.1 names.2.1 names.2.2 (some (dom.innerChildNodeCount node)) built.1
      (if nodeType = .element then some (buildArrayForElementAttributes dom node) else none)
      (documentURLField dom node) none, built.2)
  else
    (.mk bound.1 nodeType names.1 names.2.1 names.2.2 none [] none none (docTypeField dom node),
      bound.2)

def buildArrayForContainerChildren (dom : Dom) : Node → Nat → MapRef → Agent → List Desc × Agent
  | container, 0, nodesMap, st =>
    let st := listen dom container st
    if dom.innerChildNodeCount container = 1 then
      match dom.innerFirstChild container with
      | some child =>
        if dom.nodeType child = .text then
          let built := buildObjectWith dom child nodesMap (fun st => ([], st)) (listen dom container st)
          ([built.1], built.2)
        else ([], listen dom container st)
      | none => ([], listen dom container st)
    else ([], st)
  | container, depth + 1, nodesMap, st =>
    collect (fun child => buildObjectWith dom child nodesMap
        (buildArrayForContainerChildren dom child depth nodesMap))
      (dom.innerChildren container) (listen dom container st)

def buildObjectForNode (dom : Dom) (node : Node) (depth : Nat) (nodesMap : MapRef)
    (st : Agent) : Desc × Agent :=
  buildObjectWith dom node nodesMap (buildArrayForContainerChildren dom node depth nodesMap) st

theorem buildArrayForContainerChildren_succ (dom : Dom) (container : Node) (depth : Nat)
    (nodesMap : MapRef) (st : Agent) :
    buildArrayForContainerChildren dom container (depth + 1) nodesMap st =
      collect (fun child => buildObjectForNode dom child depth nodesMap)
        (dom.innerChildren container) (listen dom container st) := rfl

/-- Below depth 0, a container's description carries one child per visible child. -/
theorem buildObjectForNode_children_length (dom : Dom) (node : Node) (depth : Nat) (nodesMap : MapRef)
    (st : Agent) (container : (dom.nodeType node).isContainer) :
    (buildObjectForNode dom node (depth + 1) nodesMap st).1.children.length = dom.innerChildNodeCount node := by
  simp only [buildObjectForNode,buildObjectWith,container,if_true,Desc.children,
    buildArrayForContainerChildren_succ,collect_length,Dom.innerChildNodeCount]

/-- Every builder is a chain of `bind` and `listen` calls, so a reflexive and transitive relation
between states that one `bind` and one `listen` keep holds across a whole build. -/
structure BuildChain (dom : Dom) (nodesMap : MapRef) (keeps : Agent → Agent → Prop) : Prop where
  refl : ∀ st, keeps st st
  trans : ∀ {st st' st''}, keeps st st' → keeps st' st'' → keeps st st''
  bound : ∀ node st, keeps st (bind node nodesMap st).2
  listened : ∀ node st, keeps st (listen dom node st)

namespace BuildChain

variable {dom : Dom} {nodesMap : MapRef} {keeps : Agent → Agent → Prop}
  (chain : BuildChain dom nodesMap keeps)
include chain

theorem collect {α : Type} {f : Node → Agent → α × Agent} (each : ∀ node st, keeps st (f node st).2) :
    ∀ nodes st, keeps st (InspectorDOM.collect f nodes st).2
  | [], st => chain.refl st
  | node :: nodes, st => chain.trans (each node st) (collect each nodes _)

theorem buildObjectWith (node : Node) {children : Agent → List Desc × Agent}
    (built : ∀ st, keeps st (children st).2) (st : Agent) :
    keeps st (InspectorDOM.buildObjectWith dom node nodesMap children st).2 := by
  dsimp only [InspectorDOM.buildObjectWith]
  split
  · exact chain.trans (chain.bound node st) (chain.trans (chain.listened node _) (built _))
  · exact chain.bound node st

theorem buildArrayForContainerChildren :
    ∀ depth container st, keeps st (InspectorDOM.buildArrayForContainerChildren dom container depth nodesMap st).2
  | 0, container, st => by
    have twice := chain.trans (chain.listened container st) (chain.listened container _)
    simp only [InspectorDOM.buildArrayForContainerChildren]
    split
    · split
      · split
        · exact chain.trans twice (chain.buildObjectWith _ chain.refl _)
        · exact twice
      · exact twice
    · exact chain.listened container st
  | depth + 1, container, st =>
    chain.trans (chain.listened container st) (chain.collect
      (fun child => chain.buildObjectWith child (buildArrayForContainerChildren depth child)) _ _)

theorem buildObjectForNode (node : Node) (depth : Nat) (st : Agent) :
    keeps st (InspectorDOM.buildObjectForNode dom node depth nodesMap st).2 :=
  chain.buildObjectWith node (chain.buildArrayForContainerChildren depth node) st

end BuildChain

theorem documents_bind (node : Node) (nodesMap : MapRef) (st : Agent) :
    (bind node nodesMap st).2.documents = st.documents := by
  unfold bind
  split
  · rfl
  · cases nodesMap <;> rfl

theorem Agent.documents_ne_nil_of_main {st st' : Agent} (main : st'.mainFrameDocument = st.mainFrameDocument)
    (listening : st.documents ≠ []) : st'.documents ≠ [] := by
  have present : st'.documents.head? ≠ none := by
    rw [← Agent.mainFrameDocument,main,Agent.mainFrameDocument,Ne,List.head?_eq_none_iff]; exact listening
  exact fun empty => present (by rw [empty]; rfl)

/-- `startListening` appends, so `listen` keeps the main document once there is one. -/
theorem listen_mainFrameDocument (dom : Dom) (node : Node) {st : Agent} (listening : st.documents ≠ []) :
    (listen dom node st).mainFrameDocument = st.mainFrameDocument := by
  unfold listen startListening
  split
  · split
    · rfl
    · exact List.head?_append_of_ne_nil _ listening
  · rfl

/-- The builders keep the main document once there is one. -/
theorem mainChain (dom : Dom) (nodesMap : MapRef) :
    BuildChain dom nodesMap fun st st' => st.documents ≠ [] → st'.mainFrameDocument = st.mainFrameDocument where
  refl _ _ := rfl
  trans first second listening :=
    (second (Agent.documents_ne_nil_of_main (first listening) listening)).trans (first listening)
  bound node st _ := by simp only [Agent.mainFrameDocument,documents_bind]
  listened node _ listening := listen_mainFrameDocument dom node listening

/-- A map on states that commutes with `bind`, keeping the id it returns, and with `listen`
commutes with every builder: the builders neither read nor write what such a map changes. -/
structure BuildNatural (dom : Dom) (nodesMap : MapRef) (f : Agent → Agent) : Prop where
  bound : ∀ node st, bind node nodesMap (f st) = ((bind node nodesMap st).1, f (bind node nodesMap st).2)
  listened : ∀ node st, listen dom node (f st) = f (listen dom node st)

namespace BuildNatural

variable {dom : Dom} {nodesMap : MapRef} {f : Agent → Agent} (natural : BuildNatural dom nodesMap f)
include natural

omit natural in
theorem collect {α : Type} {g : Node → Agent → α × Agent}
    (each : ∀ node st, g node (f st) = ((g node st).1, f (g node st).2)) :
    ∀ nodes st, InspectorDOM.collect g nodes (f st) =
      ((InspectorDOM.collect g nodes st).1, f (InspectorDOM.collect g nodes st).2)
  | [], _ => rfl
  | node :: nodes, st => by simp only [InspectorDOM.collect,each,collect each nodes]

theorem buildObjectWith (node : Node) {children : Agent → List Desc × Agent}
    (built : ∀ st, children (f st) = ((children st).1, f (children st).2)) (st : Agent) :
    InspectorDOM.buildObjectWith dom node nodesMap children (f st) =
      ((InspectorDOM.buildObjectWith dom node nodesMap children st).1,
        f (InspectorDOM.buildObjectWith dom node nodesMap children st).2) := by
  dsimp only [InspectorDOM.buildObjectWith]
  split <;> simp only [natural.bound,natural.listened,built]

theorem buildArrayForContainerChildren : ∀ depth container st,
    InspectorDOM.buildArrayForContainerChildren dom container depth nodesMap (f st) =
      ((InspectorDOM.buildArrayForContainerChildren dom container depth nodesMap st).1,
        f (InspectorDOM.buildArrayForContainerChildren dom container depth nodesMap st).2)
  | 0, container, st => by
    simp only [InspectorDOM.buildArrayForContainerChildren,natural.listened]
    split
    · split
      · split
        · rw [natural.buildObjectWith _ (fun _ => rfl)]
        · rfl
      · rfl
    · rfl
  | depth + 1, container, st => by
    simp only [InspectorDOM.buildArrayForContainerChildren,natural.listened]
    exact BuildNatural.collect (fun child => natural.buildObjectWith child (buildArrayForContainerChildren depth child)) _ _

theorem buildObjectForNode (node : Node) (depth : Nat) (st : Agent) :
    InspectorDOM.buildObjectForNode dom node depth nodesMap (f st) =
      ((InspectorDOM.buildObjectForNode dom node depth nodesMap st).1,
        f (InspectorDOM.buildObjectForNode dom node depth nodesMap st).2) :=
  natural.buildObjectWith node (natural.buildArrayForContainerChildren depth node) st

end BuildNatural

end InspectorDOM
