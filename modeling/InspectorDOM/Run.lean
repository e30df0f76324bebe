import InspectorDOM.Styles

/-! Runs of the agent: every entry point the frontend, the timer and the tree call, and the
tree's own insertions and removals, each reported to the agent as it happens. -/

namespace InspectorDOM

inductive Input where
  | setDocument (doc : Option Node)
  | getChildNodes (callId nodeId : Nat)
  | pushNodePathToFrontend (node : Node)
  | setAttribute (callId elementId : Nat) (name value : String)
  | removeAttribute (callId elementId : Nat) (name : String)
  | removeNode (callId nodeId : Nat)
  | changeTagName (callId nodeId : Nat) (tagName : String)
  | getOuterHTML (callId nodeId : Nat)
  | setOuterHTML (callId nodeId : Nat) (outerHTML : String)
  | setTextNodeValue (callId nodeId : Nat) (value : String)
  | getEventListenersForNode (callId nodeId : Nat)
  | pushNodeByPathToFrontend (callId : Nat) (path : String)
  | addInspectedNode (nodeId : Nat)
  | getStyles (callId nodeId : Nat)
  | getAllStyles (callId : Nat)
  | getStyleSheet (callId styleSheetId : Nat)
  | getRuleRangesForStyleSheetId (callId styleSheetId : Nat)
  | getInlineStyle (callId nodeId : Nat)
  | getComputedStyle (callId nodeId : Nat)
  | applyStyleText (callId styleId : Nat) (styleText propertyName : String)
  | setStyleText (callId styleId : Nat) (cssText : String)
  | setStyleProperty (callId styleId : Nat) (name value : String)
  | toggleStyleEnabled (callId styleId : Nat) (propertyName : String) (disabled : Bool)
  | setRuleSelector (callId ruleId : Nat) (selector : String) (selectedNodeId : Nat)
  | addRule (callId : Nat) (selector : String) (selectedNodeId : Nat)
  | performSearch (query : String) (runSynchronously : Bool)
  | searchCanceled
  | matchJobsTimer
  | handleEvent (event : Event)
  | insertBefore (parent node : Node) (refChild : Option Node)
  | removeChild (parent node : Node)

/-- The agent's collaborators: the tree's primitives, the documents' query engines and the
CSS store. -/
structure Env where
  prims : Primitives
  engines : Engines
  styles : StyleEngine

/-- Primitives that accept every edit, and create and parse nothing. -/
def Primitives.accepting : Primitives where
  setAttribute _ _ _ _ := true
  removeAttribute _ _ _ := true
  removeChild _ _ _ := true
  appendChild _ _ _ := true
  insertBefore _ _ _ _ := true
  replaceWholeText _ _ _ := true
  createElement _ _ _ := none
  setOuterHTML _ _ _ := none
  outerHTML _ _ := ""
  eventListeners _ _ := none
  eventAncestors _ _ := []

/-- Query engines that find nothing. -/
def Engines.empty : Engines where
  isValidName _ := true
  getElementById _ _ _ := none
  getElementsByClassName _ _ _ := []
  getElementsByName _ _ _ := []
  querySelectorAll _ _ _ := none
  evaluate _ _ _ := none

/-- A CSS store that finds every style and sheet, holds no rules, and refuses no edit. -/
def StyleEngine.accepting : StyleEngine where
  hasDefaultView _ _ := true
  styleForId _ := true
  styleSheetForId _ := none
  hasRuleRanges _ := true
  ruleForId _ := none
  inspectorStyleSheet _ := true
  parsedLength _ := 0
  removePropertyFails _ _ := false
  setCssTextFails _ _ := false
  setPropertyFails _ _ _ := false
  toggleFails _ _ _ := false
  addRuleFails _ := false
  deleteRuleFails _ := false
  ruleAffectsNode _ _ := false

/-- The environment of the concrete runs below and in the modules that follow. -/
def Env.accepting : Env := ⟨Primitives.accepting,Engines.empty,StyleEngine.accepting⟩

namespace Dom

variable (dom : Dom)

/-- `node` or one of its ancestors, within `fuel` parent links. -/
def isInclusiveAncestor (node : Node) : Nat → Node → Bool
  | 0, _ => false
  | fuel + 1, other =>
    other = node || match dom.parentNode other with
      | some parent => isInclusiveAncestor node fuel parent
      | none => false

/-- What `insertBefore` checks before it edits: the tree stays a tree, and `refChild` is a
child of `parent`. -/
def canInsert (parent node : Node) (refChild : Option Node) : Bool :=
  !dom.isInclusiveAncestor node (dom.size + 1) parent &&
    refChild.all fun refChild => dom.parentNode refChild = some parent && refChild ≠ node

end Dom

def mapAgent (w : World) (f : Agent → Agent) : World := { w with agent := f w.agent }

def step (env : Env) (w : World) : Input → Except Fault World
  | .setDocument doc => .ok (mapAgent w (setDocument w.dom doc))
  | .getChildNodes callId nodeId => getChildNodes callId nodeId w
  | .pushNodePathToFrontend node =>
    (pushNodePathToFrontend w.dom node w.agent).map fun pushed => { w with agent := pushed.2 }
  | .setAttribute callId elementId name value => .ok (setAttribute env.prims callId elementId name value w)
  | .removeAttribute callId elementId name => .ok (removeAttribute env.prims callId elementId name w)
  | .removeNode callId nodeId => .ok (removeNode env.prims callId nodeId w)
  | .changeTagName callId nodeId tagName => changeTagName env.prims callId nodeId tagName w
  | .getOuterHTML callId nodeId => .ok (getOuterHTML env.prims callId nodeId w)
  | .setOuterHTML callId nodeId outerHTML => setOuterHTML env.prims callId nodeId outerHTML w
  | .setTextNodeValue callId nodeId value => .ok (setTextNodeValue env.prims callId nodeId value w)
  | .getEventListenersForNode callId nodeId => getEventListenersForNode env.prims callId nodeId w
  | .pushNodeByPathToFrontend callId path => pushNodeByPathToFrontend callId path w
  | .addInspectedNode nodeId => .ok (mapAgent w (addInspectedNode nodeId))
  | .getStyles callId nodeId => .ok (getStyles env.styles callId nodeId w)
  | .getAllStyles callId => .ok (getAllStyles callId w)
  | .getStyleSheet callId _ => .ok (getStyleSheet callId w)
  | .getRuleRangesForStyleSheetId callId styleSheetId =>
    .ok (getRuleRangesForStyleSheetId env.styles callId styleSheetId w)
  | .getInlineStyle callId nodeId => .ok (getInlineStyle callId nodeId w)
  | .getComputedStyle callId nodeId => .ok (getComputedStyle env.styles callId nodeId w)
  | .applyStyleText callId styleId styleText propertyName =>
    .ok (applyStyleText env.styles callId styleId styleText propertyName w)
  | .setStyleText callId styleId cssText => .ok (setStyleText env.styles callId styleId cssText w)
  | .setStyleProperty callId styleId name value =>
    .ok (setStyleProperty env.styles callId styleId name value w)
  | .toggleStyleEnabled callId styleId propertyName disabled =>
    .ok (toggleStyleEnabled env.styles callId styleId propertyName disabled w)
  | .setRuleSelector callId ruleId selector selectedNodeId =>
    setRuleSelector env.styles callId ruleId selector selectedNodeId w
  | .addRule callId selector selectedNodeId => addRule env.styles callId selector selectedNodeId w
  | .performSearch query runSynchronously =>
    (performSearch env.engines w.dom query runSynchronously w.agent).map fun st => { w with agent := st }
  | .searchCanceled => .ok (mapAgent w searchCanceled)
  | .matchJobsTimer =>
    if w.agent.matchJobsTimerActive
    then (onMatchJobsTimer env.engines w.dom w.agent).map fun st => { w with agent := st }
    else .ok w
  | .handleEvent event => .ok (mapAgent w (handleEvent w.dom event))
  | .insertBefore parent node refChild =>
    .ok (if w.dom.canInsert parent node refChild then w.insertBefore parent node refChild else w)
  | .removeChild parent node =>
    .ok (if w.dom.parentNode node = some parent then w.removeChild parent node else w)

/-- The agent as constructed, observing `dom`. -/
def World.initial (dom : Dom) : World := ⟨dom,inspectorDOMAgent⟩

inductive Reachable (env : Env) (dom : Dom) : World → Prop
  | initial : Reachable env dom (World.initial dom)
  | step {w next : World} (input : Input) (reachable : Reachable env dom w)
      (stepped : step env w input = .ok next) : Reachable env dom next

def run (env : Env) (w : World) (inputs : List Input) : Except Fault World :=
  inputs.foldlM (step env) w

theorem reachable_run (env : Env) (dom : Dom) {w next : World} (inputs : List Input)
    (reachable : Reachable env dom w) (ran : run env w inputs = .ok next) :
    Reachable env dom next := by
  induction inputs generalizing w with
  | nil => cases ran; exact reachable
  | cons input inputs ih =>
    simp only [run,List.foldlM_cons] at ran
    cases stepped : step env w input with
    | error fault => simp [stepped] at ran; cases ran
    | ok middle =>
      rw [stepped] at ran
      exact ih (.step input reachable stepped) ran

/-- A document with `HTML` and `BODY`, and a comment not yet in the tree. -/
def bodyTree : Dom :=
  Dom.ofNodes [(.document,none,""),(.element,some 0,"HTML"),(.element,some 1,"BODY"),(.comment,none,"note")] []

end InspectorDOM
