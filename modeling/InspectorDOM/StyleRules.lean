import InspectorDOM.Describe
/-! The style sheets as the rule edits see them. A sheet is the list of its rules; a rule is an
object the agent tells apart by its address, here a handle, with the selector and the style text
it was made from and a pointer back to its sheet. `setRuleSelector` gives a rule a new selector
by adding a copy of the rule under that selector to its sheet and deleting the original;
`addRule` adds an empty rule to the inspector's own sheet of the selected node's document. Both
answer with the object `buildObjectForRule` builds for the new rule, which binds an editable
rule to an id, and with whether the new selector matches the selected node. -/

namespace InspectorDOM.CSS

/-- What the rule edits read of WebCore beyond the sheets' rules. -/
structure RuleEnvironment where
  /-- The selector text of the rule the parser makes of `selector { style }`; none when the
  selector does not parse, where `CSSStyleSheet::addRule` raises `SYNTAX_ERR`. -/
  parseSelector : String → Option String
  /-- `Document::querySelectorAll(selectors, ec)`: the nodes that match; none when it raises. -/
  querySelectorAll : Node → String → Option (List Node)
  /-- `InspectorCSSStore::inspectorStyleSheet`: the sheet the inspector adds rules to in a
  document; none when it cannot be made. -/
  inspectorStyleSheet : Option Node → Option Nat
  /-- `CSSStyleSheet::ownerNode()` and `href()`, by sheet. -/
  ownerNode : Nat → Option Node
  href : Nat → String

/-- The rule objects of the open sheets. -/
@[ext] structure Sheets where
  /-- `CSSStyleSheet::item(i)`: the rules of each sheet, in order. -/
  cssRules : Nat → List Nat
  /-- `CSSRule::parentStyleSheet()`, cleared when the rule is deleted from its sheet. -/
  parentStyleSheet : Nat → Option Nat
  selectorText : Nat → String
  /-- `rule->style()->cssText()`. -/
  styleText : Nat → String
  /-- The handle the next rule object is made under. -/
  nextRule : Nat

/-- The rule ids `InspectorCSSStore` has handed out: `m_idToRule`, `m_ruleToId`, and the id
`bindRule` hands out next. -/
@[ext] structure RuleIds where
  ruleForId : Nat → Option Nat
  ruleToId : Nat → Option Nat
  lastRuleId : Nat

@[ext] structure SheetStore where
  sheets : Sheets
  ids : RuleIds

namespace Sheets

/-- A new rule object with that selector text and style, at the end of the sheet. -/
@[simps] def appendRule (sheets : Sheets) (styleSheet : Nat) (selectorText style : String) : Sheets where
  cssRules := Function.update sheets.cssRules styleSheet (sheets.cssRules styleSheet ++ [sheets.nextRule])
  parentStyleSheet := Function.update sheets.parentStyleSheet sheets.nextRule (some styleSheet)
  selectorText := Function.update sheets.selectorText sheets.nextRule selectorText
  styleText := Function.update sheets.styleText sheets.nextRule style
  nextRule := sheets.nextRule + 1

/-- `CSSStyleSheet::addRule(selector, style, ec)`: the rule made of `selector { style }` appended;
none when the selector does not parse and the call raises. -/
def addRule (env : RuleEnvironment) (sheets : Sheets) (styleSheet : Nat) (selector style : String) :
    Option Sheets :=
  (env.parseSelector selector).map fun selectorText => sheets.appendRule styleSheet selectorText style

/-- `CSSStyleSheet::deleteRule(index, ec)`: the rule at `index` taken out of the sheet and its
parent cleared; none past the end, where the call raises `INDEX_SIZE_ERR`. -/
def deleteRule (sheets : Sheets) (styleSheet index : Nat) : Option Sheets :=
  (sheets.cssRules styleSheet)[index]?.map fun rule =>
    { sheets with
      cssRules := Function.update sheets.cssRules styleSheet ((sheets.cssRules styleSheet).eraseIdx index)
      parentStyleSheet := Function.update sheets.parentStyleSheet rule none }

/-- The rule deleted at the first index at which the sheet holds it: the loop
`for (i = 0; i < styleSheet->length(); ++i) if (styleSheet->item(i) == rule)` deletes it. -/
def deleteFirst (sheets : Sheets) (styleSheet rule : Nat) : Option Sheets :=
  match (sheets.cssRules styleSheet).indexOf? rule with
  | some i => sheets.deleteRule styleSheet i
  | none => some sheets

end Sheets

/-- `InspectorCSSStore::bindRule`: the rule's id, a new one when it has none. -/
def RuleIds.bindRule (ids : RuleIds) (rule : Nat) : Nat × RuleIds :=
  match ids.ruleToId rule with
  | some id => (id,ids)
  | none =>
    (ids.lastRuleId,
      { ruleForId := Function.update ids.ruleForId ids.lastRuleId (some rule)
        ruleToId := Function.update ids.ruleToId rule (some ids.lastRuleId)
        lastRuleId := ids.lastRuleId + 1 })

/-- The object `buildObjectForRule` builds, without the rule's `cssText`, its source line and its
style object. -/
structure RuleDesc where
  selectorText : String
  documentURL : String
  /-- The parent sheet's `href` and id. -/
  parentStyleSheet : Option (String × Nat)
  isUserAgent : Bool
  isUser : Bool
  isViaInspector : Bool
  id : Option Nat
deriving DecidableEq, Repr

/-- A rule of a sheet with neither an owner node nor an `href` comes with the user agent; one of a
sheet a document owns is the user's. Only the others are bound to an id. -/
def buildObjectForRule (dom : Dom) (env : RuleEnvironment) (sheets : Sheets) (ids : RuleIds)
    (ownerDocument : Option Node) (rule : Nat) : RuleDesc × RuleIds :=
  let parentStyleSheet := sheets.parentStyleSheet rule
  let isUserAgent := parentStyleSheet.any fun sheet => (env.ownerNode sheet).isNone && (env.href sheet).isEmpty
  let isUser := parentStyleSheet.any fun sheet => (env.ownerNode sheet).any fun owner => dom.nodeName owner == "#document"
  let bind := !isUserAgent && !isUser
  let bound := if bind then (some (ids.bindRule rule).1,(ids.bindRule rule).2) else (none,ids)
  ({ selectorText := sheets.selectorText rule
     documentURL := documentURLString dom ownerDocument
     parentStyleSheet := parentStyleSheet.map fun sheet => (env.href sheet,sheet)
     isUserAgent := isUserAgent
     isUser := isUser
     isViaInspector := parentStyleSheet == env.inspectorStyleSheet ownerDocument
     id := bound.1 },bound.2)

/-- Whether the node is among those the rule's selector matches in the node's document. -/
def ruleAffectsNode (dom : Dom) (env : RuleEnvironment) (sheets : Sheets) (rule : Nat) :
    Option Node → Except Fault Bool
  | none => .ok false
  | some node =>
    match dom.ownerDocument node with
    | none => .error .nullDereference
    | some document =>
      .ok (match env.querySelectorAll document (sheets.selectorText rule) with
        | some nodes => nodes.contains node
        | none => false)

/-- The answer's payload for the new rule: `buildObjectForRule(node->ownerDocument(), newRule)`
and `ruleAffectsNode(newRule, node)`, both of which dereference the node. -/
def describeNewRule (dom : Dom) (env : RuleEnvironment) (sheets : Sheets) (ids : RuleIds) (node : Option Node)
    (newRule : Nat) : Except Fault (RuleDesc × RuleIds × Bool) :=
  match node with
  | none => .error .nullDereference
  | some node =>
    (ruleAffectsNode dom env sheets newRule (some node)).map fun affectsNode =>
      let built := buildObjectForRule dom env sheets ids (dom.ownerDocument node) newRule
      (built.1,built.2,affectsNode)

inductive RuleAnswer where
  | didSetRuleSelector (callId : Nat) (rule : Option RuleDesc) (affectsNode : Bool)
  | didAddRule (callId : Nat) (rule : Option RuleDesc) (affectsNode : Bool)
deriving DecidableEq, Repr

def setRuleSelector (dom : Dom) (st : Agent) (env : RuleEnvironment) (store : SheetStore) (callId ruleId : Nat)
    (selector : String) (selectedNodeId : Nat) : Except Fault (SheetStore × RuleAnswer) :=
  match store.ids.ruleForId ruleId with
  | none => .ok (store,.didSetRuleSelector callId none false)
  | some rule =>
    let node := nodeForId selectedNodeId st
    match store.sheets.parentStyleSheet rule with
    | none => .error .nullDereference
    | some styleSheet =>
      match store.sheets.addRule env styleSheet selector (store.sheets.styleText rule) with
      | none => .ok (store,.didSetRuleSelector callId none false)
      | some added =>
        let newRule := (added.cssRules styleSheet).getLast?
        match added.deleteFirst styleSheet rule, newRule with
        | none, _ => .ok ({ store with sheets := added },.didSetRuleSelector callId none false)
        | some _, none => .error .nullDereference
        | some edited, some newRule =>
          (describeNewRule dom env edited store.ids node newRule).map fun described =>
            (⟨edited,described.2.1⟩,.didSetRuleSelector callId (some described.1) described.2.2)

/-- Without an inspector sheet the request ends with no answer. -/
def addRule (dom : Dom) (st : Agent) (env : RuleEnvironment) (store : SheetStore) (callId : Nat)
    (selector : String) (selectedNodeId : Nat) : Except Fault (SheetStore × Option RuleAnswer) :=
  match nodeForId selectedNodeId st with
  | none => .ok (store,some (.didAddRule callId none false))
  | some node =>
    match env.inspectorStyleSheet (dom.ownerDocument node) with
    | none => .ok (store,none)
    | some styleSheet =>
      match store.sheets.addRule env styleSheet selector "" with
      | none => .ok (store,some (.didAddRule callId none false))
      | some added =>
        match (added.cssRules styleSheet).getLast? with
        | none => .error .nullDereference
        | some newRule =>
          (describeNewRule dom env added store.ids (some node) newRule).map fun described =>
            (⟨added,described.2.1⟩,some (.didAddRule callId (some described.1) described.2.2))

inductive RuleInput where
  | setRuleSelector (callId ruleId : Nat) (selector : String) (selectedNodeId : Nat)
  | addRule (callId : Nat) (selector : String) (selectedNodeId : Nat)
deriving DecidableEq, Repr

def ruleStep (dom : Dom) (st : Agent) (env : RuleEnvironment) (store : SheetStore) :
    RuleInput → Except Fault (SheetStore × Option RuleAnswer)
  | .setRuleSelector callId ruleId selector selectedNodeId =>
    (setRuleSelector dom st env store callId ruleId selector selectedNodeId).map fun edited => (edited.1,some edited.2)
  | .addRule callId selector selectedNodeId => addRule dom st env store callId selector selectedNodeId

/-- The edits one after another, with the answers sent; a fault ends the run. -/
def ruleRun (dom : Dom) (st : Agent) (env : RuleEnvironment) :
    SheetStore → List RuleInput → Except Fault (SheetStore × List RuleAnswer)
  | store, [] => .ok (store,[])
  | store, input :: rest =>
    match ruleStep dom st env store input with
    | .error fault => .error fault
    | .ok stepped => (ruleRun dom st env stepped.1 rest).map fun ran => (ran.1,stepped.2.toList ++ ran.2)

end InspectorDOM.CSS
