import InspectorDOM.StyleStore
import InspectorDOM.StyleSheetQueries
import InspectorDOM.Run
import Mathlib.Data.String.Basic
/-! The style handlers of `step` against the edits on the CSS store. `step` sees the CSS store
only through a `StyleEngine`, a fixed answer per style id and argument, and sends records that
carry a success flag where the agent sends a payload. Read off the store as it is when a request
comes in, the engine makes `step` send exactly the record of the full edit with its payload
dropped. The rule edits see the sheets through the engine's `ruleForId`, `addRuleFails`,
`deleteRuleFails`, `inspectorStyleSheet` and `ruleAffectsNode`; `deleteRuleFails` is constantly
false, as the loop deletes the rule at an index where the sheet holds it. -/

namespace InspectorDOM

variable {σ : Type} (decl : CSS.StyleDeclaration σ)

/-- The style engine the store answers as it is now; what the store does not hold is `base`'s. -/
def CSS.CSSStore.engine (store : CSS.CSSStore σ) (base : StyleEngine) : StyleEngine :=
  { base with
    styleForId := fun styleId => (store.styleForId styleId).isSome
    parsedLength := fun text => (decl.item (decl.parseDeclaration text)).length
    removePropertyFails := fun styleId propertyName =>
      match store.styleForId styleId with
      | some style => !(CSS.removeForEdit decl style propertyName).2
      | none => false
    setCssTextFails := fun styleId cssText =>
      match store.styleForId styleId with
      | some style => (decl.setCssText style cssText).isNone
      | none => false
    setPropertyFails := fun styleId name value =>
      match store.styleForId styleId with
      | some style => (decl.setPropertyText style name value).isNone
      | none => false
    toggleFails := fun styleId propertyName disabled =>
      match store.styleForId styleId with
      | some style => (CSS.toggle decl style ((store.disabledStyles styleId).getD ∅) propertyName disabled).2.2
      | none => false }

/-- The record of an answer: its payload dropped, the style object's presence kept as a flag. -/
def CSS.StyleAnswer.record : CSS.StyleAnswer → Record
  | .didApplyStyleText callId success _ _ => .didApplyStyleText callId success
  | .didSetStyleText callId success => .didSetStyleText callId success
  | .didSetStyleProperty callId success => .didSetStyleProperty callId success
  | .didToggleStyleEnabled callId style => .didToggleStyleEnabled callId style.isSome

def CSS.StyleInput.toInput : CSS.StyleInput → Input
  | .applyStyleText callId styleId styleText propertyName => .applyStyleText callId styleId styleText propertyName
  | .setStyleText callId styleId cssText => .setStyleText callId styleId cssText
  | .setStyleProperty callId styleId name value => .setStyleProperty callId styleId name value
  | .toggleStyleEnabled callId styleId propertyName disabled =>
    .toggleStyleEnabled callId styleId propertyName disabled

theorem applyStyleText_refines (store : CSS.CSSStore σ) (base : StyleEngine) (callId styleId : Nat)
    (styleText propertyName : String) (w : World) :
    applyStyleText (store.engine decl base) callId styleId styleText propertyName w =
      w.respond (CSS.applyStyleText decl store callId styleId styleText propertyName).2.record := by
  simp only [applyStyleText,CSS.applyStyleText,CSS.CSSStore.engine]
  cases found : store.styleForId styleId with
  | none => rfl
  | some style =>
    by_cases written : styleText = "" <;> by_cases unparsed : decl.item (decl.parseDeclaration styleText) = [] <;>
      cases removed : (CSS.removeForEdit decl style propertyName).2 <;>
      simp [written,unparsed,removed,String.isEmpty_iff,CSS.StyleAnswer.record]

theorem setStyleText_refines (store : CSS.CSSStore σ) (base : StyleEngine) (callId styleId : Nat)
    (cssText : String) (w : World) :
    setStyleText (store.engine decl base) callId styleId cssText w =
      w.respond (CSS.setStyleText decl store callId styleId cssText).2.record := by
  simp only [setStyleText,CSS.setStyleText,CSS.CSSStore.engine]
  cases store.styleForId styleId with
  | none => rfl
  | some style => cases set : decl.setCssText style cssText <;> simp [set,CSS.StyleAnswer.record]

theorem setStyleProperty_refines (store : CSS.CSSStore σ) (base : StyleEngine) (callId styleId : Nat)
    (name value : String) (w : World) :
    setStyleProperty (store.engine decl base) callId styleId name value w =
      w.respond (CSS.setStyleProperty decl store callId styleId name value).2.record := by
  simp only [setStyleProperty,CSS.setStyleProperty,CSS.CSSStore.engine]
  cases store.styleForId styleId with
  | none => rfl
  | some style => cases set : decl.setPropertyText style name value <;> simp [set,CSS.StyleAnswer.record]

theorem toggleStyleEnabled_refines (store : CSS.CSSStore σ) (base : StyleEngine) (callId styleId : Nat)
    (propertyName : String) (disabled : Bool) (w : World) :
    toggleStyleEnabled (store.engine decl base) callId styleId propertyName disabled w =
      w.respond (CSS.toggleStyleEnabled decl store callId styleId propertyName disabled).2.record := by
  simp only [toggleStyleEnabled,CSS.toggleStyleEnabled,CSS.CSSStore.engine]
  cases store.styleForId styleId with
  | none => rfl
  | some style =>
    cases raised : (CSS.toggle decl style ((store.disabledStyles styleId).getD ∅) propertyName disabled).2.2 <;>
      simp [raised,CSS.StyleAnswer.record]

/-- Every style edit `step` handles, with the engine read off the CSS store as it is, answers
with the record of the full edit on the store, its payload dropped, and changes nothing else. -/
theorem step_refines_styleStep (store : CSS.CSSStore σ) (env : Env) (w : World) (input : CSS.StyleInput) :
    step { env with styles := store.engine decl env.styles } w input.toInput =
      .ok (w.respond (CSS.styleStep decl store input).2.record) := by
  cases input with
  | applyStyleText callId styleId styleText propertyName =>
    exact congrArg Except.ok (applyStyleText_refines decl store env.styles callId styleId styleText propertyName w)
  | setStyleText callId styleId cssText =>
    exact congrArg Except.ok (setStyleText_refines decl store env.styles callId styleId cssText w)
  | setStyleProperty callId styleId name value =>
    exact congrArg Except.ok (setStyleProperty_refines decl store env.styles callId styleId name value w)
  | toggleStyleEnabled callId styleId propertyName disabled =>
    exact congrArg Except.ok (toggleStyleEnabled_refines decl store env.styles callId styleId propertyName disabled w)

/-- The rule engine the sheets answer as they are now; the rest is `base`'s. -/
def CSS.SheetStore.engine (dom : Dom) (env : CSS.RuleEnvironment) (store : CSS.SheetStore) (base : StyleEngine) :
    StyleEngine :=
  { base with
    ruleForId := fun ruleId => (store.ids.ruleForId ruleId).map fun rule => (store.sheets.parentStyleSheet rule).isSome
    inspectorStyleSheet := fun document => (env.inspectorStyleSheet document).isSome
    addRuleFails := fun selector => (env.parseSelector selector).isNone
    deleteRuleFails := fun _ => false
    ruleAffectsNode := fun selector node =>
      match env.parseSelector selector, dom.ownerDocument node with
      | some selectorText, some document =>
        match env.querySelectorAll document selectorText with
        | some nodes => nodes.contains node
        | none => false
      | _, _ => false }

def CSS.RuleAnswer.record : CSS.RuleAnswer → Record
  | .didSetRuleSelector callId rule affectsNode => .didSetRuleSelector callId rule.isSome affectsNode
  | .didAddRule callId rule affectsNode => .didAddRule callId rule.isSome affectsNode

def CSS.RuleInput.toInput : CSS.RuleInput → Input
  | .setRuleSelector callId ruleId selector selectedNodeId => .setRuleSelector callId ruleId selector selectedNodeId
  | .addRule callId selector selectedNodeId => .addRule callId selector selectedNodeId

theorem setRuleSelector_refines (store : CSS.SheetStore) (env : CSS.RuleEnvironment) (base : StyleEngine)
    (callId ruleId : Nat) (selector : String) (selectedNodeId : Nat) (w : World) :
    setRuleSelector (store.engine w.dom env base) callId ruleId selector selectedNodeId w =
      (CSS.setRuleSelector w.dom w.agent env store callId ruleId selector selectedNodeId).map
        fun edited => w.respond edited.2.record := by
  simp only [setRuleSelector,CSS.setRuleSelector,CSS.SheetStore.engine]
  cases store.ids.ruleForId ruleId with
  | none => rfl
  | some rule =>
    simp only [Option.map_some']
    cases store.sheets.parentStyleSheet rule with
    | none => rfl
    | some styleSheet =>
      cases parsed : env.parseSelector selector with
      | none => simp [CSS.Sheets.addRule,parsed,Except.map,CSS.RuleAnswer.record]
      | some selectorText =>
        obtain ⟨edited,deleted,selectors⟩ := @CSS.Sheets.deleteFirst_eq_some
          (store.sheets.appendRule styleSheet selectorText (store.sheets.styleText rule)) styleSheet rule
        simp only [CSS.Sheets.addRule,parsed,Option.map_some',deleted,CSS.Sheets.appendRule_getLast]
        cases nodeForId selectedNodeId w.agent with
        | none => rfl
        | some node =>
          cases owner : w.dom.ownerDocument node with
          | none => simp [CSS.describeNewRule,CSS.ruleAffectsNode,owner,Except.map]
          | some document =>
            have named : edited.selectorText store.sheets.nextRule = selectorText := by simp [selectors]
            cases found : env.querySelectorAll document selectorText <;>
              simp [CSS.describeNewRule,CSS.ruleAffectsNode,owner,Except.map,CSS.RuleAnswer.record,named,found]

theorem addRule_refines (store : CSS.SheetStore) (env : CSS.RuleEnvironment) (base : StyleEngine) (callId : Nat)
    (selector : String) (selectedNodeId : Nat) (w : World) :
    addRule (store.engine w.dom env base) callId selector selectedNodeId w =
      (CSS.addRule w.dom w.agent env store callId selector selectedNodeId).map
        fun added => added.2.elim w fun answer => w.respond answer.record := by
  simp only [addRule,CSS.addRule,CSS.SheetStore.engine]
  cases nodeForId selectedNodeId w.agent with
  | none => rfl
  | some node =>
    cases sheet : env.inspectorStyleSheet (w.dom.ownerDocument node) with
    | none => simp [sheet,Except.map]
    | some styleSheet =>
      cases parsed : env.parseSelector selector with
      | none => simp [sheet,CSS.Sheets.addRule,parsed,Except.map,CSS.RuleAnswer.record]
      | some selectorText =>
        simp only [sheet,CSS.Sheets.addRule,parsed,Option.map_some',CSS.Sheets.appendRule_getLast]
        cases owner : w.dom.ownerDocument node with
        | none => simp [CSS.describeNewRule,CSS.ruleAffectsNode,owner,Except.map]
        | some document =>
          cases found : env.querySelectorAll document selectorText <;>
            simp [CSS.describeNewRule,CSS.ruleAffectsNode,owner,Except.map,CSS.RuleAnswer.record,found]

/-- Every rule edit `step` handles, with the engine read off the sheets as they are, faults where
the full edit on the sheets faults, and otherwise sends the record of its answer, or nothing when
it does not answer. -/
theorem step_refines_ruleStep (store : CSS.SheetStore) (ruleEnv : CSS.RuleEnvironment) (env : Env) (w : World)
    (input : CSS.RuleInput) :
    step { env with styles := store.engine w.dom ruleEnv env.styles } w input.toInput =
      (CSS.ruleStep w.dom w.agent ruleEnv store input).map
        fun stepped => stepped.2.elim w fun answer => w.respond answer.record := by
  cases input with
  | setRuleSelector callId ruleId selector selectedNodeId =>
    show setRuleSelector (store.engine w.dom ruleEnv env.styles) callId ruleId selector selectedNodeId w = _
    rw [setRuleSelector_refines,CSS.ruleStep]
    cases CSS.setRuleSelector w.dom w.agent ruleEnv store callId ruleId selector selectedNodeId <;> rfl
  | addRule callId selector selectedNodeId => exact addRule_refines store ruleEnv env.styles callId selector selectedNodeId w

/-- The record of a rule query's answer: its objects dropped, whether `getStyles` describes an
element kept as a flag; `getStyleSheet` answers with an object either way. -/
def CSS.SheetAnswer.record : CSS.SheetAnswer → Record
  | .didGetStyles callId styles => .didGetStyles callId styles.isSome
  | .didGetAllStyles callId _ => .didGetAllStyles callId
  | .didGetStyleSheet callId _ => .didGetStyleSheet callId true

def CSS.SheetQuery.toInput : CSS.SheetQuery → Input
  | .getStyles callId nodeId _ => .getStyles callId nodeId
  | .getAllStyles callId => .getAllStyles callId
  | .getStyleSheet callId styleSheetId => .getStyleSheet callId styleSheetId

/-- The style engine that answers `hasDefaultView` as the sheet environment does. -/
def CSS.SheetEnvironment.engine (sheetEnv : CSS.SheetEnvironment) (base : StyleEngine) : StyleEngine :=
  { base with hasDefaultView := fun _ node => sheetEnv.hasDefaultView node }

/-- Every rule query `step` handles sends the record of the full query's answer, from any rule
ids and sheets: `step` drops the objects and the bindings, and answers `getStyles` with a style
object exactly where the full query does. -/
theorem step_refines_sheetStep (ruleEnv : CSS.RuleEnvironment) (sheetEnv : CSS.SheetEnvironment) (sheets : CSS.Sheets)
    (ids : CSS.RuleIds) (env : Env) (w : World) (query : CSS.SheetQuery) :
    step { env with styles := sheetEnv.engine env.styles } w query.toInput =
      .ok (w.respond (CSS.sheetStep w.dom w.agent ruleEnv sheetEnv sheets query ids).1.record) := by
  cases query with
  | getStyles callId nodeId authorOnly =>
    show Except.ok (getStyles (sheetEnv.engine env.styles) callId nodeId w) = _
    simp only [getStyles,CSS.sheetStep,CSS.getStyles,CSS.SheetEnvironment.engine]
    cases nodeForId nodeId w.agent with
    | none => rfl
    | some node =>
      by_cases element : w.dom.nodeType node = .element <;> cases view : sheetEnv.hasDefaultView node <;>
        simp [element,view,CSS.SheetAnswer.record]
  | getAllStyles callId => rfl
  | getStyleSheet callId styleSheetId =>
    show Except.ok (getStyleSheet callId w) = _
    rw [CSS.sheetStep,CSS.getStyleSheet_eq]
    rfl

end InspectorDOM
