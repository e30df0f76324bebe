import InspectorDOM.StyleRuleEdits
/-! The queries that describe rules: `getStyles` the rules that match an element, its pseudo
elements and each of its parent elements, `getAllStyles` every CSS sheet of every document the
agent listens to, and `getStyleSheet` one sheet by id. Every rule object is built by
`buildObjectForRule`, which binds an editable rule to an id: the queries write the rule ids the
rule edits read. The style objects of `getStyles` and the style ids they bind are left out. -/

namespace InspectorDOM.CSS

def ListedRule (sheets : Sheets) : Type := {rule : Nat // ∃ styleSheet, rule ∈ sheets.cssRules styleSheet}

/-- What the queries read of WebCore beyond the sheets' rules. -/
structure SheetEnvironment where
  /-- `Document::styleSheets()`, in order. -/
  styleSheets : Node → List Nat
  isCSSStyleSheet : Nat → Bool
  /-- `CSSRule::isStyleRule()`, that is `type() == CSSRule::STYLE_RULE`. -/
  isStyleRule : Nat → Bool
  disabled : Nat → Bool
  title : Nat → String
  /-- `CSSStyleSheet::doc()`. -/
  doc : Nat → Option Node
  /-- `InspectorCSSStore::styleSheetForId`. -/
  styleSheetForId : Nat → Option Nat
  /-- `node->ownerDocument()->defaultView()` is not null. -/
  hasDefaultView : Node → Bool
  /-- `CSSStyleSelector::styleRulesForElement(element, authorOnly)`, in cascade order: rules of the
  sheets as they are. -/
  styleRulesForElement : (sheets : Sheets) → Node → Bool → List (ListedRule sheets)
  /-- `CSSStyleSelector::pseudoStyleRulesForElement(element, pseudoId, authorOnly)`. -/
  pseudoStyleRulesForElement : (sheets : Sheets) → Node → Nat → Bool → List (ListedRule sheets)
  /-- The pseudo ids from `FIRST_PUBLIC_PSEUDOID` up to `AFTER_LAST_INTERNAL_PSEUDOID`. -/
  pseudoIds : List Nat

/-- The object `buildObjectForStyleSheet` builds. The sheet's id is its handle, as in the rule
objects' `parentStyleSheet`. -/
structure StyleSheetDesc where
  id : Nat
  disabled : Bool
  href : String
  title : String
  documentElementId : Nat
  cssRules : List RuleDesc
deriving DecidableEq, Repr

structure PseudoStylesDesc where
  pseudoId : Nat
  rules : List RuleDesc
deriving DecidableEq, Repr

/-- The object `getStyles` answers with, without its style objects. -/
structure StylesDesc where
  matchedCSSRules : List RuleDesc
  pseudoElements : List PseudoStylesDesc
  /-- The matched rules of the nested `parent` objects, nearest parent element first. -/
  parents : List (List RuleDesc)
deriving DecidableEq, Repr

/-- The loop `for (...) result->push(build(item))` of the payload builders, the rule ids each
build binds passed on to the next. -/
def bindEach {β α : Type} (build : β → RuleIds → α × RuleIds) : List β → RuleIds → List α × RuleIds
  | [], ids => ([],ids)
  | item :: items, ids =>
    let built := build item ids
    let rest := bindEach build items built.2
    (built.1 :: rest.1,rest.2)

/-- `parentElement()` followed up the tree, within `fuel` links: the ancestors up to the first that
is not an element. -/
def parentElements (dom : Dom) : Nat → Node → List Node
  | 0, _ => []
  | fuel + 1, node =>
    match dom.parentNode node with
    | some parent => if dom.nodeType parent = .element then parent :: parentElements dom fuel parent else []
    | none => []

section Queries

variable (dom : Dom) (st : Agent) (env : RuleEnvironment) (sheetEnv : SheetEnvironment) (sheets : Sheets)

/-- The style rules among the rules, each described as `buildObjectForRule` does; also the loop of
`buildObjectForStyleSheet` over the sheet's rules. -/
def buildArrayForCSSRules (ownerDocument : Option Node) (matchedRules : List Nat) (ids : RuleIds) :
    List RuleDesc × RuleIds :=
  bindEach (fun rule ids => buildObjectForRule dom env sheets ids ownerDocument rule)
    (matchedRules.filter sheetEnv.isStyleRule) ids

/-- `documentElementId` is the live id of the sheet's document. -/
def buildObjectForStyleSheet (ownerDocument : Option Node) (styleSheet : Nat) (ids : RuleIds) :
    StyleSheetDesc × RuleIds :=
  let cssRules := buildArrayForCSSRules dom env sheetEnv sheets ownerDocument (sheets.cssRules styleSheet) ids
  ({ id := styleSheet
     disabled := sheetEnv.disabled styleSheet
     href := env.href styleSheet
     title := sheetEnv.title styleSheet
     documentElementId := match sheetEnv.doc styleSheet with
       | some document => st.documentNodeToIdMap document
       | none => 0
     cssRules := cssRules.1 },cssRules.2)

/-- One pass of the loop of `buildArrayForPseudoElements`: the rules of the pseudo element, when
any match. -/
def buildPseudoElement (element : Node) (authorOnly : Bool) (pseudoId : Nat) (ids : RuleIds) :
    Option PseudoStylesDesc × RuleIds :=
  let matchedRules := sheetEnv.pseudoStyleRulesForElement sheets element pseudoId authorOnly
  if matchedRules.isEmpty then (none,ids)
  else
    let rules := buildArrayForCSSRules dom env sheetEnv sheets (dom.ownerDocument element)
      (matchedRules.map Subtype.val) ids
    (some ⟨pseudoId,rules.1⟩,rules.2)

/-- A pseudo element that no rule matches is left out. -/
def buildArrayForPseudoElements (element : Node) (authorOnly : Bool) (ids : RuleIds) : List PseudoStylesDesc × RuleIds :=
  let built := bindEach (buildPseudoElement dom env sheetEnv sheets element authorOnly) sheetEnv.pseudoIds ids
  (built.1.filterMap id,built.2)

/-- The matched rules of one element, as `getStyles` describes them for the element and for each
parent element. -/
def buildMatchedRules (element : Node) (authorOnly : Bool) (ids : RuleIds) : List RuleDesc × RuleIds :=
  buildArrayForCSSRules dom env sheetEnv sheets (dom.ownerDocument element)
    ((sheetEnv.styleRulesForElement sheets element authorOnly).map Subtype.val) ids

inductive SheetAnswer where
  /-- `null` when the node is not an element or its document has no view. -/
  | didGetStyles (callId : Nat) (styles : Option StylesDesc)
  | didGetAllStyles (callId : Nat) (styleSheets : List StyleSheetDesc)
  /-- Without the sheet or its document the answer is an empty object. -/
  | didGetStyleSheet (callId : Nat) (styleSheet : Option StyleSheetDesc)
deriving DecidableEq, Repr

def getStyles (callId nodeId : Nat) (authorOnly : Bool) (ids : RuleIds) : SheetAnswer × RuleIds :=
  match nodeForId nodeId st with
  | some node =>
    if dom.nodeType node ≠ .element then (.didGetStyles callId none,ids)
    else if !sheetEnv.hasDefaultView node then (.didGetStyles callId none,ids)
    else
      let matched := buildMatchedRules dom env sheetEnv sheets node authorOnly ids
      let pseudoElements := buildArrayForPseudoElements dom env sheetEnv sheets node authorOnly matched.2
      let parents := bindEach (fun parent => buildMatchedRules dom env sheetEnv sheets parent authorOnly)
        (parentElements dom dom.size node) pseudoElements.2
      (.didGetStyles callId (some ⟨matched.1,pseudoElements.1,parents.1⟩),parents.2)
  | none => (.didGetStyles callId none,ids)

def getAllStyles (callId : Nat) (ids : RuleIds) : SheetAnswer × RuleIds :=
  let built := bindEach (fun document => bindEach (buildObjectForStyleSheet dom st env sheetEnv sheets (some document))
    ((sheetEnv.styleSheets document).filter sheetEnv.isCSSStyleSheet)) st.documents ids
  (.didGetAllStyles callId built.1.flatten,built.2)

def getStyleSheet (callId styleSheetId : Nat) (ids : RuleIds) : SheetAnswer × RuleIds :=
  match sheetEnv.styleSheetForId styleSheetId with
  | some styleSheet =>
    match sheetEnv.doc styleSheet with
    | some document =>
      let built := buildObjectForStyleSheet dom st env sheetEnv sheets (some document) styleSheet ids
      (.didGetStyleSheet callId (some built.1),built.2)
    | none => (.didGetStyleSheet callId none,ids)
  | none => (.didGetStyleSheet callId none,ids)

inductive SheetQuery where
  | getStyles (callId nodeId : Nat) (authorOnly : Bool)
  | getAllStyles (callId : Nat)
  | getStyleSheet (callId styleSheetId : Nat)
deriving DecidableEq, Repr

def sheetStep : SheetQuery → RuleIds → SheetAnswer × RuleIds
  | .getStyles callId nodeId authorOnly => getStyles dom st env sheetEnv sheets callId nodeId authorOnly
  | .getAllStyles callId => getAllStyles dom st env sheetEnv sheets callId
  | .getStyleSheet callId styleSheetId => getStyleSheet dom st env sheetEnv sheets callId styleSheetId

def sheetRun (queries : List SheetQuery) (ids : RuleIds) : List SheetAnswer × RuleIds :=
  bindEach (sheetStep dom st env sheetEnv sheets) queries ids

end Queries

inductive StyleRequest where
  | edit (input : RuleInput)
  | query (query : SheetQuery)
deriving DecidableEq, Repr

section Requests

variable (dom : Dom) (st : Agent) (env : RuleEnvironment) (sheetEnv : SheetEnvironment)

def styleRequestStep (store : SheetStore) : StyleRequest → Except Fault (SheetStore × Option (RuleAnswer ⊕ SheetAnswer))
  | .edit input => (ruleStep dom st env store input).map fun stepped => (stepped.1,stepped.2.map Sum.inl)
  | .query query =>
    let answered := sheetStep dom st env sheetEnv store.sheets query store.ids
    .ok (⟨store.sheets,answered.2⟩,some (.inr answered.1))

/-- The requests one after another, with the answers sent; a fault ends the run. -/
def styleRequestRun : SheetStore → List StyleRequest → Except Fault (SheetStore × List (RuleAnswer ⊕ SheetAnswer))
  | store, [] => .ok (store,[])
  | store, request :: rest =>
    match styleRequestStep dom st env sheetEnv store request with
    | .error fault => .error fault
    | .ok stepped => (styleRequestRun stepped.1 rest).map fun ran => (ran.1,stepped.2.toList ++ ran.2)

end Requests

/-- The sample sheet of two rules, read as the document's one CSS sheet, with the agent listening to
the document. The selector matches the `H1` with the sheet's `h1` rules, and its pseudo element
4 with the `p` rules. -/
def sampleSheetEnvironment : SheetEnvironment where
  styleSheets _ := [0]
  isCSSStyleSheet _ := true
  isStyleRule _ := true
  disabled _ := false
  title _ := ""
  doc _ := some 0
  styleSheetForId styleSheetId := if styleSheetId = 0 then some 0 else none
  hasDefaultView _ := true
  styleRulesForElement sheets element _ :=
    ((sheets.cssRules 0).attach.filter fun rule => element = 3 && sheets.selectorText rule.1 = "h1").map
      fun rule => ⟨rule.1,0,rule.2⟩
  pseudoStyleRulesForElement sheets element pseudoId _ :=
    ((sheets.cssRules 0).attach.filter fun rule => element = 3 && pseudoId = 4 && sheets.selectorText rule.1 = "p").map
      fun rule => ⟨rule.1,0,rule.2⟩
  pseudoIds := List.range 12

def sheetAgent : Agent := startListening 0 ruleAgent

end InspectorDOM.CSS
