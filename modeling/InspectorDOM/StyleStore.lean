import InspectorDOM.StyleDeclaration
import Mathlib.Data.List.AList
/-! The CSS store as the style edits use it, and the edits. The store binds styles to ids and
keeps, per style id, a `DisabledStyleDeclaration`: the value and priority each property had
when the frontend disabled it. `applyStyleText`, `setStyleText`, `setStyleProperty` and
`toggleStyleEnabled` edit the bound style in place; the store then holds the edited style
under the same id. -/

namespace InspectorDOM.CSS

/-- `DisabledStyleDeclaration`: `HashMap<String, PropertyValueAndPriority>`. -/
abbrev DisabledStyleDeclaration := AList fun _ : String => String × String

/-- What the edits read of the CSS store: `styleForId`, `disabledStyleForId(id, false)`, and
the id `bindStyleSheet` gives the parent style sheet of a bound style. -/
@[ext] structure CSSStore (σ : Type) where
  styleForId : Nat → Option σ
  disabledStyles : Nat → Option DisabledStyleDeclaration
  parentStyleSheetId : Nat → Option Nat

namespace CSSStore

variable {σ : Type}

def setStyle (store : CSSStore σ) (styleId : Nat) (style : σ) : CSSStore σ :=
  { store with styleForId := Function.update store.styleForId styleId (some style) }

def setDisabled (store : CSSStore σ) (styleId : Nat) (disabledStyle : Option DisabledStyleDeclaration) :
    CSSStore σ :=
  { store with disabledStyles := Function.update store.disabledStyles styleId disabledStyle }

@[simp] theorem setStyle_styleForId (store : CSSStore σ) (styleId : Nat) (style : σ) :
    (store.setStyle styleId style).styleForId = Function.update store.styleForId styleId (some style) := rfl

@[simp] theorem setStyle_disabledStyles (store : CSSStore σ) (styleId : Nat) (style : σ) :
    (store.setStyle styleId style).disabledStyles = store.disabledStyles := rfl

@[simp] theorem setStyle_parentStyleSheetId (store : CSSStore σ) (styleId : Nat) (style : σ) :
    (store.setStyle styleId style).parentStyleSheetId = store.parentStyleSheetId := rfl

@[simp] theorem setDisabled_styleForId (store : CSSStore σ) (styleId : Nat)
    (disabledStyle : Option DisabledStyleDeclaration) :
    (store.setDisabled styleId disabledStyle).styleForId = store.styleForId := rfl

@[simp] theorem setDisabled_disabledStyles (store : CSSStore σ) (styleId : Nat)
    (disabledStyle : Option DisabledStyleDeclaration) :
    (store.setDisabled styleId disabledStyle).disabledStyles =
      Function.update store.disabledStyles styleId disabledStyle := rfl

@[simp] theorem setDisabled_parentStyleSheetId (store : CSSStore σ) (styleId : Nat)
    (disabledStyle : Option DisabledStyleDeclaration) :
    (store.setDisabled styleId disabledStyle).parentStyleSheetId = store.parentStyleSheetId := rfl

end CSSStore

variable {σ : Type} (decl : StyleDeclaration σ)

/-- The object pushed for one disabled property. -/
structure DisabledPropertyDesc where
  name : String
  value : String
  priority : String
deriving DecidableEq, Repr

def buildArrayForDisabledStyleProperties (declaration : DisabledStyleDeclaration) :
    List DisabledPropertyDesc :=
  declaration.entries.map fun entry => ⟨entry.1,entry.2.1,entry.2.2⟩

/-- The object `buildObjectForStyle` builds. -/
structure StyleDesc where
  id : Option Nat
  parentStyleSheetId : Option Nat
  disabled : Option (List DisabledPropertyDesc)
  width : String
  height : String
  properties : List PropertyDesc
  shorthandValues : List (String × String)
deriving DecidableEq, Repr

/-- `buildObjectForStyle(style, bind)`, with `bound` the id `cssStore()->bindStyle(style)` gives
when `bind` holds: an edited style is the store's own, bound to the id it was found under. -/
def buildObjectForStyle (store : CSSStore σ) (style : σ) (bound : Option Nat) : StyleDesc :=
  let populated := populateObjectWithStyleProperties decl style
  { id := bound
    parentStyleSheetId := bound.bind store.parentStyleSheetId
    disabled := (bound.bind store.disabledStyles).map buildArrayForDisabledStyleProperties
    width := decl.getPropertyValue style "width"
    height := decl.getPropertyValue style "height"
    properties := populated.1
    shorthandValues := populated.2 }

/-- What the style edits send: the `did…` answer with its payload. -/
inductive StyleAnswer where
  | didApplyStyleText (callId : Nat) (success : Bool) (style : Option StyleDesc)
      (changedProperties : List String)
  | didSetStyleText (callId : Nat) (success : Bool)
  | didSetStyleProperty (callId : Nat) (success : Bool)
  | didToggleStyleEnabled (callId : Nat) (style : Option StyleDesc)
deriving DecidableEq, Repr

/-- `style->removeProperty` on each name in turn while no exception code is raised: the style
after the removals made, and whether none raised. -/
def removeProperties (style : σ) : List String → σ × Bool
  | [] => (style,true)
  | name :: names =>
    match decl.removeProperty style name with
    | none => (style,false)
    | some style => removeProperties style names

/-- The removal of `applyStyleText`: the longhands of `propertyName` when it is no longhand
itself, then `propertyName`, up to the first exception code. -/
def removeForEdit (style : σ) (propertyName : String) : σ × Bool :=
  removeProperties decl style
    ((if decl.getPropertyShorthand style propertyName = "" then longhandProperties decl style propertyName
      else []) ++ [propertyName])

/-- What the loop of `applyStyleText` carries: the real style, its disabled properties,
`foundShorthands` and `changedProperties`. -/
structure Applied (σ : Type) where
  style : σ
  disabledStyle : Option DisabledStyleDeclaration
  foundShorthands : List String
  changedProperties : List String

/-- The end of a turn of the loop: `name` is set on the real style, the exception code not
being looked at, loses its disabled entry and is listed as changed. -/
def applyProperty (applied : Applied σ) (name value priority : String) : Applied σ :=
  { applied with
    style := (decl.setProperty applied.style name value priority).getD applied.style
    disabledStyle := applied.disabledStyle.map (AList.erase name)
    changedProperties := applied.changedProperties ++ [name] }

/-- One turn of the loop over the parsed properties: a property whose shorthand was met before
is skipped; a property with a shorthand sets the shorthand, to `shorthandValue` with
`shorthandPriority`; any other property sets itself. -/
def applyStep (tempStyle : σ) (applied : Applied σ) (name : String) : Applied σ :=
  let shorthand := decl.getPropertyShorthand tempStyle name
  if shorthand ≠ "" ∧ shorthand ∈ applied.foundShorthands then applied else
  if shorthand ≠ "" then
    applyProperty decl { applied with foundShorthands := shorthand :: applied.foundShorthands } shorthand
      (shorthandValue decl tempStyle shorthand) (shorthandPriority decl tempStyle shorthand)
  else applyProperty decl applied name (decl.getPropertyValue tempStyle name)
    (decl.getPropertyPriority tempStyle name)

/-- The disabled entry of `propertyName` goes first. Parsable text, or none at all, then removes
the property (with its longhands); no text answers with `propertyName` alone, unparsable text
fails, and parsed text is set property by property. -/
def applyStyleText (store : CSSStore σ) (callId styleId : Nat) (styleText propertyName : String) :
    CSSStore σ × StyleAnswer :=
  match store.styleForId styleId with
  | none => (store,.didApplyStyleText callId false none [])
  | some style =>
    let disabledStyle := (store.disabledStyles styleId).map (AList.erase propertyName)
    let tempStyle := decl.parseDeclaration styleText
    let removed := if decl.item tempStyle ≠ [] ∨ styleText = "" then removeForEdit decl style propertyName
      else (style,true)
    let edited := (store.setStyle styleId removed.1).setDisabled styleId disabledStyle
    if !removed.2 then (edited,.didApplyStyleText callId false none []) else
    if styleText = "" then (edited,.didApplyStyleText callId true none [propertyName]) else
    if decl.item tempStyle = [] then (edited,.didApplyStyleText callId false none []) else
    let applied := (decl.item tempStyle).foldl (applyStep decl tempStyle) ⟨removed.1,disabledStyle,[],[]⟩
    let store := (store.setStyle styleId applied.style).setDisabled styleId applied.disabledStyle
    (store,.didApplyStyleText callId true (some (buildObjectForStyle decl store applied.style (some styleId)))
      applied.changedProperties)

def setStyleText (store : CSSStore σ) (callId styleId : Nat) (cssText : String) :
    CSSStore σ × StyleAnswer :=
  match store.styleForId styleId with
  | none => (store,.didSetStyleText callId false)
  | some style =>
    match decl.setCssText style cssText with
    | none => (store,.didSetStyleText callId false)
    | some style => (store.setStyle styleId style,.didSetStyleText callId true)

def setStyleProperty (store : CSSStore σ) (callId styleId : Nat) (name value : String) :
    CSSStore σ × StyleAnswer :=
  match store.styleForId styleId with
  | none => (store,.didSetStyleProperty callId false)
  | some style =>
    match decl.setPropertyText style name value with
    | none => (store,.didSetStyleProperty callId false)
    | some style => (store.setStyle styleId style,.didSetStyleProperty callId true)

/-- The edit of `toggleStyleEnabled`: the style, its disabled properties, and whether an
exception code was raised. Disabling saves the property's value and priority, then removes it;
enabling a saved property sets it back and forgets it. -/
def toggle (style : σ) (disabledStyle : DisabledStyleDeclaration) (propertyName : String)
    (disabled : Bool) : σ × DisabledStyleDeclaration × Bool :=
  if disabled then
    let disabledStyle := disabledStyle.insert propertyName
      (decl.getPropertyValue style propertyName,decl.getPropertyPriority style propertyName)
    match decl.removeProperty style propertyName with
    | none => (style,disabledStyle,true)
    | some style => (style,disabledStyle,false)
  else
    match disabledStyle.lookup propertyName with
    | none => (style,disabledStyle,false)
    | some (value,priority) =>
      match decl.setProperty style propertyName value priority with
      | none => (style,disabledStyle,true)
      | some style => (style,disabledStyle.erase propertyName,false)

/-- `disabledStyleForId(styleId, true)` makes the style's disabled properties exist, empty if
there were none, before the edit. -/
def toggleStyleEnabled (store : CSSStore σ) (callId styleId : Nat) (propertyName : String)
    (disabled : Bool) : CSSStore σ × StyleAnswer :=
  match store.styleForId styleId with
  | none => (store,.didToggleStyleEnabled callId none)
  | some style =>
    let toggled := toggle decl style ((store.disabledStyles styleId).getD ∅) propertyName disabled
    let store := (store.setStyle styleId toggled.1).setDisabled styleId (some toggled.2.1)
    if toggled.2.2 then (store,.didToggleStyleEnabled callId none)
    else (store,.didToggleStyleEnabled callId (some (buildObjectForStyle decl store toggled.1 (some styleId))))

inductive StyleInput where
  | applyStyleText (callId styleId : Nat) (styleText propertyName : String)
  | setStyleText (callId styleId : Nat) (cssText : String)
  | setStyleProperty (callId styleId : Nat) (name value : String)
  | toggleStyleEnabled (callId styleId : Nat) (propertyName : String) (disabled : Bool)
deriving DecidableEq, Repr

def styleStep (store : CSSStore σ) : StyleInput → CSSStore σ × StyleAnswer
  | .applyStyleText callId styleId styleText propertyName =>
    applyStyleText decl store callId styleId styleText propertyName
  | .setStyleText callId styleId cssText => setStyleText decl store callId styleId cssText
  | .setStyleProperty callId styleId name value => setStyleProperty decl store callId styleId name value
  | .toggleStyleEnabled callId styleId propertyName disabled =>
    toggleStyleEnabled decl store callId styleId propertyName disabled

/-- The store after a run of style edits, and the answers sent, in order. -/
def styleRun : CSSStore σ → List StyleInput → CSSStore σ × List StyleAnswer
  | store, [] => (store,[])
  | store, input :: inputs =>
    let rest := styleRun (styleStep decl store input).1 inputs
    (rest.1,(styleStep decl store input).2 :: rest.2)

end InspectorDOM.CSS
