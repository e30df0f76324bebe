import InspectorDOM.Path

/-! The style requests. Their payloads come from the CSS store and the style declarations;
what is modelled is where each handler branches on them, what it answers, and which pointers
it dereferences on the way. -/

namespace InspectorDOM

/-- What the CSS store and the style objects answer where the handlers branch. -/
structure StyleEngine where
  hasDefaultView : Dom → Node → Bool
  styleForId : Nat → Bool
  /-- The sheet with this id, and whether it has a document. -/
  styleSheetForId : Nat → Option Bool
  hasRuleRanges : Nat → Bool
  /-- The rule with this id, and whether it has a parent style sheet. -/
  ruleForId : Nat → Option Bool
  /-- `inspectorStyleSheet(ownerDocument, true, callId)` is not null. -/
  inspectorStyleSheet : Option Node → Bool
  parsedLength : String → Nat
  removePropertyFails : Nat → String → Bool
  setCssTextFails : Nat → String → Bool
  setPropertyFails : Nat → String → String → Bool
  toggleFails : Nat → String → Bool → Bool
  addRuleFails : String → Bool
  deleteRuleFails : Nat → Bool
  ruleAffectsNode : String → Node → Bool

def getStyles (engine : StyleEngine) (callId nodeId : Nat) (w : World) : World :=
  match nodeForId nodeId w.agent with
  | some node =>
    if w.dom.nodeType node ≠ .element then w.respond (.didGetStyles callId false)
    else w.respond (.didGetStyles callId (engine.hasDefaultView w.dom node))
  | none => w.respond (.didGetStyles callId false)

theorem getStyles_responds (engine : StyleEngine) (callId nodeId : Nat) (w : World) :
    ∃ found, getStyles engine callId nodeId w = w.respond (.didGetStyles callId found) := by
  unfold getStyles
  split
  · split <;> exact ⟨_,rfl⟩
  · exact ⟨_,rfl⟩

def getAllStyles (callId : Nat) (w : World) : World := w.respond (.didGetAllStyles callId)

/-- Without a sheet or its document the answer is an empty object: still a value. -/
def getStyleSheet (callId : Nat) (w : World) : World := w.respond (.didGetStyleSheet callId true)

def getRuleRangesForStyleSheetId (engine : StyleEngine) (callId styleSheetId : Nat) (w : World) :
    World :=
  match engine.styleSheetForId styleSheetId with
  | some true => w.respond (.didGetStyleSheet callId true)
  | _ => w.respond (.didGetStyleSheet callId false)

theorem getRuleRangesForStyleSheetId_responds (engine : StyleEngine) (callId styleSheetId : Nat)
    (w : World) : ∃ found, getRuleRangesForStyleSheetId engine callId styleSheetId w =
      w.respond (.didGetStyleSheet callId found) := by
  unfold getRuleRangesForStyleSheetId
  split <;> exact ⟨_,rfl⟩

def getInlineStyle (callId nodeId : Nat) (w : World) : World :=
  match nodeForId nodeId w.agent with
  | some node => w.respond (.didGetInlineStyle callId (w.dom.nodeType node = .element))
  | none => w.respond (.didGetInlineStyle callId false)

theorem getInlineStyle_responds (callId nodeId : Nat) (w : World) :
    ∃ found, getInlineStyle callId nodeId w = w.respond (.didGetInlineStyle callId found) := by
  unfold getInlineStyle
  split <;> exact ⟨_,rfl⟩

def getComputedStyle (engine : StyleEngine) (callId nodeId : Nat) (w : World) : World :=
  match nodeForId nodeId w.agent with
  | some node =>
    if w.dom.nodeType node ≠ .element then w.respond (.didGetComputedStyle callId false)
    else w.respond (.didGetComputedStyle callId (engine.hasDefaultView w.dom node))
  | none => w.respond (.didGetComputedStyle callId false)

theorem getComputedStyle_responds (engine : StyleEngine) (callId nodeId : Nat) (w : World) :
    ∃ found, getComputedStyle engine callId nodeId w = w.respond (.didGetComputedStyle callId found) := by
  unfold getComputedStyle
  split
  · split <;> exact ⟨_,rfl⟩
  · exact ⟨_,rfl⟩

/-- Parsable text, or none at all, first removes the property; an empty text is then the
answer, unparsable text a failure, and otherwise the parsed properties are set. -/
def applyStyleText (engine : StyleEngine) (callId styleId : Nat) (styleText propertyName : String)
    (w : World) : World :=
  if !engine.styleForId styleId then w.respond (.didApplyStyleText callId false) else
  let parsed := engine.parsedLength styleText
  if (parsed ≠ 0 || styleText.isEmpty) && engine.removePropertyFails styleId propertyName
  then w.respond (.didApplyStyleText callId false) else
  if styleText.isEmpty then w.respond (.didApplyStyleText callId true) else
  if parsed = 0 then w.respond (.didApplyStyleText callId false) else
  w.respond (.didApplyStyleText callId true)

theorem applyStyleText_responds (engine : StyleEngine) (callId styleId : Nat)
    (styleText propertyName : String) (w : World) :
    ∃ success, applyStyleText engine callId styleId styleText propertyName w =
      w.respond (.didApplyStyleText callId success) := by
  dsimp only [applyStyleText]
  split_ifs <;> exact ⟨_,rfl⟩

def setStyleText (engine : StyleEngine) (callId styleId : Nat) (cssText : String) (w : World) :
    World :=
  if !engine.styleForId styleId then w.respond (.didSetStyleText callId false)
  else w.respond (.didSetStyleText callId (!engine.setCssTextFails styleId cssText))

theorem setStyleText_responds (engine : StyleEngine) (callId styleId : Nat) (cssText : String)
    (w : World) : ∃ success, setStyleText engine callId styleId cssText w =
      w.respond (.didSetStyleText callId success) := by
  unfold setStyleText
  split_ifs <;> exact ⟨_,rfl⟩

def setStyleProperty (engine : StyleEngine) (callId styleId : Nat) (name value : String)
    (w : World) : World :=
  if !engine.styleForId styleId then w.respond (.didSetStyleProperty callId false)
  else w.respond (.didSetStyleProperty callId (!engine.setPropertyFails styleId name value))

theorem setStyleProperty_responds (engine : StyleEngine) (callId styleId : Nat) (name value : String)
    (w : World) : ∃ success, setStyleProperty engine callId styleId name value w =
      w.respond (.didSetStyleProperty callId success) := by
  unfold setStyleProperty
  split_ifs <;> exact ⟨_,rfl⟩

def toggleStyleEnabled (engine : StyleEngine) (callId styleId : Nat) (propertyName : String)
    (disabled : Bool) (w : World) : World :=
  if !engine.styleForId styleId then w.respond (.didToggleStyleEnabled callId false)
  else w.respond (.didToggleStyleEnabled callId (!engine.toggleFails styleId propertyName disabled))

theorem toggleStyleEnabled_responds (engine : StyleEngine) (callId styleId : Nat)
    (propertyName : String) (disabled : Bool) (w : World) :
    ∃ found, toggleStyleEnabled engine callId styleId propertyName disabled w =
      w.respond (.didToggleStyleEnabled callId found) := by
  unfold toggleStyleEnabled
  split_ifs <;> exact ⟨_,rfl⟩

/-- The selected node is looked up but never checked: the final answer reads its owner
document, and `ruleAffectsNode` reads that document in turn. -/
def setRuleSelector (engine : StyleEngine) (callId ruleId : Nat) (selector : String)
    (selectedNodeId : Nat) (w : World) : Except Fault World :=
  match engine.ruleForId ruleId with
  | none => .ok (w.respond (.didSetRuleSelector callId false false))
  | some hasParentStyleSheet =>
    let node := nodeForId selectedNodeId w.agent
    if !hasParentStyleSheet then .error .nullDereference else
    if engine.addRuleFails selector then .ok (w.respond (.didSetRuleSelector callId false false)) else
    if engine.deleteRuleFails ruleId then .ok (w.respond (.didSetRuleSelector callId false false)) else
    match node with
    | none => .error .nullDereference
    | some node =>
      if (w.dom.ownerDocument node).isNone then .error .nullDereference
      else .ok (w.respond (.didSetRuleSelector callId true (engine.ruleAffectsNode selector node)))

theorem setRuleSelector_responds (engine : StyleEngine) (callId ruleId : Nat) (selector : String)
    (selectedNodeId : Nat) {w next : World}
    (ok : setRuleSelector engine callId ruleId selector selectedNodeId w = .ok next) :
    ∃ found affectsNode, next = w.respond (.didSetRuleSelector callId found affectsNode) := by
  dsimp only [setRuleSelector] at ok
  split at ok
  · cases ok; exact ⟨_,_,rfl⟩
  · split_ifs at ok
    · cases ok; exact ⟨_,_,rfl⟩
    · cases ok; exact ⟨_,_,rfl⟩
    · split at ok
      · cases ok
      · split_ifs at ok
        cases ok; exact ⟨_,_,rfl⟩

/-- A null inspector style sheet ends the request without an answer from the agent. -/
def addRule (engine : StyleEngine) (callId : Nat) (selector : String) (selectedNodeId : Nat)
    (w : World) : Except Fault World :=
  match nodeForId selectedNodeId w.agent with
  | none => .ok (w.respond (.didAddRule callId false false))
  | some node =>
    if !engine.inspectorStyleSheet (w.dom.ownerDocument node) then .ok w else
    if engine.addRuleFails selector then .ok (w.respond (.didAddRule callId false false)) else
    if (w.dom.ownerDocument node).isNone then .error .nullDereference
    else .ok (w.respond (.didAddRule callId true (engine.ruleAffectsNode selector node)))

/-- Answered, or, with a null inspector style sheet, left as it was. -/
theorem addRule_responds (engine : StyleEngine) (callId : Nat) (selector : String)
    (selectedNodeId : Nat) {w next : World} (ok : addRule engine callId selector selectedNodeId w = .ok next) :
    next = w ∨ ∃ found affectsNode, next = w.respond (.didAddRule callId found affectsNode) := by
  unfold addRule at ok
  split at ok
  · cases ok; exact .inr ⟨_,_,rfl⟩
  · split_ifs at ok <;> cases ok
    · exact .inl rfl
    · exact .inr ⟨_,_,rfl⟩
    · exact .inr ⟨_,_,rfl⟩

end InspectorDOM
