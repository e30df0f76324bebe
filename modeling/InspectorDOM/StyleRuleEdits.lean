import InspectorDOM.StyleRules
import Mathlib.Data.List.Nodup
/-! What the rule edits do to the sheets. On a store whose sheets list each rule once, in the
sheet it points back to, `setRuleSelector` moves the rule to the end of its sheet under the new
selector: it deletes the rule and appends a new rule object with the new selector and the old
style, and the answer's id names the new object. A request that answers a failure changes
nothing, every run of edits keeps the store consistent, and the rule id the request named is
left bound to the deleted rule, whose parent sheet is now null. -/

namespace InspectorDOM.CSS

theorem ok_of_map_eq_ok {ε α β : Type} {f : α → β} {x : Except ε α} {b : β} (mapped : x.map f = .ok b) :
    ∃ a, x = .ok a ∧ f a = b := by
  cases x with
  | error e => cases mapped
  | ok a => exact ⟨a,rfl,Except.ok.inj mapped⟩

namespace Sheets

@[simps] def eraseRule (sheets : Sheets) (styleSheet rule : Nat) : Sheets where
  cssRules := Function.update sheets.cssRules styleSheet ((sheets.cssRules styleSheet).erase rule)
  parentStyleSheet := Function.update sheets.parentStyleSheet rule none
  selectorText := sheets.selectorText
  styleText := sheets.styleText
  nextRule := sheets.nextRule

variable {sheets : Sheets}

theorem indexOf?_of_mem {l : List Nat} {rule : Nat} (listed : rule ∈ l) : l.indexOf? rule = some (l.indexOf rule) := by
  rw [List.indexOf_eq_indexOf?]
  cases found : l.indexOf? rule with
  | none => exact absurd (beq_self_eq_true rule) (List.indexOf?_eq_none_iff.mp found rule listed)
  | some i => rfl

/-- The loop finds a listed rule and deletes it; it never raises. -/
theorem deleteFirst_of_mem {styleSheet rule : Nat} (listed : rule ∈ sheets.cssRules styleSheet) :
    sheets.deleteFirst styleSheet rule = some (sheets.eraseRule styleSheet rule) := by
  simp only [deleteFirst,indexOf?_of_mem listed,deleteRule,List.getElem?_indexOf listed,Option.map_some',
    List.eraseIdx_indexOf_eq_erase]
  rfl

theorem deleteFirst_of_not_mem {styleSheet rule : Nat} (absent : rule ∉ sheets.cssRules styleSheet) :
    sheets.deleteFirst styleSheet rule = some sheets := by
  have missing : (sheets.cssRules styleSheet).indexOf? rule = none :=
    List.indexOf?_eq_none_iff.mpr fun x mem same => absent (eq_of_beq same ▸ mem)
  simp only [deleteFirst,missing]

/-- The loop never raises, and leaves every rule's selector as it was. -/
theorem deleteFirst_eq_some (styleSheet rule : Nat) :
    ∃ edited, sheets.deleteFirst styleSheet rule = some edited ∧ edited.selectorText = sheets.selectorText := by
  by_cases listed : rule ∈ sheets.cssRules styleSheet
  · exact ⟨_,deleteFirst_of_mem listed,rfl⟩
  · exact ⟨_,deleteFirst_of_not_mem listed,rfl⟩

theorem appendRule_getLast (styleSheet : Nat) (selectorText style : String) :
    ((sheets.appendRule styleSheet selectorText style).cssRules styleSheet).getLast? = some sheets.nextRule := by
  simp [List.getLast?_concat]

theorem mem_appendRule {styleSheet other rule : Nat} {selectorText style : String} :
    rule ∈ (sheets.appendRule styleSheet selectorText style).cssRules other ↔
      rule ∈ sheets.cssRules other ∨ (other = styleSheet ∧ rule = sheets.nextRule) := by
  by_cases same : other = styleSheet
  · subst same; simp
  · simp [Function.update_noteq same,same]

/-- Each rule is listed once, in the sheet it points back to, and was made before the next
handle. -/
structure Linked (sheets : Sheets) : Prop where
  parent_of_mem : ∀ styleSheet rule, rule ∈ sheets.cssRules styleSheet → sheets.parentStyleSheet rule = some styleSheet
  mem_of_parent : ∀ styleSheet rule, sheets.parentStyleSheet rule = some styleSheet → rule ∈ sheets.cssRules styleSheet
  nodup : ∀ styleSheet, (sheets.cssRules styleSheet).Nodup
  made : ∀ rule, sheets.parentStyleSheet rule ≠ none → rule < sheets.nextRule

namespace Linked

variable (linked : sheets.Linked)
include linked

theorem lt_of_mem {styleSheet rule : Nat} (listed : rule ∈ sheets.cssRules styleSheet) : rule < sheets.nextRule :=
  linked.made rule (by simp [linked.parent_of_mem _ _ listed])

theorem appendRule (styleSheet : Nat) (selectorText style : String) :
    (sheets.appendRule styleSheet selectorText style).Linked where
  parent_of_mem other rule listed := by
    rcases mem_appendRule.mp listed with listed | ⟨rfl,rfl⟩
    · simp [Function.update_noteq (linked.lt_of_mem listed).ne,linked.parent_of_mem _ _ listed]
    · simp
  mem_of_parent other rule parent := by
    by_cases made : rule = sheets.nextRule
    · subst made; simp_all [mem_appendRule]
    · simp only [appendRule_parentStyleSheet,Function.update_noteq made] at parent
      exact mem_appendRule.mpr (.inl (linked.mem_of_parent _ _ parent))
  nodup other := by
    by_cases same : other = styleSheet
    · subst same
      simpa [List.nodup_append,linked.nodup other] using fun listed => (linked.lt_of_mem listed).ne rfl
    · simpa [Function.update_noteq same] using linked.nodup other
  made rule parent := by
    by_cases made : rule = sheets.nextRule
    · simp [made]
    · simp only [appendRule_parentStyleSheet,Function.update_noteq made] at parent
      exact Nat.lt_succ_of_lt (linked.made rule parent)

theorem eraseRule {styleSheet rule : Nat} (listed : rule ∈ sheets.cssRules styleSheet) :
    (sheets.eraseRule styleSheet rule).Linked where
  parent_of_mem other kept mem := by
    by_cases same : other = styleSheet
    · subst same
      simp only [eraseRule_cssRules,Function.update_same,(linked.nodup _).mem_erase_iff] at mem
      simp [Function.update_noteq mem.1,linked.parent_of_mem _ _ mem.2]
    · simp only [eraseRule_cssRules,Function.update_noteq same] at mem
      have other_parent := linked.parent_of_mem _ _ mem
      have differs : kept ≠ rule := by
        rintro rfl; exact same (Option.some.inj (other_parent.symm.trans (linked.parent_of_mem _ _ listed)))
      simp [Function.update_noteq differs,other_parent]
  mem_of_parent other kept parent := by
    by_cases differs : kept = rule
    · simp [differs] at parent
    · simp only [eraseRule_parentStyleSheet,Function.update_noteq differs] at parent
      by_cases same : other = styleSheet
      · subst same
        simpa [(linked.nodup _).mem_erase_iff,differs] using linked.mem_of_parent _ _ parent
      · simpa [Function.update_noteq same] using linked.mem_of_parent _ _ parent
  nodup other := by
    by_cases same : other = styleSheet
    · subst same; simpa using (linked.nodup _).erase rule
    · simpa [Function.update_noteq same] using linked.nodup other
  made kept parent := by
    by_cases differs : kept = rule
    · simp [differs] at parent
    · simp only [eraseRule_parentStyleSheet,Function.update_noteq differs] at parent
      exact linked.made kept parent

end Linked

end Sheets

namespace RuleIds

variable {ids : RuleIds}

theorem bindRule_of_bound {rule id : Nat} (bound : ids.ruleToId rule = some id) : ids.bindRule rule = (id,ids) := by
  simp [bindRule,bound]

theorem bindRule_of_unbound {rule : Nat} (unbound : ids.ruleToId rule = none) :
    ids.bindRule rule = (ids.lastRuleId,
      { ruleForId := Function.update ids.ruleForId ids.lastRuleId (some rule)
        ruleToId := Function.update ids.ruleToId rule (some ids.lastRuleId)
        lastRuleId := ids.lastRuleId + 1 }) := by
  simp [bindRule,unbound]

end RuleIds

/-- The ids name rules one to one, each made before the next handle, and the next id is new. -/
structure SheetStore.Consistent (store : SheetStore) : Prop where
  linked : store.sheets.Linked
  bound_made : ∀ rule, store.ids.ruleToId rule ≠ none → rule < store.sheets.nextRule
  ids_below : ∀ id, store.ids.ruleForId id ≠ none → id < store.ids.lastRuleId
  ids_inverse : ∀ rule id, store.ids.ruleToId rule = some id → store.ids.ruleForId id = some rule

namespace SheetStore.Consistent

variable {sheets : Sheets} {ids : RuleIds}

theorem appendRule (consistent : (⟨sheets,ids⟩ : SheetStore).Consistent) (styleSheet : Nat) (selectorText style : String) :
    (⟨sheets.appendRule styleSheet selectorText style,ids⟩ : SheetStore).Consistent where
  linked := consistent.linked.appendRule styleSheet selectorText style
  bound_made rule bound := Nat.lt_succ_of_lt (consistent.bound_made rule bound)
  ids_below := consistent.ids_below
  ids_inverse := consistent.ids_inverse

theorem eraseRule (consistent : (⟨sheets,ids⟩ : SheetStore).Consistent) {styleSheet rule : Nat}
    (listed : rule ∈ sheets.cssRules styleSheet) : (⟨sheets.eraseRule styleSheet rule,ids⟩ : SheetStore).Consistent where
  linked := consistent.linked.eraseRule listed
  bound_made := consistent.bound_made
  ids_below := consistent.ids_below
  ids_inverse := consistent.ids_inverse

theorem bindRule (consistent : (⟨sheets,ids⟩ : SheetStore).Consistent) {rule : Nat} (made : rule < sheets.nextRule) :
    (⟨sheets,(ids.bindRule rule).2⟩ : SheetStore).Consistent := by
  cases bound : ids.ruleToId rule with
  | some id => rw [RuleIds.bindRule_of_bound bound]; exact consistent
  | none =>
    rw [RuleIds.bindRule_of_unbound bound]
    refine ⟨consistent.linked,fun other named => ?_,fun id named => ?_,fun other id named => ?_⟩
    · by_cases same : other = rule
      · exact same ▸ made
      · exact consistent.bound_made other (by simpa [Function.update_noteq same] using named)
    · by_cases same : id = ids.lastRuleId
      · simp [same]
      · exact Nat.lt_succ_of_lt (consistent.ids_below id (by simpa [Function.update_noteq same] using named))
    · by_cases same : other = rule
      · subst same
        simp only [Function.update_same,Option.some.injEq] at named
        subst named; simp
      · simp only [Function.update_noteq same] at named
        have old : ids.ruleForId id = some other := consistent.ids_inverse other id named
        have below : id < ids.lastRuleId := consistent.ids_below id (by simp [old])
        simp [Function.update_noteq below.ne,old]

/-- The id `bindRule` gives names the rule. -/
theorem bindRule_names (consistent : (⟨sheets,ids⟩ : SheetStore).Consistent) (rule : Nat) :
    (ids.bindRule rule).2.ruleForId (ids.bindRule rule).1 = some rule := by
  cases bound : ids.ruleToId rule with
  | some id => rw [RuleIds.bindRule_of_bound bound]; exact consistent.ids_inverse rule id bound
  | none => simp [RuleIds.bindRule_of_unbound bound]

/-- Binding keeps every id that already named a rule. -/
theorem bindRule_keeps (consistent : (⟨sheets,ids⟩ : SheetStore).Consistent) {id : Nat}
    (named : ids.ruleForId id ≠ none) (other : Nat) : (ids.bindRule other).2.ruleForId id = ids.ruleForId id := by
  cases bound : ids.ruleToId other with
  | some _ => rw [RuleIds.bindRule_of_bound bound]
  | none => simp [RuleIds.bindRule_of_unbound bound,Function.update_noteq (consistent.ids_below id named).ne]

end SheetStore.Consistent

section Payload

variable {dom : Dom} {env : RuleEnvironment} {sheets : Sheets} {ids ids' : RuleIds}

/-- The object names the rule's selector; the rule is left unbound, or bound by `bindRule`. -/
theorem buildObjectForRule_binds {document : Option Node} {rule : Nat} {desc : RuleDesc}
    (built : buildObjectForRule dom env sheets ids document rule = (desc,ids')) :
    desc.selectorText = sheets.selectorText rule ∧
      (desc.id = none ∧ ids' = ids ∨ desc.id = some (ids.bindRule rule).1 ∧ ids' = (ids.bindRule rule).2) := by
  simp only [buildObjectForRule,Prod.mk.injEq] at built
  obtain ⟨rfl,rfl⟩ := built
  refine ⟨rfl,?_⟩
  split <;> simp

theorem describeNewRule_ok {node : Option Node} {newRule : Nat} {desc : RuleDesc} {affectsNode : Bool}
    (described : describeNewRule dom env sheets ids node newRule = .ok (desc,ids',affectsNode)) :
    ∃ selected document, node = some selected ∧ dom.ownerDocument selected = some document ∧
      buildObjectForRule dom env sheets ids (some document) newRule = (desc,ids') ∧
      affectsNode = match env.querySelectorAll document (sheets.selectorText newRule) with
        | some nodes => nodes.contains selected
        | none => false := by
  cases node with
  | none => cases described
  | some selected =>
    cases owner : dom.ownerDocument selected with
    | none => simp [describeNewRule,ruleAffectsNode,owner,Except.map] at described
    | some document =>
      simp only [describeNewRule,ruleAffectsNode,owner,Except.map,Except.ok.injEq,Prod.mk.injEq] at described
      exact ⟨selected,document,rfl,owner,Prod.ext described.1 described.2.1,described.2.2.symm⟩

theorem describeNewRule_ids {node : Option Node} {newRule : Nat} {desc : RuleDesc} {affectsNode : Bool}
    (described : describeNewRule dom env sheets ids node newRule = .ok (desc,ids',affectsNode)) :
    desc.selectorText = sheets.selectorText newRule ∧
      (desc.id = none ∧ ids' = ids ∨ desc.id = some (ids.bindRule newRule).1 ∧ ids' = (ids.bindRule newRule).2) := by
  obtain ⟨_,_,-,-,built,-⟩ := describeNewRule_ok described
  exact buildObjectForRule_binds built

namespace SheetStore.Consistent

variable (consistent : (⟨sheets,ids⟩ : SheetStore).Consistent) {node : Option Node} {newRule : Nat}
  {desc : RuleDesc} {affectsNode : Bool}
  (described : CSS.describeNewRule dom env sheets ids node newRule = .ok (desc,ids',affectsNode))
include consistent described

theorem describeNewRule (made : newRule < sheets.nextRule) : (⟨sheets,ids'⟩ : SheetStore).Consistent := by
  rcases (describeNewRule_ids described).2 with ⟨-,rfl⟩ | ⟨-,rfl⟩
  · exact consistent
  · exact consistent.bindRule made

/-- The id the object carries names the new rule. -/
theorem describeNewRule_names (id : Nat) (carried : desc.id = some id) : ids'.ruleForId id = some newRule := by
  rcases (describeNewRule_ids described).2 with ⟨unbound,-⟩ | ⟨bound,rfl⟩
  · simp [unbound] at carried
  · rw [bound,Option.some.injEq] at carried
    exact carried ▸ consistent.bindRule_names newRule

theorem describeNewRule_keeps (id : Nat) (named : ids.ruleForId id ≠ none) : ids'.ruleForId id = ids.ruleForId id := by
  rcases (describeNewRule_ids described).2 with ⟨-,rfl⟩ | ⟨-,rfl⟩
  · rfl
  · exact consistent.bindRule_keeps named newRule

end SheetStore.Consistent

end Payload

section Edits

variable {dom : Dom} {st : Agent} {env : RuleEnvironment} {store store' : SheetStore} {callId selectedNodeId : Nat}
  {selector : String}

theorem Sheets.appendRule_eraseRule_cssRules {sheets : Sheets} {styleSheet rule : Nat}
    (listed : rule ∈ sheets.cssRules styleSheet) (selectorText style : String) :
    ((sheets.appendRule styleSheet selectorText style).eraseRule styleSheet rule).cssRules =
      Function.update sheets.cssRules styleSheet ((sheets.cssRules styleSheet).erase rule ++ [sheets.nextRule]) := by
  funext other
  by_cases same : other = styleSheet
  · subst same; simp [List.erase_append_left _ listed]
  · simp [Function.update_noteq same]

/-- The sheets with the rule moved to the end of its sheet, the ids not yet touched. -/
theorem SheetStore.Consistent.moveRule (consistent : store.Consistent) {styleSheet rule : Nat}
    (listed : rule ∈ store.sheets.cssRules styleSheet) (selectorText style : String) :
    (⟨(store.sheets.appendRule styleSheet selectorText style).eraseRule styleSheet rule,store.ids⟩ : SheetStore).Consistent :=
  (consistent.appendRule styleSheet selectorText style).eraseRule (Sheets.mem_appendRule.mpr (.inl listed))

/-- What `setRuleSelector` did when it returned, on a consistent store: answered a failure and
changed nothing, or appended a new rule with the new selector and the old style to the rule's
sheet, deleted the rule, which keeps the sheets consistent with the ids, and described the new
rule. -/
theorem setRuleSelector_cases {ruleId : Nat} {answer : RuleAnswer} (consistent : store.Consistent)
    (ok : setRuleSelector dom st env store callId ruleId selector selectedNodeId = .ok (store',answer)) :
    (store' = store ∧ answer = .didSetRuleSelector callId none false) ∨
      ∃ rule styleSheet selectorText desc affectsNode, store.ids.ruleForId ruleId = some rule ∧
        store.sheets.parentStyleSheet rule = some styleSheet ∧ env.parseSelector selector = some selectorText ∧
        rule ∈ store.sheets.cssRules styleSheet ∧
        store'.sheets = (store.sheets.appendRule styleSheet selectorText (store.sheets.styleText rule)).eraseRule styleSheet rule ∧
        describeNewRule dom env store'.sheets store.ids (nodeForId selectedNodeId st) store.sheets.nextRule =
          .ok (desc,store'.ids,affectsNode) ∧
        answer = .didSetRuleSelector callId (some desc) affectsNode ∧
        (⟨store'.sheets,store.ids⟩ : SheetStore).Consistent := by
  unfold setRuleSelector at ok
  cases found : store.ids.ruleForId ruleId with
  | none =>
    simp only [found,Except.ok.injEq,Prod.mk.injEq] at ok
    exact .inl ⟨ok.1.symm,ok.2.symm⟩
  | some rule =>
    cases parent : store.sheets.parentStyleSheet rule with
    | none => simp [found,parent] at ok
    | some styleSheet =>
      cases parsed : env.parseSelector selector with
      | none =>
        simp only [found,parent,Sheets.addRule,parsed,Option.map_none',Except.ok.injEq,Prod.mk.injEq] at ok
        exact .inl ⟨ok.1.symm,ok.2.symm⟩
      | some selectorText =>
        have listed := consistent.linked.mem_of_parent _ _ parent
        simp only [found,parent,Sheets.addRule,parsed,Option.map_some',
          Sheets.deleteFirst_of_mem (Sheets.mem_appendRule.mpr (.inl listed)),Sheets.appendRule_getLast] at ok
        obtain ⟨described,described_ok,stepped⟩ := ok_of_map_eq_ok ok
        obtain ⟨rfl,rfl⟩ := Prod.mk.inj stepped
        exact .inr ⟨rule,styleSheet,selectorText,described.1,described.2.2,rfl,parent,rfl,listed,rfl,described_ok,rfl,
          consistent.moveRule listed selectorText (store.sheets.styleText rule)⟩

theorem SheetStore.Consistent.setRuleSelector {ruleId : Nat} {answer : RuleAnswer} (consistent : store.Consistent)
    (ok : CSS.setRuleSelector dom st env store callId ruleId selector selectedNodeId = .ok (store',answer)) :
    store'.Consistent := by
  rcases setRuleSelector_cases consistent ok with ⟨rfl,-⟩ | ⟨_,_,_,_,_,-,-,-,-,edited,described,-,moved⟩
  · exact consistent
  · exact moved.describeNewRule described (by simp [edited])

/-- What `addRule` did when it returned: nothing, with or without an answer, or appended an empty
rule with the new selector to the inspector's sheet of the node's document and described it. -/
theorem addRule_cases {answer : Option RuleAnswer}
    (ok : addRule dom st env store callId selector selectedNodeId = .ok (store',answer)) :
    (store' = store ∧ (answer = none ∨ answer = some (.didAddRule callId none false))) ∨
      ∃ node styleSheet selectorText desc affectsNode, nodeForId selectedNodeId st = some node ∧
        env.inspectorStyleSheet (dom.ownerDocument node) = some styleSheet ∧ env.parseSelector selector = some selectorText ∧
        store'.sheets = store.sheets.appendRule styleSheet selectorText "" ∧
        describeNewRule dom env store'.sheets store.ids (some node) store.sheets.nextRule = .ok (desc,store'.ids,affectsNode) ∧
        answer = some (.didAddRule callId (some desc) affectsNode) := by
  unfold addRule at ok
  cases found : nodeForId selectedNodeId st with
  | none =>
    simp only [found,Except.ok.injEq,Prod.mk.injEq] at ok
    exact .inl ⟨ok.1.symm,.inr ok.2.symm⟩
  | some node =>
    cases sheet : env.inspectorStyleSheet (dom.ownerDocument node) with
    | none =>
      simp only [found,sheet,Except.ok.injEq,Prod.mk.injEq] at ok
      exact .inl ⟨ok.1.symm,.inl ok.2.symm⟩
    | some styleSheet =>
      cases parsed : env.parseSelector selector with
      | none =>
        simp only [found,sheet,Sheets.addRule,parsed,Option.map_none',Except.ok.injEq,Prod.mk.injEq] at ok
        exact .inl ⟨ok.1.symm,.inr ok.2.symm⟩
      | some selectorText =>
        simp only [found,sheet,Sheets.addRule,parsed,Option.map_some',Sheets.appendRule_getLast] at ok
        obtain ⟨described,described_ok,stepped⟩ := ok_of_map_eq_ok ok
        obtain ⟨rfl,rfl⟩ := Prod.mk.inj stepped
        exact .inr ⟨node,styleSheet,selectorText,described.1,described.2.2,rfl,sheet,rfl,rfl,described_ok,rfl⟩

theorem SheetStore.Consistent.addRule {answer : Option RuleAnswer} (consistent : store.Consistent)
    (ok : CSS.addRule dom st env store callId selector selectedNodeId = .ok (store',answer)) : store'.Consistent := by
  rcases addRule_cases ok with ⟨rfl,-⟩ | ⟨_,styleSheet,selectorText,_,_,-,-,-,appended,described,-⟩
  · exact consistent
  · have grown := consistent.appendRule styleSheet selectorText ""
    rw [← appended] at grown
    exact grown.describeNewRule described (by simp [appended])

theorem SheetStore.Consistent.ruleStep {input : RuleInput} {answer : Option RuleAnswer} (consistent : store.Consistent)
    (stepped : CSS.ruleStep dom st env store input = .ok (store',answer)) : store'.Consistent := by
  cases input with
  | setRuleSelector callId ruleId selector selectedNodeId =>
    obtain ⟨edited,ok,stepped⟩ := ok_of_map_eq_ok stepped
    obtain ⟨rfl,-⟩ := Prod.mk.inj stepped
    exact consistent.setRuleSelector ok
  | addRule callId selector selectedNodeId => exact consistent.addRule stepped

/-- A document with a `STYLE` element and an `H1`. -/
def ruleTree : Dom :=
  Dom.ofNodes [(.document,none,""),(.element,some 0,"HTML"),(.element,some 1,"STYLE"),(.element,some 1,"H1")] []

/-- The agent with the `H1` bound to id 1. -/
def ruleAgent : Agent := (InspectorDOM.bind 3 .live inspectorDOMAgent).2

def sampleRuleEnvironment : RuleEnvironment where
  parseSelector selector := if selector = "" then none else some selector
  querySelectorAll _ selector := if selector = "h1" then some [3] else some []
  inspectorStyleSheet _ := some 1
  ownerNode _ := some 2
  href _ := ""

/-- A sheet of two rules, `h1` and `p`, the first bound to id 1. -/
def sampleRules : SheetStore where
  sheets :=
    { cssRules := fun styleSheet => if styleSheet = 0 then [0,1] else []
      parentStyleSheet := fun rule => if rule < 2 then some 0 else none
      selectorText := fun rule => if rule = 0 then "h1" else "p"
      styleText := fun rule => if rule = 0 then "color: red" else "margin: 0"
      nextRule := 2 }
  ids :=
    { ruleForId := fun id => if id = 1 then some 0 else none
      ruleToId := fun rule => if rule = 0 then some 1 else none
      lastRuleId := 2 }

theorem sampleRules_consistent : sampleRules.Consistent := by
  refine ⟨⟨fun styleSheet rule listed => ?_,fun styleSheet rule parent => ?_,fun styleSheet => ?_,fun rule parent => ?_⟩,
    fun rule bound => ?_,fun id named => ?_,fun rule id bound => ?_⟩ <;>
    simp only [sampleRules] at * <;> split_ifs at * <;> simp_all <;> omega

/-- Every run of rule edits from a consistent store ends in a consistent store: each rule is
listed once, in the sheet it points back to, and the ids name rules one to one. -/
theorem ruleRun_keeps_consistent : ∀ {store store' : SheetStore} {inputs : List RuleInput} {answers : List RuleAnswer},
    store.Consistent → ruleRun dom st env store inputs = .ok (store',answers) → store'.Consistent
  | _, _, [], _, consistent, ran => by
    cases ran; exact consistent
  | store, _, input :: rest, _, consistent, ran => by
    cases stepped : ruleStep dom st env store input with
    | error fault => simp only [ruleRun,stepped] at ran; cases ran
    | ok next =>
      simp only [ruleRun,stepped] at ran
      obtain ⟨ran,tail,finished⟩ := ok_of_map_eq_ok ran
      obtain ⟨rfl,-⟩ := Prod.mk.inj finished
      exact ruleRun_keeps_consistent (consistent.ruleStep stepped) tail

theorem ruleRun_keeps_sample_consistent :
    ∃ store' answers, ruleRun ruleTree ruleAgent sampleRuleEnvironment sampleRules
        [.setRuleSelector 7 1 "h2" 1,.addRule 8 "p" 1] = .ok (store',answers) ∧ store'.Consistent :=
  ⟨_,_,rfl,ruleRun_keeps_consistent sampleRules_consistent (show ruleRun ruleTree ruleAgent sampleRuleEnvironment
    sampleRules [.setRuleSelector 7 1 "h2" 1,.addRule 8 "p" 1] = _ from rfl)⟩

def RuleAnswer.rule : RuleAnswer → Option RuleDesc
  | .didSetRuleSelector _ rule _ | .didAddRule _ rule _ => rule

/-- A rule edit that answers without a rule, or does not answer, leaves the sheets and the ids as
they were. The one failure that would keep an added rule, a `deleteRule` that raises, does not
happen on a consistent store. -/
theorem ruleStep_failure_keeps_store {input : RuleInput} {answer : Option RuleAnswer} (consistent : store.Consistent)
    (stepped : ruleStep dom st env store input = .ok (store',answer)) (failed : answer.bind RuleAnswer.rule = none) :
    store' = store := by
  cases input with
  | setRuleSelector callId ruleId selector selectedNodeId =>
    obtain ⟨edited,ok,stepped⟩ := ok_of_map_eq_ok stepped
    obtain ⟨rfl,rfl⟩ := Prod.mk.inj stepped
    rcases setRuleSelector_cases consistent ok with ⟨kept,-⟩ | ⟨_,_,_,_,_,-,-,-,-,-,-,answered,-⟩
    · exact kept
    · simp [answered,RuleAnswer.rule] at failed
  | addRule callId selector selectedNodeId =>
    rcases addRule_cases stepped with ⟨kept,-⟩ | ⟨_,_,_,_,_,-,-,-,-,-,answered⟩
    · exact kept
    · simp [answered,RuleAnswer.rule] at failed

theorem ruleStep_rejected_selector_keeps_store :
    ∃ store' answer, ruleStep ruleTree ruleAgent sampleRuleEnvironment sampleRules (.setRuleSelector 7 1 "" 1) =
      .ok (store',answer) ∧ answer.bind RuleAnswer.rule = none ∧ store' = sampleRules :=
  ⟨_,_,rfl,rfl,ruleStep_failure_keeps_store sampleRules_consistent
    (show ruleStep ruleTree ruleAgent sampleRuleEnvironment sampleRules (.setRuleSelector 7 1 "" 1) = _ from rfl) rfl⟩

/-- A rule given a new selector moves to the end of its sheet: the sheet loses the rule and ends
with a new rule object with the new selector and the old style, the old rule points to no sheet,
and the id the answer carries names the new rule. Every other sheet keeps its rules. -/
theorem setRuleSelector_moves_rule_to_end {ruleId : Nat} {desc : RuleDesc} {affectsNode : Bool}
    (consistent : store.Consistent)
    (ok : setRuleSelector dom st env store callId ruleId selector selectedNodeId =
      .ok (store',.didSetRuleSelector callId (some desc) affectsNode)) :
    ∃ rule styleSheet, store.ids.ruleForId ruleId = some rule ∧ store.sheets.parentStyleSheet rule = some styleSheet ∧
      store'.sheets.cssRules = Function.update store.sheets.cssRules styleSheet
        ((store.sheets.cssRules styleSheet).erase rule ++ [store.sheets.nextRule]) ∧
      store'.sheets.parentStyleSheet rule = none ∧ env.parseSelector selector = some desc.selectorText ∧
      store'.sheets.selectorText store.sheets.nextRule = desc.selectorText ∧
      store'.sheets.styleText store.sheets.nextRule = store.sheets.styleText rule ∧
      ∀ id, desc.id = some id → store'.ids.ruleForId id = some store.sheets.nextRule := by
  rcases setRuleSelector_cases consistent ok with ⟨-,failed⟩ |
    ⟨rule,styleSheet,selectorText,_,_,found,parent,parsed,listed,edited,described,answered,moved⟩
  · cases failed
  · cases answered
    have named := (describeNewRule_ids described).1
    refine ⟨rule,styleSheet,found,parent,?_,?_,?_,named.symm,?_,moved.describeNewRule_names described⟩
    · rw [edited,Sheets.appendRule_eraseRule_cssRules listed]
    · simp [edited]
    · simp [named,edited,parsed]
    · simp [edited]

theorem setRuleSelector_moves_h1_to_end :
    ∃ store' desc affectsNode,
      setRuleSelector ruleTree ruleAgent sampleRuleEnvironment sampleRules 7 1 "h2" 1 =
        .ok (store',.didSetRuleSelector 7 (some desc) affectsNode) ∧
      ∃ rule styleSheet, sampleRules.ids.ruleForId 1 = some rule ∧
        sampleRules.sheets.parentStyleSheet rule = some styleSheet ∧
        store'.sheets.cssRules = Function.update sampleRules.sheets.cssRules styleSheet
          ((sampleRules.sheets.cssRules styleSheet).erase rule ++ [sampleRules.sheets.nextRule]) ∧
        store'.sheets.parentStyleSheet rule = none ∧ sampleRuleEnvironment.parseSelector "h2" = some desc.selectorText ∧
        store'.sheets.selectorText sampleRules.sheets.nextRule = desc.selectorText ∧
        store'.sheets.styleText sampleRules.sheets.nextRule = sampleRules.sheets.styleText rule ∧
        ∀ id, desc.id = some id → store'.ids.ruleForId id = some sampleRules.sheets.nextRule :=
  ⟨_,_,_,rfl,setRuleSelector_moves_rule_to_end sampleRules_consistent
    (show setRuleSelector ruleTree ruleAgent sampleRuleEnvironment sampleRules 7 1 "h2" 1 = _ from rfl)⟩

/-- After `setRuleSelector` moves a rule, the rule id the request named still names the deleted
rule, whose parent sheet is null: the same request with that id again dereferences it. -/
theorem setRuleSelector_again_faults {ruleId : Nat} {desc : RuleDesc} {affectsNode : Bool}
    (consistent : store.Consistent)
    (ok : setRuleSelector dom st env store callId ruleId selector selectedNodeId =
      .ok (store',.didSetRuleSelector callId (some desc) affectsNode))
    (laterCallId : Nat) (laterSelector : String) (laterNodeId : Nat) :
    setRuleSelector dom st env store' laterCallId ruleId laterSelector laterNodeId = .error .nullDereference := by
  rcases setRuleSelector_cases consistent ok with ⟨-,failed⟩ |
    ⟨rule,_,_,_,_,found,-,-,-,edited,described,-,moved⟩
  · cases failed
  · have still : store'.ids.ruleForId ruleId = some rule :=
      (moved.describeNewRule_keeps described ruleId (by simp [found])).trans found
    have orphaned : store'.sheets.parentStyleSheet rule = none := by simp [edited]
    simp [setRuleSelector,still,orphaned]

theorem setRuleSelector_again_on_h1_faults :
    ∃ store' desc affectsNode,
      setRuleSelector ruleTree ruleAgent sampleRuleEnvironment sampleRules 7 1 "h2" 1 =
        .ok (store',.didSetRuleSelector 7 (some desc) affectsNode) ∧
      setRuleSelector ruleTree ruleAgent sampleRuleEnvironment store' 8 1 "h3" 1 = .error .nullDereference :=
  ⟨_,_,_,rfl,setRuleSelector_again_faults sampleRules_consistent
    (show setRuleSelector ruleTree ruleAgent sampleRuleEnvironment sampleRules 7 1 "h2" 1 = _ from rfl) 8 "h3" 1⟩

/-- `addRule` appends an empty rule with the new selector to the inspector's sheet of the
selected node's document, and the id the answer carries names it. -/
theorem addRule_appends_rule {desc : RuleDesc} {affectsNode : Bool} (consistent : store.Consistent)
    (ok : addRule dom st env store callId selector selectedNodeId =
      .ok (store',some (.didAddRule callId (some desc) affectsNode))) :
    ∃ node styleSheet, nodeForId selectedNodeId st = some node ∧
      env.inspectorStyleSheet (dom.ownerDocument node) = some styleSheet ∧
      store'.sheets.cssRules = Function.update store.sheets.cssRules styleSheet
        (store.sheets.cssRules styleSheet ++ [store.sheets.nextRule]) ∧
      env.parseSelector selector = some desc.selectorText ∧
      store'.sheets.selectorText store.sheets.nextRule = desc.selectorText ∧
      store'.sheets.styleText store.sheets.nextRule = "" ∧
      ∀ id, desc.id = some id → store'.ids.ruleForId id = some store.sheets.nextRule := by
  rcases addRule_cases ok with ⟨-,failed | failed⟩ |
    ⟨node,styleSheet,selectorText,_,_,found,sheet,parsed,appended,described,answered⟩
  · cases failed
  · cases failed
  · cases answered
    have grown := consistent.appendRule styleSheet selectorText ""
    rw [← appended] at grown
    have named := (describeNewRule_ids described).1
    refine ⟨node,styleSheet,found,sheet,by rw [appended]; rfl,?_,named.symm,by simp [appended],
      grown.describeNewRule_names described⟩
    simp [named,appended,parsed]

theorem addRule_appends_p :
    ∃ store' desc affectsNode,
      addRule ruleTree ruleAgent sampleRuleEnvironment sampleRules 7 "p" 1 =
        .ok (store',some (.didAddRule 7 (some desc) affectsNode)) ∧
      ∃ node styleSheet, nodeForId 1 ruleAgent = some node ∧
        sampleRuleEnvironment.inspectorStyleSheet (ruleTree.ownerDocument node) = some styleSheet ∧
        store'.sheets.cssRules = Function.update sampleRules.sheets.cssRules styleSheet
          (sampleRules.sheets.cssRules styleSheet ++ [sampleRules.sheets.nextRule]) ∧
        sampleRuleEnvironment.parseSelector "p" = some desc.selectorText ∧
        store'.sheets.selectorText sampleRules.sheets.nextRule = desc.selectorText ∧
        store'.sheets.styleText sampleRules.sheets.nextRule = "" ∧
        ∀ id, desc.id = some id → store'.ids.ruleForId id = some sampleRules.sheets.nextRule :=
  ⟨_,_,_,rfl,addRule_appends_rule sampleRules_consistent
    (show addRule ruleTree ruleAgent sampleRuleEnvironment sampleRules 7 "p" 1 = _ from rfl)⟩

end Edits

end InspectorDOM.CSS
