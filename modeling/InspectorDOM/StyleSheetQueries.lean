import InspectorDOM.StyleSheets
/-! The rule queries only add rule bindings, and only of rules the sheets list. So a query asked
again, after any other queries, answers as it did the first time and binds nothing more; every id an
answer carries names the rule it describes; and no run of rule edits and rule queries breaks the
store's consistency. The walk of `getStyles` up the parent elements, bounded by the tree's size, is
never cut on a tree whose parent links do not loop. -/

namespace InspectorDOM

def Dom.ParentOf (dom : Dom) (parent node : Node) : Prop := dom.parentNode node = some parent

/-- No node is above itself, and every parent link joins two nodes in use. -/
structure Dom.Rooted (dom : Dom) : Prop where
  acyclic : ∀ node, ¬ Relation.TransGen dom.ParentOf node node
  inUse : ∀ node parent, dom.parentNode node = some parent → node < dom.size ∧ parent < dom.size

theorem Dom.Rooted.of_parent_lt {dom : Dom} (ordered : ∀ node parent, dom.parentNode node = some parent → parent < node ∧ node < dom.size) :
    dom.Rooted where
  acyclic node above := by
    have lower : ∀ {a b : Node}, Relation.TransGen dom.ParentOf a b → a < b := fun higher => by
      induction higher with
      | single linked => exact (ordered _ _ linked).1
      | tail _ linked below => exact below.trans (ordered _ _ linked).1
    exact Nat.lt_irrefl _ (lower above)
  inUse node parent linked := ⟨(ordered _ _ linked).2,((ordered _ _ linked).1.trans (ordered _ _ linked).2)⟩

end InspectorDOM

namespace InspectorDOM.CSS

theorem bindEach_append {β α : Type} (build : β → RuleIds → α × RuleIds) : ∀ (front back : List β) (ids : RuleIds),
    bindEach build (front ++ back) ids =
      ((bindEach build front ids).1 ++ (bindEach build back (bindEach build front ids).2).1,
        (bindEach build back (bindEach build front ids).2).2)
  | [], _, _ => rfl
  | _ :: front, back, _ => by rw [List.cons_append,bindEach,bindEach,bindEach_append build front back]; rfl

theorem bindEach_map {γ β α : Type} (build : β → RuleIds → α × RuleIds) (f : γ → β) (items : List γ) :
    bindEach build (items.map f) = bindEach (fun item => build (f item)) items := by
  funext ids
  induction items generalizing ids with
  | nil => rfl
  | cons _ _ rest => simp only [List.map_cons,bindEach,rest]

/-- The nested loop of `getAllStyles` is one loop over the sheets of all documents. -/
theorem bindEach_flatMap {γ β α : Type} (build : β → RuleIds → α × RuleIds) (items : γ → List β) :
    ∀ (groups : List γ) (ids : RuleIds), bindEach build (groups.flatMap items) ids =
      ((bindEach (fun group => bindEach build (items group)) groups ids).1.flatten,
        (bindEach (fun group => bindEach build (items group)) groups ids).2)
  | [], _ => rfl
  | _ :: groups, _ => by
    rw [List.flatMap_cons,bindEach_append,bindEach_flatMap build items groups]
    rfl

section Queries

variable (dom : Dom) (st : Agent) (env : RuleEnvironment) (sheetEnv : SheetEnvironment) (sheets : Sheets)

/-- The element `getStyles` describes: the node, when it is an element whose document has a view. -/
def styledElement (nodeId : Nat) : Option Node :=
  (nodeForId nodeId st).filter fun node => dom.nodeType node = .element && sheetEnv.hasDefaultView node

/-- What `getStyles` builds for the element. -/
def buildStyles (authorOnly : Bool) (element : Node) (ids : RuleIds) : StylesDesc × RuleIds :=
  let matched := buildMatchedRules dom env sheetEnv sheets element authorOnly ids
  let pseudoElements := buildArrayForPseudoElements dom env sheetEnv sheets element authorOnly matched.2
  let parents := bindEach (fun parent => buildMatchedRules dom env sheetEnv sheets parent authorOnly)
    (parentElements dom dom.size element) pseudoElements.2
  (⟨matched.1,pseudoElements.1,parents.1⟩,parents.2)

/-- The sheets `getAllStyles` describes, each with its document. -/
def allStyleSheets : List (Node × Nat) :=
  st.documents.flatMap fun document => ((sheetEnv.styleSheets document).filter sheetEnv.isCSSStyleSheet).map (document,·)

/-- The sheet `getStyleSheet` describes, with its document, when it has one. -/
def styleSheetFor (styleSheetId : Nat) : List (Node × Nat) :=
  match sheetEnv.styleSheetForId styleSheetId with
  | some styleSheet => (sheetEnv.doc styleSheet).toList.map (·,styleSheet)
  | none => []

def describeStyleSheet (pair : Node × Nat) : RuleIds → StyleSheetDesc × RuleIds :=
  buildObjectForStyleSheet dom st env sheetEnv sheets (some pair.1) pair.2

theorem getStyles_eq (callId nodeId : Nat) (authorOnly : Bool) :
    getStyles dom st env sheetEnv sheets callId nodeId authorOnly = fun ids =>
      let built := bindEach (buildStyles dom env sheetEnv sheets authorOnly) (styledElement dom st sheetEnv nodeId).toList ids
      (.didGetStyles callId built.1.head?,built.2) := by
  funext ids
  simp only [getStyles,styledElement]
  cases nodeForId nodeId st with
  | none => rfl
  | some node =>
    by_cases element : dom.nodeType node = .element <;> cases view : sheetEnv.hasDefaultView node <;>
      simp [element,view,Option.filter_some,bindEach,buildStyles]

theorem getAllStyles_eq (callId : Nat) :
    getAllStyles dom st env sheetEnv sheets callId = fun ids =>
      let built := bindEach (describeStyleSheet dom st env sheetEnv sheets) (allStyleSheets st sheetEnv) ids
      (.didGetAllStyles callId built.1,built.2) := by
  funext ids
  simp only [getAllStyles,allStyleSheets,bindEach_flatMap,bindEach_map]
  rfl

theorem getStyleSheet_eq (callId styleSheetId : Nat) :
    getStyleSheet dom st env sheetEnv sheets callId styleSheetId = fun ids =>
      let built := bindEach (describeStyleSheet dom st env sheetEnv sheets) (styleSheetFor sheetEnv styleSheetId) ids
      (.didGetStyleSheet callId built.1.head?,built.2) := by
  funext ids
  cases found : sheetEnv.styleSheetForId styleSheetId with
  | none => simp only [getStyleSheet,styleSheetFor,found]; rfl
  | some styleSheet =>
    cases owned : sheetEnv.doc styleSheet <;> simp only [getStyleSheet,styleSheetFor,found,owned] <;> rfl

end Queries

/-- `later` keeps every rule binding `ids` has. -/
def RuleIds.Keeps (later ids : RuleIds) : Prop :=
  ∀ rule id, ids.ruleToId rule = some id → later.ruleToId rule = some id

theorem RuleIds.Keeps.refl (ids : RuleIds) : ids.Keeps ids := fun _ _ => id

theorem RuleIds.Keeps.trans {first second third : RuleIds} (outer : third.Keeps second) (inner : second.Keeps first) :
    third.Keeps first :=
  fun rule id bound => outer rule id (inner rule id bound)

theorem RuleIds.bindRule_binds (ids : RuleIds) (rule : Nat) :
    (ids.bindRule rule).2.ruleToId rule = some (ids.bindRule rule).1 := by
  cases bound : ids.ruleToId rule with
  | some id => simp [RuleIds.bindRule_of_bound bound,bound]
  | none => simp [RuleIds.bindRule_of_unbound bound]

/-- A builder over `sheets` whose only effect on the ids is to bind rules those sheets list: the
ids it returns keep those it was given and stay consistent, and run again from any ids that keep
its bindings it returns the same and binds nothing. -/
structure OnlyBinds {α : Type} (sheets : Sheets) (build : RuleIds → α × RuleIds) : Prop where
  keeps : ∀ ids, (build ids).2.Keeps ids
  settled : ∀ ids later, later.Keeps (build ids).2 → build later = ((build ids).1,later)
  consistent : ∀ ids, (⟨sheets,ids⟩ : SheetStore).Consistent → (⟨sheets,(build ids).2⟩ : SheetStore).Consistent

namespace OnlyBinds

variable {sheets : Sheets}

theorem const {α : Type} (value : α) : OnlyBinds sheets fun ids => (value,ids) :=
  ⟨RuleIds.Keeps.refl,fun _ _ _ => rfl,fun _ => id⟩

theorem map {α β : Type} {build : RuleIds → α × RuleIds} (binds : OnlyBinds sheets build) (f : α → β) :
    OnlyBinds sheets fun ids => (f (build ids).1,(build ids).2) :=
  ⟨binds.keeps,fun ids later kept => by simp only [binds.settled ids later kept],binds.consistent⟩

/-- One builder after another, the second reading what the first built. -/
theorem seq {α β : Type} {first : RuleIds → α × RuleIds} {next : α → RuleIds → β × RuleIds}
    (before : OnlyBinds sheets first) (after : ∀ built, OnlyBinds sheets (next built)) :
    OnlyBinds sheets fun ids => next (first ids).1 (first ids).2 where
  keeps ids := ((after _).keeps _).trans (before.keeps ids)
  settled ids later kept := by
    rw [before.settled ids later (kept.trans ((after _).keeps _)),(after _).settled _ later kept]
  consistent ids consistent := (after _).consistent _ (before.consistent ids consistent)

theorem bindRule {styleSheet rule : Nat} (listed : rule ∈ sheets.cssRules styleSheet) :
    OnlyBinds sheets fun ids : RuleIds => ids.bindRule rule where
  keeps ids other id bound := by
    cases unbound : ids.ruleToId rule with
    | some _ => rw [RuleIds.bindRule_of_bound unbound]; exact bound
    | none =>
      have differs : other ≠ rule := by rintro rfl; simp [unbound] at bound
      simp [RuleIds.bindRule_of_unbound unbound,Function.update_noteq differs,bound]
  settled ids later kept := by rw [RuleIds.bindRule_of_bound (kept rule _ (RuleIds.bindRule_binds ids rule))]
  consistent _ consistent := consistent.bindRule (consistent.linked.lt_of_mem listed)

/-- A branch on a condition the ids do not change. -/
theorem branch {α : Type} (condition : Bool) {yes no : RuleIds → α × RuleIds} (ifYes : OnlyBinds sheets yes)
    (ifNo : OnlyBinds sheets no) : OnlyBinds sheets fun ids => if condition then yes ids else no ids := by
  cases condition <;> simpa

theorem buildObjectForRule (dom : Dom) (env : RuleEnvironment) (ownerDocument : Option Node) {styleSheet rule : Nat}
    (listed : rule ∈ sheets.cssRules styleSheet) :
    OnlyBinds sheets fun ids => CSS.buildObjectForRule dom env sheets ids ownerDocument rule := by
  unfold CSS.buildObjectForRule
  exact (branch _ ((bindRule listed).map some) (const none)).map _

theorem bindEach {α β : Type} {build : β → RuleIds → α × RuleIds} :
    ∀ {items : List β}, (∀ item ∈ items, OnlyBinds sheets (build item)) → OnlyBinds sheets (CSS.bindEach build items)
  | [], _ => const []
  | item :: _, each =>
    (each item (List.mem_cons_self _ _)).seq fun built =>
      (bindEach fun item' listed => each item' (List.mem_cons_of_mem _ listed)).map (built :: ·)

/-- Each object the loop returns is what its build returned for one of the items, from ids whose
bindings the loop's final ids keep. -/
theorem bindEach_built {α β : Type} {build : β → RuleIds → α × RuleIds} :
    ∀ {items : List β}, (∀ item ∈ items, OnlyBinds sheets (build item)) → ∀ ids, ∀ built ∈ (CSS.bindEach build items ids).1,
      ∃ item ∈ items, ∃ before, (build item before).1 = built ∧ (CSS.bindEach build items ids).2.Keeps (build item before).2
  | [], _, _, _, listed => by cases listed
  | item :: items, each, ids, built, listed => by
    have rest := bindEach fun item' listed => each item' (List.mem_cons_of_mem _ listed)
    rcases List.mem_cons.mp listed with rfl | later
    · exact ⟨item,List.mem_cons_self _ _,ids,rfl,rest.keeps _⟩
    · obtain ⟨found,mem,before,made,kept⟩ :=
        bindEach_built (fun item' listed => each item' (List.mem_cons_of_mem _ listed)) _ built later
      exact ⟨found,List.mem_cons_of_mem _ mem,before,made,kept⟩

/-- What holds of each build's object under the ids it returned, and stays true under ids that keep
its bindings, holds of every object of the loop under the loop's final ids. -/
theorem bindEach_all {α β : Type} {build : β → RuleIds → α × RuleIds} {items : List β} (holds : RuleIds → α → Prop)
    (mono : ∀ {final later : RuleIds} {built : α}, later.Keeps final → holds final built → holds later built)
    (each : ∀ item ∈ items, OnlyBinds sheets (build item)) (built : ∀ item ∈ items, ∀ ids, holds (build item ids).2 (build item ids).1)
    (ids : RuleIds) : ∀ out ∈ (CSS.bindEach build items ids).1, holds (CSS.bindEach build items ids).2 out := by
  intro out listed
  obtain ⟨item,mem,before,rfl,kept⟩ := bindEach_built each ids out listed
  exact mono kept (built item mem before)

end OnlyBinds

section Queries

variable (dom : Dom) (st : Agent) (env : RuleEnvironment) (sheetEnv : SheetEnvironment) (sheets : Sheets)

theorem buildArrayForCSSRules_onlyBinds (ownerDocument : Option Node) {matchedRules : List Nat}
    (listed : ∀ rule ∈ matchedRules, ∃ styleSheet, rule ∈ sheets.cssRules styleSheet) :
    OnlyBinds sheets (buildArrayForCSSRules dom env sheetEnv sheets ownerDocument matchedRules) :=
  OnlyBinds.bindEach fun rule filtered =>
    have ⟨_,mem⟩ := listed rule (List.mem_filter.mp filtered).1
    OnlyBinds.buildObjectForRule dom env ownerDocument mem

theorem ListedRule.listed {matched : List (ListedRule sheets)} :
    ∀ rule ∈ matched.map Subtype.val, ∃ styleSheet, rule ∈ sheets.cssRules styleSheet := by
  simp only [List.mem_map]
  rintro _ ⟨rule,-,rfl⟩
  exact rule.2

theorem buildMatchedRules_onlyBinds (element : Node) (authorOnly : Bool) :
    OnlyBinds sheets (buildMatchedRules dom env sheetEnv sheets element authorOnly) :=
  buildArrayForCSSRules_onlyBinds dom env sheetEnv sheets _ (ListedRule.listed sheets)

theorem buildPseudoElement_onlyBinds (element : Node) (authorOnly : Bool) (pseudoId : Nat) :
    OnlyBinds sheets (buildPseudoElement dom env sheetEnv sheets element authorOnly pseudoId) := by
  show OnlyBinds sheets fun ids => buildPseudoElement dom env sheetEnv sheets element authorOnly pseudoId ids
  unfold buildPseudoElement
  exact OnlyBinds.branch _ (OnlyBinds.const none)
    ((buildArrayForCSSRules_onlyBinds dom env sheetEnv sheets _ (ListedRule.listed sheets)).map
      fun rules => some (PseudoStylesDesc.mk pseudoId rules))

theorem buildArrayForPseudoElements_onlyBinds (element : Node) (authorOnly : Bool) :
    OnlyBinds sheets (buildArrayForPseudoElements dom env sheetEnv sheets element authorOnly) :=
  (OnlyBinds.bindEach fun pseudoId _ => buildPseudoElement_onlyBinds dom env sheetEnv sheets element authorOnly pseudoId).map _

theorem buildObjectForStyleSheet_onlyBinds (ownerDocument : Option Node) (styleSheet : Nat) :
    OnlyBinds sheets (buildObjectForStyleSheet dom st env sheetEnv sheets ownerDocument styleSheet) :=
  (buildArrayForCSSRules_onlyBinds dom env sheetEnv sheets ownerDocument fun _ listed => ⟨styleSheet,listed⟩).map _

theorem buildStyles_onlyBinds (authorOnly : Bool) (element : Node) :
    OnlyBinds sheets (buildStyles dom env sheetEnv sheets authorOnly element) :=
  (buildMatchedRules_onlyBinds dom env sheetEnv sheets element authorOnly).seq fun matched =>
    (buildArrayForPseudoElements_onlyBinds dom env sheetEnv sheets element authorOnly).seq fun pseudoElements =>
      (OnlyBinds.bindEach fun parent _ => buildMatchedRules_onlyBinds dom env sheetEnv sheets parent authorOnly).map
        fun parents => StylesDesc.mk matched pseudoElements parents

theorem sheetStep_onlyBinds (query : SheetQuery) : OnlyBinds sheets (sheetStep dom st env sheetEnv sheets query) := by
  cases query with
  | getStyles callId nodeId authorOnly =>
    show OnlyBinds sheets (getStyles dom st env sheetEnv sheets callId nodeId authorOnly)
    rw [getStyles_eq]
    exact (OnlyBinds.bindEach fun element _ => buildStyles_onlyBinds dom env sheetEnv sheets authorOnly element).map
      fun built => SheetAnswer.didGetStyles callId built.head?
  | getAllStyles callId =>
    show OnlyBinds sheets (getAllStyles dom st env sheetEnv sheets callId)
    rw [getAllStyles_eq]
    exact (OnlyBinds.bindEach fun (pair : Node × Nat) _ =>
      buildObjectForStyleSheet_onlyBinds dom st env sheetEnv sheets _ pair.2).map (SheetAnswer.didGetAllStyles callId)
  | getStyleSheet callId styleSheetId =>
    show OnlyBinds sheets (getStyleSheet dom st env sheetEnv sheets callId styleSheetId)
    rw [getStyleSheet_eq]
    exact (OnlyBinds.bindEach fun (pair : Node × Nat) _ =>
      buildObjectForStyleSheet_onlyBinds dom st env sheetEnv sheets _ pair.2).map
        fun built => SheetAnswer.didGetStyleSheet callId built.head?

theorem sheetRun_onlyBinds (queries : List SheetQuery) : OnlyBinds sheets (sheetRun dom st env sheetEnv sheets queries) :=
  OnlyBinds.bindEach fun query _ => sheetStep_onlyBinds dom st env sheetEnv sheets query

/-- A rule query asked again, after any run of rule queries, answers as it did the first time and
binds nothing more: the queries only ever add rule bindings, and an answer depends on the ids only
through the bindings of the rules it describes. -/
theorem sheetQuery_answers_again (query : SheetQuery) (queries : List SheetQuery) (ids : RuleIds) :
    let first := sheetStep dom st env sheetEnv sheets query ids
    let between := sheetRun dom st env sheetEnv sheets queries first.2
    sheetStep dom st env sheetEnv sheets query between.2 = (first.1,between.2) :=
  (sheetStep_onlyBinds dom st env sheetEnv sheets query).settled ids _
    ((sheetRun_onlyBinds dom st env sheetEnv sheets queries).keeps _)

/-- A rule object that carries an id was bound to it. -/
theorem buildObjectForRule_carries {ids : RuleIds} {ownerDocument : Option Node} {rule id : Nat}
    (carried : (buildObjectForRule dom env sheets ids ownerDocument rule).1.id = some id) :
    (buildObjectForRule dom env sheets ids ownerDocument rule).2.ruleToId rule = some id := by
  generalize built : buildObjectForRule dom env sheets ids ownerDocument rule = result at carried ⊢
  obtain ⟨desc,ids'⟩ := result
  dsimp only at carried ⊢
  rcases (buildObjectForRule_binds built).2 with ⟨unbound,-⟩ | ⟨bound,rfl⟩
  · simp [unbound] at carried
  · rw [← Option.some.inj (bound.symm.trans carried)]
    exact RuleIds.bindRule_binds ids rule

/-- The rule object was built for `handle` from ids whose bindings `final` keeps. -/
def Describes (final : RuleIds) (handle : Nat) (desc : RuleDesc) : Prop :=
  ∃ ownerDocument before, (buildObjectForRule dom env sheets before ownerDocument handle).1 = desc ∧
    final.Keeps (buildObjectForRule dom env sheets before ownerDocument handle).2

theorem Describes.mono {final later : RuleIds} {handle : Nat} {desc : RuleDesc} (kept : later.Keeps final)
    (describes : Describes dom env sheets final handle desc) : Describes dom env sheets later handle desc :=
  have ⟨ownerDocument,before,built,keeps⟩ := describes
  ⟨ownerDocument,before,built,kept.trans keeps⟩

/-- In a consistent store, the id a described rule object carries names its rule. -/
theorem Describes.names {final : RuleIds} {handle id : Nat} {desc : RuleDesc}
    (consistent : (⟨sheets,final⟩ : SheetStore).Consistent) (describes : Describes dom env sheets final handle desc)
    (carried : desc.id = some id) : final.ruleForId id = some handle ∧ sheets.selectorText handle = desc.selectorText := by
  obtain ⟨ownerDocument,before,rfl,kept⟩ := describes
  exact ⟨consistent.ids_inverse handle id (kept handle id (buildObjectForRule_carries dom env sheets carried)),rfl⟩

theorem buildArrayForCSSRules_describes (ownerDocument : Option Node) {matchedRules : List Nat}
    (listed : ∀ rule ∈ matchedRules, ∃ styleSheet, rule ∈ sheets.cssRules styleSheet) (ids : RuleIds) :
    ∀ desc ∈ (buildArrayForCSSRules dom env sheetEnv sheets ownerDocument matchedRules ids).1, ∃ handle ∈ matchedRules,
      Describes dom env sheets (buildArrayForCSSRules dom env sheetEnv sheets ownerDocument matchedRules ids).2 handle desc := by
  intro desc built
  obtain ⟨handle,filtered,before,made,kept⟩ := OnlyBinds.bindEach_built (fun rule filtered =>
    have ⟨_,mem⟩ := listed rule (List.mem_filter.mp filtered).1
    OnlyBinds.buildObjectForRule dom env ownerDocument mem) ids desc built
  exact ⟨handle,(List.mem_filter.mp filtered).1,ownerDocument,before,made,kept⟩

/-- The sheet objects an answer carries. -/
def SheetAnswer.styleSheets : SheetAnswer → List StyleSheetDesc
  | .didGetStyles _ _ => []
  | .didGetAllStyles _ styleSheets => styleSheets
  | .didGetStyleSheet _ styleSheet => styleSheet.toList

/-- Each sheet object an answer carries was built for its sheet from ids whose bindings the
query's final ids keep. -/
theorem sheetStep_built (query : SheetQuery) (ids : RuleIds) :
    ∀ styleSheet ∈ (sheetStep dom st env sheetEnv sheets query ids).1.styleSheets, ∃ ownerDocument handle before,
      (buildObjectForStyleSheet dom st env sheetEnv sheets ownerDocument handle before).1 = styleSheet ∧
      (sheetStep dom st env sheetEnv sheets query ids).2.Keeps
        (buildObjectForStyleSheet dom st env sheetEnv sheets ownerDocument handle before).2 := by
  have described : ∀ pairs, ∀ styleSheet ∈ (bindEach (describeStyleSheet dom st env sheetEnv sheets) pairs ids).1,
      ∃ ownerDocument handle before,
        (buildObjectForStyleSheet dom st env sheetEnv sheets ownerDocument handle before).1 = styleSheet ∧
        (bindEach (describeStyleSheet dom st env sheetEnv sheets) pairs ids).2.Keeps
          (buildObjectForStyleSheet dom st env sheetEnv sheets ownerDocument handle before).2 := fun _ styleSheet built =>
    have ⟨pair,_,before,made,kept⟩ := OnlyBinds.bindEach_built
      (fun (pair : Node × Nat) _ => buildObjectForStyleSheet_onlyBinds dom st env sheetEnv sheets _ pair.2) ids styleSheet built
    ⟨_,pair.2,before,made,kept⟩
  cases query with
  | getStyles callId nodeId authorOnly =>
    simp only [sheetStep,getStyles_eq,SheetAnswer.styleSheets,List.not_mem_nil,false_implies,implies_true]
  | getAllStyles callId =>
    simp only [sheetStep,getAllStyles_eq,SheetAnswer.styleSheets]
    exact described _
  | getStyleSheet callId styleSheetId =>
    simp only [sheetStep,getStyleSheet_eq,SheetAnswer.styleSheets,Option.mem_toList]
    exact fun styleSheet first => described _ styleSheet (List.mem_of_mem_head? first)

/-- Every id a sheet object gives a rule names that rule, a rule the sheet lists with the selector
text the answer shows, in the store the query leaves and after any further rule queries: the
frontend can edit the rule by that id. -/
theorem sheetQuery_ids_name_rules {ids : RuleIds} (consistent : (⟨sheets,ids⟩ : SheetStore).Consistent)
    (query : SheetQuery) (queries : List SheetQuery) :
    let answered := sheetStep dom st env sheetEnv sheets query ids
    let after := (sheetRun dom st env sheetEnv sheets queries answered.2).2
    ∀ styleSheet ∈ answered.1.styleSheets, ∀ rule ∈ styleSheet.cssRules, ∀ id, rule.id = some id →
      ∃ handle ∈ sheets.cssRules styleSheet.id, after.ruleForId id = some handle ∧
        sheets.selectorText handle = rule.selectorText := by
  intro answered after styleSheet carried rule listed id named
  have step := sheetStep_onlyBinds dom st env sheetEnv sheets query
  have run := sheetRun_onlyBinds dom st env sheetEnv sheets queries
  obtain ⟨ownerDocument,styleSheet,before,rfl,kept⟩ := sheetStep_built dom st env sheetEnv sheets query ids _ carried
  obtain ⟨handle,member,describes⟩ := buildArrayForCSSRules_describes dom env sheetEnv sheets ownerDocument
    (fun _ mem => ⟨styleSheet,mem⟩) before rule listed
  exact ⟨handle,member,((describes.mono dom env sheets ((run.keeps _).trans kept)).names dom env sheets
    (run.consistent _ (step.consistent ids consistent)) named)⟩

theorem getAllStyles_ids_name_sample_rules :
    let answered := sheetStep ruleTree sheetAgent sampleRuleEnvironment sampleSheetEnvironment sampleRules.sheets
      (.getAllStyles 5) sampleRules.ids
    answered.1.styleSheets.map (fun styleSheet => styleSheet.cssRules.map RuleDesc.id) = [[some 1,some 2]] ∧
      ∀ styleSheet ∈ answered.1.styleSheets, ∀ rule ∈ styleSheet.cssRules, ∀ id, rule.id = some id →
        ∃ handle ∈ sampleRules.sheets.cssRules styleSheet.id,
          (sheetRun ruleTree sheetAgent sampleRuleEnvironment sampleSheetEnvironment sampleRules.sheets [] answered.2).2.ruleForId id =
            some handle ∧ sampleRules.sheets.selectorText handle = rule.selectorText :=
  ⟨rfl,sheetQuery_ids_name_rules ruleTree sheetAgent sampleRuleEnvironment sampleSheetEnvironment sampleRules.sheets
    sampleRules_consistent (.getAllStyles 5) []⟩

/-- The rule objects of a `getStyles` answer: the element's matched rules, its pseudo elements' and
its parent elements'. -/
def StylesDesc.rules (styles : StylesDesc) : List RuleDesc :=
  styles.matchedCSSRules ++ styles.pseudoElements.flatMap PseudoStylesDesc.rules ++ styles.parents.flatten

/-- The rule object describes, under `final`, a rule some sheet lists. -/
def DescribesListed (final : RuleIds) (desc : RuleDesc) : Prop :=
  ∃ handle, (∃ styleSheet, handle ∈ sheets.cssRules styleSheet) ∧ Describes dom env sheets final handle desc

theorem DescribesListed.mono {final later : RuleIds} {descs : List RuleDesc} (kept : later.Keeps final)
    (described : ∀ desc ∈ descs, DescribesListed dom env sheets final desc) :
    ∀ desc ∈ descs, DescribesListed dom env sheets later desc := fun desc listed =>
  have ⟨handle,member,describes⟩ := described desc listed
  ⟨handle,member,describes.mono dom env sheets kept⟩

theorem buildMatchedRules_describes (element : Node) (authorOnly : Bool) (ids : RuleIds) :
    ∀ desc ∈ (buildMatchedRules dom env sheetEnv sheets element authorOnly ids).1,
      DescribesListed dom env sheets (buildMatchedRules dom env sheetEnv sheets element authorOnly ids).2 desc := by
  intro desc built
  obtain ⟨handle,member,describes⟩ := buildArrayForCSSRules_describes dom env sheetEnv sheets _
    (ListedRule.listed sheets) ids desc built
  exact ⟨handle,ListedRule.listed sheets handle member,describes⟩

theorem buildPseudoElement_describes (element : Node) (authorOnly : Bool) (pseudoId : Nat) (ids : RuleIds) :
    ∀ pseudoElement ∈ (buildPseudoElement dom env sheetEnv sheets element authorOnly pseudoId ids).1,
      ∀ desc ∈ pseudoElement.rules,
        DescribesListed dom env sheets (buildPseudoElement dom env sheetEnv sheets element authorOnly pseudoId ids).2 desc := by
  by_cases empty : (sheetEnv.pseudoStyleRulesForElement sheets element pseudoId authorOnly).isEmpty
  · simp only [buildPseudoElement,empty,if_true]
    intro _ absent
    cases absent
  · simp only [buildPseudoElement,empty,if_false,Option.mem_def,Option.some.injEq,Bool.false_eq_true]
    rintro _ rfl desc built
    obtain ⟨handle,member,describes⟩ := buildArrayForCSSRules_describes dom env sheetEnv sheets _
      (ListedRule.listed sheets) ids desc built
    exact ⟨handle,ListedRule.listed sheets handle member,describes⟩

theorem buildArrayForPseudoElements_describes (element : Node) (authorOnly : Bool) (ids : RuleIds) :
    ∀ pseudoElement ∈ (buildArrayForPseudoElements dom env sheetEnv sheets element authorOnly ids).1,
      ∀ desc ∈ pseudoElement.rules,
        DescribesListed dom env sheets (buildArrayForPseudoElements dom env sheetEnv sheets element authorOnly ids).2 desc := by
  intro pseudoElement built
  simp only [buildArrayForPseudoElements,List.mem_filterMap,id_eq,exists_eq_right] at built
  exact OnlyBinds.bindEach_all (fun final built => ∀ pseudoElement ∈ built, ∀ desc ∈ pseudoElement.rules,
      DescribesListed dom env sheets final desc)
    (fun kept described pseudoElement member => DescribesListed.mono dom env sheets kept (described pseudoElement member))
    (fun pseudoId _ => buildPseudoElement_onlyBinds dom env sheetEnv sheets element authorOnly pseudoId)
    (fun pseudoId _ => buildPseudoElement_describes dom env sheetEnv sheets element authorOnly pseudoId) ids _ built
    pseudoElement rfl

theorem buildStyles_describes (authorOnly : Bool) (element : Node) (ids : RuleIds) :
    ∀ desc ∈ (buildStyles dom env sheetEnv sheets authorOnly element ids).1.rules,
      DescribesListed dom env sheets (buildStyles dom env sheetEnv sheets authorOnly element ids).2 desc := by
  have pseudo := buildArrayForPseudoElements_onlyBinds dom env sheetEnv sheets element authorOnly
  have parents := OnlyBinds.bindEach fun parent (_ : parent ∈ parentElements dom dom.size element) =>
    buildMatchedRules_onlyBinds dom env sheetEnv sheets parent authorOnly
  simp only [buildStyles,StylesDesc.rules,List.mem_append,List.mem_flatMap,List.mem_flatten]
  rintro desc ((listed | ⟨pseudoElement,member,listed⟩) | ⟨rules,member,listed⟩)
  · exact DescribesListed.mono dom env sheets ((parents.keeps _).trans (pseudo.keeps _))
      (buildMatchedRules_describes dom env sheetEnv sheets element authorOnly ids) desc listed
  · exact DescribesListed.mono dom env sheets (parents.keeps _)
      (buildArrayForPseudoElements_describes dom env sheetEnv sheets element authorOnly _ pseudoElement member) desc listed
  · exact OnlyBinds.bindEach_all (fun final descs => ∀ desc ∈ descs, DescribesListed dom env sheets final desc)
      (DescribesListed.mono dom env sheets) (fun parent _ => buildMatchedRules_onlyBinds dom env sheetEnv sheets parent authorOnly)
      (fun parent _ => buildMatchedRules_describes dom env sheetEnv sheets parent authorOnly) _ rules member desc listed

/-- Every id a `getStyles` answer gives a rule object, among the element's matched rules, its pseudo
elements' or its parent elements', names that rule, a rule some sheet lists with the selector text
the answer shows, in the ids the query leaves and after any further rule queries. -/
theorem getStyles_ids_name_rules {ids : RuleIds} (consistent : (⟨sheets,ids⟩ : SheetStore).Consistent)
    (callId nodeId : Nat) (authorOnly : Bool) (queries : List SheetQuery) :
    let answered := getStyles dom st env sheetEnv sheets callId nodeId authorOnly ids
    let after := (sheetRun dom st env sheetEnv sheets queries answered.2).2
    ∀ styles, answered.1 = .didGetStyles callId (some styles) → ∀ rule ∈ styles.rules, ∀ id, rule.id = some id →
      ∃ handle, (∃ styleSheet, handle ∈ sheets.cssRules styleSheet) ∧ after.ruleForId id = some handle ∧
        sheets.selectorText handle = rule.selectorText := by
  dsimp only
  intro styles answer rule listed id named
  have step := sheetStep_onlyBinds dom st env sheetEnv sheets (.getStyles callId nodeId authorOnly)
  have run := sheetRun_onlyBinds dom st env sheetEnv sheets queries
  have described : DescribesListed dom env sheets (getStyles dom st env sheetEnv sheets callId nodeId authorOnly ids).2 rule := by
    rw [getStyles_eq] at answer ⊢
    simp only [SheetAnswer.didGetStyles.injEq,true_and] at answer
    exact OnlyBinds.bindEach_all (fun final built => ∀ desc ∈ built.rules, DescribesListed dom env sheets final desc)
      (fun kept described => DescribesListed.mono dom env sheets kept described)
      (fun element _ => buildStyles_onlyBinds dom env sheetEnv sheets authorOnly element)
      (fun element _ => buildStyles_describes dom env sheetEnv sheets authorOnly element) ids styles
      (List.mem_of_mem_head? answer) rule listed
  obtain ⟨handle,member,describes⟩ := described
  exact ⟨handle,member,(describes.mono dom env sheets (run.keeps _)).names dom env sheets
    (run.consistent _ (step.consistent ids consistent)) named⟩

/-- The `H1` of the sample: its `h1` rule keeps id 1, and its pseudo element's `p` rule is bound to
id 2. -/
theorem getStyles_ids_name_sample_rules :
    let answered := getStyles ruleTree sheetAgent sampleRuleEnvironment sampleSheetEnvironment sampleRules.sheets 7 1 false
      sampleRules.ids
    ∃ styles, answered.1 = .didGetStyles 7 (some styles) ∧ styles.rules.map RuleDesc.id = [some 1,some 2] ∧
      ∀ rule ∈ styles.rules, ∀ id, rule.id = some id →
        ∃ handle, (∃ styleSheet, handle ∈ sampleRules.sheets.cssRules styleSheet) ∧
          (sheetRun ruleTree sheetAgent sampleRuleEnvironment sampleSheetEnvironment sampleRules.sheets [] answered.2).2.ruleForId id =
            some handle ∧ sampleRules.sheets.selectorText handle = rule.selectorText :=
  ⟨_,rfl,rfl,getStyles_ids_name_rules ruleTree sheetAgent sampleRuleEnvironment sampleSheetEnvironment sampleRules.sheets
    sampleRules_consistent 7 1 false [] _ rfl⟩

end Queries

section ParentWalk

variable {dom : Dom}

theorem above_of_mem_parentElements : ∀ {fuel : Nat} {node above : Node}, above ∈ parentElements dom fuel node →
    Relation.TransGen dom.ParentOf above node
  | 0, _, _, listed => by cases listed
  | fuel + 1, node, above, listed => by
    unfold parentElements at listed
    split at listed
    case h_1 parent linked =>
      split at listed
      · rcases List.mem_cons.mp listed with rfl | higher
        · exact .single linked
        · exact .tail (above_of_mem_parentElements higher) linked
      · cases listed
    case h_2 => cases listed

theorem parentElements_nodup (rooted : dom.Rooted) : ∀ (fuel : Nat) (node : Node),
    (node :: parentElements dom fuel node).Nodup
  | 0, _ => List.nodup_singleton _
  | fuel + 1, node => by
    unfold parentElements
    split
    case h_1 parent linked =>
      split
      · have rest := parentElements_nodup rooted fuel parent
        refine List.nodup_cons.mpr ⟨fun listed => ?_,rest⟩
        rcases List.mem_cons.mp listed with same | higher
        · exact rooted.acyclic parent (.single (same ▸ linked))
        · exact rooted.acyclic node (.tail (above_of_mem_parentElements higher) linked)
      · exact List.nodup_singleton _
    case h_2 => exact List.nodup_singleton _

theorem lt_size_of_above (rooted : dom.Rooted) {above node : Node} (higher : Relation.TransGen dom.ParentOf above node) :
    above < dom.size := by
  obtain ⟨_,linked,-⟩ := Relation.TransGen.head'_iff.mp higher
  exact (rooted.inUse _ _ linked).2

theorem parentElements_length_lt (rooted : dom.Rooted) (fuel : Nat) {node : Node} (inUse : node < dom.size) :
    (parentElements dom fuel node).length < dom.size := by
  have within : node :: parentElements dom fuel node ⊆ List.range dom.size := by
    intro above listed
    rcases List.mem_cons.mp listed with rfl | higher
    · exact List.mem_range.mpr inUse
    · exact List.mem_range.mpr (lt_size_of_above rooted (above_of_mem_parentElements higher))
  simpa using (List.subperm_of_subset (parentElements_nodup rooted fuel node) within).length_le

theorem parentElements_of_orphan {node : Node} (orphan : dom.parentNode node = none) :
    ∀ fuel, parentElements dom fuel node = []
  | 0 => rfl
  | _ + 1 => by simp [parentElements,orphan]

/-- A walk that stopped before its fuel ran out is the whole walk. -/
theorem parentElements_add : ∀ {fuel : Nat} {node : Node}, (parentElements dom fuel node).length < fuel →
    ∀ more, parentElements dom (fuel + more) node = parentElements dom fuel node
  | 0, _, short, _ => absurd short (Nat.not_lt_zero _)
  | fuel + 1, node, short, more => by
    rw [Nat.add_right_comm]
    unfold parentElements at short ⊢
    split
    case h_1 parent linked =>
      split
      · simp only [linked,if_pos ‹_›,List.length_cons] at short
        rw [parentElements_add (Nat.lt_of_succ_lt_succ short) more]
      · rfl
    case h_2 => rfl

/-- On a rooted tree the bound of `getStyles`' walk up the parent elements never cuts it: with more
links allowed the walk reaches the same parent elements, as the source's unbounded loop does. -/
theorem parentElements_never_cut (rooted : dom.Rooted) (node : Node) (more : Nat) :
    parentElements dom (dom.size + more) node = parentElements dom dom.size node := by
  cases linked : dom.parentNode node with
  | none => rw [parentElements_of_orphan linked,parentElements_of_orphan linked]
  | some parent => exact parentElements_add (parentElements_length_lt rooted _ (rooted.inUse _ _ linked).1) more

theorem ruleTree_rooted : ruleTree.Rooted := by
  refine Dom.Rooted.of_parent_lt fun node parent linked => ?_
  rcases node with _ | _ | _ | _ | node <;> simp [ruleTree,Dom.ofNodes] at linked ⊢ <;> subst linked <;> decide

theorem parentElements_never_cut_h1 :
    parentElements ruleTree ruleTree.size 3 = [1] ∧
      parentElements ruleTree (ruleTree.size + 5) 3 = parentElements ruleTree ruleTree.size 3 :=
  ⟨by decide,parentElements_never_cut ruleTree_rooted 3 5⟩

end ParentWalk

section Requests

variable (dom : Dom) (st : Agent) (env : RuleEnvironment) (sheetEnv : SheetEnvironment)

theorem SheetStore.Consistent.styleRequestStep {store store' : SheetStore} {request : StyleRequest}
    {answer : Option (RuleAnswer ⊕ SheetAnswer)} (consistent : store.Consistent)
    (stepped : CSS.styleRequestStep dom st env sheetEnv store request = .ok (store',answer)) : store'.Consistent := by
  cases request with
  | edit input =>
    obtain ⟨⟨edited,_⟩,ok,finished⟩ := ok_of_map_eq_ok stepped
    obtain ⟨rfl,-⟩ := Prod.mk.inj finished
    exact consistent.ruleStep ok
  | query query =>
    cases stepped
    exact (sheetStep_onlyBinds dom st env sheetEnv store.sheets query).consistent store.ids consistent

/-- Every run of rule edits and rule queries, in any order, from a consistent store ends in a
consistent store: the queries' bindings never break what the edits rely on. -/
theorem styleRequestRun_keeps_consistent : ∀ {store store' : SheetStore} {requests : List StyleRequest}
    {answers : List (RuleAnswer ⊕ SheetAnswer)},
    store.Consistent → styleRequestRun dom st env sheetEnv store requests = .ok (store',answers) → store'.Consistent
  | _, _, [], _, consistent, ran => by
    cases ran; exact consistent
  | store, _, request :: rest, _, consistent, ran => by
    cases stepped : CSS.styleRequestStep dom st env sheetEnv store request with
    | error fault => simp only [styleRequestRun,stepped] at ran; cases ran
    | ok next =>
      simp only [styleRequestRun,stepped] at ran
      obtain ⟨ran,tail,finished⟩ := ok_of_map_eq_ok ran
      obtain ⟨rfl,-⟩ := Prod.mk.inj finished
      exact styleRequestRun_keeps_consistent (consistent.styleRequestStep dom st env sheetEnv stepped) tail

end Requests

/-- The sample run: `getAllStyles` binds the rule `p` to id 2, and the edit then moves it under `em`. -/
theorem styleRequestRun_keeps_sample_consistent :
    ∃ store answers, styleRequestRun ruleTree sheetAgent sampleRuleEnvironment sampleSheetEnvironment sampleRules
      [.query (.getAllStyles 5),.edit (.setRuleSelector 6 2 "em" 1)] = .ok (store,answers) ∧
      store.sheets.cssRules 0 = [0,2] ∧ store.Consistent :=
  ⟨_,_,rfl,rfl,styleRequestRun_keeps_consistent ruleTree sheetAgent sampleRuleEnvironment sampleSheetEnvironment
    sampleRules_consistent (show styleRequestRun ruleTree sheetAgent sampleRuleEnvironment sampleSheetEnvironment sampleRules
      [.query (.getAllStyles 5),.edit (.setRuleSelector 6 2 "em" 1)] = _ from rfl)⟩

end InspectorDOM.CSS
