import InspectorDOM.StyleStore
/-! What the style edits do to a bound style and to its disabled properties. `applyStyleText`
sets each parsed property under its shorthand's name or its own, each shorthand once, and
forgets the disabled entries of what it sets. `toggleStyleEnabled` saves a property's value and
priority when it disables it and sets them back when it enables it, and no other request than
these two touches the saved pairs; a failed `applyStyleText` still forgets the edited property's
saved pair, so enabling it later sets nothing back. -/

namespace InspectorDOM.CSS

variable {σ : Type} (decl : StyleDeclaration σ)

theorem CSSStore.setStyle_self {store : CSSStore σ} {styleId : Nat} {style : σ}
    (found : store.styleForId styleId = some style) : store.setStyle styleId style = store := by
  ext1 <;> simp [← found]

@[simp] theorem CSSStore.setDisabled_setStyle_setDisabled (store : CSSStore σ) (styleId : Nat) (style : σ)
    (first second : Option DisabledStyleDeclaration) :
    ((store.setDisabled styleId first).setStyle styleId style).setDisabled styleId second =
      (store.setStyle styleId style).setDisabled styleId second := by
  ext1 <;> simp

@[simp] theorem CSSStore.setStyle_setStyle (store : CSSStore σ) (styleId : Nat) (first second : σ) :
    (store.setStyle styleId first).setStyle styleId second = store.setStyle styleId second := by
  ext1 <;> simp

theorem erase_insert_self (disabledStyle : DisabledStyleDeclaration) (name : String)
    (saved : String × String) : (disabledStyle.insert name saved).erase name = disabledStyle.erase name :=
  AList.ext (show List.kerase name (disabledStyle.insert name saved).entries = List.kerase name disabledStyle.entries by
    rw [AList.insert_entries]; exact List.kerase_cons_eq rfl)

/-- A parser that knows one text, `margin: 1px; color: red`: two longhands of `margin`, then
`color`. -/
def marginParse (text : String) : List ListedProperty :=
  if text = "margin: 1px; color: red" then
    [⟨"margin-top","1px","",false,"margin"⟩,⟨"margin-bottom","1px","",false,"margin"⟩,⟨"color","red","",false,""⟩]
  else []

/-- A store holding `color: blue` under id 1, with `width` disabled at `10px`. -/
def colorStore : CSSStore (List ListedProperty) where
  styleForId id := if id = 1 then some [⟨"color","blue","",false,""⟩] else none
  disabledStyles id := if id = 1 then some ((∅ : DisabledStyleDeclaration).insert "width" ("10px","")) else none
  parentStyleSheetId _ := none

/-- The disabled array lists each saved property once, with its saved value and priority. -/
theorem buildArrayForDisabledStyleProperties_spec (declaration : DisabledStyleDeclaration) :
    ((buildArrayForDisabledStyleProperties declaration).map (·.name)).Nodup ∧
      ∀ name value priority, ⟨name,value,priority⟩ ∈ buildArrayForDisabledStyleProperties declaration ↔
        declaration.lookup name = some (value,priority) := by
  refine ⟨?_,fun name value priority => ?_⟩
  · have keys : (buildArrayForDisabledStyleProperties declaration).map (·.name) = declaration.keys := by
      simp [buildArrayForDisabledStyleProperties,AList.keys,List.keys]
    rw [keys]; exact declaration.keys_nodup
  · simp only [buildArrayForDisabledStyleProperties,List.mem_map]
    rw [← Option.mem_def,AList.mem_lookup_iff]
    constructor
    · rintro ⟨⟨n,v,p⟩,mem,same⟩; cases same; exact mem
    · intro mem; exact ⟨_,mem,rfl⟩

/-- The object sent for a bound style describes it: one property object per property of the
declaration, in order; one value per non-empty shorthand of its properties, each once, put
together by `shorthandValue`; and, when the style has disabled properties, an array that lists
each saved property once with its saved value and priority. -/
theorem buildObjectForStyle_describes (store : CSSStore σ) (style : σ) (styleId : Nat) :
    (buildObjectForStyle decl store style (some styleId)).properties =
        (decl.item style).map (describeProperty decl style) ∧
      ((buildObjectForStyle decl store style (some styleId)).shorthandValues.map Prod.fst).Nodup ∧
      (∀ s, s ∈ (buildObjectForStyle decl store style (some styleId)).shorthandValues.map Prod.fst ↔
        s ≠ "" ∧ ∃ name ∈ decl.item style, decl.getPropertyShorthand style name = s) ∧
      (∀ entry ∈ (buildObjectForStyle decl store style (some styleId)).shorthandValues,
        entry.2 = shorthandValue decl style entry.1) ∧
      (buildObjectForStyle decl store style (some styleId)).disabled.isSome = (store.disabledStyles styleId).isSome ∧
      ∀ disabled ∈ (buildObjectForStyle decl store style (some styleId)).disabled,
        (disabled.map (·.name)).Nodup ∧ ∀ name value priority, ⟨name,value,priority⟩ ∈ disabled ↔
          (store.disabledStyles styleId).bind (AList.lookup name) = some (value,priority) := by
  obtain ⟨properties,nodup,mem,valued⟩ := populateObjectWithStyleProperties_spec decl style
  refine ⟨properties,nodup,mem,valued,?_,fun disabled listed => ?_⟩
  · simp only [buildObjectForStyle,Option.some_bind]
    cases store.disabledStyles styleId <;> rfl
  · simp only [buildObjectForStyle,Option.some_bind,Option.mem_def,Option.map_eq_some'] at listed
    obtain ⟨declaration,saved,rfl⟩ := listed
    simpa only [saved,Option.some_bind] using buildArrayForDisabledStyleProperties_spec declaration

/-- The name the loop sets for a parsed property: its shorthand, if it has one. -/
def effectiveName (tempStyle : σ) (name : String) : String :=
  if decl.getPropertyShorthand tempStyle name ≠ "" then decl.getPropertyShorthand tempStyle name else name

/-- `disabledStyle->remove(name)` for each name in turn. -/
def eraseAll (names : List String) (disabledStyle : DisabledStyleDeclaration) : DisabledStyleDeclaration :=
  names.foldl (fun remaining name => remaining.erase name) disabledStyle

@[simp] theorem applyProperty_changedProperties (applied : Applied σ) (name value priority : String) :
    (applyProperty decl applied name value priority).changedProperties = applied.changedProperties ++ [name] :=
  rfl

@[simp] theorem applyProperty_disabledStyle (applied : Applied σ) (name value priority : String) :
    (applyProperty decl applied name value priority).disabledStyle = applied.disabledStyle.map (AList.erase name) :=
  rfl

@[simp] theorem applyProperty_foundShorthands (applied : Applied σ) (name value priority : String) :
    (applyProperty decl applied name value priority).foundShorthands = applied.foundShorthands :=
  rfl

/-- A turn that does not skip sets the property's `effectiveName`, with `foundShorthands` grown
by that name at most. -/
theorem applyStep_sets (tempStyle : σ) (applied : Applied σ) (name : String)
    (unskipped : ¬(decl.getPropertyShorthand tempStyle name ≠ "" ∧
      decl.getPropertyShorthand tempStyle name ∈ applied.foundShorthands)) :
    ∃ found value priority, applyStep decl tempStyle applied name =
        applyProperty decl { applied with foundShorthands := found } (effectiveName decl tempStyle name) value priority ∧
      ∀ s ∈ found, s ∈ applied.foundShorthands ∨ s = effectiveName decl tempStyle name := by
  by_cases shorthand : decl.getPropertyShorthand tempStyle name ≠ ""
  · refine ⟨decl.getPropertyShorthand tempStyle name :: applied.foundShorthands,
      shorthandValue decl tempStyle (decl.getPropertyShorthand tempStyle name),
      shorthandPriority decl tempStyle (decl.getPropertyShorthand tempStyle name),?_,fun s mem => ?_⟩
    · simp only [applyStep,effectiveName]; rw [if_neg unskipped,if_pos shorthand,if_pos shorthand]
    · rw [effectiveName,if_pos shorthand]; exact (List.mem_cons.mp mem).symm
  · refine ⟨applied.foundShorthands,decl.getPropertyValue tempStyle name,decl.getPropertyPriority tempStyle name,
      ?_,fun s mem => .inl mem⟩
    simp only [applyStep,effectiveName]; rw [if_neg unskipped,if_neg shorthand,if_neg shorthand]

/-- The loop lists, in order, the `effectiveName` of each parsed property whose shorthand it has
not met before, forgets their disabled entries, and lists every parsed property's name at the
end. -/
theorem foldl_applyStep (tempStyle : σ) : ∀ (items : List String) (applied : Applied σ),
    (∀ s ∈ applied.foundShorthands, s ∈ applied.changedProperties) →
    ∃ changed, (items.foldl (applyStep decl tempStyle) applied).changedProperties =
        applied.changedProperties ++ changed ∧
      (items.foldl (applyStep decl tempStyle) applied).disabledStyle =
        applied.disabledStyle.map (eraseAll changed) ∧
      changed.Sublist (items.map (effectiveName decl tempStyle)) ∧
      ∀ name ∈ items, effectiveName decl tempStyle name ∈ applied.changedProperties ++ changed
  | [], applied, _ => ⟨[],by simp,show applied.disabledStyle = _ by cases applied.disabledStyle <;> rfl,List.Sublist.slnil,by simp⟩
  | name :: items, applied, found => by
    rw [List.foldl_cons]
    by_cases skipped : decl.getPropertyShorthand tempStyle name ≠ "" ∧
      decl.getPropertyShorthand tempStyle name ∈ applied.foundShorthands
    · -- a shorthand met before: nothing happens, and the shorthand is listed already
      have step : applyStep decl tempStyle applied name = applied := by
        simp only [applyStep]; rw [if_pos skipped]
      rw [step]
      obtain ⟨changed,listed,erased,sub,covers⟩ := foldl_applyStep tempStyle items applied found
      refine ⟨changed,listed,erased,sub.cons _,fun n mem => ?_⟩
      rcases List.mem_cons.mp mem with rfl | mem
      · rw [effectiveName,if_pos skipped.1]; exact List.mem_append_left _ (found _ skipped.2)
      · exact covers n mem
    · obtain ⟨found',value,priority,step,within⟩ := applyStep_sets decl tempStyle applied name skipped
      rw [step]
      obtain ⟨changed,listed,erased,sub,covers⟩ := foldl_applyStep tempStyle items
          (applyProperty decl { applied with foundShorthands := found' } (effectiveName decl tempStyle name)
            value priority) fun s mem => by
        rcases within s mem with old | rfl
        · exact List.mem_append_left _ (found s old)
        · simp
      refine ⟨effectiveName decl tempStyle name :: changed,?_,?_,sub.cons₂ _,fun n mem => ?_⟩
      · simp [listed]
      · rw [erased,applyProperty_disabledStyle,Option.map_map]; rfl
      · rcases List.mem_cons.mp mem with rfl | mem
        · simp
        · simpa using covers n mem

/-- The success path of `applyStyleText`: the loop runs over the parsed properties from the
style after the removal, with the disabled entry of the edited property gone. -/
theorem applyStyleText_of_parsed (store : CSSStore σ) (callId styleId : Nat)
    (styleText propertyName : String) {style : σ} (found : store.styleForId styleId = some style)
    (written : styleText ≠ "") (parsed : decl.item (decl.parseDeclaration styleText) ≠ [])
    (removed : (removeForEdit decl style propertyName).2 = true) :
    applyStyleText decl store callId styleId styleText propertyName =
      let applied := (decl.item (decl.parseDeclaration styleText)).foldl (applyStep decl (decl.parseDeclaration styleText))
        ⟨(removeForEdit decl style propertyName).1,(store.disabledStyles styleId).map (AList.erase propertyName),[],[]⟩
      let store' := (store.setStyle styleId applied.style).setDisabled styleId applied.disabledStyle
      (store',.didApplyStyleText callId true (some (buildObjectForStyle decl store' applied.style (some styleId)))
        applied.changedProperties) := by
  simp only [applyStyleText,found,ne_eq,parsed,not_false_eq_true,true_or,if_true,removed,Bool.not_true,
    Bool.false_eq_true,if_false,written]

/-- A successful edit of a bound style: the changed names are the `effectiveName`s of the parsed
properties, in parse order, each shorthand listed where it is first met; they and the edited
property lose their disabled entries, and the answer describes the edited style. -/
theorem applyStyleText_applies_parsed (store : CSSStore σ) (callId styleId : Nat)
    (styleText propertyName : String) {style : σ} (found : store.styleForId styleId = some style)
    (written : styleText ≠ "") (parsed : decl.item (decl.parseDeclaration styleText) ≠ [])
    (removed : (removeForEdit decl style propertyName).2 = true) :
    ∃ edited changed,
      (applyStyleText decl store callId styleId styleText propertyName).1 =
        (store.setStyle styleId edited).setDisabled styleId
          ((store.disabledStyles styleId).map (eraseAll (propertyName :: changed))) ∧
      (applyStyleText decl store callId styleId styleText propertyName).2 =
        .didApplyStyleText callId true (some (buildObjectForStyle decl
          (applyStyleText decl store callId styleId styleText propertyName).1 edited (some styleId))) changed ∧
      changed.Sublist ((decl.item (decl.parseDeclaration styleText)).map
        (effectiveName decl (decl.parseDeclaration styleText))) ∧
      ∀ name ∈ decl.item (decl.parseDeclaration styleText),
        effectiveName decl (decl.parseDeclaration styleText) name ∈ changed := by
  obtain ⟨changed,listed,erased,sub,covers⟩ := foldl_applyStep decl (decl.parseDeclaration styleText)
    (decl.item (decl.parseDeclaration styleText))
    ⟨(removeForEdit decl style propertyName).1,(store.disabledStyles styleId).map (AList.erase propertyName),[],[]⟩
    fun _ mem => nomatch mem
  rw [applyStyleText_of_parsed decl store callId styleId styleText propertyName found written parsed removed]
  refine ⟨((decl.item (decl.parseDeclaration styleText)).foldl (applyStep decl (decl.parseDeclaration styleText))
    ⟨(removeForEdit decl style propertyName).1,(store.disabledStyles styleId).map (AList.erase propertyName),[],[]⟩).style,
    changed,?_,?_,sub,fun name mem => by simpa using covers name mem⟩
  · dsimp only
    rw [erased,Option.map_map]; rfl
  · dsimp only
    rw [listed]; rfl

theorem applyStyleText_applies_margin :
    let decl := listedDeclaration marginParse
    let text := "margin: 1px; color: red"
    colorStore.styleForId 1 = some [⟨"color","blue","",false,""⟩] ∧ text ≠ "" ∧
      decl.item (decl.parseDeclaration text) ≠ [] ∧
      (removeForEdit decl [⟨"color","blue","",false,""⟩] "color").2 = true ∧
      ∃ edited changed,
        (applyStyleText decl colorStore 7 1 text "color").1 =
          (colorStore.setStyle 1 edited).setDisabled 1 ((colorStore.disabledStyles 1).map (eraseAll ("color" :: changed))) ∧
        (applyStyleText decl colorStore 7 1 text "color").2 = .didApplyStyleText 7 true
          (some (buildObjectForStyle decl (applyStyleText decl colorStore 7 1 text "color").1 edited (some 1))) changed ∧
        changed.Sublist ((decl.item (decl.parseDeclaration text)).map (effectiveName decl (decl.parseDeclaration text))) ∧
        ∀ name ∈ decl.item (decl.parseDeclaration text), effectiveName decl (decl.parseDeclaration text) name ∈ changed :=
  ⟨rfl,by decide,by decide,by decide,
    applyStyleText_applies_parsed _ colorStore 7 1 _ _ rfl (by decide) (by decide) (by decide)⟩

/-- The value and priority the loop sets a changed name to: a shorthand of a parsed property gets
its put-together value and priority, any other name its own. -/
def parsedValue (tempStyle : σ) (name : String) : String × String :=
  if name ≠ "" ∧ ∃ p ∈ decl.item tempStyle, decl.getPropertyShorthand tempStyle p = name then
    (shorthandValue decl tempStyle name,shorthandPriority decl tempStyle name)
  else (decl.getPropertyValue tempStyle name,decl.getPropertyPriority tempStyle name)

/-- `style->setProperty` of a changed name to its parsed value, the exception code not looked at. -/
def setParsed (tempStyle edited : σ) (name : String) : σ :=
  (decl.setProperty edited name (parsedValue decl tempStyle name).1 (parsedValue decl tempStyle name).2).getD edited

/-- With each property parsed once and no property without shorthand being the shorthand of
another, the loop never lists a name twice, and sets each listed name to its parsed value. What
it has listed is a shorthand met, or a property without shorthand met; every shorthand met is the
shorthand of a property met. -/
theorem foldl_applyStep_once (tempStyle : σ) (distinct : (decl.item tempStyle).Nodup)
    (plain : ∀ name ∈ decl.item tempStyle, decl.getPropertyShorthand tempStyle name = "" →
      ∀ other ∈ decl.item tempStyle, decl.getPropertyShorthand tempStyle other ≠ name) :
    ∀ (rest done : List String) (applied : Applied σ), done ++ rest = decl.item tempStyle →
      applied.changedProperties.Nodup →
      (∀ x ∈ applied.changedProperties,
        x ∈ applied.foundShorthands ∨ x ∈ done ∧ decl.getPropertyShorthand tempStyle x = "") →
      (∀ s ∈ applied.foundShorthands, s ≠ "" ∧ ∃ p ∈ done, decl.getPropertyShorthand tempStyle p = s) →
      ∃ changed, (rest.foldl (applyStep decl tempStyle) applied).changedProperties =
          applied.changedProperties ++ changed ∧
        (rest.foldl (applyStep decl tempStyle) applied).changedProperties.Nodup ∧
        (rest.foldl (applyStep decl tempStyle) applied).style = changed.foldl (setParsed decl tempStyle) applied.style
  | [], _, applied, _, nodup, _, _ => ⟨[],by simp,nodup,rfl⟩
  | name :: rest, done, applied, whole, nodup, listed, found => by
    rw [List.foldl_cons]
    have inWhole : name ∈ decl.item tempStyle := whole ▸ List.mem_append_right _ (List.mem_cons_self _ _)
    have whole' : (done ++ [name]) ++ rest = decl.item tempStyle := by simpa using whole
    have grown : ∀ x ∈ done, x ∈ done ++ [name] := fun x mem => List.mem_append_left _ mem
    by_cases skipped : decl.getPropertyShorthand tempStyle name ≠ "" ∧
      decl.getPropertyShorthand tempStyle name ∈ applied.foundShorthands
    · have step : applyStep decl tempStyle applied name = applied := by
        simp only [applyStep]; rw [if_pos skipped]
      rw [step]
      exact foldl_applyStep_once tempStyle distinct plain rest (done ++ [name]) applied whole' nodup
        (fun x mem => (listed x mem).imp_right fun old => ⟨grown x old.1,old.2⟩)
        (fun s mem => (found s mem).imp_right fun ⟨p,old,same⟩ => ⟨p,grown p old,same⟩)
    · by_cases shorthand : decl.getPropertyShorthand tempStyle name ≠ ""
      · -- a shorthand met for the first time is no name listed before
        have fresh : decl.getPropertyShorthand tempStyle name ∉ applied.changedProperties := fun mem => by
          rcases listed _ mem with old | ⟨old,blank⟩
          · exact skipped ⟨shorthand,old⟩
          · exact plain _ (whole ▸ List.mem_append_left _ old) blank name inWhole rfl
        have step : applyStep decl tempStyle applied name =
            applyProperty decl { applied with foundShorthands := decl.getPropertyShorthand tempStyle name :: applied.foundShorthands }
              (decl.getPropertyShorthand tempStyle name)
              (shorthandValue decl tempStyle (decl.getPropertyShorthand tempStyle name))
              (shorthandPriority decl tempStyle (decl.getPropertyShorthand tempStyle name)) := by
          simp only [applyStep]; rw [if_neg skipped,if_pos shorthand]
        rw [step]
        obtain ⟨changed,listed',nodup',style'⟩ := foldl_applyStep_once tempStyle distinct plain rest (done ++ [name])
          (applyProperty decl { applied with foundShorthands := decl.getPropertyShorthand tempStyle name :: applied.foundShorthands }
            (decl.getPropertyShorthand tempStyle name)
            (shorthandValue decl tempStyle (decl.getPropertyShorthand tempStyle name))
            (shorthandPriority decl tempStyle (decl.getPropertyShorthand tempStyle name))) whole'
          (List.nodup_append.mpr ⟨nodup,List.nodup_singleton _,by simpa using fresh⟩)
          (fun x mem => by
            rcases List.mem_append.mp mem with old | new
            · exact ((listed x old).imp (List.mem_cons_of_mem _) fun old => ⟨grown x old.1,old.2⟩)
            · exact .inl (by simp [List.mem_singleton.mp new]))
          (fun s mem => by
            rcases List.mem_cons.mp mem with rfl | old
            · exact ⟨shorthand,name,by simp,rfl⟩
            · exact (found s old).imp_right fun ⟨p,old,same⟩ => ⟨p,grown p old,same⟩)
        refine ⟨decl.getPropertyShorthand tempStyle name :: changed,by simp [listed'],nodup',?_⟩
        rw [style',List.foldl_cons]
        have isShorthand : decl.getPropertyShorthand tempStyle name ≠ "" ∧ ∃ p ∈ decl.item tempStyle,
            decl.getPropertyShorthand tempStyle p = decl.getPropertyShorthand tempStyle name :=
          ⟨shorthand,name,inWhole,rfl⟩
        simp only [applyProperty,setParsed,parsedValue,if_pos isShorthand]
      · -- a property without shorthand is listed neither as a shorthand met nor twice
        rw [not_not] at shorthand
        have fresh : name ∉ applied.changedProperties := fun mem => by
          rcases listed _ mem with old | ⟨old,-⟩
          · obtain ⟨-,p,earlier,same⟩ := found _ old
            exact plain name inWhole shorthand p (whole ▸ List.mem_append_left _ earlier) same
          · rw [← whole] at distinct
            exact List.disjoint_of_nodup_append distinct old (List.mem_cons_self _ _)
        have step : applyStep decl tempStyle applied name = applyProperty decl applied name
            (decl.getPropertyValue tempStyle name) (decl.getPropertyPriority tempStyle name) := by
          simp only [applyStep]; rw [if_neg skipped,if_neg (not_not.mpr shorthand)]
        rw [step]
        obtain ⟨changed,listed',nodup',style'⟩ := foldl_applyStep_once tempStyle distinct plain rest (done ++ [name])
          (applyProperty decl applied name (decl.getPropertyValue tempStyle name) (decl.getPropertyPriority tempStyle name))
          whole' (List.nodup_append.mpr ⟨nodup,List.nodup_singleton _,by simpa using fresh⟩)
          (fun x mem => by
            rcases List.mem_append.mp mem with old | new
            · exact (listed x old).imp_right fun old => ⟨grown x old.1,old.2⟩
            · rw [List.mem_singleton.mp new]; exact .inr ⟨by simp,shorthand⟩)
          (fun s mem => (found s mem).imp_right fun ⟨p,old,same⟩ => ⟨p,grown p old,same⟩)
        refine ⟨name :: changed,by simp [listed'],nodup',?_⟩
        rw [style',List.foldl_cons]
        have notShorthand : ¬(name ≠ "" ∧ ∃ p ∈ decl.item tempStyle, decl.getPropertyShorthand tempStyle p = name) :=
          fun ⟨_,p,mem,same⟩ => plain name inWhole shorthand p mem same
        simp only [applyProperty,setParsed,parsedValue,if_neg notShorthand]

/-- With each property parsed once and no property without shorthand being the shorthand of
another, a successful edit sets each changed name once, in order: a shorthand to its put-together
value and priority, any other property to its own. -/
theorem applyStyleText_sets_each_once (store : CSSStore σ) (callId styleId : Nat)
    (styleText propertyName : String) {style : σ} (found : store.styleForId styleId = some style)
    (written : styleText ≠ "") (parsed : decl.item (decl.parseDeclaration styleText) ≠ [])
    (removed : (removeForEdit decl style propertyName).2 = true)
    (distinct : (decl.item (decl.parseDeclaration styleText)).Nodup)
    (plain : ∀ name ∈ decl.item (decl.parseDeclaration styleText),
      decl.getPropertyShorthand (decl.parseDeclaration styleText) name = "" →
      ∀ other ∈ decl.item (decl.parseDeclaration styleText),
        decl.getPropertyShorthand (decl.parseDeclaration styleText) other ≠ name) :
    ∃ desc changed, (applyStyleText decl store callId styleId styleText propertyName).2 =
        .didApplyStyleText callId true (some desc) changed ∧ changed.Nodup ∧
      (applyStyleText decl store callId styleId styleText propertyName).1.styleForId styleId =
        some (changed.foldl (setParsed decl (decl.parseDeclaration styleText)) (removeForEdit decl style propertyName).1) := by
  obtain ⟨changed,listed,nodup,edited⟩ := foldl_applyStep_once decl (decl.parseDeclaration styleText) distinct plain
    (decl.item (decl.parseDeclaration styleText)) []
    ⟨(removeForEdit decl style propertyName).1,(store.disabledStyles styleId).map (AList.erase propertyName),[],[]⟩
    rfl List.nodup_nil (fun _ mem => nomatch mem) (fun _ mem => nomatch mem)
  simp only [List.nil_append] at listed
  rw [listed] at nodup
  rw [applyStyleText_of_parsed decl store callId styleId styleText propertyName found written parsed removed]
  exact ⟨_,changed,by rw [← listed],nodup,by simp [edited]⟩

theorem applyStyleText_sets_margin_once :
    let decl := listedDeclaration marginParse
    let text := "margin: 1px; color: red"
    let temp := decl.parseDeclaration text
    colorStore.styleForId 1 = some [⟨"color","blue","",false,""⟩] ∧ text ≠ "" ∧ decl.item temp ≠ [] ∧
      (removeForEdit decl [⟨"color","blue","",false,""⟩] "color").2 = true ∧ (decl.item temp).Nodup ∧
      (∀ name ∈ decl.item temp, decl.getPropertyShorthand temp name = "" →
        ∀ other ∈ decl.item temp, decl.getPropertyShorthand temp other ≠ name) ∧
      ∃ desc changed, (applyStyleText decl colorStore 7 1 text "color").2 = .didApplyStyleText 7 true (some desc) changed ∧
        changed.Nodup ∧ (applyStyleText decl colorStore 7 1 text "color").1.styleForId 1 =
          some (changed.foldl (setParsed decl temp) (removeForEdit decl [⟨"color","blue","",false,""⟩] "color").1) :=
  ⟨rfl,by decide,by decide,by decide,by decide,by decide,
    applyStyleText_sets_each_once _ colorStore 7 1 _ _ rfl (by decide) (by decide) (by decide) (by decide) (by decide)⟩

/-- The store after a toggle of a bound style: the toggled style, and its disabled properties,
made to exist. -/
theorem toggleStyleEnabled_store (store : CSSStore σ) (callId styleId : Nat) (propertyName : String)
    (disabled : Bool) {style : σ} (found : store.styleForId styleId = some style) :
    (toggleStyleEnabled decl store callId styleId propertyName disabled).1 =
      (store.setStyle styleId (toggle decl style ((store.disabledStyles styleId).getD ∅) propertyName disabled).1).setDisabled
        styleId (some (toggle decl style ((store.disabledStyles styleId).getD ∅) propertyName disabled).2.1) := by
  simp only [toggleStyleEnabled,found]
  split <;> rfl

/-- Disabling saves the value and priority the declaration reports, whether the removal raises
or not. -/
theorem toggle_disable_saves (style : σ) (disabledStyle : DisabledStyleDeclaration) (propertyName : String) :
    (toggle decl style disabledStyle propertyName true).2.1 = disabledStyle.insert propertyName
      (decl.getPropertyValue style propertyName,decl.getPropertyPriority style propertyName) := by
  simp only [toggle,if_true]
  split <;> rfl

/-- Enabling a saved property sets it to the saved pair; the style stays as it was if that raises. -/
theorem toggle_enable_sets (style : σ) (disabledStyle : DisabledStyleDeclaration) (propertyName : String)
    {saved : String × String} (kept : disabledStyle.lookup propertyName = some saved) :
    (toggle decl style disabledStyle propertyName false).1 =
      (decl.setProperty style propertyName saved.1 saved.2).getD style := by
  simp only [toggle,Bool.false_eq_true,if_false,kept]
  split <;> simp_all

/-- Disabling a property and enabling it again: the property is removed, then set back to the
value and priority the declaration reported before, and the style's disabled properties end as
they were without it. When setting it back raises, the style stays without the property and the
saved pair stays. -/
theorem toggleStyleEnabled_round_trip (store : CSSStore σ) (callId callId' styleId : Nat)
    (propertyName : String) {style removedStyle : σ} (found : store.styleForId styleId = some style)
    (removes : decl.removeProperty style propertyName = some removedStyle) :
    (toggleStyleEnabled decl (toggleStyleEnabled decl store callId styleId propertyName true).1
        callId' styleId propertyName false).1 =
      match decl.setProperty removedStyle propertyName (decl.getPropertyValue style propertyName)
          (decl.getPropertyPriority style propertyName) with
      | some restored => (store.setStyle styleId restored).setDisabled styleId
          (some (((store.disabledStyles styleId).getD ∅).erase propertyName))
      | none => (store.setStyle styleId removedStyle).setDisabled styleId
          (some (((store.disabledStyles styleId).getD ∅).insert propertyName
            (decl.getPropertyValue style propertyName,decl.getPropertyPriority style propertyName))) := by
  have off : (toggleStyleEnabled decl store callId styleId propertyName true).1 =
      (store.setStyle styleId removedStyle).setDisabled styleId (some (((store.disabledStyles styleId).getD ∅).insert
        propertyName (decl.getPropertyValue style propertyName,decl.getPropertyPriority style propertyName))) := by
    rw [toggleStyleEnabled_store decl store callId styleId propertyName true found,toggle_disable_saves]
    simp [toggle,removes]
  have back : ((store.setStyle styleId removedStyle).setDisabled styleId (some (((store.disabledStyles styleId).getD ∅).insert
      propertyName (decl.getPropertyValue style propertyName,decl.getPropertyPriority style propertyName)))).styleForId
        styleId = some removedStyle := by simp
  rw [off,toggleStyleEnabled_store decl _ callId' styleId propertyName false back]
  cases restored : decl.setProperty removedStyle propertyName (decl.getPropertyValue style propertyName)
      (decl.getPropertyPriority style propertyName) <;>
    simp [toggle,AList.lookup_insert,restored,erase_insert_self]

theorem toggleStyleEnabled_round_trip_color :
    let decl := listedDeclaration marginParse
    colorStore.styleForId 1 = some [⟨"color","blue","",false,""⟩] ∧
      decl.removeProperty [⟨"color","blue","",false,""⟩] "color" = some [] ∧
      (toggleStyleEnabled decl (toggleStyleEnabled decl colorStore 7 1 "color" true).1 8 1 "color" false).1 =
        match decl.setProperty [] "color" (decl.getPropertyValue [⟨"color","blue","",false,""⟩] "color")
            (decl.getPropertyPriority [⟨"color","blue","",false,""⟩] "color") with
        | some restored => (colorStore.setStyle 1 restored).setDisabled 1
            (some (((colorStore.disabledStyles 1).getD ∅).erase "color"))
        | none => (colorStore.setStyle 1 []).setDisabled 1
            (some (((colorStore.disabledStyles 1).getD ∅).insert "color"
              (decl.getPropertyValue [⟨"color","blue","",false,""⟩] "color",
                decl.getPropertyPriority [⟨"color","blue","",false,""⟩] "color"))) :=
  ⟨rfl,rfl,toggleStyleEnabled_round_trip _ colorStore 7 8 1 "color" rfl rfl⟩

/-- The style a request names. -/
def StyleInput.styleId : StyleInput → Nat
  | .applyStyleText _ styleId _ _ | .setStyleText _ styleId _ | .setStyleProperty _ styleId _ _
  | .toggleStyleEnabled _ styleId _ _ => styleId

/-- The requests that may write disabled properties. -/
def StyleInput.editsDisabled : StyleInput → Bool
  | .applyStyleText .. | .toggleStyleEnabled .. => true
  | .setStyleText .. | .setStyleProperty .. => false

theorem CSSStore.setDisabled_self (store : CSSStore σ) (styleId : Nat) :
    store.setDisabled styleId (store.disabledStyles styleId) = store := by
  ext1 <;> simp

/-- One edit leaves the store as it was, or writes the style it names, and that style's disabled
properties only if it is an `applyStyleText` or a `toggleStyleEnabled`. -/
theorem styleStep_writes (store : CSSStore σ) (input : StyleInput) :
    (styleStep decl store input).1 = store ∨ ∃ style disabledStyle,
      (styleStep decl store input).1 = (store.setStyle input.styleId style).setDisabled input.styleId disabledStyle ∧
        (input.editsDisabled = false → disabledStyle = store.disabledStyles input.styleId) := by
  cases input with
  | applyStyleText callId styleId styleText propertyName =>
    simp only [styleStep,applyStyleText,StyleInput.styleId,StyleInput.editsDisabled]
    split
    · exact .inl rfl
    · right; split_ifs <;> exact ⟨_,_,rfl,nofun⟩
  | setStyleText callId styleId cssText =>
    simp only [styleStep,setStyleText,StyleInput.styleId,StyleInput.editsDisabled]
    split
    · exact .inl rfl
    · split
      · exact .inl rfl
      · rename_i edited _
        exact .inr ⟨edited,store.disabledStyles styleId,(CSSStore.setDisabled_self _ styleId).symm,fun _ => rfl⟩
  | setStyleProperty callId styleId name value =>
    simp only [styleStep,setStyleProperty,StyleInput.styleId,StyleInput.editsDisabled]
    split
    · exact .inl rfl
    · split
      · exact .inl rfl
      · rename_i edited _
        exact .inr ⟨edited,store.disabledStyles styleId,(CSSStore.setDisabled_self _ styleId).symm,fun _ => rfl⟩
  | toggleStyleEnabled callId styleId propertyName disabled =>
    simp only [styleStep,toggleStyleEnabled,StyleInput.styleId,StyleInput.editsDisabled]
    split
    · exact .inl rfl
    · right; split <;> exact ⟨_,_,rfl,nofun⟩

/-- A bound style stays bound through any run. -/
theorem styleRun_bound (store : CSSStore σ) (inputs : List StyleInput) {styleId : Nat}
    (bound : (store.styleForId styleId).isSome) : ((styleRun decl store inputs).1.styleForId styleId).isSome := by
  induction inputs generalizing store with
  | nil => exact bound
  | cons input inputs ih =>
    apply ih
    rcases styleStep_writes decl store input with same | ⟨style,disabledStyle,written,-⟩
    · rw [same]; exact bound
    · rw [written]
      by_cases at_ : styleId = input.styleId
      · subst at_; simp
      · simpa [Function.update_noteq at_] using bound

/-- A run of requests none of which is an `applyStyleText` or a `toggleStyleEnabled` of the
style leaves its disabled properties as they were. -/
theorem styleRun_disabledStyles (store : CSSStore σ) (inputs : List StyleInput) {styleId : Nat}
    (others : ∀ input ∈ inputs, input.editsDisabled = true → input.styleId ≠ styleId) :
    (styleRun decl store inputs).1.disabledStyles styleId = store.disabledStyles styleId := by
  induction inputs generalizing store with
  | nil => rfl
  | cons input inputs ih =>
    refine (ih _ fun other mem => others other (List.mem_cons_of_mem _ mem)).trans ?_
    rcases styleStep_writes decl store input with same | ⟨style,disabledStyle,written,keeps⟩
    · rw [same]
    · rw [written]
      by_cases at_ : input.styleId = styleId
      · subst at_
        cases edits : input.editsDisabled
        · simp [keeps edits]
        · exact absurd rfl (others input (List.mem_cons_self _ _) edits)
      · simp [Function.update_noteq (Ne.symm at_)]

/-- Whatever `setStyleText` and `setStyleProperty` requests, and edits of other styles, come
between disabling a property and enabling it, the enable sets the property to the value and
priority the declaration reported at the disable, over whatever those requests set. -/
theorem enable_after_run_sets_saved (store : CSSStore σ) (callId callId' styleId : Nat)
    (propertyName : String) (inputs : List StyleInput) {style : σ}
    (found : store.styleForId styleId = some style)
    (others : ∀ input ∈ inputs, input.editsDisabled = true → input.styleId ≠ styleId) :
    ∃ current, (styleRun decl (toggleStyleEnabled decl store callId styleId propertyName true).1 inputs).1.styleForId
        styleId = some current ∧
      (toggleStyleEnabled decl (styleRun decl (toggleStyleEnabled decl store callId styleId propertyName true).1 inputs).1
          callId' styleId propertyName false).1.styleForId styleId =
        some ((decl.setProperty current propertyName (decl.getPropertyValue style propertyName)
          (decl.getPropertyPriority style propertyName)).getD current) := by
  have off := toggleStyleEnabled_store decl store callId styleId propertyName true found
  rw [toggle_disable_saves] at off
  have bound : ((toggleStyleEnabled decl store callId styleId propertyName true).1.styleForId styleId).isSome := by
    simp [off]
  obtain ⟨current,now⟩ := Option.isSome_iff_exists.mp (styleRun_bound decl _ inputs bound)
  refine ⟨current,now,?_⟩
  have kept : (((styleRun decl (toggleStyleEnabled decl store callId styleId propertyName true).1 inputs).1.disabledStyles
      styleId).getD ∅).lookup propertyName =
        some (decl.getPropertyValue style propertyName,decl.getPropertyPriority style propertyName) := by
    rw [styleRun_disabledStyles decl _ inputs others,off]
    simp [AList.lookup_insert]
  rw [toggleStyleEnabled_store decl _ callId' styleId propertyName false now,toggle_enable_sets decl current _ propertyName kept]
  simp

/-- `color` disabled, then set to `green` by `setStyleProperty` and a second style edited: the
enable sets `color` back to `blue`. -/
theorem enable_after_run_sets_blue :
    let decl := listedDeclaration marginParse
    let inputs := [StyleInput.setStyleProperty 8 1 "color" "green",StyleInput.toggleStyleEnabled 9 2 "color" true]
    colorStore.styleForId 1 = some [⟨"color","blue","",false,""⟩] ∧
      (∀ input ∈ inputs, input.editsDisabled = true → input.styleId ≠ 1) ∧
      ∃ current, (styleRun decl (toggleStyleEnabled decl colorStore 7 1 "color" true).1 inputs).1.styleForId 1 =
          some current ∧
        (toggleStyleEnabled decl (styleRun decl (toggleStyleEnabled decl colorStore 7 1 "color" true).1 inputs).1
            10 1 "color" false).1.styleForId 1 =
          some ((decl.setProperty current "color" (decl.getPropertyValue [⟨"color","blue","",false,""⟩] "color")
            (decl.getPropertyPriority [⟨"color","blue","",false,""⟩] "color")).getD current) :=
  ⟨rfl,by decide,enable_after_run_sets_saved _ colorStore 7 10 1 "color" _ rfl (by decide)⟩

/-- A failed `applyStyleText` on a bound style keeps the style bound and leaves no saved pair for
the edited property, on both of its failures. -/
theorem applyStyleText_failure_forgets (store : CSSStore σ) (callId styleId : Nat) (styleText propertyName : String)
    {style : σ} (found : store.styleForId styleId = some style)
    (failed : (applyStyleText decl store callId styleId styleText propertyName).2 = .didApplyStyleText callId false none []) :
    ((applyStyleText decl store callId styleId styleText propertyName).1.styleForId styleId).isSome ∧
      (((applyStyleText decl store callId styleId styleText propertyName).1.disabledStyles styleId).getD ∅).lookup
        propertyName = none := by
  have forgotten : (((store.disabledStyles styleId).map (AList.erase propertyName)).getD ∅).lookup propertyName = none := by
    cases store.disabledStyles styleId <;> simp [AList.lookup_erase]
  simp only [applyStyleText,found] at failed ⊢
  split_ifs at failed ⊢ <;> simp_all

/-- A failed `applyStyleText` loses the edited property's saved pair for good: after it and any
run of requests that disable or enable nothing of the style, enabling the property leaves the
style as the run left it, whatever was saved for the property before the edit. -/
theorem failed_applyStyleText_loses_saved (store : CSSStore σ) (callId callId' styleId : Nat)
    (styleText propertyName : String) (inputs : List StyleInput) {style : σ}
    (found : store.styleForId styleId = some style)
    (failed : (applyStyleText decl store callId styleId styleText propertyName).2 = .didApplyStyleText callId false none [])
    (others : ∀ input ∈ inputs, input.editsDisabled = true → input.styleId ≠ styleId) :
    ∃ current, (styleRun decl (applyStyleText decl store callId styleId styleText propertyName).1 inputs).1.styleForId
        styleId = some current ∧
      (toggleStyleEnabled decl (styleRun decl (applyStyleText decl store callId styleId styleText propertyName).1 inputs).1
          callId' styleId propertyName false).1.styleForId styleId = some current := by
  obtain ⟨bound,forgotten⟩ := applyStyleText_failure_forgets decl store callId styleId styleText propertyName found failed
  obtain ⟨current,now⟩ := Option.isSome_iff_exists.mp (styleRun_bound decl _ inputs bound)
  refine ⟨current,now,?_⟩
  rw [toggleStyleEnabled_store decl _ callId' styleId propertyName false now,styleRun_disabledStyles decl _ inputs others]
  simp [toggle,forgotten]

/-- `color` disabled at `blue`, then an edit of it to `color: `, which parses to nothing: enabling
`color` after a `setStyleProperty` of `width` sets nothing back. -/
theorem failed_applyStyleText_loses_blue :
    let decl := listedDeclaration marginParse
    let off := (toggleStyleEnabled decl colorStore 7 1 "color" true).1
    let inputs := [StyleInput.setStyleProperty 9 1 "width" "1px"]
    ((off.disabledStyles 1).getD ∅).lookup "color" = some ("blue","") ∧
      (applyStyleText decl off 8 1 "color: " "color").2 = .didApplyStyleText 8 false none [] ∧
      ∃ current, (styleRun decl (applyStyleText decl off 8 1 "color: " "color").1 inputs).1.styleForId 1 = some current ∧
        (toggleStyleEnabled decl (styleRun decl (applyStyleText decl off 8 1 "color: " "color").1 inputs).1
          10 1 "color" false).1.styleForId 1 = some current :=
  ⟨by decide,rfl,failed_applyStyleText_loses_saved _ _ 8 10 1 "color: " "color" _ rfl rfl (by decide)⟩

end InspectorDOM.CSS
