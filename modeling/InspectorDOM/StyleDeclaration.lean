import Mathlib.Data.List.Nodup
/-! The style declarations the CSS requests read and edit. The agent sees a
`CSSStyleDeclaration` only through the calls of `StyleDeclaration`; what those answer is
WebCore's, so the declaration is a parameter. What the agent computes from the answers is
translated here: `longhandProperties`, `shorthandValue`, `shorthandPriority` and the property
list of `populateObjectWithStyleProperties`, each a loop over `item(0)` .. `item(length() - 1)`
with a set of names seen so far. -/

namespace InspectorDOM.CSS

/-- The calls the agent makes on a `CSSStyleDeclaration`. `item` lists the property names in
the order of `item(i)`; an edit that raises an exception code answers `none`, and the
declaration stays as it was. `parseDeclaration` is `CSSMutableStyleDeclaration::create()`
followed by `parseDeclaration(text)`. -/
structure StyleDeclaration (σ : Type) where
  item : σ → List String
  getPropertyValue : σ → String → String
  getPropertyPriority : σ → String → String
  isPropertyImplicit : σ → String → Bool
  getPropertyShorthand : σ → String → String
  removeProperty : σ → String → Option σ
  /-- `setProperty(name, value, priority, ec)`. -/
  setProperty : σ → String → String → String → Option σ
  /-- `setProperty(name, value, ec)`, which reads the priority off the value. -/
  setPropertyText : σ → String → String → Option σ
  setCssText : σ → String → Option σ
  parseDeclaration : String → σ

/-- A property of a declaration kept as a list: its name, value, priority, implicit flag and
shorthand. -/
structure ListedProperty where
  name : String
  value : String
  priority : String
  implicit : Bool
  shorthand : String
deriving DecidableEq, Repr

/-- A declaration kept as the list of its properties, whose edits never raise; `parse` is the
CSS parser it reads text with. A set property goes last, explicit and without shorthand. -/
def listedDeclaration (parse : String → List ListedProperty) : StyleDeclaration (List ListedProperty) where
  item style := style.map (·.name)
  getPropertyValue style name := ((style.find? (·.name == name)).map (·.value)).getD ""
  getPropertyPriority style name := ((style.find? (·.name == name)).map (·.priority)).getD ""
  isPropertyImplicit style name := ((style.find? (·.name == name)).map (·.implicit)).getD false
  getPropertyShorthand style name := ((style.find? (·.name == name)).map (·.shorthand)).getD ""
  removeProperty style name := some (style.filter (·.name != name))
  setProperty style name value priority := some (style.filter (·.name != name) ++ [⟨name,value,priority,false,""⟩])
  setPropertyText style name value := some (style.filter (·.name != name) ++ [⟨name,value,"",false,""⟩])
  setCssText _ text := some (parse text)
  parseDeclaration := parse

variable {σ : Type} (decl : StyleDeclaration σ)

/-- One turn of the loop of `longhandProperties`: the properties kept so far, and the set
`foundProperties`. -/
def longhandStep (style : σ) (shorthandProperty : String) (acc : List String × List String)
    (individualProperty : String) : List String × List String :=
  if individualProperty ∈ acc.2 ∨ decl.getPropertyShorthand style individualProperty ≠ shorthandProperty
  then acc else (acc.1 ++ [individualProperty], individualProperty :: acc.2)

def longhandProperties (style : σ) (shorthandProperty : String) : List String :=
  ((decl.item style).foldl (longhandStep decl style shorthandProperty) ([],[])).1

/-- The loop keeps `properties` and `foundProperties` with the same members, `properties`
free of repeats, and adds each longhand of `shorthandProperty` it meets. -/
theorem foldl_longhandStep (style : σ) (shorthandProperty : String) :
    ∀ (items : List String) (acc : List String × List String),
      acc.1.Nodup → (∀ x, x ∈ acc.1 ↔ x ∈ acc.2) →
      (items.foldl (longhandStep decl style shorthandProperty) acc).1.Nodup ∧
      (∀ x, x ∈ (items.foldl (longhandStep decl style shorthandProperty) acc).1 ↔
        x ∈ (items.foldl (longhandStep decl style shorthandProperty) acc).2) ∧
      ∀ x, x ∈ (items.foldl (longhandStep decl style shorthandProperty) acc).1 ↔
        x ∈ acc.1 ∨ x ∈ items ∧ decl.getPropertyShorthand style x = shorthandProperty
  | [], _, nodup, same => ⟨nodup,same,fun _ => by simp⟩
  | individualProperty :: items, acc, nodup, same => by
    rw [List.foldl_cons]
    by_cases skip : individualProperty ∈ acc.2 ∨
      decl.getPropertyShorthand style individualProperty ≠ shorthandProperty
    · rw [longhandStep,if_pos skip]
      obtain ⟨nodup',same',mem⟩ := foldl_longhandStep style shorthandProperty items acc nodup same
      refine ⟨nodup',same',fun x => ?_⟩
      rw [mem]
      by_cases atFirst : x = individualProperty
      · subst atFirst
        rcases skip with found | other
        · simp [(same x).mpr found]
        · simp [other]
      · simp [atFirst]
    · rw [longhandStep,if_neg skip]
      rw [not_or,not_not] at skip
      have fresh : individualProperty ∉ acc.1 := fun mem => skip.1 ((same _).mp mem)
      obtain ⟨nodup',same',mem⟩ := foldl_longhandStep style shorthandProperty items
        (acc.1 ++ [individualProperty],individualProperty :: acc.2) (List.nodup_append.mpr ⟨nodup,List.nodup_singleton _,by simpa using fresh⟩)
        (fun x => by simp [same x,or_comm])
      refine ⟨nodup',same',fun x => ?_⟩
      rw [mem]
      by_cases atFirst : x = individualProperty
      · subst atFirst; simp [skip.2]
      · simp [atFirst]

/-- `longhandProperties` lists each property whose shorthand is `shorthandProperty` once. -/
theorem longhandProperties_spec (style : σ) (shorthandProperty : String) :
    (longhandProperties decl style shorthandProperty).Nodup ∧
      ∀ x, x ∈ longhandProperties decl style shorthandProperty ↔
        x ∈ decl.item style ∧ decl.getPropertyShorthand style x = shorthandProperty := by
  obtain ⟨nodup,-,mem⟩ := foldl_longhandStep decl style shorthandProperty (decl.item style) ([],[])
    List.nodup_nil (fun _ => Iff.rfl)
  exact ⟨nodup,fun x => by simpa using mem x⟩

/-- One turn of the loop of `shorthandValue`: a longhand of `shorthandProperty` set explicitly
and not to `initial` joins the value, after a blank once the value is not empty. -/
def shorthandStep (style : σ) (shorthandProperty value individualProperty : String) : String :=
  if decl.getPropertyShorthand style individualProperty ≠ shorthandProperty then value else
  if decl.isPropertyImplicit style individualProperty then value else
  let individualValue := decl.getPropertyValue style individualProperty
  if individualValue = "initial" then value else
  (if value ≠ "" then value ++ " " else value) ++ individualValue

/-- Some shorthands (`border`) have no value of their own; their value is then put together
from the longhands. -/
def shorthandValue (style : σ) (shorthandProperty : String) : String :=
  let value := decl.getPropertyValue style shorthandProperty
  if value = "" then (decl.item style).foldl (shorthandStep decl style shorthandProperty) value
  else value

def shorthandPriority (style : σ) (shorthandProperty : String) : String :=
  let priority := decl.getPropertyPriority style shorthandProperty
  if priority = "" then
    match (decl.item style).find? fun p => decl.getPropertyShorthand style p = shorthandProperty with
    | some individualProperty => decl.getPropertyPriority style individualProperty
    | none => priority
  else priority

/-- The values `shorthandValue` puts together: those of the longhands of `shorthandProperty`
set explicitly and not to `initial`, in declaration order. -/
def explicitLonghandValues (style : σ) (shorthandProperty : String) (items : List String) :
    List String :=
  (items.filter fun p => decl.getPropertyShorthand style p = shorthandProperty ∧
    decl.isPropertyImplicit style p = false ∧ decl.getPropertyValue style p ≠ "initial").map
      (decl.getPropertyValue style)

theorem foldl_shorthandStep (style : σ) (shorthandProperty : String) :
    ∀ (items : List String) (value : String),
      (∀ v ∈ explicitLonghandValues decl style shorthandProperty items, v ≠ "") →
      items.foldl (shorthandStep decl style shorthandProperty) value =
        if value = "" then " ".intercalate (explicitLonghandValues decl style shorthandProperty items)
        else String.intercalate.go value " " (explicitLonghandValues decl style shorthandProperty items)
  | [], value, _ => by
    by_cases empty : value = "" <;> simp [explicitLonghandValues,empty,String.intercalate,String.intercalate.go]
  | individualProperty :: items, value, nonempty => by
    rw [List.foldl_cons]
    by_cases joins : decl.getPropertyShorthand style individualProperty = shorthandProperty ∧
      decl.isPropertyImplicit style individualProperty = false ∧
      decl.getPropertyValue style individualProperty ≠ "initial"
    · have listed : explicitLonghandValues decl style shorthandProperty (individualProperty :: items) =
          decl.getPropertyValue style individualProperty ::
            explicitLonghandValues decl style shorthandProperty items := by
        simp only [explicitLonghandValues,List.filter_cons,decide_eq_true joins,if_true,List.map_cons]
      rw [listed] at nonempty ⊢
      have first := nonempty _ (List.mem_cons_self _ _)
      rw [foldl_shorthandStep style shorthandProperty items _ fun v mem => nonempty v (List.mem_cons_of_mem _ mem)]
      obtain ⟨same,explicit,notInitial⟩ := joins
      by_cases empty : value = ""
      · simp [shorthandStep,same,explicit,notInitial,empty,first,String.intercalate]
      · have joined : value ++ (" " ++ decl.getPropertyValue style individualProperty) ≠ "" := fun blank => by
          have length := congrArg String.length blank
          have one : " ".length = 1 := by decide
          have zero : "".length = 0 := rfl
          simp only [String.length_append,one,zero] at length
          omega
        simp [shorthandStep,same,explicit,notInitial,empty,joined,String.intercalate.go,String.append_assoc]
    · have listed : explicitLonghandValues decl style shorthandProperty (individualProperty :: items) =
          explicitLonghandValues decl style shorthandProperty items := by
        simp only [explicitLonghandValues,List.filter_cons,decide_eq_false joins]; rfl
      rw [listed] at nonempty ⊢
      have kept : shorthandStep decl style shorthandProperty value individualProperty = value := by
        unfold shorthandStep
        by_cases same : decl.getPropertyShorthand style individualProperty = shorthandProperty
        · by_cases explicit : decl.isPropertyImplicit style individualProperty = false
          · have initial : decl.getPropertyValue style individualProperty = "initial" := by
              by_contra notInitial; exact joins ⟨same,explicit,notInitial⟩
            simp [same,explicit,initial]
          · simp [same,explicit]
        · simp [same]
      rw [kept,foldl_shorthandStep style shorthandProperty items value nonempty]

/-- A shorthand without a value of its own is given the values of its explicit longhands that
are not `initial`, joined by single blanks in declaration order (no such value being empty). -/
theorem shorthandValue_eq (style : σ) (shorthandProperty : String)
    (nonempty : ∀ v ∈ explicitLonghandValues decl style shorthandProperty (decl.item style), v ≠ "") :
    shorthandValue decl style shorthandProperty =
      if decl.getPropertyValue style shorthandProperty = "" then
        " ".intercalate (explicitLonghandValues decl style shorthandProperty (decl.item style))
      else decl.getPropertyValue style shorthandProperty := by
  dsimp only [shorthandValue]
  split
  · rename_i empty
    rw [foldl_shorthandStep decl style shorthandProperty _ _ nonempty,if_pos empty]
  · rfl

/-- `border` put together from its two explicit longhands. -/
theorem shorthandValue_border :
    let decl := listedDeclaration fun _ => []
    let style : List ListedProperty := [⟨"border-top-width","1px","",false,"border"⟩,
      ⟨"border-top-style","solid","",false,"border"⟩,⟨"color","red","",false,""⟩]
    (∀ v ∈ explicitLonghandValues decl style "border" (decl.item style), v ≠ "") ∧
      shorthandValue decl style "border" = "1px solid" :=
  ⟨by decide,(shorthandValue_eq _ _ _ (by decide)).trans (by decide)⟩

/-- The object pushed for one property of a declaration. -/
structure PropertyDesc where
  name : String
  priority : String
  implicit : Bool
  shorthand : String
  value : String
deriving DecidableEq, Repr

/-- The object of the property `name`: its name, priority, implicit flag, shorthand and value. -/
def describeProperty (style : σ) (name : String) : PropertyDesc :=
  ⟨name,decl.getPropertyPriority style name,decl.isPropertyImplicit style name,
    decl.getPropertyShorthand style name,decl.getPropertyValue style name⟩

/-- One turn of the loop of `populateObjectWithStyleProperties`: the `properties` array, the
`shorthandValues` object and the set `foundShorthands`. -/
def populateStep (style : σ) (acc : List PropertyDesc × List (String × String) × List String)
    (name : String) : List PropertyDesc × List (String × String) × List String :=
  let shorthand := decl.getPropertyShorthand style name
  let properties := acc.1 ++ [describeProperty decl style name]
  if shorthand ≠ "" ∧ shorthand ∉ acc.2.2 then
    (properties,acc.2.1 ++ [(shorthand,shorthandValue decl style shorthand)],shorthand :: acc.2.2)
  else (properties,acc.2.1,acc.2.2)

/-- The `properties` array and the `shorthandValues` object. -/
def populateObjectWithStyleProperties (style : σ) : List PropertyDesc × List (String × String) :=
  let result := (decl.item style).foldl (populateStep decl style) ([],[],[])
  (result.1,result.2.1)

/-- The loop pushes one object per property, and sets each shorthand it meets once, to its
`shorthandValue`: the names set and `foundShorthands` keep the same members. -/
theorem foldl_populateStep (style : σ) :
    ∀ (items : List String) (acc : List PropertyDesc × List (String × String) × List String),
      (acc.2.1.map Prod.fst).Nodup → (∀ s, s ∈ acc.2.1.map Prod.fst ↔ s ∈ acc.2.2) →
      (∀ entry ∈ acc.2.1, entry.2 = shorthandValue decl style entry.1) →
      let result := items.foldl (populateStep decl style) acc
      result.1 = acc.1 ++ items.map (describeProperty decl style) ∧
      (result.2.1.map Prod.fst).Nodup ∧ (∀ s, s ∈ result.2.1.map Prod.fst ↔ s ∈ result.2.2) ∧
      (∀ s, s ∈ result.2.1.map Prod.fst ↔
        s ∈ acc.2.1.map Prod.fst ∨ s ≠ "" ∧ ∃ name ∈ items, decl.getPropertyShorthand style name = s) ∧
      ∀ entry ∈ result.2.1, entry.2 = shorthandValue decl style entry.1
  | [], _, nodup, same, valued => ⟨by simp,nodup,same,fun _ => by simp,valued⟩
  | name :: items, acc, nodup, same, valued => by
    dsimp only
    rw [List.foldl_cons]
    by_cases fresh : decl.getPropertyShorthand style name ≠ "" ∧ decl.getPropertyShorthand style name ∉ acc.2.2
    · have step : populateStep decl style acc name = (acc.1 ++ [describeProperty decl style name],
          acc.2.1 ++ [(decl.getPropertyShorthand style name,
            shorthandValue decl style (decl.getPropertyShorthand style name))],
          decl.getPropertyShorthand style name :: acc.2.2) := by
        simp only [populateStep]; rw [if_pos fresh]
      rw [step]
      obtain ⟨properties,nodup',same',mem,valued'⟩ := foldl_populateStep style items
        (acc.1 ++ [describeProperty decl style name],acc.2.1 ++ [(decl.getPropertyShorthand style name,
          shorthandValue decl style (decl.getPropertyShorthand style name))],
          decl.getPropertyShorthand style name :: acc.2.2)
        (by simpa [List.nodup_append,same] using And.intro nodup fresh.2)
        (fun s => by simp [same s,or_comm])
        (fun entry mem => by
          rcases List.mem_append.mp mem with old | new
          · exact valued entry old
          · rw [List.mem_singleton.mp new])
      refine ⟨by simp [properties],nodup',same',fun s => ?_,valued'⟩
      rw [mem]
      by_cases atName : decl.getPropertyShorthand style name = s
      · subst atName; simp [fresh.1]
      · simp [atName,Ne.symm atName]
    · have step : populateStep decl style acc name =
          (acc.1 ++ [describeProperty decl style name],acc.2.1,acc.2.2) := by
        simp only [populateStep]; rw [if_neg fresh]
      rw [step]
      obtain ⟨properties,nodup',same',mem,valued'⟩ := foldl_populateStep style items
        (acc.1 ++ [describeProperty decl style name],acc.2.1,acc.2.2) nodup same valued
      refine ⟨by simp [properties],nodup',same',fun s => ?_,valued'⟩
      rw [mem]
      by_cases atName : decl.getPropertyShorthand style name = s
      · subst atName
        rw [not_and_or,not_not,not_not] at fresh
        rcases fresh with blank | found
        · simp [blank]
        · simp [(same _).mpr found]
      · simp [atName]

/-- The object of a declaration lists one property object per property, in order, and one
shorthand value per non-empty shorthand of its properties, each once, put together by
`shorthandValue`. -/
theorem populateObjectWithStyleProperties_spec (style : σ) :
    (populateObjectWithStyleProperties decl style).1 = (decl.item style).map (describeProperty decl style) ∧
      ((populateObjectWithStyleProperties decl style).2.map Prod.fst).Nodup ∧
      (∀ s, s ∈ (populateObjectWithStyleProperties decl style).2.map Prod.fst ↔
        s ≠ "" ∧ ∃ name ∈ decl.item style, decl.getPropertyShorthand style name = s) ∧
      ∀ entry ∈ (populateObjectWithStyleProperties decl style).2,
        entry.2 = shorthandValue decl style entry.1 := by
  obtain ⟨properties,nodup,-,mem,valued⟩ := foldl_populateStep decl style (decl.item style) ([],[],[])
    List.nodup_nil (fun _ => by simp) (fun _ => by simp)
  exact ⟨by simpa using properties,nodup,fun s => by simpa using mem s,valued⟩

end InspectorDOM.CSS
