import InspectorDOM.PathGrammar
import Mathlib.Data.Nat.Digits
/-! The path the frontend sends to `pushNodeByPathToFrontend`: the steps from the main document
down to a node, each the node's index among the children the agent shows and its name, written
`1,HTML,2,BODY` with the indices in decimal. Such a path reads back as it was written: the comma
split gives back its tokens, `toUInt` each index, and `nodeForPath` finds a node exactly when
following the steps from the main document does. -/

namespace InspectorDOM

/-- The comma split is the library's `List.splitOn`, which undoes a join on a separator that no
token holds. -/
theorem splitOn_eq_splitOn (separator : Char) : ∀ chars : List Char, splitOn separator chars = chars.splitOn separator
  | [] => rfl
  | c :: rest => by
    rw [splitOn,splitOn_eq_splitOn separator rest]
    unfold List.splitOn
    rw [List.splitOnP_cons]
    cases split : List.splitOnP (· == separator) rest with
    | nil => exact absurd split (List.splitOnP_ne_nil _ rest)
    | cons current done => by_cases c = separator <;> simp [*]

theorem splitOn_intercalate {separator : Char} {tokens : List (List Char)}
    (separated : ∀ token ∈ tokens, separator ∉ token) (nonempty : tokens ≠ []) :
    splitOn separator (List.intercalate [separator] tokens) = tokens := by
  rw [splitOn_eq_splitOn]
  exact List.splitOn_intercalate _ separator separated nonempty

/-- The frontend's decimal index: `0`, or the digits without a leading zero. -/
def decimal (j : Nat) : List Char :=
  if j = 0 then ['0'] else (Nat.digits 10 j).reverse.map Nat.digitChar

theorem digitChar_facts : ∀ d < 10, Dom.isSpaceOrNewline (Nat.digitChar d) = false ∧ Nat.digitChar d ≠ '+' ∧
    Nat.digitChar d ≠ ',' ∧ digitValue (Nat.digitChar d) = some d := by
  decide

theorem dropWhile_of_forall {p : Char → Bool} : ∀ {chars : List Char}, (∀ c ∈ chars, p c = false) →
    chars.dropWhile p = chars
  | [], _ => rfl
  | c :: _, kept => List.dropWhile_cons_of_neg (by simp [kept c (List.mem_cons_self _ _)])

theorem digitsValue_append (value : Nat) : ∀ front back : List Char,
    digitsValue (front ++ back) value = (digitsValue front value).bind (digitsValue back)
  | [], _ => rfl
  | c :: front, back => by
    simp only [List.cons_append,digitsValue]
    cases digitValue c with
    | none => rfl
    | some digit =>
      by_cases bounded : value * 10 + digit < 4294967296 <;> simp [bounded,digitsValue_append]

/-- A token of digits alone is read as `digitsValue` reads the digits. -/
theorem toUInt_map_digitChar {digits : List Nat} (small : ∀ d ∈ digits, d < 10) (nonempty : digits ≠ []) :
    toUInt ⟨digits.map Nat.digitChar⟩ = digitsValue (digits.map Nat.digitChar) 0 := by
  have blank : ∀ c ∈ digits.map Nat.digitChar, Dom.isSpaceOrNewline c = false := by
    simp only [List.mem_map]
    rintro _ ⟨d,mem,rfl⟩
    exact (digitChar_facts d (small d mem)).1
  obtain ⟨d,rest,rfl⟩ := List.exists_cons_of_ne_nil nonempty
  have unsigned : Nat.digitChar d ≠ '+' := (digitChar_facts d (small d (List.mem_cons_self _ _))).2.1
  have parsed : ((d :: rest).map Nat.digitChar).all (fun c => (digitValue c).isSome) = true := by
    simp only [List.all_eq_true,List.mem_map]
    rintro _ ⟨d,mem,rfl⟩
    simp [(digitChar_facts d (small d mem)).2.2.2]
  simp only [toUInt]
  rw [dropWhile_of_forall blank,dropWhile_of_forall (fun c mem => blank c (List.mem_reverse.mp mem)),
    List.reverse_reverse]
  simp only [List.map_cons,List.head?_cons,Option.some.injEq,unsigned,if_false,List.cons_ne_nil] at parsed ⊢
  simp only [parsed,if_true]

theorem digitsValue_digits : ∀ j, j < 4294967296 →
    digitsValue ((Nat.digits 10 j).reverse.map Nat.digitChar) 0 = some j
  | 0, _ => by simp [digitsValue]
  | j + 1, bound => by
    have low := (digitChar_facts ((j + 1) % 10) (Nat.mod_lt _ (by norm_num))).2.2.2
    rw [Nat.digits_def' (by norm_num) (Nat.succ_pos j),List.reverse_cons,List.map_append,digitsValue_append,
      digitsValue_digits ((j + 1) / 10) (by omega)]
    simp [digitsValue,low,Nat.div_add_mod',bound]

/-- `toUInt` reads back every index below `UINT_MAX + 1` the frontend writes. -/
theorem toUInt_decimal {j : Nat} (bound : j < 4294967296) : toUInt ⟨decimal j⟩ = some j := by
  unfold decimal
  split
  case isTrue zero => subst zero; decide
  case isFalse positive =>
    rw [toUInt_map_digitChar (fun d mem => Nat.digits_lt_base (by norm_num) (List.mem_reverse.mp mem))
      (List.reverse_ne_nil_iff.mpr (Nat.digits_ne_nil_iff_ne_zero.mpr positive)),digitsValue_digits j bound]

theorem comma_not_mem_decimal (j : Nat) : ',' ∉ decimal j := by
  unfold decimal
  split
  · decide
  · simp only [List.mem_map,List.mem_reverse,not_exists,not_and]
    exact fun d mem => (digitChar_facts d (Nat.digits_lt_base (by norm_num) mem)).2.2.1

theorem decimal_ne_nil (j : Nat) : decimal j ≠ [] := by
  unfold decimal
  split
  · decide
  · simpa [Nat.digits_eq_nil_iff_eq_zero] using ‹¬j = 0›

/-- The path the frontend writes for the steps: the index and the name of each, joined by commas. -/
def pathString (steps : List (Nat × String)) : String :=
  ⟨List.intercalate [','] (steps.flatMap fun step => [decimal step.1, step.2.data])⟩

/-- The node the steps lead to from `node`: at each step the child with that index among those
the agent shows, provided it has that name. -/
def Dom.follow (dom : Dom) : List (Nat × String) → Node → Option Node
  | [], node => some node
  | (j,name) :: rest, node =>
    match (dom.innerChildren node)[j]? with
    | some child => if dom.nodeName child = name then dom.follow rest child else none
    | none => none

section Written

variable {steps : List (Nat × String)} (names : ∀ step ∈ steps, step.2 ≠ "" ∧ ',' ∉ step.2.data)
include names

theorem splitPath_pathString (walked : steps ≠ []) :
    splitPath (pathString steps) = steps.flatMap fun step => [⟨decimal step.1⟩, step.2] := by
  have tokens : ∀ token ∈ steps.flatMap (fun step => [decimal step.1, step.2.data]), token ≠ [] ∧ ',' ∉ token := by
    simp only [List.mem_flatMap,List.mem_cons,List.mem_singleton,List.not_mem_nil,or_false]
    rintro _ ⟨step,mem,rfl | rfl⟩
    · exact ⟨decimal_ne_nil _,comma_not_mem_decimal _⟩
    · exact ⟨fun empty => (names step mem).1 (String.ext empty),(names step mem).2⟩
  have nonempty : steps.flatMap (fun step => [decimal step.1, step.2.data]) ≠ [] := by
    obtain ⟨step,rest,rfl⟩ := List.exists_cons_of_ne_nil walked
    simp
  rw [splitPath,pathString,splitOn_intercalate (fun token mem => (tokens token mem).2) nonempty,
    List.filter_eq_self.mpr (fun token mem => by simpa using (tokens token mem).1),List.map_flatMap]
  rfl

end Written

theorem pathPairs_flatMap (index name : Nat × String → String) : ∀ steps : List (Nat × String),
    pathPairs (steps.flatMap fun step => [index step, name step]) = steps.map fun step => (index step,name step)
  | [] => rfl
  | _ :: steps => congrArg (List.cons _) (pathPairs_flatMap index name steps)

theorem pathLeadsTo_decimal_iff (dom : Dom) : ∀ {steps : List (Nat × String)}, (∀ step ∈ steps, step.1 < 4294967296) →
    ∀ (node target : Node), PathLeadsTo dom node (steps.map fun step => (⟨decimal step.1⟩,step.2)) target ↔
      dom.follow steps node = some target
  | [], _, node, target => by simp [Dom.follow,eq_comm]
  | (j,name) :: rest, indices, node, target => by
    have parsed : toUInt ⟨decimal j⟩ = some j := toUInt_decimal (indices _ (List.mem_cons_self _ _))
    have leads := pathLeadsTo_decimal_iff dom (fun step mem => indices step (List.mem_cons_of_mem _ mem))
    simp only [List.map_cons,PathLeadsTo.cons_iff,parsed,Option.some.injEq,exists_eq_left',Dom.follow]
    cases found : (dom.innerChildren node)[j]? with
    | none => simp [found]
    | some child => by_cases named : dom.nodeName child = name <;> simp [found,named,leads]

/-- Every path the frontend writes for steps whose indices fit `UINT_MAX` and whose names are
neither empty nor hold a comma names, on a tree whose child lists and parent links agree, the node
that following the steps from the main document reaches, and nothing when the steps lead nowhere. -/
theorem nodeForPath_pathString {dom : Dom} (linked : dom.Linked) {st : Agent} {document : Node}
    (main : st.mainFrameDocument = some document) {steps : List (Nat × String)} (walked : steps ≠ [])
    (indices : ∀ step ∈ steps, step.1 < 4294967296) (names : ∀ step ∈ steps, step.2 ≠ "" ∧ ',' ∉ step.2.data)
    (target : Node) :
    (nodeForPath dom (pathString steps) st).1 = some target ↔ dom.follow steps document = some target := by
  have written := splitPath_pathString names walked
  have nonempty : splitPath (pathString steps) ≠ [] := by
    obtain ⟨step,rest,rfl⟩ := List.exists_cons_of_ne_nil walked
    simp [written]
  simp only [nodeForPath,main,if_neg nonempty]
  rw [written,pathPairs_flatMap,← pathLeadsTo_decimal_iff dom indices]
  exact linked.walkPath_eq_some_iff _ _ _ target

theorem nodeForPath_pathString_body :
    bodyTree.follow [(0,"HTML"),(0,"BODY")] 0 = some 2 ∧
      (nodeForPath bodyTree (pathString [(0,"HTML"),(0,"BODY")]) (startListening 0 inspectorDOMAgent)).1 = some 2 :=
  ⟨by decide,(nodeForPath_pathString (Dom.ofNodes_linked _ _) (by rfl) (List.cons_ne_nil _ _) (by decide) (by decide) 2).mpr
    (by decide)⟩

end InspectorDOM
