import InspectorDOM.Disclosure

/-! What `performSearch` does with the query's text. The delimiters are found with `find('<')`
and `reverseFind('>')`, and the tag-name query is cut with `substring(start, length)`, whose
second argument is a length: for a query in angle brackets the cut keeps the closing bracket.
The query goes into the XPath templates between apostrophes after `replace("'", "\\'")`; an
XPath 1.0 literal has no escapes, so the literal read back is the query exactly when the query
has no apostrophe. -/

namespace InspectorDOM

theorem findChar_cons (c : Char) (rest : List Char) : findChar ⟨c :: rest⟩ c = some 0 := by
  simp [findChar,List.indexOf?,List.findIdx?_cons]

theorem reverseFindChar_append (text : List Char) (c : Char) :
    reverseFindChar ⟨text ++ [c]⟩ c = some text.length := by
  simp [reverseFindChar,List.indexOf?,List.findIdx?_cons,String.length]

/-- `substring(1, length - 1)` of `<t>` is `t>`. -/
theorem substring_wrapped (t : String) :
    substring ⟨'<' :: t.data ++ ['>']⟩ 1 ((⟨'<' :: t.data ++ ['>']⟩ : String).length - 1) = ⟨t.data ++ ['>']⟩ := by
  simp only [substring,String.length,List.length_cons,List.length_append,List.length_singleton,List.drop_succ_cons,
    List.drop_zero,Nat.add_sub_cancel]
  rw [List.take_of_length_le (by simp)]
  rfl

/-- For `<t>` both delimiters are found, and every job is one of a document's jobs built with the
name the code checks, `t>`. -/
theorem matchJobs_wrapped (engines : Engines) (dom : Dom) (mainDocument : Node) (t : String) :
    ∀ job ∈ matchJobs engines dom mainDocument ⟨'<' :: t.data ++ ['>']⟩, ∃ document,
      let query : String := ⟨'<' :: t.data ++ ['>']⟩
      let tagNameQuery : String := if engines.isValidName ⟨t.data ++ ['>']⟩ then ⟨t.data ++ ['>']⟩ else ""
      job ∈ matchJobsFor document query tagNameQuery (if engines.isValidName query then query else "")
        (escapeApostrophes query) (escapeApostrophes tagNameQuery) true true := by
  have found : findChar ⟨'<' :: t.data ++ ['>']⟩ '<' = some 0 := findChar_cons '<' _
  have ends : ((reverseFindChar ⟨'<' :: t.data ++ ['>']⟩ '>').map (· + 1)).getD 0 =
      (⟨'<' :: t.data ++ ['>']⟩ : String).length := by
    rw [show ('<' :: t.data ++ ['>']) = ('<' :: t.data) ++ ['>'] from rfl,reverseFindChar_append]
    show ('<' :: t.data).length + 1 = ('<' :: t.data ++ ['>']).length
    rw [List.length_append,List.length_singleton]
  intro job mem
  simp only [matchJobs,found,ends,decide_True,Bool.or_self,if_true,substring_wrapped] at mem
  obtain ⟨frameDocument,-,inFrame⟩ := List.mem_flatMap.mp mem
  cases frameDocument with
  | none => exact absurd inFrame (List.not_mem_nil _)
  | some document => exact ⟨document,inFrame⟩

/-- Whichever rule applies, a document's exact-tag job carries the tag-name query. -/
theorem exactTagNames_mem_matchJobsFor {document other : Node} {query tagNameQuery attributeNameQuery escapedQuery
    escapedTagNameQuery name : String} {startTagFound endTagFound : Bool}
    (mem : MatchJob.exactTagNames other name ∈ matchJobsFor document query tagNameQuery attributeNameQuery
      escapedQuery escapedTagNameQuery startTagFound endTagFound) : name = tagNameQuery := by
  unfold matchJobsFor at mem
  split_ifs at mem <;> simp [matchPlainTextJob] at mem <;> exact mem.2

/-- With names that cannot end in `>`, as `Document::isValidName` has them, a query in angle
brackets never gets the exact-tag job for its inner name: the cut name `t>` is refused and the
job is built with the empty name. -/
theorem wrapped_query_never_exact_tag (engines : Engines)
    (refused : ∀ name : List Char, engines.isValidName ⟨name ++ ['>']⟩ = false) (dom : Dom)
    (mainDocument : Node) {t : String} (named : t ≠ "") (document : Node) :
    MatchJob.exactTagNames document t ∉ matchJobs engines dom mainDocument ⟨'<' :: t.data ++ ['>']⟩ := by
  have untagged : (if engines.isValidName ⟨t.data ++ ['>']⟩ then (⟨t.data ++ ['>']⟩ : String) else "") = "" := by
    rw [refused]; rfl
  intro mem
  obtain ⟨_,inFrame⟩ := matchJobs_wrapped engines dom mainDocument t _ mem
  exact named ((exactTagNames_mem_matchJobsFor inFrame).trans untagged)

/-- `Document::isValidName` on ASCII: a letter, `_` or `:` first, then letters, digits, `_`, `:`,
`-` and `.`. -/
def xmlNameChar (c : Char) : Bool := c.isAlphanum || c = '_' || c = ':' || c = '-' || c = '.'

def xmlName (name : String) : Bool :=
  match name.data with
  | [] => false
  | first :: rest => (first.isAlpha || first = '_' || first = ':') && rest.all xmlNameChar

/-- Query engines that find nothing and check names as XML does. -/
def Engines.xmlNames : Engines := { Engines.empty with isValidName := xmlName }

theorem xmlName_refuses_bracket (name : List Char) : Engines.xmlNames.isValidName ⟨name ++ ['>']⟩ = false := by
  show xmlName ⟨name ++ ['>']⟩ = false
  cases name with
  | nil => rfl
  | cons first rest => simp [xmlName,xmlNameChar]

theorem wrapped_query_never_exact_tag_div :
    (∀ name : List Char, Engines.xmlNames.isValidName ⟨name ++ ['>']⟩ = false) ∧ "div" ≠ "" ∧
      Engines.xmlNames.isValidName "div" = true ∧
      MatchJob.exactTagNames 0 "div" ∉ matchJobs Engines.xmlNames bodyTree 0 "<div>" :=
  ⟨xmlName_refuses_bracket,by decide,by decide,
    wrapped_query_never_exact_tag Engines.xmlNames xmlName_refuses_bracket bodyTree 0 (t := "div") (by decide) 0⟩

def quotationMark : Char := Char.ofNat 34

/-- The characters of an XPath literal up to its closing `quote`, and the text after that quote;
`none` when the literal does not close. -/
def literalBody (quote : Char) : List Char → Option (List Char × List Char)
  | [] => none
  | c :: rest => if c = quote then some ([],rest) else (literalBody quote rest).map fun lexed => (c :: lexed.1,lexed.2)

/-- XPath 1.0 `Literal ::= '"' [^"]* '"' | "'" [^']* "'"`, read at the head of an expression:
the literal's value and the text after it. -/
def lexLiteral : List Char → Option (String × List Char)
  | [] => none
  | quote :: rest =>
    if quote = apostrophe ∨ quote = quotationMark then (literalBody quote rest).map fun lexed => (⟨lexed.1⟩,lexed.2)
    else none

theorem literalBody_append {quote : Char} : ∀ {body : List Char}, quote ∉ body → ∀ after : List Char,
    literalBody quote (body ++ quote :: after) = some (body,after)
  | [], _, after => by simp [literalBody]
  | c :: body, absent, after => by
    have differs : c ≠ quote := fun same => absent (same ▸ List.mem_cons_self _ _)
    simp [literalBody,differs,literalBody_append (fun mem => absent (List.mem_cons_of_mem _ mem)) after]

theorem escapeApostrophes_of_absent {query : String} (absent : apostrophe ∉ query.data) :
    escapeApostrophes query = query := by
  obtain ⟨chars⟩ := query
  show String.mk _ = String.mk chars
  congr 1
  induction chars with
  | nil => rfl
  | cons c chars ih =>
    have differs : c ≠ apostrophe := fun same => absent (same ▸ List.mem_cons_self _ _)
    simp [differs,ih fun mem => absent (List.mem_cons_of_mem _ mem)]

/-- A character of a list splits it at its first occurrence. -/
theorem split_first {a : Char} : ∀ {l : List Char}, a ∈ l → ∃ before rest, l = before ++ a :: rest ∧ a ∉ before
  | c :: l, mem => by
    by_cases same : c = a
    · exact ⟨[],l,by rw [same]; rfl,List.not_mem_nil _⟩
    · obtain ⟨before,rest,split,absent⟩ := split_first ((List.mem_cons.mp mem).resolve_left (Ne.symm same))
      exact ⟨c :: before,rest,by rw [split]; rfl,by simp [absent,Ne.symm same]⟩

/-- Before its first apostrophe, the escaped query is the query; the apostrophe gets a backslash. -/
theorem escapeApostrophes_split {before rest : List Char} (absent : apostrophe ∉ before) :
    (escapeApostrophes ⟨before ++ apostrophe :: rest⟩).data =
      before ++ backslash :: apostrophe :: (escapeApostrophes ⟨rest⟩).data := by
  have kept := congrArg String.data (escapeApostrophes_of_absent (show apostrophe ∉ (⟨before⟩ : String).data from absent))
  simp only [escapeApostrophes] at kept ⊢
  rw [List.flatMap_append,kept]
  simp

/-- The literal a template embeds around the escaped query reads back as the query, followed by
the template's own text, exactly when the query has no apostrophe. With one, the backslash ends
up in the literal's value and the apostrophe after it closes the literal, so the rest of the query
becomes part of the expression. -/
theorem escaped_literal_roundtrip_iff (query : String) (after : List Char) :
    lexLiteral ((quoted (escapeApostrophes query)).data ++ after) = some (query,after) ↔
      apostrophe ∉ query.data := by
  constructor
  · intro lexed mem
    obtain ⟨before,rest,split,absent⟩ := split_first mem
    have escaped : (escapeApostrophes query).data = before ++ backslash :: apostrophe :: (escapeApostrophes ⟨rest⟩).data := by
      rw [← escapeApostrophes_split absent,← split]
    have closes : apostrophe ∉ before ++ [backslash] := fun inside =>
      (List.mem_append.mp inside).elim absent fun last => absurd (List.mem_singleton.mp last) (by decide)
    have body := literalBody_append closes ((escapeApostrophes ⟨rest⟩).data ++ [apostrophe] ++ after)
    simp only [quoted,lexLiteral,escaped,List.cons_append,List.append_assoc,List.singleton_append,List.nil_append,
      true_or,if_true] at lexed
    rw [show before ++ backslash :: apostrophe :: ((escapeApostrophes ⟨rest⟩).data ++ apostrophe :: after) =
      (before ++ [backslash]) ++ apostrophe :: ((escapeApostrophes ⟨rest⟩).data ++ [apostrophe] ++ after) by simp,
      body] at lexed
    have value : before ++ [backslash] = query.data := congrArg String.data (Prod.mk.inj (Option.some.inj lexed)).1
    exact closes (value ▸ mem)
  · intro absent
    rw [escapeApostrophes_of_absent absent]
    simp only [quoted,lexLiteral,List.cons_append,List.append_assoc,List.singleton_append,true_or,if_true]
    rw [literalBody_append absent]
    rfl

/-- A lone apostrophe: the literal reads back as a backslash, and the apostrophe that followed it
is left over in front of the template's closing text. -/
example : lexLiteral ((quoted (escapeApostrophes ⟨[apostrophe]⟩)).data ++ ")]".data) =
    some (⟨[backslash]⟩,apostrophe :: ")]".data) := by decide

end InspectorDOM
