import InspectorDOM.Push

/-! Search: `performSearch` turns a query into match jobs for every document of the frame
tree; `onMatchJobsTimer` runs one job per tick and `reportNodesAsSearchResults` pushes each
node not reported yet since the last `searchCanceled`. -/

namespace InspectorDOM

/-- The document's query services the jobs call, and `Document::isValidName`. -/
structure Engines where
  isValidName : String → Bool
  getElementById : Dom → Node → String → Option Node
  getElementsByClassName : Dom → Node → String → List Node
  getElementsByName : Dom → Node → String → List Node
  /-- `none` when the selector sets an exception code. -/
  querySelectorAll : Dom → Node → String → Option (List Node)
  /-- The snapshot items read before an exception code, `none` when evaluation fails. -/
  evaluate : Dom → Node → String → Option (List Node)

/-- `ListHashSet::add` for each node in turn: appended unless already collected. -/
def addNodesToResults (resultCollector nodes : List Node) : List Node :=
  nodes.foldl (fun collected node => if node ∈ collected then collected else collected ++ [node])
    resultCollector

/-- The nodes a job adds to its collector; a job with an empty query adds none. -/
def MatchJob.matches (engines : Engines) (dom : Dom) : MatchJob → List Node
  | .exactId document query =>
    if query.isEmpty then [] else (engines.getElementById dom document query).toList
  | .exactClassNames document query =>
    if query.isEmpty then [] else engines.getElementsByClassName dom document query
  | .exactTagNames document query =>
    if query.isEmpty then [] else engines.getElementsByName dom document query
  | .querySelectorAll document query =>
    if query.isEmpty then [] else (engines.querySelectorAll dom document query).getD []
  | .xpath document query =>
    if query.isEmpty then [] else (engines.evaluate dom document query).getD []

def MatchJob.match (engines : Engines) (dom : Dom) (job : MatchJob)
    (resultCollector : List Node) : List Node :=
  addNodesToResults resultCollector (job.matches engines dom)

def apostrophe : Char := Char.ofNat 39

def backslash : Char := Char.ofNat 92

/-- `replace("'", "\\'")`: every apostrophe gets a backslash in front. -/
def escapeApostrophes (query : String) : String :=
  ⟨query.data.flatMap fun c => if c = apostrophe then [backslash,apostrophe] else [c]⟩

/-- `text` between apostrophes: the XPath literal the expression templates embed. -/
def quoted (text : String) : String := ⟨apostrophe :: text.data ++ [apostrophe]⟩

def matchPlainTextJob (document : Node) (query : String) : MatchJob :=
  .xpath document ("//text()[contains(., " ++ quoted query ++ ")] | //comment()[contains(., "
    ++ quoted query ++ ")]")

/-- `String::find`, `String::reverseFind`: the index, or `notFound`. -/
def findChar (text : String) (c : Char) : Option Nat := text.data.indexOf? c

def reverseFindChar (text : String) (c : Char) : Option Nat :=
  (text.data.reverse.indexOf? c).map fun fromEnd => text.length - 1 - fromEnd

/-- `String::substring(pos, len)`: at most `len` characters from `pos` on. -/
def substring (text : String) (pos len : Nat) : String := ⟨(text.data.drop pos).take len⟩

/-- The jobs of one document, by the first rule that applies to the query. -/
def matchJobsFor (document : Node) (whitespaceTrimmedQuery tagNameQuery attributeNameQuery
    escapedQuery escapedTagNameQuery : String) (startTagFound endTagFound : Bool) : List MatchJob :=
  if !tagNameQuery.isEmpty && startTagFound && endTagFound then
    [.exactTagNames document tagNameQuery, matchPlainTextJob document escapedQuery]
  else if !tagNameQuery.isEmpty && startTagFound then
    [.xpath document ("//*[starts-with(name(), " ++ quoted escapedTagNameQuery ++ ")]"),
      matchPlainTextJob document escapedQuery]
  else if !tagNameQuery.isEmpty && endTagFound then
    [.xpath document ("//*[contains(name(), " ++ quoted escapedTagNameQuery ++ ")]"),
      matchPlainTextJob document escapedQuery]
  else if whitespaceTrimmedQuery = "//*" || whitespaceTrimmedQuery = "*" then
    [.xpath document ("//*[contains(@*, " ++ quoted escapedQuery ++ ")]"),
      matchPlainTextJob document escapedQuery]
  else
    [.exactId document whitespaceTrimmedQuery,
      .exactClassNames document whitespaceTrimmedQuery,
      .exactTagNames document tagNameQuery,
      .querySelectorAll document ("[" ++ attributeNameQuery ++ "]"),
      .querySelectorAll document whitespaceTrimmedQuery,
      .xpath document ("//*[contains(@*, " ++ quoted escapedQuery ++ ")]")] ++
    (if tagNameQuery.isEmpty then [] else
      [.xpath document ("//*[contains(name(), " ++ quoted escapedTagNameQuery ++ ")]")]) ++
    [matchPlainTextJob document escapedQuery, .xpath document whitespaceTrimmedQuery]

/-- The job queue `performSearch` builds, document by document of the frame tree. -/
def matchJobs (engines : Engines) (dom : Dom) (mainDocument : Node)
    (whitespaceTrimmedQuery : String) : List MatchJob :=
  let query := whitespaceTrimmedQuery
  let queryLength := query.length
  let startTagFound := findChar query '<' = some 0
  let endTagFound := ((reverseFindChar query '>').map (· + 1)).getD 0 = queryLength
  let tagNameQuery := if startTagFound || endTagFound
    then substring query (if startTagFound then 1 else 0)
      (if endTagFound then queryLength - 1 else queryLength)
    else query
  let tagNameQuery := if engines.isValidName tagNameQuery then tagNameQuery else ""
  let attributeNameQuery := if engines.isValidName query then query else ""
  (dom.frames mainDocument).flatMap fun frameDocument =>
    match frameDocument with
    | none => []
    | some document => matchJobsFor document query tagNameQuery attributeNameQuery
        (escapeApostrophes query) (escapeApostrophes tagNameQuery) startTagFound endTagFound

/-- The reporting loop: each node not yet in `m_searchResults` is added to it and pushed. -/
def reportEach (dom : Dom) : List Node → Agent → Except Fault (List Nat × Agent)
  | [], st => .ok ([], st)
  | node :: nodes, st =>
    if node ∈ st.searchResults then reportEach dom nodes st else
    match pushNodePathToFrontend dom node { st with searchResults := st.searchResults ++ [node] } with
    | .error fault => .error fault
    | .ok (id, st) => (reportEach dom nodes st).map fun reported => (id :: reported.1, reported.2)

def reportNodesAsSearchResults (dom : Dom) (resultCollector : List Node) (st : Agent) :
    Except Fault Agent :=
  (reportEach dom resultCollector st).map fun reported =>
    reported.2.send (.addNodesToSearchResult reported.1)

def performSearch (engines : Engines) (dom : Dom) (whitespaceTrimmedQuery : String)
    (runSynchronously : Bool) (st : Agent) : Except Fault Agent :=
  let st := searchCanceled st
  match st.mainFrameDocument with
  | none => .error .nullDereference
  | some mainDocument =>
    let st := { st with pendingMatchJobs := matchJobs engines dom mainDocument whitespaceTrimmedQuery }
    if runSynchronously then
      let resultCollector := st.pendingMatchJobs.foldl
        (fun collected job => job.match engines dom collected) []
      (reportNodesAsSearchResults dom resultCollector st).map searchCanceled
    else .ok { st with matchJobsTimerActive := true }

def onMatchJobsTimer (engines : Engines) (dom : Dom) (st : Agent) : Except Fault Agent :=
  match st.pendingMatchJobs with
  | [] => .ok (searchCanceled st)
  | job :: rest =>
    (reportNodesAsSearchResults dom (job.match engines dom []) { st with pendingMatchJobs := rest }).map
      fun st => { st with matchJobsTimerActive := true }

end InspectorDOM
