import InspectorDOM.Responses
import Mathlib.Data.List.Nodup

/-! Searches over whole runs. `m_searchResults` holds the nodes reported since the last
`searchCanceled`, each once: a tick reports, once each, the nodes its job found that were not
reported yet, and every other input either ends the search or leaves it alone. -/

namespace InspectorDOM

theorem addNodesToResults_cons (resultCollector : List Node) (node : Node) (nodes : List Node) :
    addNodesToResults resultCollector (node :: nodes) =
      addNodesToResults (if node ∈ resultCollector then resultCollector else resultCollector ++ [node]) nodes :=
  rfl

theorem mem_addNodesToResults (node : Node) : ∀ (resultCollector nodes : List Node),
    node ∈ addNodesToResults resultCollector nodes ↔ node ∈ resultCollector ∨ node ∈ nodes
  | _, [] => by simp [addNodesToResults]
  | resultCollector, next :: nodes => by
    rw [addNodesToResults_cons,mem_addNodesToResults]
    split <;> by_cases same : node = next <;> simp_all

/-- The pushes of the reporting loop: each node in turn added to the de-dup set and pushed with
`pushNodePathToFrontend`, and the ids the pushes returned, in order. -/
inductive PushedInOrder (dom : Dom) : List Node → Agent → List Nat → Agent → Prop
  | nil (st : Agent) : PushedInOrder dom [] st [] st
  | cons {node : Node} {nodes : List Node} {st st' st'' : Agent} {id : Nat} {ids : List Nat}
      (pushed : pushNodePathToFrontend dom node { st with searchResults := st.searchResults ++ [node] } = .ok (id,st'))
      (rest : PushedInOrder dom nodes st' ids st'') : PushedInOrder dom (node :: nodes) st (id :: ids) st''

/-- The reporting loop pushes, once each and in order, the nodes not reported yet, and returns the
ids the pushes returned. -/
theorem reportEach_reports (dom : Dom) : ∀ (nodes : List Node) (st : Agent) {reported : List Nat × Agent},
    reportEach dom nodes st = .ok reported →
    ∃ fresh, reported.2.searchResults = st.searchResults ++ fresh ∧ fresh.Nodup ∧
      (∀ node, node ∈ fresh ↔ node ∈ nodes ∧ node ∉ st.searchResults) ∧
      PushedInOrder dom fresh st reported.1 reported.2
  | [], _, _, ok => by cases ok; exact ⟨[],by simp,.nil,by simp,.nil _⟩
  | node :: nodes, st, _, ok => by
    rw [reportEach] at ok
    split at ok
    · rename_i reported
      obtain ⟨fresh,grown,nodup,fresh_iff,ids⟩ := reportEach_reports dom nodes st ok
      refine ⟨fresh,grown,nodup,fun other => ?_,ids⟩
      by_cases same : other = node <;> simp_all
    · rename_i unreported
      split at ok
      · cases ok
      · rename_i id st' pushed
        obtain ⟨rest,restOk,rfl⟩ := except_map_success ok
        have kept : st'.searchResults = st.searchResults ++ [node] :=
          (pushNodePathToFrontend_answering dom node pushed).searchResults
        obtain ⟨fresh,grown,nodup,fresh_iff,ids⟩ := reportEach_reports dom nodes st' restOk
        refine ⟨node :: fresh,by simp [grown,kept],.cons (fun mem => by simp [fresh_iff,kept] at mem) nodup,
          fun other => ?_,.cons pushed ids⟩
        by_cases same : other = node <;> simp_all

/-- What the de-dup set holds after an input, as the search is described: a tick adds, once each,
the nodes its job found that were not reported yet, pushes them in turn, and sends one batch of
the ids the pushes returned; a new search, a cancel, a tick that finds the queue empty and a new
document empty it; every other input keeps it. -/
def ReportedAfter (env : Env) (w next : World) : Input → Prop
  | .performSearch .. | .searchCanceled => next.agent.searchResults = []
  | .setDocument doc =>
    next.agent.searchResults = if doc = w.agent.mainFrameDocument then w.agent.searchResults else []
  | .matchJobsTimer =>
    if w.agent.matchJobsTimerActive then
      match w.agent.pendingMatchJobs with
      | [] => next.agent.searchResults = []
      | job :: rest => ∃ fresh ids pushed, next.agent.searchResults = w.agent.searchResults ++ fresh ∧ fresh.Nodup ∧
          (∀ node, node ∈ fresh ↔ node ∈ job.matches env.engines w.dom ∧ node ∉ w.agent.searchResults) ∧
          PushedInOrder w.dom fresh { w.agent with pendingMatchJobs := rest } ids pushed ∧
          next.agent = { pushed.send (.addNodesToSearchResult ids) with matchJobsTimerActive := true }
    else next.agent.searchResults = w.agent.searchResults
  | _ => next.agent.searchResults = w.agent.searchResults

theorem setDocument_searchResults (dom : Dom) (doc : Option Node) (st : Agent) :
    (setDocument dom doc st).searchResults = if doc = st.mainFrameDocument then st.searchResults else [] := by
  have cleared : (reset st).searchResults = [] := by rw [reset_eq]; rfl
  have listened : ∀ document, (startListening document (reset st)).searchResults = [] := by
    intro document; unfold startListening; split <;> exact cleared
  unfold setDocument
  split
  · rfl
  · split
    · split
      · exact (pushDocumentToFrontend_answering _ _).searchResults.trans (listened _)
      · exact listened _
    · exact cleared

theorem performSearch_searchResults (engines : Engines) (dom : Dom) (query : String) (runSynchronously : Bool)
    {st st' : Agent} (ok : performSearch engines dom query runSynchronously st = .ok st') : st'.searchResults = [] := by
  dsimp only [performSearch] at ok
  split at ok
  · cases ok
  · split at ok
    · obtain ⟨_,_,rfl⟩ := except_map_success ok; rfl
    · cases ok; rfl

theorem onMatchJobsTimer_reports (engines : Engines) (dom : Dom) {st st' : Agent}
    (ok : onMatchJobsTimer engines dom st = .ok st') :
    match st.pendingMatchJobs with
    | [] => st'.searchResults = []
    | job :: rest => ∃ fresh ids pushed, st'.searchResults = st.searchResults ++ fresh ∧ fresh.Nodup ∧
        (∀ node, node ∈ fresh ↔ node ∈ job.matches engines dom ∧ node ∉ st.searchResults) ∧
        PushedInOrder dom fresh { st with pendingMatchJobs := rest } ids pushed ∧
        st' = { pushed.send (.addNodesToSearchResult ids) with matchJobsTimerActive := true } := by
  cases pending : st.pendingMatchJobs with
  | nil => simp only [onMatchJobsTimer,pending] at ok; cases ok; rfl
  | cons job rest =>
    simp only [onMatchJobsTimer,pending] at ok
    obtain ⟨_,batched,rfl⟩ := except_map_success ok
    obtain ⟨reported,each,rfl⟩ := except_map_success batched
    obtain ⟨fresh,grown,nodup,fresh_iff,ids⟩ := reportEach_reports dom _ _ each
    refine ⟨fresh,reported.1,reported.2,grown,nodup,fun node => ?_,ids,rfl⟩
    simp [fresh_iff,MatchJob.match,mem_addNodesToResults]

theorem step_reportedAfter (env : Env) {w next : World} (input : Input) (stepped : step env w input = .ok next) :
    ReportedAfter env w next input := by
  cases input
  case setDocument => cases stepped; exact setDocument_searchResults _ _ _
  case performSearch =>
    obtain ⟨_,ok,rfl⟩ := except_map_success stepped
    exact performSearch_searchResults _ _ _ _ ok
  case searchCanceled => cases stepped; rfl
  case matchJobsTimer =>
    change (if w.agent.matchJobsTimerActive then _ else _) = _ at stepped
    show if w.agent.matchJobsTimerActive then _ else _
    split at stepped <;> rename_i active
    · rw [if_pos active]
      obtain ⟨_,ok,rfl⟩ := except_map_success stepped
      exact onMatchJobsTimer_reports _ _ ok
    · rw [if_neg active]; cases stepped; rfl
  all_goals exact (step_answering env _ (by rfl) stepped).choose_spec.1.searchResults

theorem ReportedAfter.nodup {env : Env} {w next : World} {input : Input} (after : ReportedAfter env w next input)
    (nodup : w.agent.searchResults.Nodup) : next.agent.searchResults.Nodup := by
  cases input
  case performSearch | searchCanceled => exact (show next.agent.searchResults = [] from after) ▸ .nil
  case setDocument doc =>
    rw [show next.agent.searchResults = _ from after]
    split
    · exact nodup
    · exact .nil
  case matchJobsTimer =>
    dsimp only [ReportedAfter] at after
    split at after
    · split at after
      · rw [after]; exact .nil
      · obtain ⟨fresh,_,_,grown,freshNodup,fresh_iff,-⟩ := after
        rw [grown,List.nodup_append]
        exact ⟨nodup,freshNodup,fun _ reported mem => ((fresh_iff _).mp mem).2 reported⟩
    · rw [after]; exact nodup
  all_goals exact (show next.agent.searchResults = w.agent.searchResults from after) ▸ nodup

/-- In every reachable state each node stands in the de-dup set at most once, and every step
changes the set as the search is described: a tick reports, once each and in one batch, exactly
the nodes its job found that no tick of the search reported before, and the set is emptied when
the search ends, so that the next search reports them again. -/
theorem search_reports_each_node_once {env : Env} {dom : Dom} {w : World} (reachable : Reachable env dom w) :
    w.agent.searchResults.Nodup ∧
      ∀ input next, step env w input = .ok next → ReportedAfter env w next input := by
  refine ⟨?_,fun input _ stepped => step_reportedAfter env input stepped⟩
  induction reachable with
  | initial => exact .nil
  | step input _ stepped nodup => exact (step_reportedAfter env input stepped).nodup nodup

/-- Query engines whose `getElementById` finds `HTML` (node 1) for the id `html`. -/
def htmlEngines : Engines :=
  { Engines.empty with getElementById := fun _ _ query => if query = "html" then some 1 else none }

/-- On `bodyTree`, an asynchronous search for `html`: the first tick's job finds `HTML`, whose push
returns its id 2, and the tick's batch carries that id. -/
theorem search_reports_each_node_once_html :
    let env : Env := ⟨Primitives.accepting,htmlEngines,StyleEngine.accepting⟩
    ∃ w next, run env (World.initial bodyTree) [.setDocument (some 0),.performSearch "html" false] = .ok w ∧
      step env w .matchJobsTimer = .ok next ∧ next.agent.frontend.getLast? = some (.addNodesToSearchResult [2]) ∧
      w.agent.searchResults.Nodup ∧ ∀ input next, step env w input = .ok next → ReportedAfter env w next input :=
  ⟨_,_,rfl,rfl,rfl,search_reports_each_node_once
    (reachable_run _ bodyTree [.setDocument (some 0),.performSearch "html" false] .initial rfl)⟩

end InspectorDOM
