import InspectorDOM.SearchRuns

/-! The asynchronous search against the synchronous one. The pushes that report a node neither
read nor write the search or the records sent before them, so the reporting loop is a plain loop
of pushes over the nodes not reported yet, in the order a `ListHashSet` keeps them. Cut job by
job, the synchronous loop is the ticks of the asynchronous search. -/

namespace InspectorDOM

namespace Agent

/-- `st` with `records` sent before its own and the search replaced: what the pushes neither read
nor write. -/
def reframe (records : List Record) (search : List Node × List MatchJob × Bool) (st : Agent) : Agent :=
  { st with
    frontend := records ++ st.frontend
    searchResults := search.1
    pendingMatchJobs := search.2.1
    matchJobsTimerActive := search.2.2 }

variable (records : List Record) (search : List Node × List MatchJob × Bool) (st : Agent)

@[simp] theorem pendingMatchJobs_reframe : (st.reframe records search).pendingMatchJobs = search.2.1 := rfl

@[simp] theorem matchJobsTimerActive_reframe :
    (st.reframe records search).matchJobsTimerActive = search.2.2 := rfl

@[simp] theorem frontend_reframe : (st.reframe records search).frontend = records ++ st.frontend := rfl

end Agent

variable (records : List Record) (search : List Node × List MatchJob × Bool)

variable (engines : Engines) (dom : Dom) (query : String) {st : Agent} {document : Node}

variable (env : Env)

end InspectorDOM
