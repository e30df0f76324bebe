import InspectorDOM.Handlers

/-! The answers a request sends. The pushes and the tree's notifications only append records
that answer no call, so each handler's answers are the `did…` records it sends itself: one, except
for `setOuterHTML` after a refused edit, which answers twice, and `addRule` with no inspector
style sheet, which does not answer. -/

namespace InspectorDOM

/-- `st'` has the records of `st`, then records that answer `calls`, in that order, and the
search of `st`. -/
def Answering (calls : List Nat) (st st' : Agent) : Prop :=
  (∃ extra, st'.frontend = st.frontend ++ extra ∧ extra.filterMap Record.answeredCall = calls) ∧
    st'.search = st.search

namespace Answering

theorem of_frontend {st st' : Agent} (same : st'.frontend = st.frontend) (search : st'.search = st.search) :
    Answering [] st st' :=
  ⟨⟨[],by simp [same],rfl⟩,search⟩

theorem refl (st : Agent) : Answering [] st st := of_frontend rfl rfl

theorem trans {calls calls' : List Nat} {st st' st'' : Agent} (first : Answering calls st st')
    (second : Answering calls' st' st'') : Answering (calls ++ calls') st st'' := by
  obtain ⟨⟨extra,grown,answered⟩,search⟩ := first
  obtain ⟨⟨extra',grown',answered'⟩,search'⟩ := second
  exact ⟨⟨extra ++ extra',by rw [grown',grown,List.append_assoc],by
    rw [List.filterMap_append,answered,answered']⟩,search'.trans search⟩

/-- Records that answer nothing in front of others change nothing in what is answered. -/
theorem quiet_trans {calls : List Nat} {st st' st'' : Agent} (first : Answering [] st st')
    (second : Answering calls st' st'') : Answering calls st st'' :=
  first.trans second

theorem trans_quiet {calls : List Nat} {st st' st'' : Agent} (first : Answering calls st st')
    (second : Answering [] st' st'') : Answering calls st st'' := by
  simpa using first.trans second

theorem send (st : Agent) (record : Record) :
    Answering record.answeredCall.toList st (st.send record) :=
  ⟨⟨[record],rfl,by cases answered : record.answeredCall <;> simp [answered]⟩,rfl⟩

variable {calls : List Nat} {st st' : Agent}

theorem searchResults (answering : Answering calls st st') : st'.searchResults = st.searchResults :=
  congrArg Prod.fst answering.2

theorem pendingMatchJobs (answering : Answering calls st st') : st'.pendingMatchJobs = st.pendingMatchJobs :=
  congrArg (·.2.1) answering.2

theorem matchJobsTimerActive (answering : Answering calls st st') :
    st'.matchJobsTimerActive = st.matchJobsTimerActive :=
  congrArg (·.2.2) answering.2

theorem send_quiet (st : Agent) {record : Record} (quiet : record.answeredCall = none) :
    Answering [] st (st.send record) := by
  simpa [quiet] using send st record

end Answering
/-- The builders send nothing. -/
theorem answeringChain (dom : Dom) (nodesMap : MapRef) : BuildChain dom nodesMap (Answering []) where
  refl := Answering.refl
  trans first second := first.quiet_trans second
  bound node st := .of_frontend ((frontendChain dom nodesMap).bound node st)
    ((searchChain dom nodesMap).bound node st)
  listened node st := .of_frontend ((frontendChain dom nodesMap).listened node st)
    ((searchChain dom nodesMap).listened node st)

/-- Every update the handlers are made of sends only the records it answers with, and leaves the
search alone. -/
theorem answeringSteps : StepChain fun calls w w' => Answering calls w.agent w'.agent where
  refl w := .refl w.agent
  trans first second := first.trans second
  bound w nodesMap node := (answeringChain w.dom nodesMap).bound node w.agent
  listened w node := (answeringChain w.dom .live).listened node w.agent
  unlistened w node := by
    dsimp only [unlisten,stopListening]
    split <;> (try split) <;> exact .of_frontend rfl rfl
  removed w nodesMap _ _ _ := by cases nodesMap <;> exact .of_frontend rfl rfl
  sent w record := .send w.agent record
  requested w _ _ := .of_frontend rfl rfl
  allocated w := .of_frontend rfl rfl
  discarded w := .of_frontend rfl rfl
  inspected w _ := .of_frontend rfl rfl
  inserted w _ _ _ := .refl w.agent
  detached w _ _ := .refl w.agent
  valueSet w _ _ := .refl w.agent
  attributesSet w _ _ := .refl w.agent

theorem pushDocumentToFrontend_answering (dom : Dom) (st : Agent) :
    Answering [] st (pushDocumentToFrontend dom st).2 :=
  answeringSteps.pushDocumentToFrontend_keeps dom st

theorem pushNodePathToFrontend_answering (dom : Dom) (node : Node) {st : Agent} {result : Nat × Agent}
    (ok : pushNodePathToFrontend dom node st = .ok result) : Answering [] st result.2 :=
  (answeringSteps.handlers (fun _ => True) fun _ _ => True).pushNodePathToFrontend_keeps dom node ok

theorem applyOuterHTML_refused (prims : Primitives) (w : World) (callId : Nat) (node : Node)
    (parentNode : Option Node) (outerHTML : String)
    (refused : parentNode = none ∨ prims.setOuterHTML w.dom node outerHTML = none) :
    applyOuterHTML prims callId node parentNode outerHTML w = w.respond (.didSetOuterHTML callId 0) := by
  unfold applyOuterHTML
  split
  · rename_i parsed
    rcases refused with refused | refused <;> simp_all
  · rfl

/-- A refused edit is answered with 0, and the handler, without a `return`, goes on to answer
again. -/
theorem setOuterHTML_refused_answers_twice (prims : Primitives) (w : World) (callId nodeId : Nat)
    (outerHTML : String) {node : Node} (found : nodeForId nodeId w.agent = some node)
    (html : w.dom.isHTMLElement node = true)
    (refused : w.dom.parentNode node = none ∨ prims.setOuterHTML w.dom node outerHTML = none)
    {next : World} (ok : setOuterHTML prims callId nodeId outerHTML w = .ok next) :
    Answering [callId,callId] w.agent next.agent :=
  (answeringSteps.handlers (fun _ => True) fun _ _ => True).setOuterHTML_keeps_after prims w callId nodeId outerHTML found html
    (by rw [applyOuterHTML_refused prims w callId node _ outerHTML refused]; exact .send _ _) ok

/-- Every other input answers its call id once, but for `setOuterHTML`, which may answer twice,
and `addRule`, which may not answer; none of them touches the search. -/
theorem step_answering (env : Env) {w next : World} (input : Input) (quiet : input.searches = false)
    (stepped : step env w input = .ok next) :
    ∃ calls, Answering calls w.agent next.agent ∧ (calls = input.callId.toList ∨
      (∃ callId nodeId outerHTML, input = .setOuterHTML callId nodeId outerHTML ∧ calls = [callId,callId]) ∨
      (∃ callId selector selectedNodeId, input = .addRule callId selector selectedNodeId ∧ calls = [])) :=
  answeringSteps.step_keeps env input quiet stepped

/-- Every request but `setOuterHTML` and `addRule`, when it does not fault, answers its call id
exactly once, every other record it sends answers no call, and the search is left alone. -/
theorem requests_answer_once (env : Env) {w next : World} (input : Input) {callId : Nat}
    (request : input.callId = some callId)
    (notOuterHTML : ∀ nodeId outerHTML, input ≠ .setOuterHTML callId nodeId outerHTML)
    (notAddRule : ∀ selector selectedNodeId, input ≠ .addRule callId selector selectedNodeId)
    (stepped : step env w input = .ok next) : Answering [callId] w.agent next.agent := by
  have quiet : input.searches = false := by cases input <;> first | rfl | cases request
  obtain ⟨calls,answering,answers⟩ := step_answering env input quiet stepped
  rcases answers with rfl | ⟨_,nodeId,outerHTML,rfl,-⟩ | ⟨_,selector,selectedNodeId,rfl,-⟩
  · rwa [request] at answering
  · cases request; exact absurd rfl (notOuterHTML nodeId outerHTML)
  · cases request; exact absurd rfl (notAddRule selector selectedNodeId)

/-- On `bodyTree`, after `setDocument` and a request for the document's children, the request for
the children of `HTML` (id 2) answers call 8 once. -/
theorem requests_answer_once_html :
    ∃ w next, run Env.accepting (World.initial bodyTree) [.setDocument (some 0),.getChildNodes 7 1] = .ok w ∧
      nodeForId 2 w.agent = some 1 ∧ step Env.accepting w (.getChildNodes 8 2) = .ok next ∧
      Answering [8] w.agent next.agent :=
  ⟨_,_,rfl,rfl,rfl,requests_answer_once Env.accepting (.getChildNodes 8 2) rfl (fun _ _ => nofun) (fun _ _ => nofun) rfl⟩

/-- On `bodyTree`, `setOuterHTML` on `BODY` (id 3) with markup the tree refuses answers call 7
twice: with 0, then with the id of the node found in its place. -/
theorem setOuterHTML_answers_twice_on_body :
    ∃ w, run Env.accepting (World.initial bodyTree) [.setDocument (some 0),.setOuterHTML 7 3 "<p>"] = .ok w ∧
      w.agent.frontend.filterMap Record.answeredCall = [7,7] :=
  ⟨_,rfl,by decide⟩

end InspectorDOM
