import InspectorDOM.RenamingPush
import InspectorDOM.Disclosure

/-! Runs after a `reset`. The world of the reset agent is related to the world of a freshly
constructed agent when both have the same tree and `Shifted` agents; every entry point, fed the
moved ids, keeps that, so a whole run of the reset agent is the fresh agent's run with its ids
moved, behind the records sent before the reset. -/

namespace InspectorDOM

section Agent

variable {stale : Bool} {offset handles : Nat} {before : List Record}

theorem Shifted.walkPath (dom : Dom) :
    ∀ pairs node {fresh st : Agent}, Shifted stale offset handles before fresh st →
      (InspectorDOM.walkPath dom pairs node st).1 = (InspectorDOM.walkPath dom pairs node fresh).1 ∧
        Shifted stale offset handles before (InspectorDOM.walkPath dom pairs node fresh).2
          (InspectorDOM.walkPath dom pairs node st).2
  | [], _, _, _, shifted => ⟨rfl,shifted⟩
  | (index,childName) :: rest, node, _, _, shifted => by
    have once := shifted.listen dom node
    have twice := once.listen dom node
    simp only [InspectorDOM.walkPath]
    split
    · exact ⟨rfl,shifted⟩
    split
    · exact ⟨rfl,once⟩
    split
    · exact ⟨rfl,twice⟩
    split
    · exact ⟨rfl,twice⟩
    · exact Shifted.walkPath dom rest _ twice

theorem Shifted.nodeForPath {fresh st : Agent} (shifted : Shifted stale offset handles before fresh st) (dom : Dom)
    (path : String) :
    (InspectorDOM.nodeForPath dom path st).1 = (InspectorDOM.nodeForPath dom path fresh).1 ∧
      Shifted stale offset handles before (InspectorDOM.nodeForPath dom path fresh).2 (InspectorDOM.nodeForPath dom path st).2 := by
  simp only [InspectorDOM.nodeForPath,shifted.mainFrameDocument]
  split
  · exact ⟨rfl,shifted⟩
  split
  · exact ⟨rfl,shifted⟩
  · exact shifted.walkPath dom _ _

theorem Shifted.pushListeners (dom : Dom) :
    ∀ listeners {fresh st : Agent}, Shifted stale offset handles before fresh st →
      Outcomes (fun (a b : List ListenerDesc × Agent) =>
          b.1 = a.1.map (ListenerDesc.shift offset) ∧ Shifted stale offset handles before a.2 b.2)
        (InspectorDOM.pushListeners dom listeners fresh) (InspectorDOM.pushListeners dom listeners st)
  | [], _, _, shifted => ⟨rfl,shifted⟩
  | (node,type,listener) :: rest, _, _, shifted =>
    (shifted.pushNodePathToFrontend dom node).bind fun _ _ ⟨moved,related⟩ =>
      (Shifted.pushListeners dom rest related).bind fun _ _ ⟨moved',related'⟩ =>
        ⟨by simp only [moved,moved',List.map_cons,ListenerDesc.shift],related'⟩

theorem Shifted.pushReplacement {fresh st : Agent} (shifted : Shifted stale offset handles before fresh st) (dom : Dom)
    (node : Node) (childrenRequested : Bool) :
    Outcomes (ShiftedPair stale offset handles before) (InspectorDOM.pushReplacement dom node childrenRequested fresh)
      (InspectorDOM.pushReplacement dom node childrenRequested st) :=
  (shifted.pushNodePathToFrontend dom node).bind fun _ _ ⟨moved,related⟩ => by
    cases childrenRequested
    · exact ⟨moved,related⟩
    · rw [moved]
      exact (related.pushChildNodesToFrontend dom (.inl rfl)).bind fun _ _ related' => ⟨rfl,related'⟩

end Agent

/-- The world of the reset agent against the world of the fresh one. -/
structure Moved (stale : Bool) (offset handles : Nat) (before : List Record) (w v : World) : Prop where
  dom : v.dom = w.dom
  agent : Shifted stale offset handles before w.agent v.agent

namespace Moved

variable {stale : Bool} {offset handles : Nat} {before : List Record}

section Tree

variable {w v : World} (moved : Moved stale offset handles before w v)
include moved

theorem respond (record : Record) :
    Moved stale offset handles before (w.respond record) (v.respond (record.shift offset)) :=
  ⟨moved.dom,moved.agent.send record⟩

theorem removeChild (parent node : Node) :
    Moved stale offset handles before (w.removeChild parent node) (v.removeChild parent node) :=
  ⟨by simp only [World.removeChild,moved.dom],
    by simpa only [World.removeChild,moved.dom] using moved.agent.didRemoveDOMNode w.dom node⟩

theorem withDom (change : Dom → Dom) :
    Moved stale offset handles before { w with dom := change w.dom } { v with dom := change v.dom } :=
  ⟨by simp only [moved.dom],moved.agent⟩

theorem insertBefore (parent node : Node) (refChild : Option Node) :
    Moved stale offset handles before (w.insertBefore parent node refChild) (v.insertBefore parent node refChild) := by
  simp only [World.insertBefore,moved.dom]
  split
  · next oldParent _ =>
    have removed := moved.removeChild oldParent node
    exact ⟨by dsimp only; rw [removed.dom],by dsimp only; rw [removed.dom]; exact removed.agent.didInsertDOMNode _ _⟩
  · simp only [moved.dom]
    exact ⟨rfl,moved.agent.didInsertDOMNode _ _⟩

theorem callInsertBefore (prims : Primitives) (parent node : Node) (refChild : Option Node) :
    Moved stale offset handles before (w.callInsertBefore prims parent node refChild)
      (v.callInsertBefore prims parent node refChild) := by
  unfold World.callInsertBefore
  rw [moved.dom]
  split
  · exact moved.insertBefore parent node refChild
  · exact moved

theorem replaceWithFragment (parent node : Node) (fragment : List Node) :
    Moved stale offset handles before (InspectorDOM.replaceWithFragment parent node fragment w)
      (InspectorDOM.replaceWithFragment parent node fragment v) := by
  unfold InspectorDOM.replaceWithFragment
  rw [moved.dom]
  exact List.foldl_rel _ (moved.removeChild parent node) fun _ _ _ _ related => related.insertBefore _ _ _

theorem replaceWholeText (node : Node) (value : String) :
    Moved stale offset handles before (InspectorDOM.replaceWholeText node value w) (InspectorDOM.replaceWholeText node value v) := by
  unfold InspectorDOM.replaceWholeText
  rw [moved.dom]
  split
  · split
    · exact moved
    · exact ⟨rfl,moved.agent⟩
  · dsimp only
    split
    · exact (List.foldl_rel _ moved fun text _ _ _ related => related.removeChild _ text).removeChild _ node
    · exact (List.foldl_rel _ moved fun text _ _ _ related => related.removeChild _ text).withDom
        fun dom => dom.setNodeValue node value

end Tree

theorem moveChildren (prims : Primitives) (oldNode newElem : Node) :
    ∀ fuel {w v : World}, Moved stale offset handles before w v →
      Outcomes (Moved stale offset handles before) (InspectorDOM.moveChildren prims oldNode newElem fuel w)
        (InspectorDOM.moveChildren prims oldNode newElem fuel v)
  | 0, _, _, _ => rfl
  | fuel + 1, _, _, moved => by
    simp only [InspectorDOM.moveChildren,moved.dom]
    split
    · exact moved
    split
    · exact moveChildren prims oldNode newElem fuel (moved.insertBefore newElem _ none)
    · exact moveChildren prims oldNode newElem fuel moved

section Requests

variable {w v : World} (moved : Moved stale offset handles before w v)
include moved

theorem getChildNodes (callId : Nat) {nodeId nodeId' : Nat} (renamed : IdRenamed stale offset nodeId nodeId') :
    Outcomes (Moved stale offset handles before) (InspectorDOM.getChildNodes callId nodeId w)
      (InspectorDOM.getChildNodes callId nodeId' v) := by
  unfold InspectorDOM.getChildNodes
  rw [moved.dom]
  exact (moved.agent.pushChildNodesToFrontend w.dom renamed).map fun _ _ related => ⟨rfl,related.send _⟩

theorem setAttribute (prims : Primitives) (callId : Nat) {elementId elementId' : Nat}
    (renamed : IdRenamed stale offset elementId elementId') (name value : String) :
    Moved stale offset handles before (InspectorDOM.setAttribute prims callId elementId name value w)
      (InspectorDOM.setAttribute prims callId elementId' name value v) := by
  unfold InspectorDOM.setAttribute
  rw [moved.agent.nodeForId_renamed renamed,moved.dom]
  split
  · split
    · split
      · exact ⟨rfl,(moved.agent.didModifyDOMAttr _ _).send _⟩
      · exact moved.respond _
    · exact moved.respond _
  · exact moved.respond _

theorem removeAttribute (prims : Primitives) (callId : Nat) {elementId elementId' : Nat}
    (renamed : IdRenamed stale offset elementId elementId') (name : String) :
    Moved stale offset handles before (InspectorDOM.removeAttribute prims callId elementId name w)
      (InspectorDOM.removeAttribute prims callId elementId' name v) := by
  unfold InspectorDOM.removeAttribute
  rw [moved.agent.nodeForId_renamed renamed,moved.dom]
  split
  · split
    · split
      · exact ⟨rfl,(moved.agent.didModifyDOMAttr _ _).send _⟩
      · exact moved.respond _
    · exact moved.respond _
  · exact moved.respond _

theorem removeNode (prims : Primitives) (callId : Nat) {nodeId nodeId' : Nat}
    (renamed : IdRenamed stale offset nodeId nodeId') :
    Moved stale offset handles before (InspectorDOM.removeNode prims callId nodeId w)
      (InspectorDOM.removeNode prims callId nodeId' v) := by
  unfold InspectorDOM.removeNode
  rw [moved.agent.nodeForId_renamed renamed,moved.dom]
  split
  · exact moved.respond _
  next _ _ found =>
  obtain rfl := renamed.shift_of_ne_zero (nodeForId_ne_zero found)
  split
  · exact moved.respond _
  split
  · exact (moved.removeChild _ _).respond _
  · exact moved.respond _

theorem changeTagName (prims : Primitives) (callId : Nat) {nodeId nodeId' : Nat}
    (renamed : IdRenamed stale offset nodeId nodeId') (tagName : String) :
    Outcomes (Moved stale offset handles before) (InspectorDOM.changeTagName prims callId nodeId tagName w)
      (InspectorDOM.changeTagName prims callId nodeId' tagName v) := by
  simp only [InspectorDOM.changeTagName,moved.agent.nodeForId_renamed renamed,moved.dom]
  split
  · exact moved.respond _
  next _ oldNode found =>
  obtain rfl := renamed.shift_of_ne_zero (nodeForId_ne_zero found)
  simp only [moved.agent.requested]
  split
  · exact moved.respond _
  split
  · exact moved.respond _
  next _ newElem _ =>
  refine (Moved.moveChildren prims _ _ _ (?attributed : Moved stale offset handles before _ _)).bind
    fun w' _ moved' => ?_
  case attributed => exact ⟨rfl,moved.agent⟩
  rw [moved'.dom]
  split
  · rfl
  next _ parent _ =>
  have inserted := moved'.callInsertBefore prims parent newElem (w'.dom.nextSibling oldNode)
  rw [inserted.dom]
  split
  · exact inserted.respond _
  have removed := inserted.removeChild parent oldNode
  rw [removed.dom]
  exact (removed.agent.pushReplacement _ _ _).bind fun _ _ ⟨id,related⟩ =>
    ⟨rfl,by rw [id]; exact related.send _⟩

theorem getOuterHTML (prims : Primitives) (callId : Nat) {nodeId nodeId' : Nat}
    (renamed : IdRenamed stale offset nodeId nodeId') :
    Moved stale offset handles before (InspectorDOM.getOuterHTML prims callId nodeId w)
      (InspectorDOM.getOuterHTML prims callId nodeId' v) := by
  unfold InspectorDOM.getOuterHTML
  rw [moved.agent.nodeForId_renamed renamed,moved.dom]
  split
  · split
    · exact moved.respond _
    · exact moved.respond _
  · exact moved.respond _

theorem applyOuterHTML (prims : Primitives) (callId : Nat) (node : Node) (parentNode : Option Node)
    (outerHTML : String) :
    Moved stale offset handles before (InspectorDOM.applyOuterHTML prims callId node parentNode outerHTML w)
      (InspectorDOM.applyOuterHTML prims callId node parentNode outerHTML v) := by
  unfold InspectorDOM.applyOuterHTML
  rw [moved.dom]
  split
  · exact moved.replaceWithFragment _ _ _
  · exact moved.respond _

theorem setOuterHTML (prims : Primitives) (callId : Nat) {nodeId nodeId' : Nat}
    (renamed : IdRenamed stale offset nodeId nodeId') (outerHTML : String) :
    Outcomes (Moved stale offset handles before) (InspectorDOM.setOuterHTML prims callId nodeId outerHTML w)
      (InspectorDOM.setOuterHTML prims callId nodeId' outerHTML v) := by
  simp only [InspectorDOM.setOuterHTML,moved.agent.nodeForId_renamed renamed,moved.dom]
  split
  · exact moved.respond _
  next _ node found =>
  obtain rfl := renamed.shift_of_ne_zero (nodeForId_ne_zero found)
  simp only [moved.agent.requested]
  split
  · exact moved.respond _
  have applied := moved.applyOuterHTML prims callId node (w.dom.parentNode node) outerHTML
  rw [applied.dom]
  split
  · rfl
  · obtain ⟨same,pushed⟩ := applied.agent.pushDocumentToFrontend (InspectorDOM.applyOuterHTML prims callId node
      (w.dom.parentNode node) outerHTML w).dom
    rw [same]
    split
    · rfl
    · exact ⟨rfl,pushed.send _⟩
  · exact (applied.agent.pushReplacement _ _ _).bind fun _ _ ⟨id,related⟩ =>
      ⟨rfl,by rw [id]; exact related.send _⟩

theorem setTextNodeValue (prims : Primitives) (callId : Nat) {nodeId nodeId' : Nat}
    (renamed : IdRenamed stale offset nodeId nodeId') (value : String) :
    Moved stale offset handles before (InspectorDOM.setTextNodeValue prims callId nodeId value w)
      (InspectorDOM.setTextNodeValue prims callId nodeId' value v) := by
  unfold InspectorDOM.setTextNodeValue
  rw [moved.agent.nodeForId_renamed renamed,moved.dom]
  split
  · split
    · split
      · exact (moved.replaceWholeText _ _).respond _
      · exact moved.respond _
    · exact moved.respond _
  · exact moved.respond _

/-- The answer names the node id it was asked about, and each listener's node the moved id it was
pushed under. -/
theorem getEventListenersForNode (prims : Primitives) (callId : Nat) {nodeId nodeId' : Nat}
    (renamed : IdRenamed stale offset nodeId nodeId') :
    Outcomes (Moved stale offset handles before) (InspectorDOM.getEventListenersForNode prims callId nodeId w)
      (InspectorDOM.getEventListenersForNode prims callId nodeId' v) := by
  have empty := moved.agent.send_renamed (.inr ⟨callId,nodeId,nodeId',renamed,rfl,rfl⟩)
  simp only [InspectorDOM.getEventListenersForNode,moved.agent.nodeForId_renamed renamed,moved.dom]
  split
  · exact ⟨rfl,empty⟩
  next _ _ found =>
  obtain rfl := renamed.shift_of_ne_zero fun zero => by simp [zero,nodeForId] at found
  split
  · exact ⟨rfl,empty⟩
  · exact (moved.agent.pushListeners w.dom _).map fun _ _ ⟨listeners,related⟩ =>
      ⟨rfl,by rw [listeners]; exact related.send (.didGetEventListenersForNode callId nodeId _)⟩

theorem pushNodeByPathToFrontend (callId : Nat) (path : String) :
    Outcomes (Moved stale offset handles before) (InspectorDOM.pushNodeByPathToFrontend callId path w)
      (InspectorDOM.pushNodeByPathToFrontend callId path v) := by
  obtain ⟨same,found⟩ := moved.agent.nodeForPath w.dom path
  simp only [InspectorDOM.pushNodeByPathToFrontend,moved.dom,same]
  split
  · exact ⟨rfl,found.send _⟩
  · exact (found.pushNodePathToFrontend w.dom _).map fun _ _ ⟨id,related⟩ =>
      ⟨rfl,by rw [id]; exact related.send _⟩

end Requests

section Styles

variable {w v : World} (moved : Moved stale offset handles before w v) (engine : StyleEngine)
include moved

theorem getStyles (callId : Nat) {nodeId nodeId' : Nat} (renamed : IdRenamed stale offset nodeId nodeId') :
    Moved stale offset handles before (InspectorDOM.getStyles engine callId nodeId w)
      (InspectorDOM.getStyles engine callId nodeId' v) := by
  unfold InspectorDOM.getStyles
  rw [moved.agent.nodeForId_renamed renamed,moved.dom]
  split
  · split
    · exact moved.respond _
    · exact moved.respond _
  · exact moved.respond _

theorem getInlineStyle (callId : Nat) {nodeId nodeId' : Nat} (renamed : IdRenamed stale offset nodeId nodeId') :
    Moved stale offset handles before (InspectorDOM.getInlineStyle callId nodeId w)
      (InspectorDOM.getInlineStyle callId nodeId' v) := by
  unfold InspectorDOM.getInlineStyle
  rw [moved.agent.nodeForId_renamed renamed,moved.dom]
  split
  · exact moved.respond _
  · exact moved.respond _

theorem getComputedStyle (callId : Nat) {nodeId nodeId' : Nat} (renamed : IdRenamed stale offset nodeId nodeId') :
    Moved stale offset handles before (InspectorDOM.getComputedStyle engine callId nodeId w)
      (InspectorDOM.getComputedStyle engine callId nodeId' v) := by
  unfold InspectorDOM.getComputedStyle
  rw [moved.agent.nodeForId_renamed renamed,moved.dom]
  split
  · split
    · exact moved.respond _
    · exact moved.respond _
  · exact moved.respond _

theorem getRuleRangesForStyleSheetId (callId styleSheetId : Nat) :
    Moved stale offset handles before (InspectorDOM.getRuleRangesForStyleSheetId engine callId styleSheetId w)
      (InspectorDOM.getRuleRangesForStyleSheetId engine callId styleSheetId v) := by
  unfold InspectorDOM.getRuleRangesForStyleSheetId
  split <;> exact moved.respond _

/-- The style text requests read the CSS store alone: a case on each answer it gives decides
both sides alike. -/
theorem applyStyleText (callId styleId : Nat) (styleText propertyName : String) :
    Moved stale offset handles before (InspectorDOM.applyStyleText engine callId styleId styleText propertyName w)
      (InspectorDOM.applyStyleText engine callId styleId styleText propertyName v) := by
  unfold InspectorDOM.applyStyleText
  cases engine.styleForId styleId <;> cases engine.removePropertyFails styleId propertyName <;>
    cases styleText.isEmpty <;> cases engine.parsedLength styleText <;> exact moved.respond _

theorem setStyleText (callId styleId : Nat) (cssText : String) :
    Moved stale offset handles before (InspectorDOM.setStyleText engine callId styleId cssText w)
      (InspectorDOM.setStyleText engine callId styleId cssText v) := by
  unfold InspectorDOM.setStyleText
  split <;> exact moved.respond _

theorem setStyleProperty (callId styleId : Nat) (name value : String) :
    Moved stale offset handles before (InspectorDOM.setStyleProperty engine callId styleId name value w)
      (InspectorDOM.setStyleProperty engine callId styleId name value v) := by
  unfold InspectorDOM.setStyleProperty
  split <;> exact moved.respond _

theorem toggleStyleEnabled (callId styleId : Nat) (propertyName : String) (disabled : Bool) :
    Moved stale offset handles before (InspectorDOM.toggleStyleEnabled engine callId styleId propertyName disabled w)
      (InspectorDOM.toggleStyleEnabled engine callId styleId propertyName disabled v) := by
  unfold InspectorDOM.toggleStyleEnabled
  split <;> exact moved.respond _

theorem setRuleSelector (callId ruleId : Nat) (selector : String) {selectedNodeId selectedNodeId' : Nat}
    (renamed : IdRenamed stale offset selectedNodeId selectedNodeId') :
    Outcomes (Moved stale offset handles before) (InspectorDOM.setRuleSelector engine callId ruleId selector selectedNodeId w)
      (InspectorDOM.setRuleSelector engine callId ruleId selector selectedNodeId' v) := by
  unfold InspectorDOM.setRuleSelector
  rw [moved.agent.nodeForId_renamed renamed,moved.dom]
  cases engine.ruleForId ruleId with
  | none => exact moved.respond _
  | some hasParentStyleSheet =>
    cases hasParentStyleSheet
    · rfl
    cases engine.addRuleFails selector
    case true => exact moved.respond _
    cases engine.deleteRuleFails ruleId
    case true => exact moved.respond _
    cases nodeForId selectedNodeId w.agent with
    | none => rfl
    | some node =>
      dsimp only
      cases w.dom.ownerDocument node
      · rfl
      · exact moved.respond _

theorem addRule (callId : Nat) (selector : String) {selectedNodeId selectedNodeId' : Nat}
    (renamed : IdRenamed stale offset selectedNodeId selectedNodeId') :
    Outcomes (Moved stale offset handles before) (InspectorDOM.addRule engine callId selector selectedNodeId w)
      (InspectorDOM.addRule engine callId selector selectedNodeId' v) := by
  unfold InspectorDOM.addRule
  rw [moved.agent.nodeForId_renamed renamed,moved.dom]
  split
  · exact moved.respond _
  split
  · exact moved
  split
  · exact moved.respond _
  split
  · rfl
  · exact moved.respond _

end Styles

/-- One input of the fresh agent's run, and the same input with its ids renamed for the reset
agent's. -/
theorem step (env : Env) {w v : World} (moved : Moved stale offset handles before w v) {input input' : Input}
    (renamed : Input.Renamed stale offset input input') :
    Outcomes (Moved stale offset handles before) (InspectorDOM.step env w input) (InspectorDOM.step env v input') := by
  obtain ⟨rename,ids,rfl⟩ := renamed
  obtain ⟨dom,st⟩ := v
  have same : dom = w.dom := moved.dom
  subst same
  cases input with
  | setDocument doc => exact ⟨rfl,moved.agent.setDocument w.dom doc⟩
  | getChildNodes callId nodeId => exact moved.getChildNodes callId (ids nodeId)
  | pushNodePathToFrontend node =>
    exact (moved.agent.pushNodePathToFrontend w.dom node).map fun _ _ related => ⟨rfl,related.2⟩
  | setAttribute callId elementId name value => exact moved.setAttribute env.prims callId (ids elementId) name value
  | removeAttribute callId elementId name => exact moved.removeAttribute env.prims callId (ids elementId) name
  | removeNode callId nodeId => exact moved.removeNode env.prims callId (ids nodeId)
  | changeTagName callId nodeId tagName => exact moved.changeTagName env.prims callId (ids nodeId) tagName
  | getOuterHTML callId nodeId => exact moved.getOuterHTML env.prims callId (ids nodeId)
  | setOuterHTML callId nodeId outerHTML => exact moved.setOuterHTML env.prims callId (ids nodeId) outerHTML
  | setTextNodeValue callId nodeId value => exact moved.setTextNodeValue env.prims callId (ids nodeId) value
  | getEventListenersForNode callId nodeId => exact moved.getEventListenersForNode env.prims callId (ids nodeId)
  | pushNodeByPathToFrontend callId path => exact moved.pushNodeByPathToFrontend callId path
  | addInspectedNode nodeId => exact ⟨rfl,moved.agent.addInspectedNode (ids nodeId)⟩
  | getStyles callId nodeId => exact moved.getStyles env.styles callId (ids nodeId)
  | getAllStyles _ => exact moved.respond _
  | getStyleSheet _ _ => exact moved.respond _
  | getRuleRangesForStyleSheetId callId styleSheetId =>
    exact moved.getRuleRangesForStyleSheetId env.styles callId styleSheetId
  | getInlineStyle callId nodeId => exact moved.getInlineStyle callId (ids nodeId)
  | getComputedStyle callId nodeId => exact moved.getComputedStyle env.styles callId (ids nodeId)
  | applyStyleText callId styleId styleText propertyName =>
    exact moved.applyStyleText env.styles callId styleId styleText propertyName
  | setStyleText callId styleId cssText => exact moved.setStyleText env.styles callId styleId cssText
  | setStyleProperty callId styleId name value => exact moved.setStyleProperty env.styles callId styleId name value
  | toggleStyleEnabled callId styleId propertyName disabled =>
    exact moved.toggleStyleEnabled env.styles callId styleId propertyName disabled
  | setRuleSelector callId ruleId selector selectedNodeId =>
    exact moved.setRuleSelector env.styles callId ruleId selector (ids selectedNodeId)
  | addRule callId selector selectedNodeId => exact moved.addRule env.styles callId selector (ids selectedNodeId)
  | performSearch query runSynchronously =>
    exact (moved.agent.performSearch env.engines w.dom query runSynchronously).map fun _ _ related => ⟨rfl,related⟩
  | searchCanceled => exact ⟨rfl,moved.agent.searchCanceled⟩
  | matchJobsTimer =>
    show Outcomes _ (if w.agent.matchJobsTimerActive then _ else _) (if st.matchJobsTimerActive then _ else _)
    rw [moved.agent.matchJobsTimerActive]
    split
    · exact (moved.agent.onMatchJobsTimer env.engines w.dom).map fun _ _ related => ⟨rfl,related⟩
    · exact moved
  | handleEvent event => exact ⟨rfl,moved.agent.handleEvent w.dom event⟩
  | insertBefore parent node refChild =>
    show Outcomes _ (.ok (if w.dom.canInsert parent node refChild then _ else _))
      (.ok (if w.dom.canInsert parent node refChild then _ else _))
    split
    · exact moved.insertBefore parent node refChild
    · exact moved
  | removeChild parent node =>
    show Outcomes _ (.ok (if w.dom.parentNode node = some parent then _ else _))
      (.ok (if w.dom.parentNode node = some parent then _ else _))
    split
    · exact moved.removeChild parent node
    · exact moved

theorem run (env : Env) : ∀ {inputs inputs'}, List.Forall₂ (Input.Renamed stale offset) inputs inputs' →
    ∀ {w v : World}, Moved stale offset handles before w v →
      Outcomes (Moved stale offset handles before) (InspectorDOM.run env w inputs) (InspectorDOM.run env v inputs')
  | [], [], .nil, _, _, moved => moved
  | _ :: _, _ :: _, .cons renamed rest, _, _, moved =>
    (moved.step env renamed).bind fun _ _ moved' => Moved.run env rest moved'

end Moved

/-- Reset leaves nothing a later input can read. From any reachable world, the agent after
`reset` runs any inputs as a freshly constructed agent over the same tree runs them, once every
node id of the inputs and of the records is moved by `m_lastNodeId - 1` (the null id 0 stays):
both runs fail with the same fault, or both end on the same tree and the reset agent has sent,
after the records sent before the reset, the fresh agent's records with the ids moved. The ids
`1, …, m_lastNodeId - 1` handed out before the reset name nothing: requests that name them where
the fresh agent's requests name the null id are run alike, the listener answer repeating the id
it was asked about. -/
theorem reset_runs_as_fresh (env : Env) {dom : Dom} {w : World} (reachable : Reachable env dom w)
    (inputs : List Input) :
    (run env ⟨w.dom,reset w.agent⟩ (inputs.map (Input.shift (w.agent.lastNodeId - 1)))).map
        (fun next => (next.dom,next.agent.frontend)) =
      (run env ⟨w.dom,inspectorDOMAgent⟩ inputs).map
        (fun next => (next.dom,w.agent.frontend ++ next.agent.frontend.map (Record.shift (w.agent.lastNodeId - 1)))) ∧
    ∀ inputs', List.Forall₂ (Input.Renamed true (w.agent.lastNodeId - 1)) inputs inputs' →
      Outcomes (fun fresh next => next.dom = fresh.dom ∧ ∃ after, next.agent.frontend = w.agent.frontend ++ after ∧
          List.Forall₂ (Record.Renamed true (w.agent.lastNodeId - 1)) fresh.agent.frontend after)
        (run env ⟨w.dom,inspectorDOMAgent⟩ inputs) (run env ⟨w.dom,reset w.agent⟩ inputs') := by
  have start : ∀ stale, Moved stale (w.agent.lastNodeId - 1) w.agent.nextDanglingMap w.agent.frontend
      ⟨w.dom,inspectorDOMAgent⟩ ⟨w.dom,reset w.agent⟩ :=
    fun stale => ⟨rfl,reset_shifted stale (reachable_consistent reachable).positive⟩
  refine ⟨?_,fun inputs' renamed => ?_⟩
  · have shifted : List.Forall₂ (Input.Renamed false (w.agent.lastNodeId - 1)) inputs
        (inputs.map (Input.shift (w.agent.lastNodeId - 1))) :=
      List.forall₂_map_right_iff.mpr (List.forall₂_same.mpr fun _ _ => ⟨_,fun _ => .inl rfl,rfl⟩)
    refine (Moved.run env shifted (start false)).map_eq fun _ _ moved => ?_
    obtain ⟨after,sent,records⟩ := moved.agent.frontend
    rw [moved.dom,sent,Record.renamed_false records]
  · exact (Moved.run env renamed (start true)).imp fun _ _ moved =>
      ⟨moved.dom,moved.agent.frontend⟩

/-- After `setDocument` on `bodyTree`, which hands out ids 1 to 3: the document request with the
null id, moved for the reset agent, is run alike, and so is the same request naming id 1, stale
after the reset, where the fresh agent's names the null id. -/
theorem reset_runs_as_fresh_body :
    let w : World := ⟨bodyTree,setDocument bodyTree (some 0) inspectorDOMAgent⟩
    let inputs := [Input.setDocument (some 0),.getChildNodes 7 0]
    let inputs' := [Input.setDocument (some 0),.getChildNodes 7 1]
    Reachable Env.accepting bodyTree w ∧ w.agent.lastNodeId = 4 ∧
      List.Forall₂ (Input.Renamed true (w.agent.lastNodeId - 1)) inputs inputs' ∧
      (run Env.accepting ⟨w.dom,reset w.agent⟩ (inputs.map (Input.shift (w.agent.lastNodeId - 1)))).map
          (fun next => (next.dom,next.agent.frontend)) =
        (run Env.accepting ⟨w.dom,inspectorDOMAgent⟩ inputs).map
          (fun next => (next.dom,w.agent.frontend ++ next.agent.frontend.map (Record.shift (w.agent.lastNodeId - 1)))) ∧
      Outcomes (fun fresh next => next.dom = fresh.dom ∧ ∃ after, next.agent.frontend = w.agent.frontend ++ after ∧
          List.Forall₂ (Record.Renamed true (w.agent.lastNodeId - 1)) fresh.agent.frontend after)
        (run Env.accepting ⟨w.dom,inspectorDOMAgent⟩ inputs) (run Env.accepting ⟨w.dom,reset w.agent⟩ inputs') :=
  have reachable : Reachable Env.accepting bodyTree ⟨bodyTree,setDocument bodyTree (some 0) inspectorDOMAgent⟩ :=
    .step (.setDocument (some 0)) .initial rfl
  have renamed : List.Forall₂ (Input.Renamed true 3) [Input.setDocument (some 0),.getChildNodes 7 0]
      [Input.setDocument (some 0),.getChildNodes 7 1] :=
    .cons ⟨shiftId 3,fun _ => .inl rfl,rfl⟩ (.cons ⟨fun id => if id = 0 then 1 else shiftId 3 id,fun id => by
      by_cases zero : id = 0
      · exact .inr ⟨rfl,zero,by simp [zero]⟩
      · exact .inl (by simp [zero]),rfl⟩ .nil)
  ⟨reachable,rfl,renamed,(reset_runs_as_fresh Env.accepting reachable _).1,
    (reset_runs_as_fresh Env.accepting reachable _).2 _ renamed⟩

/-- With the same request ids the runs differ by more than a renaming: after `setDocument` on
`bodyTree`, id 1 names the document for the fresh agent, which answers `getChildNodes(7, 1)` by
disclosing the document's children; the reset agent gave the document a new id, finds nothing
under id 1, and sends one record fewer. -/
theorem reset_with_same_ids_differs :
    let s := setDocument bodyTree (some 0) inspectorDOMAgent
    Reachable Env.accepting bodyTree ⟨bodyTree,s⟩ ∧
      ∃ fresh again, run Env.accepting ⟨bodyTree,inspectorDOMAgent⟩ [.setDocument (some 0),.getChildNodes 7 1] = .ok fresh ∧
        run Env.accepting ⟨bodyTree,reset s⟩ [.setDocument (some 0),.getChildNodes 7 1] = .ok again ∧
        ∀ rename : Record → Record, again.agent.frontend ≠ s.frontend ++ fresh.agent.frontend.map rename :=
  ⟨.step (.setDocument (some 0)) .initial rfl,_,_,rfl,rfl,fun rename same => by
    have lengths := congrArg List.length same
    simp only [List.length_append,List.length_map] at lengths
    exact absurd lengths (by decide)⟩

end InspectorDOM
