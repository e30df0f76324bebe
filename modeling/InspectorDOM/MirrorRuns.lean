import InspectorDOM.MirrorTree
import InspectorDOM.PathGrammar

/-! The mirror over whole runs. Each handler is a chain of the units the mirror lemmas cover, so
on a tidy tree every run keeps it, as long as `setDocument` is given the main frame's document, no
document is ever inserted, no edit puts a child into or takes one out of a frame owner with a
content document or a content document, and no text edit turns a node's value whitespace-only or
back. A content document is never bound, so its edits go unreported; a frame owner is shown with its
content document's children, so the edits of its own children are reported against children it is
not shown with; and the agent has no notification for a changed text, so the frontend keeps seeing
the node as it was. -/

namespace InspectorDOM

/-- The tree's primitives make plain nodes: `createElement` yields an element that is no document
and owns no frame, and `setOuterHTML` parses nodes that are no documents; neither hangs under a node
`isFramed` names. -/
structure Primitives.MakesPlainNodes (prims : Primitives) : Prop where
  created : ∀ dom oldNode tagName newElem, prims.createElement dom oldNode tagName = some newElem →
    dom.nodeType newElem ≠ .document ∧ dom.isFramed newElem = false ∧
      ∀ old, dom.parentNode newElem = some old → dom.isFramed old = false
  parsed : ∀ dom node outerHTML fragment, prims.setOuterHTML dom node outerHTML = some fragment →
    ∀ child ∈ fragment, dom.nodeType child ≠ .document ∧ ∀ old, dom.parentNode child = some old → dom.isFramed old = false

/-- The inputs of the runs the mirror follows: `setDocument` is given a document with no owner
element, as its `Document*` parameter is the main frame's; the tree inserts no document, as DOM
insertion refuses to; no edit puts a child into or takes one out of a node `isFramed` names; and a
text edit that sets a value leaves its node whitespace-only exactly when it was. -/
def Input.Admissible (w : World) : Input → Prop
  | .setDocument (some document) => w.dom.nodeType document = .document ∧ w.dom.ownerElement document = none
  | .insertBefore parent node _ => w.dom.isFramed parent = false ∧ w.dom.nodeType node ≠ .document ∧
      ∀ old, w.dom.parentNode node = some old → w.dom.isFramed old = false
  | .setTextNodeValue _ nodeId value => ∀ node, nodeForId nodeId w.agent = some node →
      (value ≠ "" → (w.dom.setNodeValue node value).visible node = w.dom.visible node) ∧
        ∀ parent, w.dom.parentNode node = some parent → w.dom.isFramed parent = false
  | input => input.EditsAt (fun node => w.dom.isFramed node = false) w

theorem Input.Admissible.editsAt {w : World} {input : Input} (admissible : input.Admissible w) :
    input.EditsAt (fun node => w.dom.isFramed node = false) w := by
  cases input with
  | setDocument doc => cases doc <;> trivial
  | insertBefore => exact admissible.1
  | setTextNodeValue => exact fun node parent found linked => (admissible node found).2 parent linked
  | _ => exact admissible

/-- The worlds a run of admissible inputs reaches from the agent as constructed. -/
inductive AdmissiblyReachable (env : Env) (dom : Dom) : World → Prop
  | initial : AdmissiblyReachable env dom (World.initial dom)
  | step {w next : World} (input : Input) (reachable : AdmissiblyReachable env dom w)
      (admissible : input.Admissible w) (stepped : step env w input = .ok next) :
      AdmissiblyReachable env dom next

/-- The agent as constructed binds nothing, so the mirror holds of it on a tidy tree. -/
theorem Mirrored.initial {dom : Dom} (tidy : Tidy dom) : Mirrored (World.initial dom) :=
  Mirrored.of_unbound ⟨consistent_initial,tidy,fun _ main => (nomatch main),fun _ bound => absurd rfl bound,nofun,
    fun _ bound => absurd rfl bound⟩ fun _ => rfl

theorem World.insertBefore_isFramed (w : World) (parent node : Node) (refChild : Option Node) :
    (w.insertBefore parent node refChild).dom.isFramed = w.dom.isFramed := by
  unfold World.insertBefore
  split <;> rfl

/-- The units the handlers are made of keep the mirror and the frame structure, when each edit is
made under a node `frames` does not name and a node coming in is no document and leaves no node
`frames` names. -/
theorem mirroredChain (frames : Node → Bool) :
    HandlerChain (fun node => frames node = false)
      (fun w node => Tidy w.dom → w.dom.nodeType node ≠ .document ∧
        ∀ old, w.dom.parentNode node = some old → frames old = false)
      fun _ w w' => w.dom.isFramed = frames → w'.dom.isFramed = frames ∧ (Mirrored w → Mirrored w') where
  refl _ framed := ⟨framed,id⟩
  trans first second framed := ⟨(second (first framed).1).1,(second (first framed).1).2 ∘ (first framed).2⟩
  pushedDocument _ framed := ⟨framed,Mirrored.pushDocumentToFrontend⟩
  pushedChildren _ _ _ ok framed := ⟨framed,fun mirrored => mirrored.pushChildNodesToFrontend ok⟩
  pushedDetachedRoot _ root present framed := ⟨framed,fun mirrored => mirrored.pushDetachedRoot root present⟩
  listened _ node present framed := ⟨framed,fun mirrored => mirrored.listen node present⟩
  sent _ _ quiet framed := ⟨framed,fun mirrored => mirrored.respond quiet⟩
  inspected _ nodeId framed := ⟨framed,fun mirrored => mirrored.addInspectedNode nodeId⟩
  handled _ event framed := ⟨framed,fun mirrored => mirrored.handleEvent event⟩
  attributesSet _ element attributes framed := ⟨framed,fun mirrored => mirrored.setAttributes element attributes⟩
  attributeModified _ element framed := ⟨framed,fun mirrored => mirrored.didModifyDOMAttr element⟩
  removedChild _ _ _ attached site framed := ⟨framed,fun mirrored => mirrored.removeChild attached (framed ▸ site)⟩
  insertedChild w parent node refChild fresh site framed := ⟨(w.insertBefore_isFramed _ _ _).trans framed,fun mirrored =>
    mirrored.insertBefore parent node refChild (fresh mirrored.tidy).1 (framed ▸ site)
      fun old linked => framed ▸ (fresh mirrored.tidy).2 old linked⟩

namespace Mirrored

/-- Setting a node's value keeps the mirror when the node stays whitespace-only exactly when it was:
no node's visibility changes, so no node's visited children do. -/
theorem setNodeValue {w : World} (mirrored : Mirrored w) {node : Node} {value : String}
    (kept : (w.dom.setNodeValue node value).visible node = w.dom.visible node) :
    Mirrored { w with dom := w.dom.setNodeValue node value } := by
  have tidy := mirrored.tidy.setNodeValue node value
  have shown : (w.dom.setNodeValue node value).visible = w.dom.visible := funext fun other => by
    by_cases same : other = node
    · subst same; exact kept
    · simp [Dom.visible,Dom.isWhitespace,Dom.setNodeValue,Function.update_noteq same]
  exact mirrored.of_dom tidy rfl rfl
    (fun n bound => ⟨(congrFun shown n).trans (mirrored.placed n bound).1,(mirrored.placed n bound).2⟩)
    fun q _ => by rw [tidy.innerChildren,mirrored.tidy.innerChildren,shown]; rfl

/-- Removing, one after the other, distinct nodes that each hang under an unframed `parent` keeps
the mirror, every other node's parent link, and every node's type, value and frame structure. -/
theorem removeEach {parent : Node} : ∀ (nodes : List Node) {w : World}, Mirrored w → nodes.Nodup →
    (∀ t ∈ nodes, w.dom.parentNode t = some parent) → w.dom.isFramed parent = false →
    Mirrored (nodes.foldl (fun w t => w.removeChild parent t) w) ∧
      (∀ other ∉ nodes, (nodes.foldl (fun w t => w.removeChild parent t) w).dom.parentNode other =
        w.dom.parentNode other) ∧
      (nodes.foldl (fun w t => w.removeChild parent t) w).dom.nodeType = w.dom.nodeType ∧
      (nodes.foldl (fun w t => w.removeChild parent t) w).dom.nodeValue = w.dom.nodeValue ∧
      (nodes.foldl (fun w t => w.removeChild parent t) w).dom.isFramed = w.dom.isFramed
  | [], _, mirrored, _, _, _ => ⟨mirrored,fun _ _ => rfl,rfl,rfl,rfl⟩
  | t :: rest, w, mirrored, nodup, attached, site => by
    obtain ⟨fresh,nodup'⟩ := List.nodup_cons.mp nodup
    have links : ∀ other, other ≠ t → (w.removeChild parent t).dom.parentNode other = w.dom.parentNode other :=
      fun other differs => by rw [World.removeChild_parentNode,if_neg differs]
    obtain ⟨kept,others,types,values,frames⟩ := removeEach rest
      (mirrored.removeChild (attached t (List.mem_cons_self _ _)) site) nodup'
      (fun r mem => (links r fun same => fresh (same ▸ mem)).trans (attached r (List.mem_cons_of_mem _ mem))) site
    refine ⟨kept,fun other absent => ?_,types,values,frames⟩
    rw [List.foldl_cons,others other fun mem => absent (List.mem_cons_of_mem _ mem),
      links other fun same => absent (same ▸ List.mem_cons_self _ _)]

/-- `Text::replaceWholeText`: the adjacent text siblings leave one after the other, each reported,
then the node leaves too or takes the value. -/
theorem replaceWholeText {w : World} (mirrored : Mirrored w) {node : Node} {value : String}
    (kept : value ≠ "" → (w.dom.setNodeValue node value).visible node = w.dom.visible node)
    (site : ∀ parent, w.dom.parentNode node = some parent → w.dom.isFramed parent = false) :
    Mirrored (InspectorDOM.replaceWholeText node value w) := by
  have tidy := mirrored.tidy
  unfold InspectorDOM.replaceWholeText
  split
  · split
    · exact mirrored
    · rename_i nonempty
      exact mirrored.setNodeValue (kept fun empty => absurd nonempty (by rw [empty]; decide))
  · rename_i parent attached
    obtain ⟨first,rest,split⟩ := List.append_of_mem ((tidy.childNodes parent node).mpr attached)
    have nodup := tidy.nodup parent
    rw [split,List.nodup_middle,List.nodup_cons] at nodup
    have absent : node ∉ first := fun mem => nodup.1 (List.mem_append_left _ mem)
    have texts : List.Sublist ((first.reverse.takeWhile (isTextNode w.dom)).reverse ++
        rest.takeWhile (isTextNode w.dom)) (first ++ rest) :=
      List.Sublist.append (by simpa only [List.reverse_reverse] using
        (show List.Sublist (first.reverse.takeWhile (isTextNode w.dom)) first.reverse from
          List.takeWhile_sublist _).reverse) (List.takeWhile_sublist _)
    simp only [split,siblingsBefore,takeWhile_ne_append_cons absent,siblingsAfter_append_cons absent]
    obtain ⟨removed,others,types,values,frames⟩ := removeEach _ mirrored (texts.nodup nodup.2) (fun t mem =>
      (tidy.childNodes parent t).mp (split ▸ List.mem_append.mpr ((List.mem_append.mp (texts.subset mem)).imp id
        (List.mem_cons_of_mem _)))) (site parent attached)
    have stays := (others node fun mem => nodup.1 (texts.subset mem)).trans attached
    split
    · exact removed.removeChild stays (by rw [frames]; exact site parent attached)
    · rename_i nonempty
      refine removed.setNodeValue ?_
      simpa only [Dom.visible,Dom.isWhitespace,Dom.setNodeValue,Function.update_same,types,values]
        using kept fun empty => absurd nonempty (by rw [empty]; decide)

theorem setTextNodeValue {w : World} (mirrored : Mirrored w) (prims : Primitives) (callId nodeId : Nat)
    (value : String) (admissible : (Input.setTextNodeValue callId nodeId value).Admissible w) :
    Mirrored (InspectorDOM.setTextNodeValue prims callId nodeId value w) := by
  unfold InspectorDOM.setTextNodeValue
  split
  · rename_i node found
    split
    · split
      · exact (mirrored.replaceWholeText (admissible node found).1 (admissible node found).2).respond rfl
      · exact mirrored.respond rfl
    · exact mirrored.respond rfl
  · exact mirrored.respond rfl

/-- `setDocument` starts over: after the reset nothing is bound, and a new main document with an
element is described afresh. -/
theorem setDocument {dom : Dom} {st : Agent} (mirrored : Mirrored ⟨dom,st⟩) (doc : Option Node)
    (isMain : ∀ document, doc = some document → dom.nodeType document = .document ∧ dom.ownerElement document = none) :
    Mirrored ⟨dom,InspectorDOM.setDocument dom doc st⟩ := by
  have consistent := reset_consistent mirrored.consistent
  have empty : ∀ node, (reset st).documentNodeToIdMap node = 0 := fun _ => by rw [reset_eq]; rfl
  unfold InspectorDOM.setDocument
  split
  · exact mirrored
  · split
    · rename_i document _
      have main : (startListening document (reset st)).mainFrameDocument = some document := by
        simp [reset_eq,startListening,Agent.mainFrameDocument]
      have none : ∀ node, (startListening document (reset st)).documentNodeToIdMap node = 0 := fun node => by
        rw [(startListening_same document (reset st)).live]; exact empty node
      have listening : Mirrored ⟨dom,startListening document (reset st)⟩ :=
        of_unbound ⟨consistent.of_same (startListening_same _ _),mirrored.tidy,
          fun _ found => by rw [main] at found; cases found; exact isMain _ rfl,
          fun _ bound => absurd (none _) bound,fun _ _ _ => by simp [reset_eq,startListening],
          fun _ bound => absurd (none _) bound⟩ none
      split
      · exact listening.pushDocumentToFrontend
      · exact listening
    · exact of_unbound ⟨consistent.of_same (send_same _ _),mirrored.tidy,
        fun _ found => by simp [reset_eq,Agent.mainFrameDocument,Agent.send] at found,
        fun _ bound => absurd (empty _) bound,fun _ _ found => (by rw [reset_eq] at found; exact nomatch found),
        fun _ bound => absurd (empty _) bound⟩ empty

/-- The search's field updates leave the bindings and what the frontend was told. -/
theorem searched (w : World) (results : List Node) (jobs : List MatchJob) (active : Bool) (mirrored : Mirrored w) :
    Mirrored { w with agent :=
      { w.agent with searchResults := results, pendingMatchJobs := jobs, matchJobsTimerActive := active } } :=
  mirrored.of_same ⟨rfl,rfl,rfl,rfl,rfl,rfl,rfl,rfl⟩ rfl rfl

/-- Every admissible input keeps the mirror, when the primitives make plain nodes. -/
theorem step {env : Env} (plain : env.prims.MakesPlainNodes) {w next : World} (mirrored : Mirrored w)
    {input : Input} (admissible : input.Admissible w) (stepped : InspectorDOM.step env w input = .ok next) :
    Mirrored next := by
  have chain := mirroredChain w.dom.isFramed
  cases searching : input.searches
  · by_cases text : ∃ callId nodeId value, input = .setTextNodeValue callId nodeId value
    · obtain ⟨callId,nodeId,value,rfl⟩ := text
      cases stepped
      exact mirrored.setTextNodeValue env.prims callId nodeId value admissible
    · obtain ⟨_,keeps,-⟩ := chain.request_keeps env
        (fun _ _ _ mem site tidy => ⟨tidy.not_document_of_mem mem,fun old linked => by
          rw [(tidy.childNodes _ _).mp mem] at linked; cases linked; exact site⟩)
        (fun _ _ _ made => have ⟨notDocument,unframed,above⟩ := plain.created _ _ _ _ made
          ⟨unframed,fun _ same origins _ => ⟨same ▸ notDocument,fun old linked =>
            (origins old linked).elim (above old) fun same => same ▸ unframed⟩⟩)
        (fun _ _ _ parsing child mem _ _ same site origins _ =>
          have ⟨notDocument,above⟩ := plain.parsed _ _ _ _ parsing child mem
          ⟨same ▸ notDocument,fun old linked => (origins old linked).elim (above old) fun same => same ▸ site⟩)
        input searching (fun callId nodeId value same => text ⟨callId,nodeId,value,same⟩) admissible.editsAt
        (fun _ _ _ same _ => by subst same; exact admissible.2) stepped
      exact (keeps rfl).2 mirrored
  · by_cases set : ∃ doc, input = .setDocument doc
    · obtain ⟨doc,rfl⟩ := set
      cases stepped
      exact mirrored.setDocument doc fun document same => by subst same; exact admissible
    · exact ((chain.search_keeps (fun w results jobs active framed => ⟨framed,searched w results jobs active⟩) env input
        searching (fun doc same => set ⟨doc,same⟩) stepped) rfl).2 mirrored

end Mirrored

/-- On a tidy tree, with primitives that make plain nodes, every world a run of admissible inputs
reaches is mirrored. -/
theorem AdmissiblyReachable.mirrored {env : Env} {dom : Dom} (tidy : Tidy dom) (plain : env.prims.MakesPlainNodes)
    {w : World} (reachable : AdmissiblyReachable env dom w) : Mirrored w := by
  induction reachable with
  | initial => exact .initial tidy
  | step _ _ admissible stepped mirrored => exact mirrored.step plain admissible stepped

end InspectorDOM
