import Mathlib.Data.List.ModifyLast
import Stencil.Proofs.Markup.Normal

/-! What a construction keeps: everything that was issued, in its order and at its place. -/

namespace Stencil

/-- A node in a listing, with the positions of its ancestors, the innermost first. -/
structure Placed where
  ancestors : List Nat
  content : Listed
deriving Repr, DecidableEq

namespace Placed

/-- An entry with the number of its ancestors. -/
def atDepth (entry : Placed) : Nat × Listed := (entry.ancestors.length, entry.content)

/-- A text is made longer. -/
def joinText (content : String) : Placed → Placed
  | ⟨ancestors, .text before⟩ => ⟨ancestors, .text (before ++ content)⟩
  | entry => entry

end Placed

namespace Node

mutual
/-- A node and its descendants, listed from a position on, each before its own descendants. -/
def placed (ancestors : List Nat) (position : Nat) : Node → List Placed
  | .element tag children =>
      ⟨ancestors, .element tag⟩ :: placedAll (position :: ancestors) (position + 1) children
  | .text content => [⟨ancestors, .text content⟩]
  | .comment content => [⟨ancestors, .comment content⟩]

def placedAll (ancestors : List Nat) (position : Nat) : List Node → List Placed
  | [] => []
  | node :: rest =>
      node.placed ancestors position ++
        placedAll ancestors (position + (node.placed ancestors position).length) rest
end

/-- The second part of a listing is counted on from the first. -/
theorem placedAll_append (ancestors : List Nat) (position : Nat) (first second : List Node) :
    placedAll ancestors position (first ++ second) =
      placedAll ancestors position first ++
        placedAll ancestors (position + (placedAll ancestors position first).length) second := by
  induction first generalizing position with
  | nil => rfl
  | cons node rest inductionHypothesis =>
      simp only [List.cons_append, placedAll, inductionHypothesis, List.length_append,
        List.append_assoc, Nat.add_assoc]

/-- A last sibling comes last in the listing. -/
theorem placedAll_concat (ancestors : List Nat) (position : Nat) (nodes : List Node) (node : Node) :
    placedAll ancestors position (nodes ++ [node]) =
      placedAll ancestors position nodes ++
        node.placed ancestors (position + (placedAll ancestors position nodes).length) := by
  rw [placedAll_append, placedAll, placedAll, List.append_nil]

mutual
/-- The number of the ancestors is the depth. -/
theorem map_atDepth_placed (ancestors : List Nat) (position : Nat) :
    (node : Node) → (node.placed ancestors position).map Placed.atDepth =
      node.listing ancestors.length
  | .element tag children => by
      rw [placed, List.map_cons, map_atDepth_placedAll, listing]
      rfl
  | .text _ => rfl
  | .comment _ => rfl

/-- The depths of a listing are those of the nodes. -/
theorem map_atDepth_placedAll (ancestors : List Nat) (position : Nat) :
    (nodes : List Node) → (placedAll ancestors position nodes).map Placed.atDepth =
      listings ancestors.length nodes
  | [] => rfl
  | node :: rest => by
      rw [placedAll, List.map_append, map_atDepth_placed, map_atDepth_placedAll, listings]
end

end Node

namespace Markup

/-- What steps have issued, which elements are open, and whether a text is newest. -/
structure IssueLog where
  entries : List Placed := []
  opened : List (Nat × String) := []
  inText : Bool := false
deriving Repr, DecidableEq

namespace IssueLog

/-- The positions of the open elements. -/
def positions (log : IssueLog) : List Nat := log.opened.map (·.1)

/-- What each step issues, opens and ends. -/
def step (log : IssueLog) : Forest.Step → IssueLog
  | .openElement tag =>
      { entries := log.entries ++ [⟨log.positions, .element tag⟩]
        opened := (log.entries.length, tag.name) :: log.opened
        inText := false }
  | .append node =>
      { log with
        entries := log.entries ++ node.placed log.positions log.entries.length
        inText := node.text?.isSome }
  | .text content =>
      if content = "" then log
      else if log.inText then { log with entries := log.entries.modifyLast (.joinText content) }
      else
        { log with
          entries := log.entries ++ [⟨log.positions, .text content⟩]
          inText := true }
  | .close name =>
      match log.opened.findIdx? (·.2 = name) with
      | some inner => { log with opened := log.opened.drop (inner + 1), inText := false }
      | none => log

/-- The log of some steps. -/
def ofSteps (steps : List Forest.Step) : IssueLog := steps.foldl step {}

end IssueLog

namespace Forest

/-- The nodes before which the next one is put. -/
def siblings (forest : Forest) : List Node :=
  match forest.frames with
  | [] => forest.roots
  | frame :: _ => frame.children

/-- An edit changes the siblings and nothing else. -/
@[simp] theorem siblings_edit (change : List Node → List Node) (forest : Forest) :
    (forest.edit change).siblings = change forest.siblings := by
  obtain ⟨frames, roots⟩ := forest
  cases frames <;> rfl

/-- The entries of a forest, and its open elements from the outermost on. -/
inductive Issued (roots : List Node) : List Frame → List Placed → List (Nat × String) → Prop
  | roots : Issued roots [] (Node.placedAll [] 0 roots.reverse) []
  | frame {frame : Frame} {outer : List Frame} {before : List Placed}
      {opened : List (Nat × String)} (outside : Issued roots outer before opened) :
      Issued roots (frame :: outer)
        (before ++ ⟨opened.map (·.1), .element frame.tag⟩ ::
          Node.placedAll (before.length :: opened.map (·.1)) (before.length + 1)
            frame.children.reverse)
        ((before.length, frame.tag.name) :: opened)

section

variable {forest : Forest} {entries : List Placed} {opened : List (Nat × String)}

/-- The open elements of the log are the frames of the forest. -/
theorem Issued.names {roots : List Node} {frames : List Frame}
    (issued : Issued roots frames entries opened) :
    opened.map (·.2) = frames.map (·.tag.name) := by
  induction issued with
  | roots => rfl
  | frame outside inductionHypothesis =>
      rw [List.map_cons, List.map_cons, inductionHypothesis]

/-- Once nothing is open, the entries list the nodes. -/
theorem Issued.eq_placedAll {roots : List Node} (issued : Issued roots [] entries opened) :
    entries = Node.placedAll [] 0 roots.reverse := by
  cases issued with
  | roots => rfl

/-- The newest siblings are listed last, and an edit of them changes nothing before them. -/
theorem Issued.edit (issued : Issued forest.roots forest.frames entries opened) :
    ∃ front, entries = front ++
        Node.placedAll (opened.map (·.1)) front.length forest.siblings.reverse ∧
      ∀ change, Issued (forest.edit change).roots (forest.edit change).frames
        (front ++ Node.placedAll (opened.map (·.1)) front.length
          (change forest.siblings).reverse) opened := by
  obtain ⟨frames, roots⟩ := forest
  cases issued with
  | roots => exact ⟨[], rfl, fun change => .roots⟩
  | @frame frame outer before opened outside =>
      refine ⟨before ++ [⟨opened.map (·.1), .element frame.tag⟩], ?_, fun change => ?_⟩
      · simp [siblings]
      · have edited := @Issued.frame roots ⟨frame.tag, change frame.children⟩ outer before opened
          outside
        simpa [siblings, Forest.edit] using edited

/-- A node is issued under the open elements. -/
theorem Issued.append (issued : Issued forest.roots forest.frames entries opened) (node : Node) :
    Issued (forest.append node).roots (forest.append node).frames
      (entries ++ node.placed (opened.map (·.1)) entries.length) opened := by
  obtain ⟨front, rfl, edited⟩ := issued.edit
  have added := edited (node :: ·)
  rw [List.reverse_cons, Node.placedAll_concat, ← List.append_assoc, ← List.length_append] at added
  exact added

/-- An element is issued under the open elements, and is open. -/
theorem Issued.openElement (issued : Issued forest.roots forest.frames entries opened) (tag : Tag) :
    Issued (forest.openElement tag).roots (forest.openElement tag).frames
      (entries ++ [⟨opened.map (·.1), .element tag⟩]) ((entries.length, tag.name) :: opened) :=
  @Issued.frame forest.roots ⟨tag, []⟩ forest.frames entries opened issued

/-- A text behind a text makes the last entry longer. -/
theorem Issued.joinText (issued : Issued forest.roots forest.frames entries opened)
    {content before : String} {others : List Node} (filled : content ≠ "")
    (newest : forest.siblings = .text before :: others) :
    Issued (forest.addText content).roots (forest.addText content).frames
      (entries.modifyLast (.joinText content)) opened := by
  obtain ⟨front, rfl, edited⟩ := issued.edit
  have longer := edited (Forest.joinText content)
  rw [newest, Forest.joinText, if_neg filled, List.reverse_cons, Node.placedAll_concat,
    ← List.append_assoc] at longer
  rw [newest, List.reverse_cons, Node.placedAll_concat, ← List.append_assoc]
  show Issued _ _ (List.modifyLast _ (_ ++ [_])) _
  rw [List.modifyLast_concat]
  exact longer

/-- A closed element keeps its place in the listing. -/
theorem Issued.closeInnermost (issued : Issued forest.roots forest.frames entries opened) :
    Issued forest.closeInnermost.roots forest.closeInnermost.frames entries (opened.drop 1) := by
  obtain ⟨frames, roots⟩ := forest
  cases issued with
  | roots => exact .roots
  | @frame frame outer before opened outside =>
      have closed := @Issued.append ⟨outer, roots⟩ before _ outside frame.node
      rwa [Frame.node, Node.placed] at closed

/-- To close elements issues nothing. -/
theorem Issued.closeInner (issued : Issued forest.roots forest.frames entries opened)
    (count : Nat) :
    Issued (closeInner count forest).roots (closeInner count forest).frames entries
      (opened.drop count) := by
  induction count generalizing forest opened with
  | zero => exact issued
  | succ count inductionHypothesis =>
      have closed := inductionHypothesis issued.closeInnermost
      rwa [List.drop_drop, Nat.add_comm 1 count] at closed

end

/-! How many elements are open, and what is closed. -/

section

variable (forest : Forest)

/-- An edit closes nothing and opens nothing. -/
theorem length_frames_edit (change : List Node → List Node) :
    (forest.edit change).frames.length = forest.frames.length := by
  obtain ⟨frames, roots⟩ := forest
  cases frames <;> rfl

theorem length_frames_closeInnermost :
    forest.closeInnermost.frames.length = forest.frames.length - 1 := by
  obtain ⟨frames, roots⟩ := forest
  cases frames with
  | nil => rfl
  | cons frame outer => exact length_frames_edit ⟨outer, roots⟩ _

/-- What is closed early is closed at the end, too. -/
theorem finish_closeInnermost : forest.closeInnermost.finish = forest.finish := by
  rw [finish, finish, length_frames_closeInnermost]
  obtain ⟨frames, roots⟩ := forest
  cases frames <;> rfl

/-- The order of closing makes no difference to the end. -/
theorem finish_closeInner (count : Nat) : (closeInner count forest).finish = forest.finish := by
  induction count generalizing forest with
  | zero => rfl
  | succ count inductionHypothesis =>
      rw [closeInner, inductionHypothesis, finish_closeInnermost]

/-- What is closed now is not closed at the end. -/
theorem finish_close (name : String) : (forest.close name).finish = forest.finish := by
  rw [close]
  split
  · exact finish_closeInner forest _
  · rfl

/-- That many elements are closed. -/
theorem length_frames_closeInner (count : Nat) :
    (closeInner count forest).frames.length = forest.frames.length - count := by
  induction count generalizing forest with
  | zero => rfl
  | succ count inductionHypothesis =>
      rw [closeInner, inductionHypothesis, length_frames_closeInnermost]
      omega

/-- All elements can be closed. -/
theorem frames_closeInner_length : (closeInner forest.frames.length forest).frames = [] := by
  rw [← List.length_eq_zero_iff, length_frames_closeInner, Nat.sub_self]

/-- The last of some elements is closed behind the others. -/
theorem closeInner_succ (count : Nat) :
    closeInner (count + 1) forest = (closeInner count forest).closeInnermost := by
  induction count generalizing forest with
  | zero => rfl
  | succ count inductionHypothesis => exact inductionHypothesis forest.closeInnermost

end

/-- Elements inside an open element are closed into it, and those around it stay as they are. -/
theorem exists_closeInner_eq (inner : List Frame) (frame : Frame) (outer : List Frame)
    (roots : List Node) :
    ∃ children, closeInner inner.length ⟨inner ++ frame :: outer, roots⟩ =
      ⟨⟨frame.tag, children⟩ :: outer, roots⟩ := by
  -- Closing an element makes it a child of the next one, so that the frames change on the way.
  induction length : inner.length generalizing inner frame with
  | zero =>
      obtain rfl := List.length_eq_zero_iff.mp length
      exact ⟨frame.children, rfl⟩
  | succ count inductionHypothesis =>
      cases inner with
      | nil => cases length
      | cons innermost rest =>
          have shorter : rest.length = count := Nat.succ.inj length
          cases rest with
          | nil =>
              obtain ⟨children, closed⟩ := inductionHypothesis []
                ⟨frame.tag, innermost.node :: frame.children⟩ shorter
              exact ⟨children, closed⟩
          | cons next others =>
              obtain ⟨children, closed⟩ := inductionHypothesis
                (⟨next.tag, innermost.node :: next.children⟩ :: others) frame shorter
              exact ⟨children, closed⟩

/-- A name that is not open changes nothing. -/
theorem close_of_forall_ne {forest : Forest} {name : String}
    (unopened : ∀ frame ∈ forest.frames, frame.tag.name ≠ name) : forest.close name = forest := by
  have nowhere : forest.frames.findIdx? (·.tag.name = name) = none := by
    rw [List.findIdx?_eq_none_iff]
    intro frame member
    exact decide_eq_false (unopened frame member)
  rw [close, nowhere]

/-- The innermost open element of a name becomes a child of the one around it. -/
theorem exists_close_eq {inner : List Frame} {frame : Frame} {outer : List Frame}
    (innermost : ∀ other ∈ inner, other.tag.name ≠ frame.tag.name) (roots : List Node) :
    ∃ children, close ⟨inner ++ frame :: outer, roots⟩ frame.tag.name =
      append ⟨outer, roots⟩ (.element frame.tag children) := by
  have found : (inner ++ frame :: outer).findIdx? (·.tag.name = frame.tag.name) =
      some inner.length := by
    rw [List.findIdx?_eq_some_iff_getElem]
    refine ⟨by simp, by simp, fun position before => ?_⟩
    rw [List.getElem_append_left before]
    simpa using innermost _ (List.getElem_mem before)
  obtain ⟨children, closed⟩ := exists_closeInner_eq inner frame outer roots
  refine ⟨children.reverse, ?_⟩
  rw [close, found]
  show closeInner (inner.length + 1) _ = _
  rw [closeInner_succ, closed]
  rfl

/-! The log of the steps and the forest that they build. -/

/-- A log says what was issued, what is open, and whether a text is newest. -/
structure Agrees (log : IssueLog) (forest : Forest) : Prop where
  issued : Issued forest.roots forest.frames log.entries log.opened
  inText : log.inText = forest.siblings.head?.any fun node => node.text?.isSome

section

variable {log : IssueLog} {forest : Forest}

/-- The log of a node goes with the forest behind it. -/
theorem Agrees.append (agrees : Agrees log forest) (node : Node) :
    Agrees (log.step (.append node)) (forest.append node) where
  issued := agrees.issued.append node
  inText := by simp [Forest.append, IssueLog.step]

/-- A text before which no text stands is a node of its own. -/
theorem joinText_of_textless {content : String} {nodes : List Node} (filled : content ≠ "")
    (textless : (nodes.head?.any fun node => node.text?.isSome) = false) :
    joinText content nodes = .text content :: nodes := by
  unfold joinText
  rw [if_neg filled]
  split
  · cases textless
  · rfl

/-- A text that stands behind no text is a node of its own. -/
theorem addText_eq_append {content : String} (filled : content ≠ "")
    (textless : (forest.siblings.head?.any fun node => node.text?.isSome) = false) :
    forest.addText content = forest.append (.text content) := by
  have joined := joinText_of_textless filled textless
  obtain ⟨frames, roots⟩ := forest
  cases frames with
  | nil => exact congrArg (Forest.mk []) joined
  | cons frame outer =>
      exact congrArg (fun children => Forest.mk (⟨frame.tag, children⟩ :: outer) roots) joined

/-- The log of a text goes with the forest behind it. -/
theorem Agrees.addText (agrees : Agrees log forest) (content : String) :
    Agrees (log.step (.text content)) (forest.addText content) := by
  by_cases empty : content = ""
  · subst empty
    rw [addText_empty]
    exact agrees
  cases newest : log.inText with
  | false =>
      have added := agrees.append (.text content)
      have noText := agrees.inText.symm.trans newest
      rw [addText_eq_append empty noText, IssueLog.step, if_neg empty, newest]
      exact added
  | true =>
      have textFirst := agrees.inText.symm.trans newest
      obtain ⟨before, others, siblings⟩ :
          ∃ before others, forest.siblings = .text before :: others := by
        cases siblings : forest.siblings with
        | nil => simp [siblings] at textFirst
        | cons node others =>
            cases node with
            | text before => exact ⟨before, others, rfl⟩
            | element tag children => simp [siblings, Node.text?] at textFirst
            | comment before => simp [siblings, Node.text?] at textFirst
      rw [IssueLog.step, if_neg empty, newest, if_pos rfl]
      refine ⟨agrees.issued.joinText empty siblings, ?_⟩
      rw [Forest.addText, siblings_edit, siblings, joinText, if_neg empty]
      rfl

/-- The log of a start tag goes with the forest behind it. -/
theorem Agrees.openElement (agrees : Agrees log forest) (tag : Tag) :
    Agrees (log.step (.openElement tag)) (forest.openElement tag) where
  issued := agrees.issued.openElement tag
  inText := rfl

/-- The element that was closed last is newest. -/
theorem newest_closeInnermost (unfinished : forest.frames ≠ []) :
    (forest.closeInnermost.siblings.head?.any fun node => node.text?.isSome) = false := by
  obtain ⟨frames, roots⟩ := forest
  cases frames with
  | nil => exact absurd rfl unfinished
  | cons frame outer => simp [closeInnermost, Forest.append, Frame.node, Node.text?]

/-- The log of an end tag goes with the forest behind it. -/
theorem Agrees.close (agrees : Agrees log forest) (name : String) :
    Agrees (log.step (.close name)) (forest.close name) := by
  have same : log.opened.findIdx? (·.2 = name) = forest.frames.findIdx? (·.tag.name = name) := by
    have mapped := congrArg (List.findIdx? (· = name)) agrees.issued.names
    rwa [List.findIdx?_map, List.findIdx?_map] at mapped
  rw [IssueLog.step, Forest.close, same]
  cases found : forest.frames.findIdx? (·.tag.name = name) with
  | none => exact agrees
  | some inner =>
      obtain ⟨within, -⟩ := List.findIdx?_eq_some_iff_getElem.mp found
      refine ⟨agrees.issued.closeInner (inner + 1), ?_⟩
      have unfinished : (closeInner inner forest).frames ≠ [] := by
        apply List.ne_nil_of_length_pos
        rw [length_frames_closeInner]
        omega
      have newest := newest_closeInnermost unfinished
      rw [← closeInner_succ] at newest
      exact newest.symm

/-- The log of each step goes with the forest behind it. -/
theorem Agrees.step (agrees : Agrees log forest) (step : Step) :
    Agrees (log.step step) (forest.step step) := by
  cases step with
  | openElement tag => exact agrees.openElement tag
  | append node => exact agrees.append node
  | text content => exact agrees.addText content
  | close name => exact agrees.close name

/-- The log of all steps goes with the forest behind them. -/
theorem Agrees.foldl (agrees : Agrees log forest) (steps : List Step) :
    Agrees (steps.foldl IssueLog.step log) (steps.foldl Forest.step forest) := by
  induction steps generalizing log forest with
  | nil => exact agrees
  | cons step rest inductionHypothesis => exact inductionHypothesis (agrees.step step)

/-- The last step comes last. -/
theorem run_concat (steps : List Step) (step : Step) :
    run (steps ++ [step]) = (run steps).step step := by
  rw [run, List.foldl_append]
  rfl

/-- The log of some steps is that of the forest that they build. -/
theorem agrees_run (steps : List Step) : Agrees (.ofSteps steps) (run steps) :=
  Agrees.foldl ⟨.roots, rfl⟩ steps

/-- A finished forest lists what was issued. -/
theorem Agrees.placedAll_finish (agrees : Agrees log forest) :
    Node.placedAll [] 0 forest.finish = log.entries := by
  have closed := agrees.issued.closeInner forest.frames.length
  rw [frames_closeInner_length] at closed
  exact closed.eq_placedAll.symm

end

/-- A construction lists what its steps issued, in order and under what was open. -/
theorem build_exact (steps : List Step) :
    Node.placedAll [] 0 (build steps) = (IssueLog.ofSteps steps).entries ∧
    Node.listings 0 (build steps) = (IssueLog.ofSteps steps).entries.map Placed.atDepth ∧
    (IssueLog.ofSteps steps).opened.map (·.2) = (run steps).frames.map (·.tag.name) ∧
    (∀ name, (∀ frame ∈ (run steps).frames, frame.tag.name ≠ name) →
      ∀ later, run (steps ++ .close name :: later) = run (steps ++ later)) ∧
    (∀ inner frame outer, (run steps).frames = inner ++ frame :: outer →
      (∀ other ∈ inner, other.tag.name ≠ frame.tag.name) →
      ∃ children, run (steps ++ [.close frame.tag.name]) =
        append ⟨outer, (run steps).roots⟩ (.element frame.tag children)) ∧
    ∀ name, build (steps ++ [.close name]) = build steps := by
  -- The log of the steps carries all clauses about what was issued.
  have agrees := agrees_run steps
  have listed := agrees.placedAll_finish
  refine ⟨listed, ?_, agrees.issued.names, fun name unopened later => ?_,
    fun inner frame outer opened innermost => ?_, fun name => ?_⟩
  · rw [← listed, Node.map_atDepth_placedAll]
    rfl
  · have ignored := close_of_forall_ne unopened
    have behind := run_concat steps (.close name)
    rw [List.append_cons, run, List.foldl_append, ← run, behind, step, ignored, run, run,
      List.foldl_append]
  · obtain ⟨children, closed⟩ := @exists_close_eq inner frame outer innermost (run steps).roots
    refine ⟨children, ?_⟩
    rw [← opened] at closed
    rw [← closed, run_concat]
    rfl
  · rw [build, run_concat]
    exact finish_close (run steps) name

/-- Texts that become one, a close that is ignored, and elements that are never closed. -/
def sampleSteps : List Step :=
  [.openElement ⟨"div", ∅⟩, .text "a", .close "b", .text "", .text "b",
    .openElement ⟨"p", ∅⟩, .openElement ⟨"i", ∅⟩, .text "c"]

/-- The listing of the sample, and what closing its inner element does. -/
theorem build_exact_sampleSteps :
    Node.placedAll [] 0 (build sampleSteps) =
        [⟨[], .element ⟨"div", ∅⟩⟩, ⟨[0], .text "ab"⟩, ⟨[0], .element ⟨"p", ∅⟩⟩,
          ⟨[2, 0], .element ⟨"i", ∅⟩⟩, ⟨[3, 2, 0], .text "c"⟩] ∧
      (∀ frame ∈ (run sampleSteps).frames, frame.tag.name ≠ "b") ∧
      run (sampleSteps ++ [.close "b", .text "d"]) = run (sampleSteps ++ [.text "d"]) ∧
      (run sampleSteps).frames =
        [⟨⟨"i", ∅⟩, [.text "c"]⟩, ⟨⟨"p", ∅⟩, []⟩, ⟨⟨"div", ∅⟩, [.text "ab"]⟩] ∧
      ∃ children, run (sampleSteps ++ [.close "p"]) =
        append ⟨[⟨⟨"div", ∅⟩, [.text "ab"]⟩], []⟩ (.element ⟨"p", ∅⟩ children) := by
  obtain ⟨listed, -, -, ignored, closed, -⟩ := build_exact sampleSteps
  have unopened : ∀ frame ∈ (run sampleSteps).frames, frame.tag.name ≠ "b" := by decide +kernel
  have opened : (run sampleSteps).frames =
      [⟨⟨"i", ∅⟩, [.text "c"]⟩, ⟨⟨"p", ∅⟩, []⟩, ⟨⟨"div", ∅⟩, [.text "ab"]⟩] := by
    decide +kernel
  have innermost : ∀ other ∈ [(⟨⟨"i", ∅⟩, [.text "c"]⟩ : Frame)],
      other.tag.name ≠ "p" := by
    decide +kernel
  have rootless : (run sampleSteps).roots = [] := by decide +kernel
  obtain ⟨children, ended⟩ := closed [_] _ _ opened innermost
  rw [rootless] at ended
  exact ⟨listed.trans (by decide +kernel), unopened, ignored "b" unopened [.text "d"], opened,
    children, ended⟩

end Forest

end Markup

end Stencil
