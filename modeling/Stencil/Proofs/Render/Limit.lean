import Stencil.Proofs.Render.Depth

/-! The limit for includes. -/

namespace Stencil

variable {World : Type}

namespace Renderer

variable {renderer : Renderer} {host : Host World}

/-- The renderer with another limit for includes. -/
def withLimit (renderer : Renderer) (limit : Nat) : Renderer :=
  { renderer with config := { renderer.config with maxIncludeDepth := limit } }

/-- Only a refusal tells a limit from another one that is deep enough for the run. -/
theorem Runs.withLimit {limit other : Nat} {call : Call} {scene : Scene World} {log : List Event}
    {ending : Ending World}
    (runs : Runs (renderer.withLimit limit) host call scene log ending)
    (answered : ∀ event ∈ log, event.isRefusal = false)
    (shallow : ∀ event ∈ log, event.depth ≤ other) :
    Runs (renderer.withLimit other) host call scene log ending := by
  -- The limit is read by the rules for addressing only.
  induction runs with
  | noNodes => exact .noNodes
  | comment _ inductionHypothesis => exact .comment (inductionHypothesis answered shallow)
  | text read _ inductionHypothesis => exact .text read (inductionHypothesis answered shallow)
  | element _ _ firstHypothesis othersHypothesis =>
      rw [List.forall_mem_append] at answered shallow
      exact .element (firstHypothesis answered.1 shallow.1)
        (othersHypothesis answered.2 shallow.2)
  | elementFails _ inductionHypothesis =>
      exact .elementFails (inductionHypothesis answered shallow)
  | hidden tested => exact .hidden tested
  | repeated tested search read _ inductionHypothesis =>
      exact .repeated tested search read (inductionHypothesis answered shallow)
  | shown tested search _ inductionHypothesis =>
      exact .shown tested search (inductionHypothesis answered shallow)
  | noCopies => exact .noCopies
  | copy _ _ firstHypothesis othersHypothesis =>
      rw [List.forall_mem_append] at answered shallow
      exact .copy (firstHypothesis answered.1 shallow.1) (othersHypothesis answered.2 shallow.2)
  | copyFails _ inductionHypothesis => exact .copyFails (inductionHypothesis answered shallow)
  | filled attributes content unwrap => exact .filled attributes content unwrap
  | kept attributes content untargeted unwrap _ inductionHypothesis =>
      exact .kept attributes content untargeted unwrap (inductionHypothesis answered shallow)
  | including attributes content targeted read _ unwrap inductionHypothesis =>
      exact .including attributes content targeted read (inductionHypothesis answered shallow)
        unwrap
  | includingFails attributes content targeted read _ inductionHypothesis =>
      exact .includingFails attributes content targeted read (inductionHypothesis answered shallow)
  | refused tooDeep =>
      simp [Event.isRefusal] at answered
  | unaddressed _ address =>
      exact .unaddressed (shallow _ List.mem_cons_self) address
  | missing _ address answer =>
      exact .missing (shallow _ List.mem_cons_self) address answer
  | walked _ address answer _ inductionHypothesis =>
      rw [List.forall_mem_cons] at answered shallow
      exact .walked shallow.1 address answer (inductionHypothesis answered.2 shallow.2)
  | template _ inductionHypothesis => exact .template (inductionHypothesis answered shallow)

/-- What is not in the first part of a log is in the other one. -/
theorem exists_deeper_of_append {limit : Nat} {log more : List Event}
    (deeper : ∃ event ∈ log ++ more, limit < event.depth)
    (shallow : ¬ ∃ event ∈ log, limit < event.depth) : ∃ event ∈ more, limit < event.depth := by
  obtain ⟨event, member, further⟩ := deeper
  rcases List.mem_append.mp member with first | others
  · exact absurd ⟨event, first, further⟩ shallow
  · exact ⟨event, others, further⟩

/-- A log without an include beyond the limit is shallow. -/
theorem shallow_of_not_deeper {limit : Nat} {log : List Event}
    (shallow : ¬ ∃ event ∈ log, limit < event.depth) : ∀ event ∈ log, event.depth ≤ limit :=
  fun event member => Nat.le_of_not_lt fun further => shallow ⟨event, member, further⟩

/-- A call is refused under a limit. -/
def Refused (renderer : Renderer) (host : Host World) (limit : Nat) (call : Call)
    (scene : Scene World) : Prop :=
  ∃ log after, Runs (renderer.withLimit limit) host call scene log
    (.error (.includeDepthExceeded limit) after)

/-- A call is refused if all that is in front of a refused call in it succeeds. -/
theorem Refused.through {limit : Nat} {call inner : Call} {scene between : Scene World}
    (refused : Refused renderer host limit inner between)
    (reaches : ∀ {log : List Event} {after : Scene World},
      Runs (renderer.withLimit limit) host inner between log
        (.error (.includeDepthExceeded limit) after) →
      ∃ log last, Runs (renderer.withLimit limit) host call scene log
        (.error (.includeDepthExceeded limit) last)) :
    Refused renderer host limit call scene := by
  obtain ⟨log, after, runs⟩ := refused
  exact reaches runs

/-- Under a limit that a run gets beyond, the call is refused. -/
theorem Runs.refused_of_deeper {limit other : Nat} {call : Call} {scene : Scene World}
    {log : List Event} {ending : Ending World}
    (runs : Runs (renderer.withLimit limit) host call scene log ending)
    (answered : ∀ event ∈ log, event.isRefusal = false)
    (deeper : ∃ event ∈ log, other < event.depth) : Refused renderer host other call scene := by
  -- The run is followed up to the first include that is too deep.
  induction runs with
  | noNodes | hidden | noCopies | filled => simp at deeper
  | comment _ inductionHypothesis =>
      exact (inductionHypothesis answered deeper).through fun refused => ⟨_, _, .comment refused⟩
  | text read _ inductionHypothesis =>
      exact (inductionHypothesis answered deeper).through fun refused => ⟨_, _, .text read refused⟩
  | @element _ _ _ _ _ _ _ log _ _ first _ firstHypothesis othersHypothesis =>
      rw [List.forall_mem_append] at answered
      by_cases here : ∃ event ∈ log, other < event.depth
      · exact (firstHypothesis answered.1 here).through fun refused =>
          ⟨_, _, .elementFails refused⟩
      · have before := first.withLimit answered.1 (shallow_of_not_deeper here)
        exact (othersHypothesis answered.2 (exists_deeper_of_append deeper here)).through
          fun refused => ⟨_, _, .element before refused⟩
  | elementFails _ inductionHypothesis =>
      exact (inductionHypothesis answered deeper).through fun refused =>
        ⟨_, _, .elementFails refused⟩
  | repeated tested search read _ inductionHypothesis =>
      exact (inductionHypothesis answered deeper).through fun refused =>
        ⟨_, _, .repeated tested search read refused⟩
  | shown tested search _ inductionHypothesis =>
      exact (inductionHypothesis answered deeper).through fun refused =>
        ⟨_, _, .shown tested search refused⟩
  | @copy _ _ _ _ _ _ _ _ _ _ log _ _ first _ firstHypothesis othersHypothesis =>
      rw [List.forall_mem_append] at answered
      by_cases here : ∃ event ∈ log, other < event.depth
      · exact (firstHypothesis answered.1 here).through fun refused => ⟨_, _, .copyFails refused⟩
      · have before := first.withLimit answered.1 (shallow_of_not_deeper here)
        exact (othersHypothesis answered.2 (exists_deeper_of_append deeper here)).through
          fun refused => ⟨_, _, .copy before refused⟩
  | copyFails _ inductionHypothesis =>
      exact (inductionHypothesis answered deeper).through fun refused => ⟨_, _, .copyFails refused⟩
  | kept attributes content untargeted unwrap _ inductionHypothesis =>
      exact (inductionHypothesis answered deeper).through fun refused =>
        ⟨_, _, .kept attributes content untargeted unwrap refused⟩
  | including attributes content targeted read _ _ inductionHypothesis
  | includingFails attributes content targeted read _ inductionHypothesis =>
      exact (inductionHypothesis answered deeper).through fun refused =>
        ⟨_, _, .includingFails attributes content targeted read refused⟩
  | refused => simp [Event.isRefusal] at answered
  | unaddressed | missing =>
      obtain ⟨event, member, tooDeep⟩ := deeper
      obtain rfl := List.mem_singleton.mp member
      exact ⟨_, _, .refused tooDeep⟩
  | @walked depth _ _ _ _ _ _ _ address answer _ inductionHypothesis =>
      by_cases tooDeep : other < depth
      · exact ⟨_, _, .refused tooDeep⟩
      · obtain ⟨event, member, further⟩ := deeper
        obtain rfl | inside := List.mem_cons.mp member
        · exact absurd further tooDeep
        · have behind := (List.forall_mem_cons.mp answered).2
          exact (inductionHypothesis behind ⟨event, inside, further⟩).through fun refused =>
            ⟨_, _, .walked (Nat.le_of_not_lt tooDeep) address answer refused⟩
  | template _ inductionHypothesis =>
      exact (inductionHypothesis answered deeper).through fun refused => ⟨_, _, .template refused⟩

/-- A call that gives nodes does so exactly under limits with room for its includes. -/
theorem Runs.succeeds_iff {limit other depth : Nat} {call : Call} {scene after : Scene World}
    {log : List Event} {nodes : List Node}
    (runs : Runs (renderer.withLimit limit) host call scene log (.ok nodes after))
    (shallow : ∀ event ∈ log, event.depth ≤ depth) (deep : ∃ event ∈ log, event.depth = depth) :
    (∃ nodes after, call.action (renderer.withLimit other) host scene = .ok nodes after) ↔
      depth ≤ other := by
  have answered := runs.isRefusal_eq_false
  constructor
  · rintro ⟨written, last, succeeded⟩
    refine Nat.le_of_not_lt fun tooDeep => ?_
    obtain ⟨event, member, same⟩ := deep
    obtain ⟨short, failed, refused⟩ :=
      runs.refused_of_deeper answered ⟨event, member, same ▸ tooDeep⟩
    cases refused.eq_action.trans succeeded
  · intro room
    have lifted := runs.withLimit answered fun event member =>
      Nat.le_trans (shallow event member) room
    exact ⟨nodes, after, lifted.eq_action.symm⟩

/-- A call that does not fail at its limit does the same under every higher one. -/
theorem action_withLimit {limit higher : Nat} (raised : limit ≤ higher) (call : Call)
    (scene : Scene World)
    (fits : ∀ after, call.action (renderer.withLimit limit) host scene ≠
      .error (.includeDepthExceeded limit) after) :
    call.action (renderer.withLimit higher) host scene =
      call.action (renderer.withLimit limit) host scene := by
  obtain ⟨log, ending, runs⟩ := ends (renderer.withLimit limit) host call scene
  have answered : ∀ event ∈ log, event.isRefusal = false := by
    intro event eventMem
    rw [Bool.eq_false_iff]
    intro refusal
    obtain ⟨after, failed⟩ := runs.fails_of_isRefusal ⟨event, eventMem, refusal⟩
    exact fits after (runs.eq_action.symm.trans failed)
  have shallow : ∀ event ∈ log, event.depth ≤ higher := fun event eventMem =>
    Nat.le_trans ((runs.isRefusal_eq_false_iff event eventMem).mp (answered event eventMem)) raised
  exact (runs.withLimit answered shallow).eq_action.symm.trans runs.eq_action

end Renderer

end Stencil
