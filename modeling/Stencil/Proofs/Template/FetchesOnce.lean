import Stencil.Proofs.Template.Turns

/-! Lookups beside each other fetch a file once. -/

namespace Stencil

/-- The file could not be fetched or read. -/
def TemplateError.IsOfFile : TemplateError → Prop
  | .fetch .. | .markup .. => True
  | _ => False

namespace Cache

/-- A cache does not answer with an error of a file. -/
theorem not_isOfFile_of_answer {cache : Cache} {key : TemplateKey} {cause : TemplateError}
    (answered : cache.answer key = .error cause) : ¬ cause.IsOfFile := by
  rw [answer] at answered
  split at answered
  · cases answered
  · cases answered
    exact not_false

/-- A lookup without a fetch does not fail for its file. -/
theorem not_isOfFile_of_enter {cache : Cache} {key : TemplateKey} {cause : TemplateError}
    (answered : cache.enter key = some (.error cause)) : ¬ cause.IsOfFile := by
  rw [enter] at answered
  split at answered
  · cases answered
  · split at answered
    · exact not_isOfFile_of_answer (Option.some.inj answered)
    · cases answered

/-- A lookup that ends in an error of its file leaves the cache as it was. -/
theorem receive_of_isOfFile {cache : Cache} {key : TemplateKey} {cause : TemplateError}
    {fetched : Except SourceError String}
    (failed : (cache.receive key fetched).1 = .error cause) (ofFile : cause.IsOfFile) :
    (cache.receive key fetched).2 = cache := by
  rcases receive_cases cache key fetched with
    ⟨_, -, received⟩ | ⟨_, _, -, -, received⟩ | ⟨_, templates, -, -, received⟩
  · rw [received]
  · rw [received]
  · rw [received] at failed
    exact absurd ofFile (not_isOfFile_of_answer failed)

/-- What is newly cached is from the file of the key, which is registered. -/
theorem find?_receive {cache : Cache} {key : TemplateKey} {fetched : Except SourceError String}
    {id : String} {template : Template}
    (found : (cache.receive key fetched).2.find? id = some template) :
    cache.find? id = some template ∨
      (cache.receive key fetched).2.isFetched template.path = true := by
  rcases receive_cases cache key fetched with
    ⟨_, -, received⟩ | ⟨_, _, -, -, received⟩ | ⟨markup, templates, -, parsed, received⟩
  · rw [received] at found
    exact .inl found
  · rw [received] at found
    exact .inl found
  · rw [received] at found ⊢
    rw [find?_register, Option.or_eq_some_iff] at found
    rcases found with before | ⟨-, here⟩
    · exact .inl before
    · have inFile : Template.InFile key.path markup template :=
        ⟨templates, parsed, List.mem_of_find?_eq_some here⟩
      rw [inFile.path_eq, isFetched_register]
      exact .inr (by simp)

end Cache

namespace Lookups

open Relation

/-- Files stay registered. -/
theorem Later.isFetched {before after : Lookups} (later : Later before after) {path : String}
    (known : before.cache.isFetched path = true) : after.cache.isFetched path = true := by
  refine later.keeps (fun state => state.cache.isFetched path = true) known ?_
  intro before turn after known taken
  cases taken with
  | hit | wait | leave | fetch => exact known
  | finish => exact (Cache.isFetched_receive _ _ _ _).1 known

/-- The answer of a lookup stays. -/
theorem Later.answered {before after : Lookups} (later : Later before after) {index : Nat}
    {key : TemplateKey} {answer : Except TemplateError Template}
    (ended : before.calls[index]? = some ⟨key, .done answer⟩) :
    after.calls[index]? = some ⟨key, .done answer⟩ := by
  refine later.keeps (fun state => state.calls[index]? = some ⟨key, .done answer⟩) ended ?_
  intro before turn after ended taken
  cases taken with
  | hit | wait =>
      obtain ⟨place, -⟩ := List.getElem?_eq_some_iff.mp ended
      exact (List.getElem?_append_left place).trans ended
  | leave waits | fetch waits => exact getElem?_set_of_stage waits ended (by simp) _
  | finish holds => exact getElem?_set_of_stage holds ended (by simp) _

/-- A template that is cached was in the cache from the start, or its file is registered. -/
theorem Reached.registered {start : Cache} {state : Lookups} (reached : Reached start state)
    {id : String} {template : Template} (found : state.cache.find? id = some template) :
    start.find? id = some template ∨ state.cache.isFetched template.path = true := by
  refine reached.keeps (fun state => ∀ {template}, state.cache.find? id = some template →
    start.find? id = some template ∨ state.cache.isFetched template.path = true) .inl ?_ found
  intro before turn after registered taken template found
  cases taken with
  | hit | wait | leave | fetch => exact registered found
  | finish =>
      rcases Cache.find?_receive found with before | here
      · exact (registered before).imp_right (Cache.isFetched_receive _ _ _ _).1
      · exact .inr here

/-! Fetches. -/

/-- A lookup asks the source for a file. -/
def InFlight (state : Lookups) (path : String) (index : Nat) : Prop :=
  ∃ name lock, state.Holds index ⟨path, name⟩ lock

/-- A turn asks the source for a file. -/
def Starts (path : String) (before after : Lookups) : Prop :=
  ∃ index, ¬ before.InFlight path index ∧ after.InFlight path index

/-- A turn that does not ask the source for a file. -/
def Beside (path : String) (before after : Lookups) : Prop :=
  Next before after ∧ ¬ Starts path before after

/-- The lookup whose turn it is. -/
def indexOf (state : Lookups) : Turn → Nat
  | .call _ => state.calls.length
  | .acquire index | .receive index _ => index

/-- A turn ends its lookup in a file with an error of the file. -/
def Fails (path : String) (before after : Lookups) : Prop :=
  ∃ turn name cause, before.step? turn = some after ∧
    after.calls[before.indexOf turn]? =
      some ⟨⟨path, name⟩, .done (.error cause)⟩ ∧ TemplateError.IsOfFile cause

/-- One lookup at a time asks for a file. -/
theorem Orderly.eq_of_inFlight {state : Lookups} (orderly : Orderly state) {path : String}
    {first second : Nat} (firstAsks : state.InFlight path first)
    (secondAsks : state.InFlight path second) : first = second := by
  obtain ⟨firstName, firstLock, firstHolds⟩ := firstAsks
  obtain ⟨secondName, secondLock, secondHolds⟩ := secondAsks
  have known := orderly.locked firstHolds.uses
  rw [orderly.locked secondHolds.uses] at known
  cases known
  exact orderly.single firstHolds secondHolds

/-- A registered file is not asked for. -/
theorem Orderly.not_inFlight {state : Lookups} (orderly : Orderly state) {path : String}
    (known : state.cache.isFetched path = true) (index : Nat) : ¬ state.InFlight path index := by
  rintro ⟨name, lock, holds⟩
  rw [orderly.unfetched holds] at known
  cases known

/-- Only an answer of the source ends a lookup with an error of its file. -/
theorem receives_of_error {before after : Lookups} {turn : Turn} (taken : before.Takes turn after)
    {key : TemplateKey} {cause : TemplateError}
    (ended : after.calls[before.indexOf turn]? = some ⟨key, .done (.error cause)⟩)
    (ofFile : cause.IsOfFile) :
    ∃ index fetched lock, turn = .receive index fetched ∧ before.Holds index key lock ∧
      (before.cache.receive key fetched).1 = .error cause := by
  -- What is answered from the cache is no error of the file.
  cases taken with
  | hit | wait =>
      rw [indexOf, List.getElem?_concat_length] at ended
      cases ended
  | leave waits free known =>
      rcases getElem?_set ended with ⟨different, -⟩ | ⟨-, same⟩
      · exact absurd rfl different
      · cases same
        exact absurd ofFile (Cache.not_isOfFile_of_enter known)
  | fetch =>
      rcases getElem?_set ended with ⟨different, -⟩ | ⟨-, same⟩
      · exact absurd rfl different
      · cases same
  | finish holds =>
      rcases getElem?_set ended with ⟨different, -⟩ | ⟨-, same⟩
      · exact absurd rfl different
      · injection same with sameKey sameStage
        subst sameKey
        exact ⟨_, _, _, rfl, holds, (LookupStage.done.inj sameStage).symm⟩

/-- The turns of a lookup that fails for its file leave the cache as it was. -/
theorem cache_eq_of_stays {before after later : Lookups} {turn : Turn}
    (taken : before.Takes turn after)
    (stays : ∀ {index : Nat} {key : TemplateKey} {answer : Except TemplateError Template},
      after.calls[index]? = some ⟨key, .done answer⟩ →
        later.calls[index]? = some ⟨key, .done answer⟩)
    {key : TemplateKey} {cause : TemplateError}
    (ended : later.calls[before.indexOf turn]? = some ⟨key, .done (.error cause)⟩)
    (ofFile : cause.IsOfFile) : after.cache = before.cache := by
  cases taken with
  | hit | wait | leave | fetch => rfl
  | @finish index fetched asked lock holds =>
      obtain ⟨inside, -⟩ := List.getElem?_eq_some_iff.mp holds
      have answered := stays (List.getElem?_set_self inside)
      rw [indexOf, answered] at ended
      have failed : (before.cache.receive asked fetched).1 = .error cause := by
        injection ended with same
        injection same with _ sameStage
        exact LookupStage.done.inj sameStage
      exact Cache.receive_of_isOfFile failed ofFile

/-- A lookup that ends with an error of its file changes the cache in no turn. -/
theorem cache_eq_of_error {before after later : Lookups} {turn : Turn}
    (taken : before.Takes turn after) (run : Later after later) {key : TemplateKey}
    {cause : TemplateError}
    (ended : later.calls[before.indexOf turn]? = some ⟨key, .done (.error cause)⟩)
    (ofFile : cause.IsOfFile) : after.cache = before.cache :=
  cache_eq_of_stays taken run.answered ended ofFile

/-- A file that is not registered and that no lookup asks for. -/
structure Quiet (state : Lookups) (path : String) : Prop where
  none : ∀ index, ¬ state.InFlight path index
  unfetched : state.cache.isFetched path = false

/-- The failed lookup was the only one that asked for its file. -/
theorem Orderly.quiet_of_fails {before after : Lookups} {path : String} (orderly : Orderly before)
    (fails : Fails path before after) : Quiet after path := by
  obtain ⟨turn, name, cause, stepped, ended, ofFile⟩ := fails
  obtain ⟨place, fetched, lock, rfl, holds, failed⟩ :=
    receives_of_error (step?_eq_some_iff.mp stepped) ended ofFile
  have received := step?_eq_some_iff.mpr (@Takes.finish before place fetched _ lock holds)
  rw [stepped] at received
  cases received
  constructor
  · rintro index ⟨other, taken, here⟩
    rcases getElem?_set here with ⟨different, kept⟩ | ⟨-, same⟩
    · exact different (orderly.eq_of_inFlight ⟨other, taken, kept⟩ ⟨name, lock, holds⟩)
    · cases same
  · rw [Cache.receive_of_isOfFile failed ofFile]
    exact orderly.unfetched holds

/-- Turns of other files keep a file quiet. -/
theorem Quiet.beside {before after : Lookups} {path : String} (quiet : Quiet before path)
    (beside : Beside path before after) : Quiet after path := by
  obtain ⟨⟨turn, stepped⟩, calm⟩ := beside
  constructor
  · intro index asks
    exact calm ⟨index, quiet.none index, asks⟩
  · cases step?_eq_some_iff.mp stepped with
    | hit | wait | leave | fetch => exact quiet.unfetched
    | @finish index fetched key lock holds =>
        have other : path ≠ key.path := by
          rintro rfl
          exact quiet.none index ⟨key.name, lock, holds⟩
        rw [(Cache.isFetched_receive _ _ _ _).2 other]
        exact quiet.unfetched

/-- The next lookup of a file asks for it, unless the identifier of its key is cached. -/
structure Retries (start : Cache) (state : Lookups) (path : String) : Prop where
  free : ∀ {lock}, state.locks.get? path = some lock → lock ∉ state.held
  called : ∀ {name}, state.cache.find? (TemplateKey.mk path name).id = none →
    ∃ lock, (state.call ⟨path, name⟩).calls = state.calls ++ [⟨⟨path, name⟩, .waiting lock⟩]
  acquired : ∀ {index : Nat} {name lock},
    state.calls[index]? = some ⟨⟨path, name⟩, .waiting lock⟩ →
      state.cache.find? (TemplateKey.mk path name).id = none →
        ∃ after, state.step? (.acquire index) = some after ∧ after.InFlight path index
  foreign : ∀ {id template}, state.cache.find? id = some template →
    start.find? id = some template ∨ Template.path template ≠ path

/-- Nobody holds the lock of a file that nobody asks for. -/
theorem Quiet.free {state : Lookups} {path : String} (quiet : Quiet state path)
    (orderly : Orderly state) {lock : Nat} (known : state.locks.get? path = some lock) :
    lock ∉ state.held := by
  intro held
  obtain ⟨index, key, holds⟩ := orderly.owned held
  have same := orderly.numbered.distinct (orderly.locked holds.uses) known
  subst same
  exact quiet.none index ⟨key.name, lock, holds⟩

/-- A quiet file is asked for by the next lookup. -/
theorem Reached.retries {start : Cache} {state : Lookups} (reached : Reached start state)
    {path : String} (quiet : Quiet state path) : Retries start state path := by
  constructor
  · intro lock known
    exact quiet.free reached.orderly known
  · intro name missing
    exact ⟨(lockOf state.locks path).1, by simp only [call, missing]⟩
  · intro index name lock waits missing
    have uses : state.Uses index ⟨path, name⟩ lock := ⟨_, waits, rfl⟩
    have free := quiet.free reached.orderly (reached.orderly.locked uses)
    have unknown := (Cache.enter_eq_none_iff state.cache ⟨path, name⟩).mpr
      ⟨missing, quiet.unfetched⟩
    obtain ⟨inside, -⟩ := List.getElem?_eq_some_iff.mp waits
    exact ⟨_, step?_eq_some_iff.mpr (.fetch waits free unknown),
      name, lock, List.getElem?_set_self inside⟩
  · intro id template found
    rcases reached.registered found with initially | known
    · exact .inl initially
    · refine .inr ?_
      rintro rfl
      rw [quiet.unfetched] at known
      cases known

/-- One lookup at a time asks for a file, until it is registered; failures leave no trace. -/
structure FetchesOnce (start : Cache) (state : Lookups) (path : String) : Prop where
  single : ∀ {first second}, state.InFlight path first → state.InFlight path second →
    first = second
  never : state.cache.isFetched path = true → ∀ {later}, Later state later →
    ∀ index, ¬ later.InFlight path index
  unchanged : ∀ {turn after later name cause}, state.step? turn = some after →
    Later after later →
    later.calls[state.indexOf turn]? = some ⟨⟨path, name⟩, .done (.error cause)⟩ →
    TemplateError.IsOfFile cause → after.cache = state.cache
  retried : ∀ {after later}, Fails path state after → ReflTransGen (Beside path) after later →
    Retries start later path

/-- Whatever the turns, each file is fetched once. -/
theorem Reached.fetchesOnce {start : Cache} {state : Lookups} (reached : Reached start state)
    (path : String) : FetchesOnce start state path where
  single := reached.orderly.eq_of_inFlight
  never known later run := by
    have there : Reached start later := ReflTransGen.trans reached run
    exact there.orderly.not_inFlight (run.isFetched known)
  unchanged stepped run ended ofFile :=
    cache_eq_of_error (step?_eq_some_iff.mp stepped) run ended ofFile
  retried := by
    intro after later fails besides
    have failed : Later (on start) after := by
      obtain ⟨turn, -, -, stepped, -⟩ := id fails
      exact reached.tail ⟨turn, stepped⟩
    -- The file stays quiet until a turn asks for it.
    have quiet : Reached start later ∧ Quiet later path := by
      induction besides with
      | refl => exact ⟨failed, reached.orderly.quiet_of_fails fails⟩
      | tail _ beside inductionHypothesis =>
          exact ⟨inductionHypothesis.1.tail beside.1, inductionHypothesis.2.beside beside⟩
    exact quiet.1.retries quiet.2

/-- One lookup asks for a file, for which another one waits. -/
def sampleCrowd : Lookups :=
  ⟨.empty, .ofList [("/a.html", 0)], [0],
    [⟨⟨"/a.html", ""⟩, .fetching 0⟩, ⟨⟨"/a.html", "x"⟩, .waiting 0⟩]⟩

/-- The source answered the first lookup with an error. -/
def sampleRest : Lookups :=
  ⟨.empty, .ofList [("/a.html", 0)], [],
    [⟨⟨"/a.html", ""⟩, .done (.error (.fetch "/a.html" (.device "late")))⟩,
      ⟨⟨"/a.html", "x"⟩, .waiting 0⟩]⟩

/-- The crowd is made of two calls and one turn. -/
theorem reached_sampleCrowd : Reached .empty sampleCrowd :=
  later_of_run? [.call ⟨"/a.html", ""⟩, .call ⟨"/a.html", "x"⟩, .acquire 0] (by decide +kernel)

theorem fails_sampleCrowd : Fails "/a.html" sampleCrowd sampleRest :=
  ⟨.receive 0 (.error (.device "late")), "", .fetch "/a.html" (.device "late"), by decide +kernel,
    rfl, trivial⟩

/-- The lookup that waits asks for the file after the other one failed. -/
theorem fetchesOnce_sampleCrowd :
    ∃ after, sampleRest.step? (.acquire 1) = some after ∧ after.InFlight "/a.html" 1 := by
  have once := reached_sampleCrowd.fetchesOnce "/a.html"
  exact (once.retried fails_sampleCrowd .refl).acquired rfl rfl

/-- A template whose identifier two files share. -/
def markedTemplate : Template := ⟨"faintly-template--a-b-html-", "/a/b.html", "", [.text "two"]⟩

/-- The template of one file is cached, and another file is asked for. -/
def markedCrowd : Lookups :=
  ⟨⟨.ofList [(markedTemplate.id, markedTemplate)], ["/a/b.html"]⟩,
    .ofList [("/a/b.html", 0), ("/a-b.html", 1)], [1],
    [⟨⟨"/a/b.html", ""⟩, .done (.ok markedTemplate)⟩, ⟨⟨"/a-b.html", "x"⟩, .fetching 1⟩]⟩

/-- The source answered the second lookup with an error. -/
def markedRest : Lookups :=
  { markedCrowd with
    held := []
    calls := [⟨⟨"/a/b.html", ""⟩, .done (.ok markedTemplate)⟩,
      ⟨⟨"/a-b.html", "x"⟩, .done (.error (.fetch "/a-b.html" (.notFound "/a-b.html")))⟩] }

theorem reached_markedCrowd : Reached .empty markedCrowd :=
  later_of_run? [.call ⟨"/a/b.html", ""⟩, .acquire 0, .receive 0 (.ok "<template>two</template>"),
    .call ⟨"/a-b.html", "x"⟩, .acquire 1] (by decide +kernel)

theorem fails_markedCrowd : Fails "/a-b.html" markedCrowd markedRest :=
  ⟨.receive 1 (.error (.notFound "/a-b.html")), "x", .fetch "/a-b.html" (.notFound "/a-b.html"),
    by decide +kernel, rfl, trivial⟩

/-- A later lookup is answered with another file's template under a shared identifier. -/
theorem answered_markedRest :
    ¬ ∀ (before failed later : Lookups) (path name : String), Reached .empty before →
      Fails path before failed → ReflTransGen (Beside path) failed later →
      ∃ lock, (later.call ⟨path, name⟩).calls =
        later.calls ++ [⟨⟨path, name⟩, .waiting lock⟩] := by
  intro retried
  obtain ⟨lock, waits⟩ := retried markedCrowd markedRest markedRest "/a-b.html" ""
    reached_markedCrowd fails_markedCrowd .refl
  have answered : (markedRest.call ⟨"/a-b.html", ""⟩).calls =
      markedRest.calls ++ [⟨⟨"/a-b.html", ""⟩, .done (.ok markedTemplate)⟩] := by decide +kernel
  rw [answered] at waits
  cases List.append_cancel_left waits

end Lookups

end Stencil
