import Mathlib.Data.List.Induction
import Stencil.Proofs.Template.FetchesOnce
import Stencil.Template.Memory
import Stencil.Template.Service

/-! What is cached stays cached. -/

namespace Stencil

namespace Cache

/-- A registration from outside is refused, or the file parses. -/
theorem registerFile_cases (cache : Cache) (path markup : String) :
    (∃ cause, Template.parseFile path markup = .error cause ∧
      cache.registerFile path markup = (.error cause, cache)) ∨
    (∃ templates, Template.parseFile path markup = .ok templates ∧
      cache.registerFile path markup = (.ok (), cache.register path templates)) := by
  cases parsed : Template.parseFile path markup with
  | error cause => exact .inl ⟨cause, rfl, by simp only [registerFile, parsed]⟩
  | ok templates => exact .inr ⟨templates, rfl, by simp only [registerFile, parsed]⟩

/-- Templates are held under their own identifiers, and their files are registered. -/
def Keyed (cache : Cache) : Prop :=
  ∀ id template, cache.find? id = some template →
    template.key.id = id ∧ template.id = id ∧ cache.isFetched template.path = true

/-- The templates of a file are held under their own identifiers. -/
theorem Keyed.register {cache : Cache} (keyed : Keyed cache) {path markup : String}
    {templates : List Template} (parsed : Template.parseFile path markup = .ok templates) :
    Keyed (cache.register path templates) := by
  intro id template found
  rw [find?_register] at found
  rw [isFetched_register]
  rcases Option.or_eq_some_iff.mp found with held | ⟨-, new⟩
  · obtain ⟨ownKey, ownId, known⟩ := keyed id template held
    exact ⟨ownKey, ownId, by simp [known]⟩
  · have inFile : template.InFile path markup := ⟨templates, parsed, List.mem_of_find?_eq_some new⟩
    have same : template.id = id := by
      have here := List.find?_some new
      exact of_decide_eq_true here
    exact ⟨inFile.id_eq ▸ same, same, by simp [inFile.path_eq]⟩

end Cache

namespace Service

variable {World : Type} {fetching : Fetching World}

/-- An operation brings the markup of a file, from outside or from the source. -/
inductive Delivers (fetching : Fetching World) (state : Service World) :
    Operation World → String → String → Prop where
  | registered (path markup : String) : Delivers fetching state (.register path markup) path markup
  | fetched {index : Nat} {key : TemplateKey} {lock : Nat} {markup : String}
      (asks : state.lookups.Holds index key lock)
      (answered : (fetching key.path state.source).1 = .ok markup) :
      Delivers fetching state (.receive index) key.path markup

/-- The lookup whose turn an operation is. -/
def lookupOf? (state : Service World) : Operation World → Option Nat
  | .call _ => some state.lookups.calls.length
  | .acquire index | .receive index => some index
  | .register .. | .change _ => none

/-- An operation is the turn of a lookup, a registration, or a change of the source. -/
theorem step?_cases {before after : Service World} {operation : Operation World}
    (stepped : before.step? fetching operation = some after) :
    (∃ turn, before.lookups.Takes turn after.lookups ∧
      before.lookupOf? operation = some (before.lookups.indexOf turn) ∧
      ∀ {index fetched}, turn = .receive index fetched → operation = .receive index ∧
        ∃ key lock, before.lookups.Holds index key lock ∧
          (fetching key.path before.source).1 = fetched) ∨
    (∃ path markup, operation = .register path markup ∧ after.lookups =
      { before.lookups with cache := (before.lookups.cache.registerFile path markup).2 }) ∨
    (∃ edit, operation = .change edit ∧ after.lookups = before.lookups) := by
  cases operation with
  | call key =>
      cases stepped
      exact .inl ⟨.call key, Lookups.step?_eq_some_iff.mp rfl, rfl, nofun⟩
  | acquire index =>
      obtain ⟨lookups, acquired, rfl⟩ := Option.map_eq_some_iff.mp stepped
      exact .inl ⟨.acquire index, Lookups.step?_eq_some_iff.mp acquired, rfl, nofun⟩
  | receive index =>
      simp only [step?] at stepped
      split at stepped
      · rename_i key lock asks
        obtain ⟨lookups, received, rfl⟩ := Option.map_eq_some_iff.mp stepped
        refine .inl ⟨.receive index _, Lookups.step?_eq_some_iff.mp received, rfl, ?_⟩
        intro place fetched same
        cases same
        exact ⟨rfl, key, lock, asks, rfl⟩
      · cases stepped
  | register path markup =>
      cases stepped
      exact .inr (.inl ⟨path, markup, rfl, rfl⟩)
  | change edit =>
      cases stepped
      exact .inr (.inr ⟨edit, rfl, rfl⟩)

/-- An operation leaves the cache as it was, or registers a file. -/
theorem cache_of_step? {before after : Service World} {operation : Operation World}
    (stepped : before.step? fetching operation = some after) :
    after.lookups.cache = before.lookups.cache ∨
    ∃ path markup templates, Delivers fetching before operation path markup ∧
      Template.parseFile path markup = .ok templates ∧
      after.lookups.cache = before.lookups.cache.register path templates := by
  rcases step?_cases stepped with
    ⟨turn, taken, -, delivered⟩ | ⟨path, markup, rfl, left⟩ | ⟨edit, -, left⟩
  · generalize after.lookups = lookups at taken
    cases taken with
    | hit | wait | leave | fetch => exact .inl rfl
    | @finish index fetched key lock holds =>
        obtain ⟨rfl, asked, held, asks, answered⟩ := delivered rfl
        cases holds.symm.trans asks
        rcases Cache.receive_cases before.lookups.cache key fetched with
          ⟨_, -, result⟩ | ⟨_, _, -, -, result⟩ | ⟨markup, templates, rfl, parsed, result⟩
        · exact .inl (congrArg Prod.snd result)
        · exact .inl (congrArg Prod.snd result)
        · exact .inr ⟨key.path, markup, templates, .fetched asks answered, parsed,
            congrArg Prod.snd result⟩
  · rw [left]
    rcases Cache.registerFile_cases before.lookups.cache path markup with
      ⟨_, -, result⟩ | ⟨templates, parsed, result⟩
    · exact .inl (congrArg Prod.snd result)
    · exact .inr ⟨path, markup, templates, .registered path markup, parsed,
        congrArg Prod.snd result⟩
  · exact .inl (congrArg Lookups.cache left)

/-! What one operation keeps. -/

/-- What is cached stays cached in a step. -/
theorem find?_of_step? {before after : Service World} {operation : Operation World} {id : String}
    {template : Template} (stepped : before.step? fetching operation = some after)
    (found : before.lookups.cache.find? id = some template) :
    after.lookups.cache.find? id = some template := by
  rcases cache_of_step? stepped with same | ⟨path, markup, templates, -, -, registered⟩
  · rw [same, found]
  · rw [registered, Cache.find?_register, found, Option.some_or]

/-- A step keeps templates under their own identifiers. -/
theorem keyed_of_step? {before after : Service World} {operation : Operation World}
    (stepped : before.step? fetching operation = some after) (keyed : before.lookups.cache.Keyed) :
    after.lookups.cache.Keyed := by
  rcases cache_of_step? stepped with same | ⟨path, markup, templates, -, parsed, registered⟩
  · exact same ▸ keyed
  · exact registered ▸ keyed.register parsed

/-- An answer stays in a step. -/
theorem answered_of_step? {before after : Service World} {operation : Operation World}
    {index : Nat} {key : TemplateKey} {answer : Except TemplateError Template}
    (stepped : before.step? fetching operation = some after)
    (ended : before.lookups.calls[index]? = some ⟨key, .done answer⟩) :
    after.lookups.calls[index]? = some ⟨key, .done answer⟩ := by
  rcases step?_cases stepped with ⟨turn, taken, -, -⟩ | ⟨path, markup, -, left⟩ | ⟨edit, -, left⟩
  · have later : before.lookups.Later after.lookups :=
      .single ⟨turn, Lookups.step?_eq_some_iff.mpr taken⟩
    exact later.answered ended
  · rw [left]
    exact ended
  · rw [left]
    exact ended

/-- Every template that answered a lookup is cached under the identifier of its key. -/
def Remembers (state : Service World) : Prop :=
  ∀ (index : Nat) (key : TemplateKey) (template : Template),
    state.lookups.calls[index]? = some ⟨key, .done (.ok template)⟩ →
      state.lookups.cache.find? key.id = some template

/-- A step keeps templates that were answered with. -/
theorem Remembers.step {before after : Service World} {operation : Operation World}
    (remembers : before.Remembers) (stepped : before.step? fetching operation = some after) :
    after.Remembers := by
  intro index key template ended
  have kept := fun found => find?_of_step? stepped (remembers index key template found)
  rcases step?_cases stepped with ⟨turn, taken, -, -⟩ | ⟨path, markup, -, left⟩ | ⟨edit, -, left⟩
  · generalize after.lookups = lookups at taken ended kept
    -- A lookup that ended in this step was answered from the cache behind it.
    cases taken with
    | hit found =>
        rcases Lookups.getElem?_concat ended with old | ⟨-, same⟩
        · exact kept old
        · cases same
          exact found
    | wait missing =>
        rcases Lookups.getElem?_concat ended with old | ⟨-, same⟩
        · exact kept old
        · cases same
    | leave waits free known =>
        rcases Lookups.getElem?_set ended with ⟨-, old⟩ | ⟨-, same⟩
        · exact kept old
        · cases same
          exact Cache.find?_of_enter known
    | fetch waits free unknown =>
        rcases Lookups.getElem?_set ended with ⟨-, old⟩ | ⟨-, same⟩
        · exact kept old
        · cases same
    | finish holds =>
        rcases Lookups.getElem?_set ended with ⟨-, old⟩ | ⟨-, same⟩
        · exact kept old
        · injection same with sameKey sameStage
          subst sameKey
          exact Cache.find?_of_receive (LookupStage.done.inj sameStage).symm
  · rw [left] at ended
    exact kept ended
  · rw [left] at ended
    exact kept ended

/-! Whole runs. -/

/-- What every operation keeps holds behind any of them. -/
theorem keeps_of_run? {before after : Service World} {operations : List (Operation World)}
    (ran : before.run? fetching operations = some after) (kept : Service World → Prop)
    (initially : kept before)
    (step : ∀ {before operation after}, step? fetching before operation = some after →
      kept before → kept after) : kept after := by
  induction operations generalizing before with
  | nil =>
      cases ran
      exact initially
  | cons operation rest inductionHypothesis =>
      obtain ⟨between, stepped, ranOn⟩ := Option.bind_eq_some_iff.mp ran
      exact inductionHypothesis ranOn (step stepped initially)

/-- What is cached stays cached. -/
theorem find?_of_run? {before after : Service World} {operations : List (Operation World)}
    (ran : before.run? fetching operations = some after) {id : String} {template : Template}
    (found : before.lookups.cache.find? id = some template) :
    after.lookups.cache.find? id = some template :=
  keeps_of_run? ran (·.lookups.cache.find? id = some template) found find?_of_step?

/-- The last operation starts behind the others. -/
theorem run?_concat {before after : Service World} {operations : List (Operation World)}
    {last : Operation World} (ran : before.run? fetching (operations ++ [last]) = some after) :
    ∃ between, before.run? fetching operations = some between ∧
      between.step? fetching last = some after := by
  unfold run? at ran ⊢
  rw [List.foldlM_append] at ran
  obtain ⟨between, ranBefore, ranLast⟩ := Option.bind_eq_some_iff.mp ran
  obtain ⟨behind, stepped, ended⟩ := Option.bind_eq_some_iff.mp ranLast
  cases ended
  exact ⟨between, ranBefore, stepped⟩

/-- Some operation of a run brought markup of the file, and it parses. -/
def Brought (fetching : Fetching World) (start : Service World)
    (operations : List (Operation World)) (path : String) : Prop :=
  ∃ done operation rest between markup templates, operations = done ++ operation :: rest ∧
    start.run? fetching done = some between ∧ Delivers fetching between operation path markup ∧
      Template.parseFile path markup = .ok templates

/-- What was brought was brought before any later operation. -/
theorem Brought.concat {start : Service World} {operations : List (Operation World)}
    {path : String} (brought : Brought fetching start operations path) (last : Operation World) :
    Brought fetching start (operations ++ [last]) path := by
  obtain ⟨done, operation, rest, between, markup, templates, rfl, ran, delivers, parsed⟩ := brought
  exact ⟨done, operation, rest ++ [last], between, markup, templates, by simp, ran, delivers,
    parsed⟩

/-- A file that is registered was brought by the run, unless it was registered from the start. -/
theorem brought_of_isFetched {start after : Service World} {operations : List (Operation World)}
    (ran : start.run? fetching operations = some after) {path : String}
    (known : after.lookups.cache.isFetched path = true)
    (unknown : start.lookups.cache.isFetched path = false) :
    Brought fetching start operations path := by
  induction operations using List.reverseRecOn generalizing after with
  | nil =>
      cases ran
      rw [unknown] at known
      cases known
  | append_singleton operations last inductionHypothesis =>
      obtain ⟨between, ranBefore, stepped⟩ := run?_concat ran
      rcases cache_of_step? stepped with
        same | ⟨other, markup, templates, delivers, parsed, registered⟩
      · exact (inductionHypothesis ranBefore (same ▸ known)).concat last
      · rw [registered, Cache.isFetched_register, Bool.or_eq_true] at known
        rcases known with before | here
        · exact (inductionHypothesis ranBefore before).concat last
        · cases of_decide_eq_true here
          exact ⟨operations, last, [], between, markup, templates, rfl, ranBefore, delivers, parsed⟩

/-- Cached templates and answers stay, and failures of a file change nothing. -/
structure Stable (fetching : Fetching World) (start : Service World)
    (operations : List (Operation World)) (state : Service World) : Prop where
  keyed : state.lookups.cache.Keyed
  brought : ∀ {path}, state.lookups.cache.isFetched path = true →
    Brought fetching start operations path
  kept : ∀ {more later id template}, state.run? fetching more = some later →
    state.lookups.cache.find? id = some template → later.lookups.cache.find? id = some template
  refused : ∀ {path markup cause after},
    (state.lookups.cache.registerFile path markup).1 = .error cause →
    state.step? fetching (.register path markup) = some after →
    after.lookups.cache = state.lookups.cache
  failed : ∀ {operation index after more later} {key : TemplateKey} {cause : TemplateError},
    state.lookupOf? operation = some index → state.step? fetching operation = some after →
    after.run? fetching more = some later →
    later.lookups.calls[index]? = some ⟨key, .done (.error cause)⟩ → cause.IsOfFile →
    after.lookups.cache = state.lookups.cache
  answered : ∀ {index : Nat} {key : TemplateKey} {template : Template} {more later},
    state.lookups.calls[index]? = some ⟨key, .done (.ok template)⟩ →
    state.run? fetching more = some later →
    later.lookups.call key = { later.lookups with
      calls := later.lookups.calls ++ [⟨key, .done (.ok template)⟩] } ∧
    ∀ (others : Fetching World) (source : World), later.lookups.cache.resolve others key source =
      ((.ok template, later.lookups.cache), source)

/-- Behind any operations over a source, the cache is stable. -/
theorem stable_of_run? {source : World} {operations : List (Operation World)}
    {state : Service World} (ran : (starting source).run? fetching operations = some state) :
    Stable fetching (starting source) operations state where
  keyed := keeps_of_run? ran (·.lookups.cache.Keyed) nofun keyed_of_step?
  brought known := brought_of_isFetched ran known rfl
  kept ranOn found := find?_of_run? ranOn found
  refused := by
    intro path markup cause after wrong stepped
    cases stepped
    rcases Cache.registerFile_cases state.lookups.cache path markup with
      ⟨_, -, result⟩ | ⟨templates, -, result⟩
    · exact congrArg Prod.snd result
    · rw [result] at wrong
      cases wrong
  failed := by
    intro operation index after more later key cause owned stepped ranOn ended ofFile
    rcases step?_cases stepped with ⟨turn, taken, place, -⟩ | ⟨_, _, rfl, -⟩ | ⟨_, rfl, -⟩
    · rw [owned, Option.some.injEq] at place
      subst place
      -- The lookup is ended, so that all later operations leave its answer alone.
      refine Lookups.cache_eq_of_stays taken ?_ ended ofFile
      intro other asked answer here
      exact keeps_of_run? ranOn (·.lookups.calls[other]? = some ⟨asked, .done answer⟩) here
        answered_of_step?
    · cases owned
    · cases owned
  answered := by
    intro index key template more later ended ranOn
    have remembers : state.Remembers :=
      keeps_of_run? ran Remembers nofun fun stepped held => held.step stepped
    have found : later.lookups.cache.find? key.id = some template :=
      find?_of_run? ranOn (remembers index key template ended)
    constructor
    · simp only [Lookups.call, found]
    · intro others source
      simp only [Cache.resolve, Cache.enter, found]
      rfl

/-- A source that holds its files in memory. -/
def memoryFetching : Fetching MemorySource := fun path source => source.fetch path

/-- A file fails, another one takes its identifier, and a registration is refused. -/
def sampleOperations : List (Operation MemorySource) :=
  [.call ⟨"/a-b.html", ""⟩, .acquire 0, .receive 0,
    .change (·.add "/a-b.html" "<template>one</template>"), .call ⟨"/a-b.html", ""⟩, .acquire 1,
    .register "/a/b.html" "<template>two</template>", .register "/a-b.html" "<b", .receive 1]

/-- The lookup that was called again is answered with the template that was registered first. -/
def sampleService : Service MemorySource where
  lookups :=
    { cache := ⟨.ofList [(Lookups.markedTemplate.id, Lookups.markedTemplate)],
        ["/a/b.html", "/a-b.html"]⟩
      locks := .ofList [("/a-b.html", 0)]
      held := []
      calls := [⟨⟨"/a-b.html", ""⟩, .done (.error (.fetch "/a-b.html" (.notFound "/a-b.html")))⟩,
        ⟨⟨"/a-b.html", ""⟩, .done (.ok Lookups.markedTemplate)⟩] }
  source := ⟨.ofList [("/a-b.html", "<template>one</template>")], ["/a-b.html", "/a-b.html"]⟩

/-- The key is answered alike after its file is gone. -/
theorem stable_sampleService :
    (starting .empty).run? memoryFetching sampleOperations = some sampleService ∧
    ∃ later, sampleService.run? memoryFetching [.change (·.remove "/a-b.html")] = some later ∧
      later.source.find? "/a-b.html" = none ∧
      (later.lookups.call ⟨"/a-b.html", ""⟩).calls =
        later.lookups.calls ++ [⟨⟨"/a-b.html", ""⟩, .done (.ok Lookups.markedTemplate)⟩] := by
  have ran : (starting .empty).run? memoryFetching sampleOperations = some sampleService := by
    decide +kernel
  have ended : sampleService.lookups.calls[1]? =
      some ⟨⟨"/a-b.html", ""⟩, .done (.ok Lookups.markedTemplate)⟩ := rfl
  refine ⟨ran, { sampleService with source := sampleService.source.remove "/a-b.html" }, rfl,
    by decide +kernel, ?_⟩
  have again := (stable_of_run? ran).answered ended
    (show sampleService.run? memoryFetching [.change (·.remove "/a-b.html")] = _ from rfl)
  exact congrArg Lookups.calls again.1

end Service

end Stencil
