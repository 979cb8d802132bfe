import Mathlib.Logic.Relation
import Stencil.Proofs.Template.Cached
import Stencil.Template.Lookups

/-! The turns of lookups beside each other, and the locks that they keep. -/

namespace Stencil

/-- The lock that a lookup waits for or holds. -/
def LookupStage.lock? : LookupStage → Option Nat
  | .waiting lock | .fetching lock => some lock
  | .done _ => none

namespace Cache

/-- A file is fetched for a key that is not cached, if it is not registered. -/
theorem enter_eq_none_iff (cache : Cache) (key : TemplateKey) :
    cache.enter key = none ↔ cache.find? key.id = none ∧ cache.isFetched key.path = false := by
  cases found : cache.find? key.id with
  | some template => simp [enter, found]
  | none => cases known : cache.isFetched key.path <;> simp [enter, found, known]

/-- A key that is answered at once changes nothing. -/
theorem resolve_of_enter {World : Type} (fetching : Fetching World) (world : World) {cache : Cache}
    {key : TemplateKey} {answer : Except TemplateError Template}
    (entered : cache.enter key = some answer) :
    (cache.resolve fetching key world).1 = (answer, cache) := by
  rw [resolve, entered]
  rfl

/-- Any other key is answered from what the source gives. -/
theorem resolve_of_enter_none {World : Type} (fetching : Fetching World) (world : World)
    {cache : Cache} {key : TemplateKey} (entered : cache.enter key = none) :
    (cache.resolve fetching key world).1 = cache.receive key (fetching key.path world).1 := by
  rw [resolve, entered]
  rfl

/-- An answer of the source registers the file of the key or none. -/
theorem isFetched_receive (cache : Cache) (key : TemplateKey) (fetched : Except SourceError String)
    (path : String) :
    (cache.isFetched path = true → (cache.receive key fetched).2.isFetched path = true) ∧
    (path ≠ key.path → (cache.receive key fetched).2.isFetched path = cache.isFetched path) := by
  rcases receive_cases cache key fetched with
    ⟨_, -, received⟩ | ⟨_, _, -, -, received⟩ | ⟨_, templates, -, -, received⟩
  · rw [received]
    exact ⟨id, fun _ => rfl⟩
  · rw [received]
    exact ⟨id, fun _ => rfl⟩
  · rw [received, isFetched_register]
    exact ⟨fun known => by rw [known, Bool.true_or], fun other => by simp [other]⟩

end Cache

namespace Lookups

open Relation

/-- The turns that are possible in a state, with the states behind them. -/
inductive Takes (state : Lookups) : Turn → Lookups → Prop where
  | hit {key : TemplateKey} {template : Template}
      (found : state.cache.find? key.id = some template) :
      Takes state (.call key) { state with calls := state.calls ++ [⟨key, .done (.ok template)⟩] }
  | wait {key : TemplateKey} (missing : state.cache.find? key.id = none) :
      Takes state (.call key) { state with
        locks := (lockOf state.locks key.path).2
        calls := state.calls ++ [⟨key, .waiting (lockOf state.locks key.path).1⟩] }
  | leave {index : Nat} {key : TemplateKey} {lock : Nat} {answer : Except TemplateError Template}
      (waits : state.calls[index]? = some ⟨key, .waiting lock⟩) (free : lock ∉ state.held)
      (known : state.cache.enter key = some answer) :
      Takes state (.acquire index) { state with calls := state.calls.set index ⟨key, .done answer⟩ }
  | fetch {index : Nat} {key : TemplateKey} {lock : Nat}
      (waits : state.calls[index]? = some ⟨key, .waiting lock⟩) (free : lock ∉ state.held)
      (unknown : state.cache.enter key = none) :
      Takes state (.acquire index) { state with
        held := lock :: state.held
        calls := state.calls.set index ⟨key, .fetching lock⟩ }
  | finish {index : Nat} {fetched : Except SourceError String} {key : TemplateKey} {lock : Nat}
      (fetches : state.calls[index]? = some ⟨key, .fetching lock⟩) :
      Takes state (.receive index fetched) { state with
        cache := (state.cache.receive key fetched).2
        held := state.held.filter (· ≠ lock)
        calls := state.calls.set index ⟨key, .done (state.cache.receive key fetched).1⟩ }

/-- The turns are the steps that are possible. -/
theorem step?_eq_some_iff {state after : Lookups} {turn : Turn} :
    state.step? turn = some after ↔ state.Takes turn after := by
  constructor
  · intro stepped
    cases turn with
    | call key =>
        cases stepped
        unfold call
        split
        · rename_i template found
          exact .hit found
        · rename_i missing
          exact .wait missing
    | acquire index =>
        simp only [step?, acquire?] at stepped
        split at stepped
        · rename_i key lock waits
          split at stepped
          · cases stepped
          · rename_i free
            split at stepped <;> rename_i entered <;> cases stepped
            · exact .leave waits free entered
            · exact .fetch waits free entered
        · cases stepped
    | receive index fetched =>
        simp only [step?, receive?] at stepped
        split at stepped
        · rename_i key lock fetches
          cases stepped
          exact .finish fetches
        · cases stepped
  · intro taken
    cases taken with
    | hit found => simp only [step?, call, found]
    | wait missing => simp only [step?, call, missing]
    | leave waits free known => simp only [step?, acquire?, waits, free, known, if_false]
    | fetch waits free unknown => simp only [step?, acquire?, waits, free, unknown, if_false]
    | finish fetches => simp only [step?, receive?, fetches]

/-- Some turn leads from one state to the other. -/
def Next (before after : Lookups) : Prop := ∃ turn, before.step? turn = some after

/-- Some turns lead from one state to the other. -/
def Later (before after : Lookups) : Prop := ReflTransGen Next before after

/-- The states that lookups on a cache lead to, in whatever order their turns come. -/
def Reached (start : Cache) (state : Lookups) : Prop := Later (on start) state

/-- Turns lead to later states. -/
theorem later_of_run? {before after : Lookups} (turns : List Turn)
    (ran : before.run? turns = some after) : Later before after := by
  induction turns generalizing before with
  | nil =>
      cases ran
      exact .refl
  | cons turn rest inductionHypothesis =>
      obtain ⟨between, stepped, ranOn⟩ := Option.bind_eq_some_iff.mp ran
      exact .head ⟨turn, stepped⟩ (inductionHypothesis ranOn)

/-- What every turn keeps holds in all later states. -/
theorem Later.keeps {before after : Lookups} (later : Later before after)
    (kept : Lookups → Prop) (initially : kept before)
    (step : ∀ {before turn after}, kept before → before.Takes turn after → kept after) :
    kept after := by
  induction later with
  | refl => exact initially
  | tail _ next inductionHypothesis =>
      obtain ⟨turn, stepped⟩ := next
      exact step inductionHypothesis (step?_eq_some_iff.mp stepped)

/-! The calls behind a turn. -/

/-- A new lookup comes last. -/
theorem getElem?_concat {calls : List Lookup} {added lookup : Lookup} {index : Nat}
    (here : (calls ++ [added])[index]? = some lookup) :
    calls[index]? = some lookup ∨ index = calls.length ∧ lookup = added := by
  rw [List.getElem?_append] at here
  split at here
  · exact .inl here
  · obtain ⟨place, same⟩ := List.getElem?_eq_some_iff.mp here
    simp only [List.length_singleton] at place
    refine .inr ⟨by omega, ?_⟩
    rw [← same, List.getElem_singleton]

/-- One lookup is replaced, and the others are as they were. -/
theorem getElem?_set {calls : List Lookup} {written lookup : Lookup} {place index : Nat}
    (here : (calls.set place written)[index]? = some lookup) :
    index ≠ place ∧ calls[index]? = some lookup ∨ index = place ∧ lookup = written := by
  rw [List.getElem?_set] at here
  split at here
  · rename_i same
    split at here
    · exact .inr ⟨same.symm, (Option.some.inj here).symm⟩
    · cases here
  · rename_i different
    exact .inl ⟨Ne.symm different, here⟩

/-- A lookup of another stage is not the one that is written. -/
theorem getElem?_set_of_stage {calls : List Lookup} {place index : Nat} {old lookup : Lookup}
    (replaced : calls[place]? = some old) (here : calls[index]? = some lookup)
    (apart : old.stage ≠ lookup.stage) (written : Lookup) :
    (calls.set place written)[index]? = some lookup := by
  have different : place ≠ index := by
    rintro rfl
    rw [replaced] at here
    exact apart (congrArg Lookup.stage (Option.some.inj here))
  rw [List.getElem?_set_ne different, here]

/-! The lock table. -/

/-- Different files have different locks, which are numbered without gaps. -/
structure Numbered (locks : OrderedMap Nat) : Prop where
  bounded : ∀ {path lock}, locks.get? path = some lock → lock < locks.size
  distinct : ∀ {first second lock}, locks.get? first = some lock →
    locks.get? second = some lock → first = second

/-- A file has the lock that it is given. -/
theorem get?_lockOf (locks : OrderedMap Nat) (path : String) :
    (lockOf locks path).2.get? path = some (lockOf locks path).1 := by
  unfold lockOf
  split
  · assumption
  · simp [OrderedMap.get?_insert]

/-- A file keeps its lock. -/
theorem get?_lockOf_of_get? {locks : OrderedMap Nat} {other : String} {lock : Nat}
    (known : locks.get? other = some lock) (path : String) :
    (lockOf locks path).2.get? other = some lock := by
  unfold lockOf
  split
  · exact known
  · rename_i missing
    have different : other ≠ path := by
      rintro rfl
      rw [missing] at known
      cases known
    rw [OrderedMap.get?_insert, if_neg different, known]

/-- A new lock has the next number. -/
theorem Numbered.lockOf {locks : OrderedMap Nat} (numbered : Numbered locks) (path : String) :
    Numbered (lockOf locks path).2 := by
  unfold Lookups.lockOf
  split
  · exact numbered
  · rename_i missing
    have size : (locks.insert path locks.size).size = locks.size + 1 :=
      OrderedMap.size_insert_of_get? missing locks.size
    constructor
    · intro other lock known
      rw [OrderedMap.get?_insert] at known
      rw [size]
      split at known
      · cases known
        exact Nat.lt_succ_self _
      · exact Nat.lt_succ_of_lt (numbered.bounded known)
    · intro first second lock firstKnown secondKnown
      rw [OrderedMap.get?_insert] at firstKnown secondKnown
      split at firstKnown <;> split at secondKnown
      · simp_all
      · cases firstKnown
        exact absurd (numbered.bounded secondKnown) (Nat.lt_irrefl _)
      · cases secondKnown
        exact absurd (numbered.bounded firstKnown) (Nat.lt_irrefl _)
      · exact numbered.distinct firstKnown secondKnown

/-! What every turn keeps. -/

/-- A lookup asks the source, and holds the lock of its file. -/
def Holds (state : Lookups) (index : Nat) (key : TemplateKey) (lock : Nat) : Prop :=
  state.calls[index]? = some ⟨key, .fetching lock⟩

/-- A lookup waits for a lock or holds it. -/
def Uses (state : Lookups) (index : Nat) (key : TemplateKey) (lock : Nat) : Prop :=
  ∃ stage, state.calls[index]? = some ⟨key, stage⟩ ∧ stage.lock? = some lock

/-- Locks belong to files, and one lookup at a time asks for an unregistered file. -/
structure Orderly (state : Lookups) : Prop where
  numbered : Numbered state.locks
  locked : ∀ {index key lock}, state.Uses index key lock → state.locks.get? key.path = some lock
  held : ∀ {index key lock}, state.Holds index key lock → lock ∈ state.held
  owned : ∀ {lock}, lock ∈ state.held → ∃ index key, state.Holds index key lock
  single : ∀ {first second firstKey secondKey lock}, state.Holds first firstKey lock →
    state.Holds second secondKey lock → first = second
  unfetched : ∀ {index key lock}, state.Holds index key lock →
    state.cache.isFetched key.path = false

theorem Holds.uses {state : Lookups} {index : Nat} {key : TemplateKey} {lock : Nat}
    (holds : state.Holds index key lock) : state.Uses index key lock := ⟨_, holds, rfl⟩

theorem orderly_on (start : Cache) : Orderly (on start) where
  numbered := ⟨nofun, nofun⟩
  locked uses := by
    obtain ⟨stage, here, -⟩ := uses
    cases here
  held holds := by cases holds
  owned member := by cases member
  single holds := by cases holds
  unfetched holds := by cases holds

/-- A turn that leaves the fetches as they are keeps the order. -/
theorem Orderly.of_sameFetches {before after : Lookups} (orderly : Orderly before)
    (numbered : Numbered after.locks)
    (locked : ∀ {index key lock}, after.Uses index key lock →
      after.locks.get? key.path = some lock)
    (cache : after.cache = before.cache) (held : after.held = before.held)
    (same : ∀ {index key lock}, after.Holds index key lock ↔ before.Holds index key lock) :
    Orderly after where
  numbered := numbered
  locked := locked
  held holds := held ▸ orderly.held (same.mp holds)
  owned member := by
    obtain ⟨index, key, holds⟩ := orderly.owned (held ▸ member)
    exact ⟨index, key, same.mpr holds⟩
  single first second := orderly.single (same.mp first) (same.mp second)
  unfetched holds := cache ▸ orderly.unfetched (same.mp holds)

/-- A lookup that is called does not ask the source yet. -/
theorem fetching_concat_iff {calls : List Lookup} {added : Lookup}
    (idle : ∀ lock, added.stage ≠ .fetching lock) {index : Nat} {key : TemplateKey} {lock : Nat} :
    (calls ++ [added])[index]? = some ⟨key, .fetching lock⟩ ↔
      calls[index]? = some ⟨key, .fetching lock⟩ := by
  constructor
  · intro here
    rcases getElem?_concat here with before | ⟨-, same⟩
    · exact before
    · exact absurd (congrArg Lookup.stage same).symm (idle lock)
  · intro here
    obtain ⟨place, -⟩ := List.getElem?_eq_some_iff.mp here
    rw [List.getElem?_append_left place, here]

/-- Stages without a question make no difference to those that ask. -/
theorem fetching_set_iff {calls : List Lookup} {old written : Lookup} {place : Nat}
    (replaced : calls[place]? = some old) (before : ∀ lock, old.stage ≠ .fetching lock)
    (behind : ∀ lock, written.stage ≠ .fetching lock) {index : Nat} {key : TemplateKey}
    {lock : Nat} :
    (calls.set place written)[index]? = some ⟨key, .fetching lock⟩ ↔
      calls[index]? = some ⟨key, .fetching lock⟩ := by
  constructor
  · intro here
    rcases getElem?_set here with ⟨-, kept⟩ | ⟨-, same⟩
    · exact kept
    · exact absurd (congrArg Lookup.stage same).symm (behind lock)
  · intro here
    exact getElem?_set_of_stage replaced here (before lock) written

/-- A lookup with a free lock may ask for an unregistered file. -/
theorem Orderly.fetch {state : Lookups} (orderly : Orderly state) {place : Nat}
    {asked : TemplateKey} {lock : Nat} (waits : state.calls[place]? = some ⟨asked, .waiting lock⟩)
    (free : lock ∉ state.held) (unknown : state.cache.enter asked = none) :
    Orderly { state with
      held := lock :: state.held
      calls := state.calls.set place ⟨asked, .fetching lock⟩ } := by
  constructor
  · exact orderly.numbered
  · rintro index key taken ⟨stage, here, uses⟩
    rcases getElem?_set here with ⟨-, kept⟩ | ⟨-, same⟩
    · exact orderly.locked ⟨stage, kept, uses⟩
    · cases same
      cases uses
      exact orderly.locked ⟨_, waits, rfl⟩
  · intro index key taken here
    rcases getElem?_set here with ⟨-, kept⟩ | ⟨-, same⟩
    · exact List.mem_cons_of_mem _ (orderly.held kept)
    · cases same
      exact List.mem_cons_self
  · intro taken member
    rcases List.mem_cons.mp member with rfl | held
    · obtain ⟨inside, -⟩ := List.getElem?_eq_some_iff.mp waits
      exact ⟨place, asked, List.getElem?_set_self inside⟩
    · obtain ⟨index, key, holds⟩ := orderly.owned held
      exact ⟨index, key, getElem?_set_of_stage waits holds (by simp) _⟩
  · intro first second firstKey secondKey taken firstHere secondHere
    rcases getElem?_set firstHere with ⟨-, firstKept⟩ | ⟨firstPlace, firstSame⟩ <;>
      rcases getElem?_set secondHere with ⟨-, secondKept⟩ | ⟨secondPlace, secondSame⟩
    · exact orderly.single firstKept secondKept
    · cases secondSame
      exact absurd (orderly.held firstKept) free
    · cases firstSame
      exact absurd (orderly.held secondKept) free
    · rw [firstPlace, secondPlace]
  · intro index key taken here
    rcases getElem?_set here with ⟨-, kept⟩ | ⟨-, same⟩
    · exact orderly.unfetched kept
    · cases same
      exact ((Cache.enter_eq_none_iff _ _).mp unknown).2

/-- A lookup that was answered gives its lock back. -/
theorem Orderly.finish {state : Lookups} (orderly : Orderly state) {place : Nat}
    {asked : TemplateKey} {lock : Nat} (holds : state.Holds place asked lock)
    (fetched : Except SourceError String) :
    Orderly { state with
      cache := (state.cache.receive asked fetched).2
      held := state.held.filter (· ≠ lock)
      calls := state.calls.set place ⟨asked, .done (state.cache.receive asked fetched).1⟩ } := by
  have others : ∀ {index : Nat} {key : TemplateKey} {taken : Nat},
      (state.calls.set place ⟨asked, .done (state.cache.receive asked fetched).1⟩)[index]? =
        some ⟨key, .fetching taken⟩ → index ≠ place ∧ state.Holds index key taken := by
    intro index key taken here
    rcases getElem?_set here with kept | ⟨-, same⟩
    · exact kept
    · cases same
  constructor
  · exact orderly.numbered
  · rintro index key taken ⟨stage, here, uses⟩
    rcases getElem?_set here with ⟨-, kept⟩ | ⟨-, same⟩
    · exact orderly.locked ⟨stage, kept, uses⟩
    · cases same
      cases uses
  · intro index key taken here
    obtain ⟨different, kept⟩ := others here
    have other : taken ≠ lock := by
      rintro rfl
      exact different (orderly.single kept holds)
    exact List.mem_filter.mpr ⟨orderly.held kept, by simpa using other⟩
  · intro taken member
    obtain ⟨held, other⟩ := List.mem_filter.mp member
    obtain ⟨index, key, kept⟩ := orderly.owned held
    have apart : LookupStage.fetching lock ≠ .fetching taken := by
      rintro ⟨⟩
      simp at other
    exact ⟨index, key, getElem?_set_of_stage holds kept apart _⟩
  · intro first second firstKey secondKey taken firstHere secondHere
    exact orderly.single (others firstHere).2 (others secondHere).2
  · intro index key taken here
    obtain ⟨different, kept⟩ := others here
    -- Another lookup in the file would hold the same lock.
    have other : key.path ≠ asked.path := by
      intro same
      have known := orderly.locked kept.uses
      rw [same, orderly.locked holds.uses] at known
      cases known
      exact different (orderly.single kept holds)
    rw [(Cache.isFetched_receive _ _ _ _).2 other]
    exact orderly.unfetched kept

/-- Every turn keeps the order. -/
theorem Orderly.step {before after : Lookups} {turn : Turn} (orderly : Orderly before)
    (taken : before.Takes turn after) : Orderly after := by
  -- Only fetching and finishing change which lookups hold a lock.
  cases taken with
  | hit found =>
      refine orderly.of_sameFetches orderly.numbered ?_ rfl rfl (fetching_concat_iff (by simp))
      rintro index key lock ⟨stage, here, uses⟩
      rcases getElem?_concat here with held | ⟨-, same⟩
      · exact orderly.locked ⟨stage, held, uses⟩
      · cases same
        cases uses
  | wait missing =>
      refine orderly.of_sameFetches (orderly.numbered.lockOf _) ?_ rfl rfl
        (fetching_concat_iff (by simp))
      rintro index key lock ⟨stage, here, uses⟩
      rcases getElem?_concat here with held | ⟨-, same⟩
      · exact get?_lockOf_of_get? (orderly.locked ⟨stage, held, uses⟩) _
      · cases same
        cases uses
        exact get?_lockOf before.locks _
  | leave waits free known =>
      refine orderly.of_sameFetches orderly.numbered ?_ rfl rfl
        (fetching_set_iff waits (by simp) (by simp))
      rintro index key lock ⟨stage, here, uses⟩
      rcases getElem?_set here with ⟨-, held⟩ | ⟨-, same⟩
      · exact orderly.locked ⟨stage, held, uses⟩
      · cases same
        cases uses
  | fetch waits free unknown => exact orderly.fetch waits free unknown
  | finish holds => exact orderly.finish holds _

/-- All states that turns lead to are orderly. -/
theorem Reached.orderly {start : Cache} {state : Lookups} (reached : Reached start state) :
    Orderly state :=
  reached.keeps Orderly (orderly_on start) Orderly.step

theorem run?_cons {before between after : Lookups} {turn : Turn} {turns : List Turn}
    (taken : before.Takes turn between) (ran : between.run? turns = some after) :
    before.run? (turn :: turns) = some after :=
  Option.bind_eq_some_iff.mpr ⟨between, step?_eq_some_iff.mpr taken, ran⟩

/-- Without others beside it, a lookup ends like a plain one. -/
theorem run?_alone {World : Type} (fetching : Fetching World) (key : TemplateKey) (world : World)
    (state : Lookups) (idle : state.held = []) :
    ∃ turns after, state.run? turns = some after ∧ after.held = [] ∧
      after.cache = (state.cache.resolve fetching key world).1.2 ∧
      after.calls =
        state.calls ++ [⟨key, .done (state.cache.resolve fetching key world).1.1⟩] := by
  have replaced : ∀ waits written : Lookup,
      (state.calls ++ [waits]).set state.calls.length written = state.calls ++ [written] := by simp
  cases found : state.cache.find? key.id with
  | some template =>
      have entered : state.cache.enter key = some (.ok template) := by
        simp only [Cache.enter, found]
      rw [Cache.resolve_of_enter fetching world entered]
      exact ⟨[.call key], _, run?_cons (.hit found) rfl, idle, rfl, rfl⟩
  | none =>
      have free : ∀ lock, lock ∉ state.held := by simp [idle]
      cases entered : state.cache.enter key with
      | some answer =>
          rw [Cache.resolve_of_enter fetching world entered]
          exact ⟨[.call key, .acquire state.calls.length], _,
            run?_cons (.wait found) (run?_cons
              (.leave List.getElem?_concat_length (free _) entered) rfl),
            idle, rfl, replaced _ _⟩
      | none =>
          rw [Cache.resolve_of_enter_none fetching world entered]
          refine ⟨[.call key, .acquire state.calls.length,
            .receive state.calls.length (fetching key.path world).1], _,
            run?_cons (.wait found) (run?_cons
              (.fetch List.getElem?_concat_length (free _) entered) (run?_cons
                (.finish (List.getElem?_set_self (by simp))) rfl)), ?_, rfl, ?_⟩
          · simp [idle]
          · simp

end Lookups

end Stencil
