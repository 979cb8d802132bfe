import Stencil.Template.Cache

/-! Lookups beside each other, over one cache, suspended at locks and at the source. -/

namespace Stencil

/-- How far a lookup is. It holds the lock of its file while the source is asked. -/
inductive LookupStage where
  | waiting (lock : Nat)
  | fetching (lock : Nat)
  | done (answer : Except TemplateError Template)
deriving DecidableEq

/-- A lookup of a key, and how far it is. -/
structure Lookup where
  key : TemplateKey
  stage : LookupStage
deriving DecidableEq

/-- The lookups on a cache, the locks of files, and the locks that are held. -/
structure Lookups where
  cache : Cache
  locks : OrderedMap Nat
  held : List Nat
  calls : List Lookup
deriving DecidableEq

/-- A lookup is called, gets the lock of its file, or is answered by the source. -/
inductive Turn where
  | call (key : TemplateKey)
  | acquire (index : Nat)
  | receive (index : Nat) (fetched : Except SourceError String)

namespace Lookups

/-- A cache on which nothing was looked up yet. -/
def on (cache : Cache) : Lookups := ⟨cache, ∅, [], []⟩

/-- The lock of a file; a file that has none gets the next one. -/
def lockOf (locks : OrderedMap Nat) (path : String) : Nat × OrderedMap Nat :=
  match locks.get? path with
  | some lock => (lock, locks)
  | none => (locks.size, locks.insert path locks.size)

/-- A lookup is called: it finds its template, or waits for the lock of its file. -/
def call (state : Lookups) (key : TemplateKey) : Lookups :=
  match state.cache.find? key.id with
  | some template => { state with calls := state.calls ++ [⟨key, .done (.ok template)⟩] }
  | none =>
      let (lock, locks) := lockOf state.locks key.path
      { state with locks, calls := state.calls ++ [⟨key, .waiting lock⟩] }

/-- A lookup gets a free lock, and gives it back if nothing needs to be fetched. -/
def acquire? (state : Lookups) (index : Nat) : Option Lookups :=
  match state.calls[index]? with
  | some ⟨key, .waiting lock⟩ =>
      if lock ∈ state.held then none
      else
        match state.cache.enter key with
        | some answer => some { state with calls := state.calls.set index ⟨key, .done answer⟩ }
        | none =>
            some { state with
              held := lock :: state.held
              calls := state.calls.set index ⟨key, .fetching lock⟩ }
  | _ => none

/-- The source answers a lookup, which gives the lock back when it ends. -/
def receive? (state : Lookups) (index : Nat) (fetched : Except SourceError String) :
    Option Lookups :=
  match state.calls[index]? with
  | some ⟨key, .fetching lock⟩ =>
      let (answer, cache) := state.cache.receive key fetched
      some { state with
        cache
        held := state.held.filter (· ≠ lock)
        calls := state.calls.set index ⟨key, .done answer⟩ }
  | _ => none

/-- The state behind a turn; not every turn is possible. -/
def step? (state : Lookups) : Turn → Option Lookups
  | .call key => some (state.call key)
  | .acquire index => state.acquire? index
  | .receive index fetched => state.receive? index fetched

/-- The state behind some turns. -/
def run? (state : Lookups) (turns : List Turn) : Option Lookups := turns.foldlM step? state

end Lookups

end Stencil
