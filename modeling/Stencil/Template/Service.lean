import Stencil.Template.Lookups

/-! Lookups over a source that changes, beside files that are registered from outside. -/

namespace Stencil

/-- A file is registered if it parses; otherwise the cache stays as it was. -/
def Cache.registerFile (cache : Cache) (path markup : String) : Except TemplateError Unit × Cache :=
  match Template.parseFile path markup with
  | .error cause => (.error cause, cache)
  | .ok templates => (.ok (), cache.register path templates)

/-- The lookups on a cache, and the source that they ask. -/
structure Service (World : Type) where
  lookups : Lookups
  source : World
deriving DecidableEq

namespace Service

/-- What may happen next: a lookup takes its turn, a file is registered, or the source changes. -/
inductive Operation (World : Type) where
  | call (key : TemplateKey)
  | acquire (index : Nat)
  | receive (index : Nat)
  | register (path markup : String)
  | change (edit : World → World)

variable {World : Type}

/-- A source about which nothing is cached yet. -/
def starting (source : World) : Service World := ⟨.on .empty, source⟩

/-- The state behind an operation. A lookup receives what the source holds by then. -/
def step? (fetching : Fetching World) (state : Service World) :
    Operation World → Option (Service World)
  | .call key => some { state with lookups := state.lookups.call key }
  | .acquire index =>
      (state.lookups.acquire? index).map fun lookups => { state with lookups }
  | .receive index =>
      match state.lookups.calls[index]? with
      | some ⟨key, .fetching _⟩ =>
          let (fetched, source) := fetching key.path state.source
          (state.lookups.receive? index fetched).map fun lookups => ⟨lookups, source⟩
      | _ => none
  | .register path markup =>
      some { state with lookups.cache := (state.lookups.cache.registerFile path markup).2 }
  | .change edit => some { state with source := edit state.source }

/-- The state behind some operations. -/
def run? (fetching : Fetching World) (state : Service World) (operations : List (Operation World)) :
    Option (Service World) :=
  operations.foldlM (step? fetching) state

end Service

end Stencil
