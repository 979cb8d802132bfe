import Stencil.Template.Error

/-! Templates held in memory, with a record of the fetches. -/

namespace Stencil

/-- Texts by path, and the paths that were fetched. -/
structure MemorySource where
  texts : OrderedMap String := ∅
  fetches : List String := []
deriving Repr, DecidableEq

namespace MemorySource

def name : String := "InMemoryTemplateSource"

def empty : MemorySource := {}

/-- A text is held under a path. -/
def add (source : MemorySource) (path markup : String) : MemorySource :=
  { source with texts := source.texts.insert path markup }

/-- A path holds no text any more. -/
def remove (source : MemorySource) (path : String) : MemorySource :=
  { source with texts := source.texts.erase path }

/-- The text under a path. -/
def find? (source : MemorySource) (path : String) : Option String := source.texts.get? path

def size (source : MemorySource) : Nat := source.texts.size

/-- Failed fetches are counted too. -/
def record (source : MemorySource) (path : String) : MemorySource :=
  { source with fetches := path :: source.fetches }

/-- How often a path was fetched. -/
def fetchCount (source : MemorySource) (path : String) : Nat := source.fetches.count path

/-- How often anything was fetched. -/
def totalFetches (source : MemorySource) : Nat := source.fetches.length

/-- Every fetch is recorded; a path without a text is not found. -/
def fetch (source : MemorySource) (path : String) : Except SourceError String × MemorySource :=
  match source.find? path with
  | some markup => (.ok markup, source.record path)
  | none => (.error (.notFound path), source.record path)

end MemorySource

end Stencil
