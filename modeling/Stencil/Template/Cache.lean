import Stencil.Template.File

/-! The cache of templates, and the lookup that fills it in steps. -/

namespace Stencil

/-- The cached templates by identifier, and the files that were registered. -/
structure Cache where
  templates : OrderedMap Template := ∅
  fetched : List String := []
deriving Repr, DecidableEq

namespace Cache

def empty : Cache := {}

/-- The template that is cached under an identifier. -/
def find? (cache : Cache) (id : String) : Option Template := cache.templates.get? id

/-- Whether a file was registered. -/
def isFetched (cache : Cache) (path : String) : Bool := cache.fetched.contains path

def size (cache : Cache) : Nat := cache.templates.size

/-- An identifier keeps the template that came first. -/
def add (templates : OrderedMap Template) (template : Template) : OrderedMap Template :=
  if templates.contains template.id then templates else templates.insert template.id template

/-- The templates of a file are added, and the file counts as fetched. -/
def register (cache : Cache) (path : String) (templates : List Template) : Cache :=
  ⟨templates.foldl add cache.templates,
    if cache.isFetched path then cache.fetched else cache.fetched ++ [path]⟩

/-- The identifiers in alphabetical order. -/
def ids (cache : Cache) : List String :=
  cache.templates.keys.mergeSort fun first second => first ≤ second

/-- The cached template of a key; a registered file without it is an error. -/
def answer (cache : Cache) (key : TemplateKey) : Except TemplateError Template :=
  match cache.find? key.id with
  | some template => .ok template
  | none => .error (.notFound key.id key.path)

/-- The answer to a key when its file need not be fetched. -/
def enter (cache : Cache) (key : TemplateKey) : Option (Except TemplateError Template) :=
  match cache.find? key.id with
  | some template => some (.ok template)
  | none => if cache.isFetched key.path then some (cache.answer key) else none

/-- The answer of the source is registered if it parses, and the key is answered. -/
def receive (cache : Cache) (key : TemplateKey) :
    Except SourceError String → Except TemplateError Template × Cache
  | .error cause => (.error (.fetch key.path cause), cache)
  | .ok markup =>
      match Template.parseFile key.path markup with
      | .error cause => (.error cause, cache)
      | .ok templates =>
          let filled := cache.register key.path templates
          (filled.answer key, filled)

/-- The sizes of the cache as one line. -/
def summary (cache : Cache) : String :=
  s!"TemplateCache \x7b templates: {cache.size}, fetched_paths: {cache.fetched.length} \x7d"

end Cache

/-- How a host fetches files. -/
abbrev Fetching (World : Type) := String → StateM World (Except SourceError String)

/-- One lookup without others beside it: a file is fetched only if it was never registered. -/
def Cache.resolve {World : Type} (fetching : Fetching World) (key : TemplateKey) (cache : Cache) :
    StateM World (Except TemplateError Template × Cache) :=
  match cache.enter key with
  | some answer => pure (answer, cache)
  | none => do
      let fetched ← fetching key.path
      return cache.receive key fetched

end Stencil
