import Stencil.Files.Tree
import Stencil.Template.Error
import Stencil.Text.Start

/-! Template files under a root directory, and the checks that keep fetches below it. -/

namespace Stencil

/-- The canonical root is absent if the root did not exist when the source was made. -/
structure FileSource where
  root : String
  canonicalRoot : Option (List String)
deriving Repr, DecidableEq

namespace FileSource

def name : String := "FilesystemTemplateSource"

/-- A source for a root in a tree. -/
def ofTree (tree : FileTree) (here : List String) (root : String) : FileSource :=
  ⟨root, (tree.canonical here root).toOption⟩

/-- The path without its leading slashes. -/
def relative (path : String) : String := String.ofList (path.toList.dropWhile (· = '/'))

/-- A template path that steps to a parent is refused whatever the tree holds. -/
def climbs (path : String) : Bool :=
  (PathPart.ofPath (relative path)).contains .parent

/-- A relative path below a root. -/
def join (root path : String) : String :=
  if root = "" ∨ root.toList.getLast? = some '/' then root ++ path else root ++ "/" ++ path

/-- A template path is joined to the root without its first slashes. -/
def fullPath (source : FileSource) (path : String) : String := join source.root (relative path)

/-- The place that a fetch reads. -/
inductive Target where
  | canonical (names : List String)
  | path (path : String)
deriving Repr, DecidableEq

/-- The place of a template path; a canonical place outside the root is refused. -/
def target? (source : FileSource) (path : String) (canonical : Option (List String)) :
    Option Target :=
  if climbs path then none
  else
    match canonical, source.canonicalRoot with
    | some names, some root => if root.isPrefixOf names then some (.canonical names) else none
    | _, _ => some (.path (source.fullPath path))

/-- The error for a path that leaves the root. -/
def refused (path : String) : SourceError := .notFound (path ++ " (path traversal blocked)")

/-- What was read is reported as markup, or as the reason why there is none. -/
def report (path : String) : Except FileFault ByteArray → Except SourceError String
  | .error .missing => .error (.notFound path)
  | .error fault => .error (.device (path ++ ": " ++ fault.message))
  | .ok bytes =>
      match String.fromUTF8? bytes with
      | some markup => .ok markup
      | none => .error (.invalidEncoding path)

/-- The bytes at the place that was found for a path. -/
def readTarget (tree : FileTree) (here : List String) : Target → Except FileFault ByteArray
  | .canonical names => tree.readAt names
  | .path path => tree.read here path

/-- The markup that a template path names in a tree. -/
def fetch (source : FileSource) (tree : FileTree) (here : List String) (path : String) :
    Except SourceError String :=
  match source.target? path (tree.canonical here (source.fullPath path)).toOption with
  | none => .error (refused path)
  | some target => report path (readTarget tree here target)

end FileSource

end Stencil
