import Stencil.Files.Tree

/-! Changes of a file tree by paths: directories, files and links. -/

namespace Stencil

namespace FileTree

/-- A node is put at the given names, in place of the node there. -/
def put (tree : FileTree) (node : FileTree) : List String → FileTree
  | [] => node
  | name :: rest =>
      let children := match tree with
        | directory children => children
        | _ => []
      let inner := ((children.lookup name).getD (directory [])).put node rest
      if children.any (·.1 = name) then
        directory (children.map fun child => if child.1 = name then (name, inner) else child)
      else directory (children ++ [(name, inner)])

/-- Whether the names lead to a directory. -/
def isDirectoryAt (tree : FileTree) (names : List String) : Bool :=
  match tree.at? names with
  | some (directory _) => true
  | _ => false

/-- The directory that the parts lead to, made where it is missing. -/
def enter (tree : FileTree) (here : List String) :
    List PathPart → Except FileFault (FileTree × List String)
  | [] => .ok (tree, here)
  | part :: rest =>
      match tree.walk linkLimit here [part], part with
      | .ok there, _ =>
          if tree.isDirectoryAt there then tree.enter there rest else .error .notDirectory
      | .error .missing, .name name =>
          let made := here ++ [name]
          if (tree.at? made).isSome then .error .occupied
          else (tree.put (directory []) made).enter made rest
      | .error fault, _ => .error fault

/-- All directories of a path exist afterwards. -/
def makeDirectories (tree : FileTree) (here : List String) (path : String) :
    Except FileFault FileTree :=
  (tree.enter (startOf here path) (PathPart.ofPath path)).map (·.1)

/-- The parts of a path before its last one. -/
def parentParts (path : String) : List PathPart :=
  ((PathPart.ofPath path).reverse.dropWhile (· = .current)).reverse.dropLast

/-- All directories on the way to the end of a path exist afterwards. -/
def makeParent (tree : FileTree) (here : List String) (path : String) :
    Except FileFault FileTree :=
  (tree.enter (startOf here path) (parentParts path)).map (·.1)

/-- The directory that holds the end of a path, and the name there. -/
def locate (tree : FileTree) (links : Nat) (here : List String) (path : String) :
    Except FileFault (List String × String) :=
  let parts := PathPart.ofPath path
  if path = "" then .error .missing
  else
    match tree.walk links (startOf here path) parts.dropLast, parts.getLast? with
    | .error fault, _ => .error fault
    | .ok parent, some (.name name) =>
        if !tree.isDirectoryAt parent then .error .notDirectory
        else if nameLimit < Text.byteLength name.toList then .error .nameTooLong
        else .ok (parent, name)
    | .ok _, _ => .error .isDirectory

/-- The names that a file at a path is written to, behind all links. -/
def destination (tree : FileTree) (links : Nat) (here : List String) (path : String) :
    Except FileFault (List String) :=
  match tree.locate links here path with
  | .error fault => .error fault
  | .ok (parent, name) =>
      match tree.at? (parent ++ [name]) with
      | some (directory _) => .error .isDirectory
      | some (link target) =>
          match links with
          | 0 => .error .linkLoop
          | remaining + 1 => tree.destination remaining parent target
      | _ => .ok (parent ++ [name])

/-- A file with these bytes replaces the one that the path stands for. -/
def writeFile (tree : FileTree) (here : List String) (path : String) (bytes : ByteArray) :
    Except FileFault FileTree :=
  if isTooLong path then .error .nameTooLong
  else (tree.destination linkLimit here path).map (tree.put (file bytes))

/-- A link is made where nothing is; its target need not exist. -/
def makeLink (tree : FileTree) (here : List String) (path target : String) :
    Except FileFault FileTree :=
  if isTooLong path || isTooLong target then .error .nameTooLong
  else if target = "" then .error .missing
  else
    match tree.locate linkLimit here path with
    | .error fault => .error fault
    | .ok (parent, name) =>
        if (tree.at? (parent ++ [name])).isSome then .error .occupied
        else .ok (tree.put (link target) (parent ++ [name]))

end FileTree

end Stencil
