import Stencil.Text.Bytes

/-! File trees with symbolic links, and the resolution of paths in them. -/

namespace Stencil

/-- A tree of directories, files and symbolic links. -/
inductive FileTree where
  | file (bytes : ByteArray)
  | directory (children : List (String × FileTree))
  | link (target : String)
deriving Inhabited

/-- The reasons why a path cannot be resolved, read or written. -/
inductive FileFault where
  | missing
  | occupied
  | notDirectory
  | isDirectory
  | nameTooLong
  | linkLoop
  | nulInName
  | notText
  | other (message : String)
deriving Repr, DecidableEq

/-- The text of a fault as the system gives it. -/
def FileFault.message : FileFault → String
  | missing => "No such file or directory (os error 2)"
  | occupied => "File exists (os error 17)"
  | notDirectory => "Not a directory (os error 20)"
  | isDirectory => "Is a directory (os error 21)"
  | nameTooLong => "File name too long (os error 36)"
  | linkLoop => "Too many levels of symbolic links (os error 40)"
  | nulInName => "file name contained an unexpected NUL byte"
  | notText => "stream did not contain valid UTF-8"
  | other message => message

/-- One part of a path between slashes. -/
inductive PathPart where
  | current
  | parent
  | name (name : String)
deriving Repr, DecidableEq

namespace PathPart

/-- What a part of a path says between its slashes. -/
def ofText (text : List Char) : PathPart :=
  if text = [] ∨ text = ['.'] then current
  else if text = ['.', '.'] then parent
  else name (String.ofList text)

/-- The parts of a path; an empty part stands for the directory itself. -/
def ofPath (path : String) : List PathPart := (path.toList.splitOn '/').map ofText

end PathPart

namespace FileTree

/-- The node at the given names, without following links. -/
def at? (tree : FileTree) : List String → Option FileTree
  | [] => some tree
  | name :: rest =>
      match tree with
      | directory children => (children.lookup name).bind (at? · rest)
      | _ => none

/-- The longest name of a directory entry in bytes. -/
def nameLimit : Nat := 255

/-- A path that is read has fewer bytes than this. -/
def pathBound : Nat := 4096

/-- So many links are followed on one way. -/
def linkLimit : Nat := 40

def isAbsolute (path : String) : Bool := path.toList.head? = some '/'

/-- A path is resolved from here, or from the root if it starts with a slash. -/
def startOf (here : List String) (path : String) : List String :=
  if isAbsolute path then [] else here

/-- The parts are followed from a directory to a node that is no link. -/
def walk (tree : FileTree) (links : Nat) (here : List String) (parts : List PathPart) :
    Except FileFault (List String) :=
  match parts with
  | [] => .ok here
  | part :: rest =>
      match tree.at? here with
      | some (directory children) =>
          match part with
          | .current => walk tree links here rest
          | .parent => walk tree links here.dropLast rest
          | .name name =>
              if nameLimit < Text.byteLength name.toList then .error .nameTooLong
              else
                match children.lookup name with
                | none => .error .missing
                | some (link target) =>
                    match links with
                    | 0 => .error .linkLoop
                    | remaining + 1 =>
                        if target = "" then .error .missing
                        else
                          walk tree remaining (startOf here target)
                            (PathPart.ofPath target ++ rest)
                | some _ => walk tree links (here ++ [name]) rest
      | _ => .error .notDirectory
termination_by (links, parts.length)

/-- The names from the root to the node that a path of any length stands for. -/
def canonical (tree : FileTree) (here : List String) (path : String) :
    Except FileFault (List String) :=
  if path = "" then .error .missing
  else if path.toList.contains '\x00' then .error .nulInName
  else walk tree linkLimit (startOf here path) (PathPart.ofPath path)

/-- The bytes of the file at the given names. -/
def readAt (tree : FileTree) (names : List String) : Except FileFault ByteArray :=
  match tree.at? names with
  | some (file bytes) => .ok bytes
  | some (directory _) => .error .isDirectory
  | some (link _) => .error .linkLoop
  | none => .error .missing

/-- The length of a path does not matter if there is a NUL in it. -/
def isTooLong (path : String) : Bool :=
  pathBound ≤ Text.byteLength path.toList && !path.toList.contains '\x00'

/-- The bytes of the file that a path stands for. -/
def read (tree : FileTree) (here : List String) (path : String) : Except FileFault ByteArray :=
  if isTooLong path then .error .nameTooLong
  else
    match tree.canonical here path with
    | .error fault => .error fault
    | .ok names => tree.readAt names

/-- The text of a file; its bytes have to be UTF-8. -/
def decode (bytes : ByteArray) : Except FileFault String :=
  match String.fromUTF8? bytes with
  | some text => .ok text
  | none => .error .notText

/-- The text of the file that a path stands for. -/
def readText (tree : FileTree) (here : List String) (path : String) : Except FileFault String :=
  match tree.read here path with
  | .error fault => .error fault
  | .ok bytes => decode bytes

end FileTree

end Stencil
