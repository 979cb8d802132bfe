import Stencil.Command.Run
import Stencil.Files.Source

/-! The command line: files are read here, and everything else is decided by the run. -/

namespace Stencil.Command

/-- The fault that an error of the system stands for. -/
def faultOf : IO.Error → FileFault
  | .noFileOrDirectory _ _ _ => .missing
  | .inappropriateType _ code details => .other s!"{details} (os error {code})"
  | .invalidArgument _ code details => .other s!"{details} (os error {code})"
  | .permissionDenied _ code details => .other s!"{details} (os error {code})"
  | .resourceExhausted _ code details => .other s!"{details} (os error {code})"
  | cause => .other cause.toString

/-- The bytes of a file, or the fault of reading it. -/
def readBytes (path : String) : IO (Except FileFault ByteArray) := do
  try
    return .ok (← IO.FS.readBinFile path)
  catch cause =>
    return .error (faultOf cause)

def readFileText (path : String) : IO (Except FileFault String) := do
  return (← readBytes path).bind FileTree.decode

/-- The names from the root to the place of a path, if it exists. -/
def canonicalNames (path : String) : IO (Option (List String)) := do
  try
    let place ← IO.FS.realPath path
    return some ((place.toString.splitOn "/").filter (· ≠ ""))
  catch _ =>
    return none

def absolutePath (names : List String) : String := "/" ++ "/".intercalate names

/-- The template files of the options' source; a base URL has no network behind it here. -/
def fetchTemplate (options : Options) (path : String) : IO (Except SourceError String) := do
  match options.root with
  | none => return .error (.network path "no network")
  | some root =>
      let source : FileSource := ⟨root, ← canonicalNames root⟩
      match source.target? path (← canonicalNames (source.fullPath path)) with
      | none => return .error (FileSource.refused path)
      | some (.canonical names) =>
          return FileSource.report path (← readBytes (absolutePath names))
      | some (.path full) => return FileSource.report path (← readBytes full)

/-- A run is repeated until it asks for no template file that was not fetched yet. -/
partial def runWith (options : Options) (texts : List (String × Except FileFault String))
    (known : List (String × Except SourceError String)) : IO (Except Failure String) := do
  let surroundings : Surroundings :=
    ⟨fun path => (texts.lookup path).getD (.error .missing),
      fun path => (known.lookup path).getD (.error (.notFound path))⟩
  let (outcome, asked) := run surroundings options
  match asked.find? fun path => (known.lookup path).isNone with
  | none => return outcome
  | some path => runWith options texts ((path, ← fetchTemplate options path) :: known)

/-- The help text of the command. -/
def usage : String :=
  "Usage: stencil (--root <DIR> | --base-url <URL>) [--block <NAME>] [--context <FILE>] " ++
    "[--block-html <FILE>] [--template <PATH>] [--fragment <NAME>] [--config <FILE>] " ++
    "[--code-base-path <PATH>] [--max-include-depth <N>] [--no-wrap]"

/-- What the command prints where its arguments are refused. -/
def ArgumentFault.report : ArgumentFault → String
  | helpWanted => usage
  | versionWanted => "stencil"
  | missingRequired => "error: one of --root and --base-url is required"
  | conflict => "error: an option was given twice, or together with one that excludes it"
  | unknownArgument => "error: unexpected argument"
  | missingValue => "error: an option needs a value"
  | badNumber => "error: a number is not valid"
  | surplusValue => "error: an option takes no value"

/-- The files of a run are read, and its output is printed. -/
def execute (arguments : List String) : IO UInt32 := do
  match parseArguments arguments with
  | .error fault =>
      if fault = .helpWanted ∨ fault = .versionWanted then
        IO.println fault.report
        return 0
      else
        IO.eprintln fault.report
        return 2
  | .ok options =>
      let files := [options.config, options.context, options.blockHtml].filterMap id
      let texts ← files.mapM fun path => do return (path, ← readFileText path)
      match ← runWith options texts [] with
      | .ok html =>
          IO.println html
          return 0
      | .error failure =>
          IO.eprintln s!"stencil: {failure.message}"
          return 1

end Stencil.Command

def main (arguments : List String) : IO UInt32 := Stencil.Command.execute arguments
