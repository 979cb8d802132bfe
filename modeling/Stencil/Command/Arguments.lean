import Stencil.Text.Decimal
import Stencil.Text.Start

/-! The arguments of the command. -/

namespace Stencil.Command

/-- The options of the command; absent ones were not given. -/
structure Options where
  root : Option String := none
  baseUrl : Option String := none
  block : Option String := none
  context : Option String := none
  blockHtml : Option String := none
  template : Option String := none
  fragment : Option String := none
  config : Option String := none
  codeBasePath : Option String := none
  maxIncludeDepth : Option Nat := none
  noWrap : Bool := false
deriving Repr, DecidableEq

/-- The reasons why arguments yield no options. -/
inductive ArgumentFault where
  | helpWanted
  | versionWanted
  | missingRequired
  | conflict
  | unknownArgument
  | missingValue
  | badNumber
  | surplusValue
deriving Repr, DecidableEq

/-- An option that takes a value. -/
inductive Valued where
  | root
  | baseUrl
  | block
  | context
  | blockHtml
  | template
  | fragment
  | config
  | codeBasePath
  | maxIncludeDepth
deriving Repr, DecidableEq

namespace Valued

/-- The name of an option that takes a value, without its dashes. -/
def flag : Valued → String
  | root => "root"
  | baseUrl => "base-url"
  | block => "block"
  | context => "context"
  | blockHtml => "block-html"
  | template => "template"
  | fragment => "fragment"
  | config => "config"
  | codeBasePath => "code-base-path"
  | maxIncludeDepth => "max-include-depth"

def all : List Valued :=
  [root, baseUrl, block, context, blockHtml, template, fragment, config, codeBasePath,
    maxIncludeDepth]

/-- An option may be given once. -/
def once {α : Type} (held : Option α) (value : α) : Except ArgumentFault (Option α) :=
  match held with
  | some _ => .error .conflict
  | none => .ok (some value)

/-- A file option names a file, so its value is not empty. -/
def path (held : Option String) (value : String) : Except ArgumentFault (Option String) :=
  match held with
  | some _ => .error .conflict
  | none => if value = "" then .error .missingValue else .ok (some value)

/-- Depths take 64 bits and may have a plus sign. -/
def depth (held : Option Nat) (value : String) : Except ArgumentFault (Option Nat) :=
  match held with
  | some _ => .error .conflict
  | none =>
      let digits := match value.toList with
        | '+' :: digits => String.ofList digits
        | _ => value
      match (Text.decimal? digits).filter (· < Nat.pow 2 64) with
      | some number => .ok (some number)
      | none => .error .badNumber

/-- An option stores its value; it may be given once. -/
def store (options : Options) (value : String) : Valued → Except ArgumentFault Options
  | root => (path options.root value).map ({ options with root := · })
  | baseUrl => (once options.baseUrl value).map ({ options with baseUrl := · })
  | block => (once options.block value).map ({ options with block := · })
  | context => (path options.context value).map ({ options with context := · })
  | blockHtml => (path options.blockHtml value).map ({ options with blockHtml := · })
  | template => (once options.template value).map ({ options with template := · })
  | fragment => (once options.fragment value).map ({ options with fragment := · })
  | config => (path options.config value).map ({ options with config := · })
  | codeBasePath => (once options.codeBasePath value).map ({ options with codeBasePath := · })
  | maxIncludeDepth => (depth options.maxIncludeDepth value).map
      ({ options with maxIncludeDepth := · })

end Valued

/-- An option that takes no value. -/
inductive Switch where
  | noWrap
  | help
  | version
deriving Repr, DecidableEq

namespace Switch

/-- The name of an option without a value, without its dashes. -/
def flag : Switch → String
  | noWrap => "no-wrap"
  | help => "help"
  | version => "version"

def all : List Switch := [noWrap, help, version]

/-- An option without a value is turned on, or ends the reading of the arguments. -/
def turn (options : Options) : Switch → Except ArgumentFault Options
  | noWrap => if options.noWrap then .error .conflict else .ok { options with noWrap := true }
  | help => .error .helpWanted
  | version => .error .versionWanted

end Switch

/-- The options so far, the option that waits for its value, and whether only plain arguments
follow. -/
structure Progress where
  options : Options := {}
  named : Option (Valued × Option String) := none
  plainOnly : Bool := false

namespace Progress

/-- The option that was named last is stored before anything else is. -/
def settle (progress : Progress) : Except ArgumentFault Options :=
  match progress.named with
  | none => .ok progress.options
  | some (_, none) => .error .missingValue
  | some (valued, some value) => valued.store progress.options value

/-- A long argument is an option's name, with or without a value behind `=`. -/
def long (progress : Progress) (name : String) (value : Option String) :
    Except ArgumentFault Progress :=
  match Valued.all.find? (·.flag = name), Switch.all.find? (·.flag = name) with
  | some valued, _ => do
      let options ← progress.settle
      match value with
      | none => return { options, named := some (valued, none) }
      | some value => return { options := ← valued.store options value }
  | none, some switch =>
      if value.isSome then .error .surplusValue
      else do
        let options ← progress.settle
        return { options := ← switch.turn options }
  | none, none => .error .unknownArgument

/-- The only short options ask for help and for the version. -/
def short (progress : Progress) (letters : List Char) : Except ArgumentFault Progress :=
  match letters with
  | 'h' :: _ => do
      let options ← progress.settle
      return { options := ← Switch.help.turn options }
  | 'V' :: _ => do
      let options ← progress.settle
      return { options := ← Switch.version.turn options }
  | _ => .error .unknownArgument

/-- A plain argument is the value of the option named before it. -/
def plain (progress : Progress) (argument : String) : Except ArgumentFault Progress :=
  match progress.named with
  | some (valued, none) => .ok { progress with named := some (valued, some argument) }
  | _ => .error .unknownArgument

/-- The next argument is a value, an option or a plain argument. -/
def step (progress : Progress) (argument : String) : Except ArgumentFault Progress :=
  if progress.plainOnly then .error .unknownArgument
  else
    match argument.toList with
    | ['-', '-'] => .ok { progress with plainOnly := true }
    | '-' :: '-' :: rest =>
        let name := String.ofList (rest.takeWhile (· != '='))
        match rest.dropWhile (· != '=') with
        | _ :: value => progress.long name (some (String.ofList value))
        | [] => progress.long name none
    | '-' :: letter :: rest => progress.short (letter :: rest)
    | _ => progress.plain argument

end Progress

/-- Exactly one source has to be given. -/
def checkSources (options : Options) : Except ArgumentFault Options :=
  match options.root, options.baseUrl with
  | some _, some _ => .error .conflict
  | none, none => .error .missingRequired
  | _, _ => .ok options

/-- The options that a list of arguments gives. -/
def parseArguments (arguments : List String) : Except ArgumentFault Options := do
  let progress ← arguments.foldlM Progress.step {}
  let options ← progress.settle
  checkSources options

end Stencil.Command
