import Stencil.Json.Parse

/-! The settings of a renderer, and their form in JSON. -/

namespace Stencil

/-- The settings of a renderer. -/
structure RenderConfig where
  codeBasePath : String := ""
  maxIncludeDepth : Nat := 64
  wrapTextNodes : Bool := true
deriving Repr, DecidableEq, Inhabited

namespace RenderConfig

/-- A setting that a JSON text gives. -/
inductive Field where
  | codeBasePath
  | maxIncludeDepth
  | wrapTextNodes
deriving Repr, DecidableEq

namespace Field

/-- The key of a setting in JSON. -/
def name : Field → String
  | codeBasePath => "codeBasePath"
  | maxIncludeDepth => "maxIncludeDepth"
  | wrapTextNodes => "wrapTextNodes"

/-- The fields in the order of their places in an array. -/
def all : List Field := [codeBasePath, maxIncludeDepth, wrapTextNodes]

/-- The setting of a key. -/
def named? (key : String) : Option Field := all.find? (·.name = key)

/-- Depths take 64 bits. -/
def depthBound : Nat := Nat.pow 2 64

/-- A field is set if the value is of its type. -/
def set? (config : RenderConfig) : Field → Json → Option RenderConfig
  | codeBasePath, .string (some path) => some { config with codeBasePath := path }
  | maxIncludeDepth, .number numeral =>
      (numeral.natural?.filter (· < depthBound)).map fun depth =>
        { config with maxIncludeDepth := depth }
  | wrapTextNodes, .bool wrap => some { config with wrapTextNodes := wrap }
  | _, _ => none

end Field

/-- A field may be given once; members with other keys are ignored. -/
def ofMembers? (config : RenderConfig) (seen : List Field) :
    List (Option String × Json) → Option RenderConfig
  | [] => some config
  | (none, _) :: _ => none
  | (some key, value) :: rest =>
      match Field.named? key with
      | none => ofMembers? config seen rest
      | some field =>
          if field ∈ seen then none
          else (field.set? config value).bind fun changed => ofMembers? changed (field :: seen) rest

/-- An array gives the first fields in order, and no more than there are. -/
def ofItems? (config : RenderConfig) : List Field → List Json → Option RenderConfig
  | _, [] => some config
  | [], _ :: _ => none
  | field :: fields, value :: rest =>
      (field.set? config value).bind fun changed => ofItems? changed fields rest

/-- Fields that are not given keep their defaults. -/
def ofJson? : Json → Option RenderConfig
  | .object members => ofMembers? {} [] members
  | .array items => ofItems? {} Field.all items
  | _ => none

/-- The settings that a JSON text holds. -/
def read? (source : String) : Option RenderConfig := (Json.parse? source).bind ofJson?

/-- The settings as JSON. -/
def json (config : RenderConfig) : Json :=
  .ofMembers [(Field.codeBasePath.name, .ofString config.codeBasePath),
    (Field.maxIncludeDepth.name, .ofNat config.maxIncludeDepth),
    (Field.wrapTextNodes.name, .bool config.wrapTextNodes)]

end RenderConfig

end Stencil
