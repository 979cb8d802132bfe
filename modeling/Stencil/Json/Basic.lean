/-! JSON values as they are written, with members in order and numbers by their digits. -/

namespace Stencil

/-- A number as it is written; the digits of a part are listed from left to right. -/
structure Numeral where
  negative : Bool := false
  digits : List Nat
  fraction : List Nat := []
  exponent : Option (Bool × List Nat) := none
deriving Repr, DecidableEq

/-- A string or key without content has an escape that names half of a surrogate pair. -/
inductive Json where
  | null
  | bool (value : Bool)
  | number (numeral : Numeral)
  | string (content : Option String)
  | array (items : List Json)
  | object (members : List (Option String × Json))
deriving Repr, Inhabited

namespace Numeral

/-- The number that a list of decimal digits writes. -/
def valueOf (digits : List Nat) : Nat := digits.foldl (fun value digit => value * 10 + digit) 0

/-- The numeral of a natural number, without sign, fraction and exponent. -/
def ofNat (value : Nat) : Numeral :=
  { digits := value.repr.toList.map fun digit => digit.toNat - '0'.toNat }

/-- A numeral without sign, fraction and exponent names a natural number. -/
def natural? (numeral : Numeral) : Option Nat :=
  if numeral.negative = false ∧ numeral.fraction = [] ∧ numeral.exponent = none then
    some (valueOf numeral.digits)
  else none

def digitsText (digits : List Nat) : String := String.join (digits.map Nat.repr)

/-- The numeral as it was written. -/
def text (numeral : Numeral) : String :=
  let sign := if numeral.negative then "-" else ""
  let fraction := if numeral.fraction = [] then "" else "." ++ digitsText numeral.fraction
  let exponent := match numeral.exponent with
    | none => ""
    | some (negative, digits) => "e" ++ (if negative then "-" else "") ++ digitsText digits
  sign ++ digitsText numeral.digits ++ fraction ++ exponent

end Numeral

namespace Json

def ofString (content : String) : Json := string (some content)

def ofNat (value : Nat) : Json := number (.ofNat value)

/-- An object with plain keys. -/
def ofMembers (members : List (String × Json)) : Json :=
  object (members.map fun member => (some member.1, member.2))

/-- The natural number that a value is. -/
def nat? : Json → Option Nat
  | number numeral => numeral.natural?
  | _ => none

def string? : Json → Option String
  | string content => content
  | _ => none

def array? : Json → Option (List Json)
  | array items => some items
  | _ => none

/-- The members of an object whose keys all have content. -/
def members? : Json → Option (List (String × Json))
  | object members => members.mapM fun member => member.1.map (·, member.2)
  | _ => none

/-- The last member of a key counts. -/
def member? (json : Json) (key : String) : Option Json :=
  json.members?.bind fun members => members.reverse.lookup key

mutual
/-- The number of arrays and objects around the innermost value, its own included. -/
def depth : Json → Nat
  | array items => 1 + depthOfAll items
  | object members => 1 + depthOfMembers members
  | _ => 0

def depthOfAll : List Json → Nat
  | [] => 0
  | item :: rest => max item.depth (depthOfAll rest)

def depthOfMembers : List (Option String × Json) → Nat
  | [] => 0
  | (_, value) :: rest => max value.depth (depthOfMembers rest)
end

def hexDigit (value : Nat) : Char := (Nat.toDigits 16 (value % 16)).headD '0'

/-- Quotes, backslashes and control characters are escaped. -/
def escapeCharacter (character : Char) : List Char :=
  match character with
  | '"' => ['\\', '"']
  | '\\' => ['\\', '\\']
  | '\n' => ['\\', 'n']
  | '\r' => ['\\', 'r']
  | '\t' => ['\\', 't']
  | '\x08' => ['\\', 'b']
  | '\x0C' => ['\\', 'f']
  | _ =>
      if character.toNat < 0x20 then
        ['\\', 'u', '0', '0', hexDigit (character.toNat / 16), hexDigit character.toNat]
      else [character]

/-- A text in quotes, with the escapes that JSON needs. -/
def quoted (content : String) : String :=
  "\"" ++ String.ofList (content.toList.flatMap escapeCharacter) ++ "\""

mutual
/-- The written form without blanks. -/
def text : Json → String
  | null => "null"
  | bool value => if value then "true" else "false"
  | number numeral => numeral.text
  | string content => quoted (content.getD "")
  | array items => "[" ++ textOfAll items ++ "]"
  | object members => "\x7b" ++ textOfMembers members ++ "\x7d"

def textOfAll : List Json → String
  | [] => ""
  | [item] => item.text
  | item :: rest => item.text ++ "," ++ textOfAll rest

def textOfMembers : List (Option String × Json) → String
  | [] => ""
  | [(key, value)] => quoted (key.getD "") ++ ":" ++ value.text
  | (key, value) :: rest =>
      quoted (key.getD "") ++ ":" ++ value.text ++ "," ++ textOfMembers rest
end

end Json

end Stencil
