import Stencil.Markup.Node

/-! Data attributes by key: `blockName` stands for the attribute `data-block-name`. -/

namespace Stencil

namespace Dataset

def attributeStart : List Char := "data-".toList

/-- A capital letter becomes a dash and the small letter. -/
def spellOut (key : List Char) : List Char :=
  key.flatMap fun character =>
    if character.isUpper then ['-', character.toLower] else [character]

/-- The name of the attribute that holds the data of a key. -/
def attributeName (key : String) : String :=
  String.ofList (attributeStart ++ spellOut key.toList)

/-- Dashes vanish, and the character behind them is capitalised. -/
def camelCase (capital : Bool) : List Char → List Char
  | [] => []
  | '-' :: rest => camelCase true rest
  | character :: rest =>
      (if capital then character.toUpper else character) :: camelCase false rest

/-- The key of a data attribute; other attributes have none. -/
def key? (name : String) : Option String :=
  (attributeStart.isPrefixOf? name.toList).map fun rest =>
    String.ofList (camelCase false rest)

/-- The data of an element by key; the last of two attributes with one key wins. -/
def entries (attributes : OrderedMap String) : List (String × String) :=
  attributes.entries.filterMap fun entry => (key? entry.1).map (·, entry.2)

end Dataset

/-- The data attribute of a key. -/
def Tag.data? (tag : Tag) (key : String) : Option String := tag.get? (Dataset.attributeName key)

end Stencil
