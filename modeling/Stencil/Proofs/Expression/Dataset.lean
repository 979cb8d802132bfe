import Stencil.Proofs.Markup.Canonical
import Stencil.Text.Letter
import Stencil.Value.Member

/-! Members of a dataset, and the attributes whose names spell them out. -/

namespace Stencil

namespace Dataset

/-- Every dash announces a capital letter: a small letter stands behind it. -/
def Announces (name : List Char) : Prop :=
  ∀ front back, name = front ++ '-' :: back → ∃ letter ∈ back.head?, letter.isLower = true

/-- Only a first dash needs a small letter right behind it. -/
theorem announces_cons {character : Char} {rest : List Char} :
    Announces (character :: rest) ↔
      (character = '-' → ∃ letter ∈ rest.head?, letter.isLower = true) ∧ Announces rest := by
  constructor
  · intro announces
    have here := fun dash : character = '-' =>
      announces [] rest (by rw [dash, List.nil_append])
    refine ⟨here, fun front back whole => ?_⟩
    exact announces (character :: front) back (by rw [whole, List.cons_append])
  · rintro ⟨here, behind⟩ front back whole
    cases front with
    | nil =>
        obtain ⟨dash, rfl⟩ := List.cons.inj whole
        exact here dash
    | cons first others => exact behind others back (List.cons.inj whole).2

/-- A capital is spelled as a dash and its small letter. -/
theorem spellOut_cons (character : Char) (rest : List Char) :
    spellOut (character :: rest) =
      if character.isUpper then '-' :: character.toLower :: spellOut rest
      else character :: spellOut rest := by
  rw [spellOut, List.flatMap_cons]
  split <;> rfl

theorem ne_dash_of_isLower {character : Char} (small : character.isLower = true) :
    character ≠ '-' := by
  rintro rfl
  cases small

/-- A key is had back from its spelling. -/
theorem camelCase_spellOut {key : List Char} (dashless : '-' ∉ key) :
    camelCase false (spellOut key) = key := by
  induction key with
  | nil => rfl
  | cons character rest inductionHypothesis =>
      obtain ⟨other, dashlessRest⟩ := not_or.mp (List.mem_cons.not.mp dashless)
      rw [spellOut_cons]
      split
      · rename_i capital
        obtain ⟨back, small⟩ := Text.toUpper_toLower capital
        rw [camelCase, camelCase, if_pos rfl, back, inductionHypothesis dashlessRest]
        exact ne_dash_of_isLower small
      · rw [camelCase, if_neg Bool.false_ne_true, inductionHypothesis dashlessRest]
        exact Ne.symm other

/-- The dashes of a spelling stand before the small letters of capitals. -/
theorem announces_spellOut {key : List Char} (dashless : '-' ∉ key) :
    Announces (spellOut key) := by
  induction key with
  | nil =>
      intro front back whole
      exact absurd whole (by simp [spellOut])
  | cons character rest inductionHypothesis =>
      obtain ⟨other, dashlessRest⟩ := not_or.mp (List.mem_cons.not.mp dashless)
      have behind := inductionHypothesis dashlessRest
      rw [spellOut_cons]
      split
      · rename_i capital
        have small := (Text.toUpper_toLower capital).2
        refine announces_cons.mpr ⟨fun _ => ⟨_, rfl, small⟩, announces_cons.mpr ⟨?_, behind⟩⟩
        exact fun dash => absurd dash (ne_dash_of_isLower small)
      · exact announces_cons.mpr ⟨fun dash => absurd dash.symm other, behind⟩

/-- A small name is had back from its key if its dashes announce capitals. -/
theorem spellOut_camelCase {capital : Bool} {name : List Char}
    (small : ∀ character ∈ name, character.isUpper = false) (announces : Announces name)
    (announced : capital = true → ∃ letter ∈ name.head?, letter.isLower = true) :
    spellOut (camelCase capital name) = if capital then '-' :: name else name := by
  -- A dash is put off to the letter behind it, which the flag remembers.
  induction name generalizing capital with
  | nil =>
      cases capital with
      | true =>
          obtain ⟨letter, member, -⟩ := announced rfl
          cases member
      | false => rfl
  | cons character rest inductionHypothesis =>
      obtain ⟨smallHere, smallRest⟩ := List.forall_mem_cons.mp small
      obtain ⟨here, behind⟩ := announces_cons.mp announces
      have unannounced : false = true → ∃ letter ∈ rest.head?, letter.isLower = true :=
        fun impossible => by cases impossible
      cases capital with
      | true =>
          obtain ⟨letter, member, letterSmall⟩ := announced rfl
          cases member
          obtain ⟨back, raised⟩ := Text.toLower_toUpper letterSmall
          rw [camelCase, if_pos rfl, spellOut_cons, if_pos raised, back,
            inductionHypothesis smallRest behind unannounced]
          · rfl
          · exact ne_dash_of_isLower letterSmall
      | false =>
          by_cases dash : character = '-'
          · subst dash
            exact inductionHypothesis smallRest behind fun _ => here rfl
          · rw [camelCase, if_neg Bool.false_ne_true, spellOut_cons, smallHere,
              inductionHypothesis smallRest behind unannounced]
            · rfl
            · exact dash

/-- A name spells a key out if every dash behind its start announces a capital letter. -/
def IsSpelled (name : String) : Prop :=
  ∀ rest, name.toList = attributeStart ++ rest → Announces rest

/-- The key of a name is made of what stands behind the start of all data attributes. -/
theorem key?_eq_some_iff {name key : String} :
    key? name = some key ↔
      ∃ rest, name.toList = attributeStart ++ rest ∧ camelCase false rest = key.toList := by
  rw [key?, Option.map_eq_some_iff]
  constructor
  · rintro ⟨rest, started, rfl⟩
    exact ⟨rest, Text.isPrefixOf?_eq started, String.toList_ofList.symm⟩
  · rintro ⟨rest, whole, named⟩
    exact ⟨rest, by rw [whole, Text.isPrefixOf?_append], by rw [named, String.ofList_toList]⟩

/-- The attribute name of a key stands for that key. -/
theorem key?_attributeName {key : String} (dashless : '-' ∉ key.toList) :
    key? (attributeName key) = some key :=
  key?_eq_some_iff.mpr ⟨_, String.toList_ofList, camelCase_spellOut dashless⟩

/-- Of the names that a dataset has a key from, one spells it out. -/
theorem eq_attributeName_iff {name key : String} (small : Markup.IsSmall name)
    (dashless : '-' ∉ key.toList) :
    name = attributeName key ↔ key? name = some key ∧ IsSpelled name := by
  constructor
  · rintro rfl
    refine ⟨key?_attributeName dashless, fun rest whole => ?_⟩
    rw [attributeName, String.toList_ofList] at whole
    rw [← List.append_cancel_left whole]
    exact announces_spellOut dashless
  · rintro ⟨held, spelled⟩
    obtain ⟨rest, whole, named⟩ := key?_eq_some_iff.mp held
    have smallRest : ∀ character ∈ rest, character.isUpper = false := fun character member =>
      small character (by rw [whole]; exact List.mem_append_right _ member)
    have back : spellOut key.toList = rest := by
      rw [← named]
      exact spellOut_camelCase smallRest (spelled rest whole) fun impossible => by cases impossible
    rw [attributeName, back, ← whole, String.ofList_toList]

/-- The attributes that a dataset has a key from, in their order. -/
def namesOf (names : List String) (key : String) : List String :=
  names.filter fun name => key? name = some key

/-- The entries of a key come from the attributes that stand for it, in their order. -/
theorem filter_entries (attributes : OrderedMap String) (key : String) :
    (entries attributes).filter (·.1 = key) =
      (attributes.entries.filter fun entry => key? entry.1 = some key).map
        fun entry => (key, entry.2) := by
  rw [entries]
  induction attributes.entries with
  | nil => rfl
  | cons entry rest inductionHypothesis =>
      rw [List.filterMap_cons, List.filter_cons]
      cases named : key? entry.1 with
      | none => simpa using inductionHypothesis
      | some other =>
          rw [Option.map_some, List.filter_cons]
          by_cases same : other = key
          · simp [same, inductionHypothesis]
          · simp [same, inductionHypothesis]

end Dataset

/-- What the dataset of an element has under a key. -/
def Value.datasetMember? (element : Element) (key : String) : Option Value :=
  ((Value.node element.node).member? "dataset").bind (·.member? key)

/-- The last attribute from which a dataset has a key gives its value. -/
theorem Value.datasetMember?_eq {element : Element}
    (distinct : element.tag.attributes.keys.Nodup) (key : String) :
    Value.datasetMember? element key =
      ((Dataset.namesOf element.tag.attributes.keys key).getLast?.bind element.tag.get?).map
        Value.string := by
  have read : Value.datasetMember? element key =
      (OrderedMap.ofList ((Dataset.entries element.tag.attributes).map fun entry =>
        (entry.1, Value.string entry.2))).get? key := rfl
  have kept : ((Dataset.entries element.tag.attributes).map fun entry =>
      (entry.1, Value.string entry.2)).filter (·.1 = key) =
        (element.tag.attributes.entries.filter fun entry =>
          Dataset.key? entry.1 = some key).map fun entry => (key, Value.string entry.2) := by
    have chosen := congrArg (List.map fun entry => (entry.1, Value.string entry.2))
      (Dataset.filter_entries element.tag.attributes key)
    rw [List.map_map] at chosen
    rw [List.filter_map]
    exact chosen
  have names : Dataset.namesOf element.tag.attributes.keys key =
      (element.tag.attributes.entries.filter fun entry =>
        Dataset.key? entry.1 = some key).map Prod.fst := List.filter_map
  rw [read, OrderedMap.get?_ofList, kept, names, List.getLast?_map, List.getLast?_map]
  cases last : (element.tag.attributes.entries.filter fun entry =>
      Dataset.key? entry.1 = some key).getLast? with
  | none => rfl
  | some entry =>
      have member := (List.mem_filter.mp (List.mem_of_getLast? last)).1
      have held : element.tag.get? entry.1 = some entry.2 :=
        OrderedMap.get?_of_mem_entries distinct member
      rw [Option.map_some, Option.map_some, Option.map_some, Option.bind_some, held,
        Option.map_some]

/-- The spelling of a key is no attribute if a dataset has the key from none. -/
theorem Dataset.get?_eq_none {tag : Tag} {key : String} (dashless : '-' ∉ key.toList)
    (unnamed : namesOf tag.attributes.keys key = []) : tag.get? (attributeName key) = none := by
  rw [Option.eq_none_iff_forall_ne_some]
  intro value held
  have listed : attributeName key ∈ tag.attributes.keys :=
    OrderedMap.mem_keys_iff.mpr ⟨value, held⟩
  have member : attributeName key ∈ namesOf tag.attributes.keys key :=
    List.mem_filter.mpr ⟨listed, decide_eq_true (key?_attributeName dashless)⟩
  rw [unnamed] at member
  cases member

/-- An element that has its attribute names as their values, which tell them apart. -/
def Dataset.telling (names : List String) : Element :=
  ⟨⟨"", ⟨names.map fun name => (name, name)⟩⟩, []⟩

/-- The element has the given attribute names. -/
theorem Dataset.keys_telling (names : List String) :
    (telling names).tag.attributes.keys = names := by
  rw [telling, OrderedMap.keys, List.map_map]
  exact List.map_id names

/-- Both readings agree for all values exactly if the last name for the key spells it out. -/
theorem Value.datasetMember?_eq_data?_iff {names : List String} (distinct : names.Nodup)
    (small : ∀ name ∈ names, Markup.IsSmall name) {key : String} (dashless : '-' ∉ key.toList) :
    (∀ element : Element, element.tag.attributes.keys = names →
      Value.datasetMember? element key = (element.tag.data? key).map Value.string) ↔
    ∀ name ∈ (Dataset.namesOf names key).getLast?, Dataset.IsSpelled name := by
  have spells {name : String} (member : name ∈ Dataset.namesOf names key) :
      name = Dataset.attributeName key ↔ Dataset.IsSpelled name := by
    obtain ⟨among, named⟩ := List.mem_filter.mp member
    rw [Dataset.eq_attributeName_iff (small name among) dashless]
    exact and_iff_right (of_decide_eq_true named)
  constructor
  · intro agree name last
    have member := List.mem_of_getLast? last
    -- An element in which each attribute holds its own name tells which one was read.
    have keys := Dataset.keys_telling names
    have distinctKeys : (Dataset.telling names).tag.attributes.keys.Nodup := by
      rw [keys]
      exact distinct
    have here := agree (Dataset.telling names) keys
    have entry : (name, name) ∈ (Dataset.telling names).tag.attributes.entries :=
      List.mem_map_of_mem (List.mem_filter.mp member).1
    have held : (Dataset.telling names).tag.get? name = some name :=
      OrderedMap.get?_of_mem_entries distinctKeys entry
    rw [Value.datasetMember?_eq distinctKeys, keys, last, Option.bind_some, held] at here
    obtain ⟨found, read, same⟩ := Option.map_eq_some_iff.mp here.symm
    cases same
    obtain ⟨other, -, both⟩ := List.mem_map.mp (OrderedMap.mem_entries_of_get? read)
    exact (spells member).mp ((congrArg Prod.snd both).symm.trans (congrArg Prod.fst both))
  · intro spelled element keys
    rw [Value.datasetMember?_eq (keys ▸ distinct), keys, Tag.data?]
    cases last : (Dataset.namesOf names key).getLast? with
    | some name =>
        rw [Option.bind_some, (spells (List.mem_of_getLast? last)).mpr (spelled name last)]
    | none =>
        have unnamed := List.getLast?_eq_none_iff.mp last
        rw [Dataset.get?_eq_none dashless (keys ▸ unnamed)]
        rfl

/-- Of two names for one key, the last one spells it out. -/
def twiceNamed : List String := ["data-a--b", "id", "data-a-b"]

/-- With two names for one key, the readings still agree. -/
theorem Value.datasetMember?_eq_data?_iff_twiceNamed :
    twiceNamed.Nodup ∧ (∀ name ∈ twiceNamed, Markup.IsSmall name) ∧ '-' ∉ "aB".toList ∧
      Dataset.namesOf twiceNamed "aB" = ["data-a--b", "data-a-b"] ∧
      ∀ element : Element, element.tag.attributes.keys = twiceNamed →
        Value.datasetMember? element "aB" = (element.tag.data? "aB").map Value.string := by
  have distinct : twiceNamed.Nodup := by decide
  have small : ∀ name ∈ twiceNamed, Markup.IsSmall name := by decide
  have dashless : '-' ∉ "aB".toList := by decide
  have named : Dataset.namesOf twiceNamed "aB" = ["data-a--b", "data-a-b"] := by decide
  refine ⟨distinct, small, dashless, named,
    (Value.datasetMember?_eq_data?_iff distinct small dashless).mpr fun name last => ?_⟩
  rw [named] at last
  cases last
  have spelling : "data-a-b" = Dataset.attributeName "aB" := by decide
  exact ((Dataset.eq_attributeName_iff (small _ (by decide)) dashless).mp spelling).2

/-- A dash before a digit announces no capital letter, but it is lost in the key. -/
def numberedElement : Element := ⟨⟨"p", ⟨[("data-a-1", "x")]⟩⟩, []⟩

/-- A dash before a digit makes the two readings disagree. -/
theorem Value.datasetMember?_numberedElement :
    ¬ ∀ element : Element, element.tag.attributes.keys.Nodup →
      (∀ name ∈ element.tag.attributes.keys, Markup.IsSmall name) →
      ∀ key : String, '-' ∉ key.toList →
        Value.datasetMember? element key = (element.tag.data? key).map Value.string := by
  intro agree
  have small : ∀ name ∈ numberedElement.tag.attributes.keys, Markup.IsSmall name := by decide
  have same := agree numberedElement (by decide) small "a1" (by decide)
  have read : Value.datasetMember? numberedElement "a1" = some (.string "x") := by rfl
  have unread : numberedElement.tag.data? "a1" = none := by decide
  rw [read, unread] at same
  cases same

end Stencil
