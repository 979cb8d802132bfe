import Mathlib.Data.List.Induction
import Stencil.Proofs.Expression.Steady
import Stencil.Proofs.Render.Contract

/-! The attributes of a rendered element, and the map that is laid over them. -/

namespace Stencil

variable {World : Type}

namespace OrderedMap

variable {α : Type} {kept : String → Bool} {key : String}

/-- The other keys keep their order when a key is removed. -/
theorem filter_keys_erase (map : OrderedMap α) (dropped : kept key = false) :
    (map.erase key).keys.filter kept = map.keys.filter kept := by
  rw [keys_erase, List.filter_filter]
  apply List.filter_congr
  intro name _
  by_cases here : name = key
  · rw [here, dropped, Bool.false_and]
  · simp [here]

/-- A key that is dropped anyway may be inserted. -/
theorem filter_keys_insert (map : OrderedMap α) (dropped : kept key = false) (value : α) :
    (map.insert key value).keys.filter kept = map.keys.filter kept := by
  rw [keys_insert]
  split
  · rfl
  · rw [List.filter_append, List.filter_cons_of_neg (by simp [dropped]), List.filter_nil,
      List.append_nil]

end OrderedMap

namespace Render

/-- The last of some entries whose key is a name in any case. -/
def lastUnder? (name : String) (entries : List (String × Value)) : Option Value :=
  ((entries.filter fun entry => entry.1.toLower = name).getLast?).map Prod.snd

/-- A value is laid as its text, and null as no attribute. -/
def laidText? (value : Value) : Option String := if value.isNull then none else some value.text

/-- The entry at the end decides if it has the name. -/
theorem lastUnder?_concat (name : String) (front : List (String × Value)) (entry : String × Value) :
    lastUnder? name (front ++ [entry]) =
      if entry.1.toLower = name then some entry.2 else lastUnder? name front := by
  rw [lastUnder?, List.filter_append]
  by_cases here : entry.1.toLower = name
  · rw [if_pos here, List.filter_cons_of_pos (by simpa using here), List.filter_nil,
      List.getLast?_concat, Option.map_some]
  · rw [if_neg here, List.filter_cons_of_neg (by simpa using here), List.filter_nil,
      List.append_nil, lastUnder?]

/-- No entry decides if none has the name. -/
theorem lastUnder?_eq_none {name : String} {entries : List (String × Value)} :
    lastUnder? name entries = none ↔ ∀ entry ∈ entries, entry.1.toLower ≠ name := by
  rw [lastUnder?, Option.map_eq_none_iff, List.getLast?_eq_none_iff, List.filter_eq_nil_iff]
  simp only [decide_eq_true_eq, ne_eq]

/-- Some entry decides if one has the name. -/
theorem isNone_lastUnder?_of_mem {entries : List (String × Value)} {entry : String × Value}
    (member : entry ∈ entries) : (lastUnder? entry.1.toLower entries).isNone = false := by
  rw [Option.isNone_eq_false_iff, Option.isSome_iff_ne_none]
  exact fun missing => lastUnder?_eq_none.mp missing entry member rfl

/-- An entry decides for its own name and no other. -/
theorem get?_overlayEntry (attributes : OrderedMap String) (entry : String × Value)
    (name : String) :
    (overlayEntry attributes entry).get? name =
      if entry.1.toLower = name then laidText? entry.2 else attributes.get? name := by
  rw [overlayEntry, laidText?]
  by_cases here : entry.1.toLower = name
  · rw [if_pos here]
    split
    · rw [OrderedMap.get?_erase, if_pos here.symm]
    · rw [OrderedMap.get?_insert, if_pos here.symm]
  · rw [if_neg here]
    split
    · rw [OrderedMap.get?_erase, if_neg (Ne.symm here)]
    · rw [OrderedMap.get?_insert, if_neg (Ne.symm here)]

/-- The last entry under a name decides. -/
theorem get?_foldl_overlayEntry (attributes : OrderedMap String) (entries : List (String × Value))
    (name : String) :
    (entries.foldl overlayEntry attributes).get? name =
      match lastUnder? name entries with
      | some value => laidText? value
      | none => attributes.get? name := by
  induction entries using List.reverseRecOn with
  | nil => rfl
  | append_singleton front entry inductionHypothesis =>
      rw [List.foldl_append, List.foldl_cons, List.foldl_nil, get?_overlayEntry, lastUnder?_concat,
        inductionHypothesis]
      by_cases here : entry.1.toLower = name
      · rw [if_pos here, if_pos here]
      · rw [if_neg here, if_neg here]

/-- What no entry touches keeps its order. -/
theorem filter_keys_foldl_overlayEntry {kept : String → Bool} (attributes : OrderedMap String)
    {entries : List (String × Value)}
    (touched : ∀ entry ∈ entries, kept entry.1.toLower = false) :
    (entries.foldl overlayEntry attributes).keys.filter kept = attributes.keys.filter kept := by
  induction entries generalizing attributes with
  | nil => rfl
  | cons entry rest inductionHypothesis =>
      obtain ⟨here, behind⟩ := List.forall_mem_cons.mp touched
      rw [List.foldl_cons, inductionHypothesis _ behind, overlayEntry]
      split
      · exact attributes.filter_keys_erase here
      · exact attributes.filter_keys_insert here _

/-- The value that an element lays over its attributes. -/
def laidValue? (host : Host World) (tag : Tag) (scene : Scene World) : Option Value :=
  (tag.get? Directive.attributes).bind fun expression =>
    (host.answering.evaluate scene.context expression scene.world).1

/-- The entries of a map are laid, and nothing of any other value. -/
def laidEntries : Option Value → List (String × Value)
  | some (.map entries) => entries.entries
  | _ => []

/-- Entries are laid over one by one. -/
theorem overlay_eq_foldl (attributes : OrderedMap String) (value? : Option Value) :
    overlay attributes value? = (laidEntries value?).foldl overlayEntry attributes := by
  cases value? with
  | none => rfl
  | some value =>
      cases value with
      | map entries => rfl
      | null | bool | number | string | list | node | nodes | resolver => rfl

/-- An attribute as it is written in a scene. -/
def writtenText (host : Host World) (scene : Scene World) (name authored : String) : String :=
  if Directive.isDirective name then authored
  else (host.answering.interpolate scene.context authored scene.world).1

/-- Texts are written under their own names. -/
theorem lookup_writtenTexts (host : Host World) (scene : Scene World)
    (entries : List (String × String)) (name : String) :
    (entries.map fun entry => (entry.1, writtenText host scene entry.1 entry.2)).lookup name =
      (entries.lookup name).map (writtenText host scene name) := by
  induction entries with
  | nil => rfl
  | cons entry rest inductionHypothesis =>
      obtain ⟨first, authored⟩ := entry
      rw [List.map_cons, OrderedMap.lookup_cons, OrderedMap.lookup_cons, inductionHypothesis]
      by_cases here : name = first
      · rw [if_pos here, if_pos here, Option.map_some, here]
      · rw [if_neg here, if_neg here]

/-- Directives stay as they are, and all other attributes have their placeholders replaced. -/
theorem map_writtenText (host : Host World) (scene : Scene World) (name : String)
    (authored? : Option String) :
    authored?.map (writtenText host scene name) =
      if Directive.isDirective name then authored?
      else authored?.map fun authored =>
        (host.answering.interpolate scene.context authored scene.world).1 := by
  cases authored? with
  | none => rw [Option.map_none, Option.map_none, ite_self]
  | some authored =>
      rw [Option.map_some, writtenText]
      split <;> rfl

section

variable {host : Host World}
  (steady : ∀ resolver invocation, Steady (host.answering resolver invocation))
include steady

/-- The attributes are written one after the other, but as if each were the first. -/
theorem interpolateAttributes_of_steady (start : Scene World) (entries : List (String × String))
    {scene : Scene World} (same : scene.context = start.context) :
    ∃ world, interpolateAttributes host entries scene =
      .ok (entries.map fun entry => (entry.1, writtenText host start entry.1 entry.2))
        { scene with world } := by
  induction entries generalizing scene with
  | nil => exact ⟨scene.world, rfl⟩
  | cons entry rest inductionHypothesis =>
      obtain ⟨name, authored⟩ := entry
      rw [interpolateAttributes, List.map_cons, writtenText]
      split
      · obtain ⟨world, behind⟩ := inductionHypothesis same
        exact ⟨world, bind_of_ok behind _⟩
      · obtain ⟨text, inner, read⟩ := (closed_succeeds host).interpolate authored scene
        obtain ⟨between, rfl⟩ :=
          ((closed_onlyAsks host).interpolate authored).exists_world read
        obtain ⟨world, behind⟩ := @inductionHypothesis { scene with world := between } same
        have written := Answering.steady_interpolate steady scene.context authored scene.world
          start.world
        refine ⟨world, (bind_of_ok read _).trans ((bind_of_ok behind _).trans ?_)⟩
        cases read
        rw [← same, ← written]
        rfl

/-- The stage gives the written attributes with the value laid over them. -/
theorem attributeStage_of_steady (tag : Tag) (scene : Scene World) :
    ∃ world, attributeStage host tag scene =
      .ok ⟨tag.name, overlay
        ⟨(tag.remove Directive.attributes).attributes.entries.map fun entry =>
          (entry.1, writtenText host scene entry.1 entry.2)⟩ (laidValue? host tag scene)⟩
        { scene with world } := by
  obtain ⟨world, written⟩ := interpolateAttributes_of_steady steady scene
    (tag.remove Directive.attributes).attributes.entries rfl
  rw [attributeStage, bind_of_ok written, laidValue?]
  cases tag.get? Directive.attributes with
  | none => exact ⟨world, rfl⟩
  | some expression =>
      have evaluated := evaluate_at host expression { scene with world }
      have value := Answering.steady_evaluate steady scene.context expression world scene.world
      rw [value] at evaluated
      exact ⟨_, bind_of_ok evaluated _⟩

end

/-- Under each name the last entry of the map decides, else the written attribute. -/
theorem attributeStage_exact (host : Host World)
    (steady : ∀ resolver invocation, Steady (host.answering resolver invocation)) {tag : Tag}
    (distinct : tag.attributes.keys.Nodup) (scene : Scene World) :
    let laid := laidEntries (laidValue? host tag scene)
    let untouched := fun name => name != Directive.attributes && (lastUnder? name laid).isNone
    ∃ written world, attributeStage host tag scene = .ok written { scene with world } ∧
      written.name = tag.name ∧ written.attributes.keys.Nodup ∧
      (∀ name, written.get? name =
        match lastUnder? name laid with
        | some value => laidText? value
        | none =>
            if name = Directive.attributes then none
            else if Directive.isDirective name then tag.get? name
            else (tag.get? name).map fun authored =>
              (host.answering.interpolate scene.context authored scene.world).1) ∧
      written.attributes.keys.filter untouched = tag.attributes.keys.filter untouched := by
  intro laid untouched
  obtain ⟨world, ran⟩ := attributeStage_of_steady steady tag scene
  have names : ((tag.remove Directive.attributes).attributes.entries.map fun entry =>
      (entry.1, writtenText host scene entry.1 entry.2)).map Prod.fst =
        (tag.remove Directive.attributes).attributes.keys := by
    rw [List.map_map]
    rfl
  refine ⟨_, world, ran, rfl, ?_, fun name => ?_, ?_⟩
  · apply nodup_keys_overlay
    rw [OrderedMap.keys, names]
    exact OrderedMap.nodup_keys_erase distinct _
  · -- The last entry decides in a fold, and below the map stands what was written.
    rw [Tag.get?, overlay_eq_foldl, get?_foldl_overlayEntry, OrderedMap.get?, lookup_writtenTexts]
    cases lastUnder? name laid with
    | some value => rfl
    | none =>
        show ((tag.remove Directive.attributes).get? name).map _ = _
        rw [Tag.get?_remove]
        by_cases own : name = Directive.attributes
        · rw [if_pos own, if_pos own, Option.map_none]
        · rw [if_neg own, if_neg own]
          exact map_writtenText host scene name _
  · have untouchedOwn : untouched Directive.attributes = false := by simp [untouched]
    have touched : ∀ entry ∈ laid, untouched entry.1.toLower = false := by
      intro entry member
      simp only [untouched, isNone_lastUnder?_of_mem member, Bool.and_false]
    rw [overlay_eq_foldl, filter_keys_foldl_overlayEntry _ touched, OrderedMap.keys, names]
    exact tag.attributes.filter_keys_erase untouchedOwn

/-- Attributes, some of them directives, with a placeholder and a map to lay over them. -/
def coveredTag : Tag :=
  ⟨"p", ⟨[("title", "$\x7ba\x7d-$\x7bgone\x7d"), ("data-fly-attributes", "map"), ("class", "old"),
    ("id", "i"), ("data-fly-unwrap", "$\x7ba\x7d")]⟩⟩

/-- Keys that fall together in small letters, nulls, and the directive's own name. -/
def coveringContext : Context :=
  ⟨[("a", .string "one"), ("map", .map ⟨[("Class", .string "new"), ("ID", .string "two"),
    ("CLASS", .null), ("href", .null), ("HREF", .string "$\x7ba\x7d"),
    ("Data-Fly-Attributes", .string "more")]⟩)]⟩

/-- No resolver answers, and no file is found. -/
def silentHost : Host Unit where
  answering _ _ := pure .null
  fetching path := pure (.error (.notFound path))

/-- The attributes of an element that is covered, one by one. -/
theorem attributeStage_exact_coveredTag :
    (∀ resolver invocation, Steady (silentHost.answering resolver invocation)) ∧
      coveredTag.attributes.keys.Nodup ∧
      ∃ written after, attributeStage silentHost coveredTag ⟨coveringContext, .empty, (), []⟩ =
        .ok written after ∧
        ["title", "class", "id", "data-fly-unwrap", "href", "data-fly-attributes"].map
          written.get? =
          [some "one-", none, some "two", some "$\x7ba\x7d", some "$\x7ba\x7d", some "more"] := by
  have steady : ∀ resolver invocation, Steady (silentHost.answering resolver invocation) :=
    fun _ _ _ _ => rfl
  have distinct : coveredTag.attributes.keys.Nodup := by decide
  obtain ⟨written, world, ran, -, -, held, -⟩ :=
    attributeStage_exact silentHost steady distinct ⟨coveringContext, .empty, (), []⟩
  refine ⟨steady, distinct, written, _, ran, (List.map_congr_left fun name _ => held name).trans ?_⟩
  decide +kernel

end Render

end Stencil
