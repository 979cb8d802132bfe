import Mathlib.Data.List.Nodup
import Mathlib.Data.List.Range
import Stencil.Proofs.Number.Whole
import Stencil.Render.Stage

/-! The keys of what is repeated over are the keys of its members. -/

namespace Stencil

open Text

namespace Value

/-- Digits are read as the position that they write. -/
theorem sequenceMember?_of_isDigits (items : List Value) {key : String} (digits : IsDigits key) :
    sequenceMember? items key = items[numberOf key]? := by
  have other : key ≠ "length" := by
    rintro rfl
    exact absurd digits (by decide)
  rw [sequenceMember?, if_neg other, decimal?_of_isDigits digits, Option.bind_some]

/-- The members of a sequence are read by position or length. -/
theorem member?_of_indexed {value : Value} {items : List Value}
    (collected : value.collection? = some (.indexed items)) (key : String) :
    value.member? key = sequenceMember? items key := by
  cases value with
  | list _ => cases collected; rfl
  | nodes _ => cases collected; rfl
  | null | bool _ | number _ | string _ | map _ | node _ | resolver _ => cases collected

/-- Only maps have entries with keys of their own. -/
theorem eq_map_of_keyed {value : Value} {entries : List (String × Value)}
    (collected : value.collection? = some (.keyed entries)) : value = .map ⟨entries⟩ := by
  cases value with
  | map _ => cases collected; rfl
  | null | bool _ | number _ | string _ | list _ | node _ | nodes _ | resolver _ => cases collected

end Value

namespace Collection

/-- Each item is listed with its position. -/
theorem getElem?_entriesFrom (items : List Value) (position index : Nat) :
    (entriesFrom position items)[index]? =
      items[index]?.map fun item => ((position + index).repr, item) := by
  induction items generalizing position index with
  | nil => rfl
  | cons item rest inductionHypothesis =>
      cases index with
      | zero => rfl
      | succ index =>
          rw [entriesFrom, List.getElem?_cons_succ, List.getElem?_cons_succ, inductionHypothesis,
            Nat.add_right_comm, Nat.add_assoc]

/-- The keys of a sequence are its positions. -/
theorem keys_entriesFrom (items : List Value) (position : Nat) :
    (entriesFrom position items).map (·.1) = (List.range' position items.length).map Nat.repr := by
  induction items generalizing position with
  | nil => rfl
  | cons item rest inductionHypothesis =>
      rw [entriesFrom, List.map_cons, inductionHypothesis]
      rfl

/-- There are as many entries as the collection counts. -/
theorem length_entries (collection : Collection) :
    collection.entries.length = collection.size := by
  cases collection with
  | indexed items =>
      have lengths := congrArg List.length (keys_entriesFrom items 0)
      rwa [List.length_map, List.length_map, List.length_range'] at lengths
  | keyed entries => rfl

/-- The entry at a position of a sequence has the item that stands there. -/
theorem map_snd_getElem?_entries (items : List Value) (index : Nat) :
    (indexed items).entries[index]?.map Prod.snd = items[index]? := by
  rw [entries, getElem?_entriesFrom, Option.map_map]
  exact Option.map_id'

end Collection

namespace Value

variable {value : Value} {collection : Collection}

/-- No two entries of a collection have the same key. -/
theorem nodup_keys_entries (collected : value.collection? = some collection)
    (distinct : ∀ entries, value = .map entries → entries.keys.Nodup) :
    (collection.entries.map (·.1)).Nodup := by
  cases collection with
  | indexed items =>
      rw [Collection.entries, Collection.keys_entriesFrom]
      exact List.Nodup.map (Function.LeftInverse.injective numberOf_repr) List.nodup_range'
  | keyed entries => exact distinct ⟨entries⟩ (eq_map_of_keyed collected)

/-- The key of an entry leads to its item. -/
theorem member?_of_mem_entries (collected : value.collection? = some collection)
    (distinct : ∀ entries, value = .map entries → entries.keys.Nodup) {entry : String × Value}
    (member : entry ∈ collection.entries) : value.member? entry.1 = some entry.2 := by
  cases collection with
  | indexed items =>
      obtain ⟨index, listed⟩ := List.mem_iff_getElem?.mp member
      rw [Collection.entries, Collection.getElem?_entriesFrom, Nat.zero_add] at listed
      obtain ⟨item, there, rfl⟩ := Option.map_eq_some_iff.mp listed
      rw [member?_of_indexed collected, sequenceMember?_of_isDigits items (isDigits_repr index),
        numberOf_repr, there]
  | keyed entries =>
      have same := eq_map_of_keyed collected
      rw [same]
      exact OrderedMap.get?_of_mem_entries (distinct _ same) member

/-- The copy of a repeat for an entry has its item and its key in scope. -/
theorem get?_bindItem (name : String) (position : Nat) (entry : String × Value)
    (context : Context) :
    (Render.bindItem name position entry context).get? name = some entry.2 ∧
      (Render.bindItem name position entry context).get? (name ++ "Key") =
        some (.string entry.1) := by
  have apart {suffix : String} (nonempty : suffix ≠ "") : name ≠ name ++ suffix := by
    intro same
    have lengths := congrArg String.length same
    rw [String.length_append] at lengths
    exact nonempty (String.length_eq_zero_iff.mp (by omega))
  constructor
  · simp only [Render.bindItem, OrderedMap.insertAll, List.foldl_cons, List.foldl_nil,
      OrderedMap.get?_insert, if_true]
    rw [if_neg (apart (by decide)), if_neg (apart (by decide)), if_neg (apart (by decide))]
  · simp only [Render.bindItem, OrderedMap.insertAll, List.foldl_cons, List.foldl_nil,
      OrderedMap.get?_insert, if_true]

/-- The entries of a collection are exactly its members, also in the scopes of copies. -/
theorem member?_entries (collected : value.collection? = some collection)
    (distinct : ∀ entries, value = .map entries → entries.keys.Nodup) :
    (collection.entries.map (·.1)).Nodup ∧
    (∀ entry ∈ collection.entries, value.member? entry.1 = some entry.2) ∧
    collection.entries.length = collection.size ∧
    (∀ items, collection = .indexed items →
      (collection.size < Number.significandBound → ∃ number,
        value.member? "length" = some (.number number) ∧ number.HasValue collection.size) ∧
      ∀ key, IsDigits key →
        value.member? key = collection.entries[numberOf key]?.map Prod.snd ∧
        (collection.size ≤ numberOf key → value.member? key = none)) ∧
    (∀ entries, collection = .keyed entries → ∀ key item,
      value.member? key = some item → (key, item) ∈ collection.entries) ∧
    ∀ position entry, collection.entries[position]? = some entry → ∀ name context, ∃ key,
      (Render.bindItem name position entry context).get? (name ++ "Key") = some (.string key) ∧
      value.member? key = (Render.bindItem name position entry context).get? name ∧
      ∀ {World : Type} (answering : Answering World) (around : Context) (rest : List String),
        answering.follow around (key :: rest) value =
          answering.settle around value entry.2 >>= answering.follow around rest := by
  -- The clauses about scopes come down to what is found under an entry's key.
  have members := fun entry => @member?_of_mem_entries value collection collected distinct entry
  refine ⟨nodup_keys_entries collected distinct, members, collection.length_entries, ?_, ?_, ?_⟩
  · rintro items rfl
    refine ⟨fun small => ⟨.ofNat items.length, ?_, Number.hasValue_ofNat small⟩,
      fun key digits => ?_⟩
    · rw [member?_of_indexed collected, sequenceMember?, if_pos rfl]
    · rw [member?_of_indexed collected, sequenceMember?_of_isDigits items digits,
        Collection.map_snd_getElem?_entries]
      exact ⟨rfl, fun beyond => List.getElem?_eq_none beyond⟩
  · rintro entries rfl key item held
    rw [eq_map_of_keyed collected] at held
    exact OrderedMap.mem_entries_of_get? held
  · intro position entry listed name context
    have member := members entry (List.mem_of_getElem? listed)
    obtain ⟨itemBound, keyBound⟩ := get?_bindItem name position entry context
    refine ⟨entry.1, keyBound, member.trans itemBound.symm, fun answering around rest => ?_⟩
    rw [Answering.follow, member]

/-- One key is the name of the length, and the others are digits that are no positions. -/
def countedNames : Value :=
  .map ⟨[("length", .string "many"), ("01", .null), ("7", .bool true)]⟩

/-- A text and a comment. -/
def twoNodes : Value := .nodes [.text "a", .comment "b"]

/-- A map may hold its own length, and positions may be written with zeros. -/
theorem member?_entries_countedNames :
    (∃ collection, countedNames.collection? = some collection ∧
      (collection.entries.map (·.1)).Nodup ∧ collection.entries.length = 3 ∧
      countedNames.member? "length" = some (.string "many")) ∧
    ∃ collection, twoNodes.collection? = some collection ∧ collection.size = 2 ∧
      (∃ number, twoNodes.member? "length" = some (.number number) ∧ number.HasValue 2) ∧
      twoNodes.member? "001" = some (.node (.comment "b")) ∧
      twoNodes.member? "18446744073709551616" = none := by
  have named := @member?_entries countedNames _ rfl fun entries same => by
    cases same
    decide
  have counted := @member?_entries twoNodes _ rfl nofun
  obtain ⟨length, positions⟩ := counted.2.2.2.1 _ rfl
  refine ⟨⟨_, rfl, named.1, named.2.2.1, ?_⟩, ⟨_, rfl, rfl, length (by decide), ?_, ?_⟩⟩
  · exact named.2.1 ("length", .string "many") List.mem_cons_self
  · exact (positions "001" (by decide)).1.trans rfl
  · exact (positions "18446744073709551616" (by decide)).2 (by decide +kernel)

end Value

end Stencil
