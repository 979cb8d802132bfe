/-! Maps from strings that keep the order in which their keys were added. -/

namespace Stencil

/-- The entries stand in the order in which their keys were first inserted. -/
structure OrderedMap (α : Type) where
  entries : List (String × α)
deriving Repr, DecidableEq

namespace OrderedMap

/-- A written entry keeps the place of its key; a new key comes last. -/
def insertEntry {α : Type} (key : String) (value : α) : List (String × α) → List (String × α)
  | [] => [(key, value)]
  | entry :: rest =>
      if entry.1 = key then (key, value) :: rest else entry :: insertEntry key value rest

def empty {α : Type} : OrderedMap α := ⟨[]⟩

instance {α : Type} : EmptyCollection (OrderedMap α) := ⟨empty⟩

instance {α : Type} : Inhabited (OrderedMap α) := ⟨empty⟩

/-- The value of the first entry with a key. -/
def get? {α : Type} (map : OrderedMap α) (key : String) : Option α :=
  map.entries.lookup key

/-- A known key keeps its place, and a new one comes last. -/
def insert {α : Type} (map : OrderedMap α) (key : String) (value : α) : OrderedMap α :=
  ⟨insertEntry key value map.entries⟩

/-- The other entries keep their order. -/
def erase {α : Type} (map : OrderedMap α) (key : String) : OrderedMap α :=
  ⟨map.entries.filter (·.1 ≠ key)⟩

/-- The keys in the order in which they were added. -/
def keys {α : Type} (map : OrderedMap α) : List String := map.entries.map (·.1)

def contains {α : Type} (map : OrderedMap α) (key : String) : Bool :=
  map.entries.any (·.1 = key)

def size {α : Type} (map : OrderedMap α) : Nat := map.entries.length

def isEmpty {α : Type} (map : OrderedMap α) : Bool := map.entries.isEmpty

/-- Entries are inserted from left to right, so the last value of a key wins. -/
def insertAll {α : Type} (map : OrderedMap α) (entries : List (String × α)) : OrderedMap α :=
  entries.foldl (fun filled entry => filled.insert entry.1 entry.2) map

/-- The entries are added one after the other. -/
def ofList {α : Type} (entries : List (String × α)) : OrderedMap α := empty.insertAll entries

@[simp] theorem keys_empty {α : Type} : (∅ : OrderedMap α).keys = [] := rfl

theorem lookup_cons {α : Type} (query key : String) (value : α) (rest : List (String × α)) :
    ((key, value) :: rest).lookup query =
      if query = key then some value else rest.lookup query := by
  rw [List.lookup_cons]
  by_cases same : query = key
  · simp [same]
  · have different : (query == key) = false := by simp [same]
    simp [same, different]

/-- An insertion changes what is read under its own key only. -/
theorem get?_insert {α : Type} (map : OrderedMap α) (key query : String) (value : α) :
    (map.insert key value).get? query = if query = key then some value else map.get? query := by
  obtain ⟨entries⟩ := map
  simp only [insert, get?]
  induction entries with
  | nil => simp [insertEntry, lookup_cons]
  | cons entry rest inductionHypothesis =>
      obtain ⟨first, held⟩ := entry
      by_cases here : first = key
      · subst here
        by_cases same : query = first <;> simp [insertEntry, lookup_cons, same]
      · simp only [insertEntry, here, if_false, lookup_cons, inductionHypothesis]
        by_cases found : query = first
        · simp [found, here]
        · simp [found]

/-- What holds of all entries and of a new one holds of all entries behind its insertion. -/
theorem forall_get?_insert {α : Type} {holds : String → α → Prop} {map : OrderedMap α}
    (each : ∀ key value, map.get? key = some value → holds key value) {key : String} {value : α}
    (here : holds key value) :
    ∀ query found, (map.insert key value).get? query = some found → holds query found := by
  intro query found held
  rw [get?_insert] at held
  split at held
  · rename_i same
    cases held
    exact same ▸ here
  · exact each query found held

/-- What is read under a key is one of the entries. -/
theorem mem_entries_of_get? {α : Type} {map : OrderedMap α} {key : String} {value : α}
    (held : map.get? key = some value) : (key, value) ∈ map.entries := by
  obtain ⟨before, after, whole, -⟩ := List.lookup_eq_some_iff.mp held
  rw [whole]
  simp

/-- An entry is found if no other has its key. -/
theorem get?_of_mem_entries {α : Type} {map : OrderedMap α} (distinct : map.keys.Nodup)
    {key : String} {value : α} (member : (key, value) ∈ map.entries) :
    map.get? key = some value := by
  obtain ⟨entries⟩ := map
  simp only [keys, get?] at distinct member ⊢
  induction entries with
  | nil => cases member
  | cons entry rest inductionHypothesis =>
      obtain ⟨new, distinctBehind⟩ := List.nodup_cons.mp distinct
      obtain ⟨first, held⟩ := entry
      rw [lookup_cons]
      rcases List.mem_cons.mp member with same | behind
      · obtain ⟨rfl, rfl⟩ := Prod.mk.inj same
        rw [if_pos rfl]
      · have listed : key ∈ rest.map (·.1) := List.mem_map_of_mem behind
        have other : key ≠ first := fun same => new (same ▸ listed)
        rw [if_neg other, inductionHypothesis distinctBehind behind]

/-- What is read behind an insertion was inserted or was there before. -/
theorem mem_entries_insert {α : Type} {map : OrderedMap α} {key : String} {value : α}
    {entry : String × α} (member : entry ∈ (map.insert key value).entries) :
    entry = (key, value) ∨ entry ∈ map.entries := by
  obtain ⟨entries⟩ := map
  simp only [insert] at member ⊢
  induction entries with
  | nil => exact .inl (List.mem_singleton.mp member)
  | cons first rest inductionHypothesis =>
      rw [insertEntry] at member
      split at member
      · rcases List.mem_cons.mp member with same | behind
        · exact .inl same
        · exact .inr (List.mem_cons_of_mem _ behind)
      · rcases List.mem_cons.mp member with same | behind
        · exact .inr (same ▸ List.mem_cons_self)
        · exact (inductionHypothesis behind).imp_right (List.mem_cons_of_mem _)

/-- Every entry is one of the map or of those that were added. -/
theorem mem_entries_insertAll {α : Type} (entries : List (String × α)) {map : OrderedMap α}
    {entry : String × α} (member : entry ∈ (map.insertAll entries).entries) :
    entry ∈ entries ∨ entry ∈ map.entries := by
  induction entries generalizing map with
  | nil => exact .inr member
  | cons first rest inductionHypothesis =>
      have inserted : entry ∈ ((map.insert first.1 first.2).insertAll rest).entries := member
      rcases inductionHypothesis inserted with behind | held
      · exact .inl (List.mem_cons_of_mem _ behind)
      · rcases mem_entries_insert held with same | before
        · exact .inl (same ▸ List.mem_cons_self)
        · exact .inr before

theorem mem_entries_ofList {α : Type} {entries : List (String × α)} {entry : String × α}
    (member : entry ∈ (ofList entries).entries) : entry ∈ entries := by
  rcases mem_entries_insertAll entries member with held | held
  · exact held
  · cases held

/-- A map contains the keys that it has values for. -/
theorem contains_eq_isSome_get? {α : Type} (map : OrderedMap α) (key : String) :
    map.contains key = (map.get? key).isSome := by
  obtain ⟨entries⟩ := map
  simp only [contains, get?]
  induction entries with
  | nil => rfl
  | cons entry rest inductionHypothesis =>
      obtain ⟨first, held⟩ := entry
      rw [List.any_cons, lookup_cons, inductionHypothesis]
      by_cases same : key = first
      · simp [same]
      · simp [same, Ne.symm same]

/-- The keys are those under which something is read. -/
theorem mem_keys_iff {α : Type} {map : OrderedMap α} {key : String} :
    key ∈ map.keys ↔ ∃ value, map.get? key = some value := by
  rw [← Option.isSome_iff_exists, ← contains_eq_isSome_get?]
  simp [keys, contains]

/-- Inserting keeps the keys and adds a missing one at the end. -/
theorem keys_insert {α : Type} (map : OrderedMap α) (key : String) (value : α) :
    (map.insert key value).keys = if key ∈ map.keys then map.keys else map.keys ++ [key] := by
  obtain ⟨entries⟩ := map
  simp only [insert, keys]
  induction entries with
  | nil => simp [insertEntry]
  | cons entry rest inductionHypothesis =>
      by_cases here : entry.1 = key
      · simp [insertEntry, here]
      · have different : key ≠ entry.1 := Ne.symm here
        simp only [insertEntry, here, if_false, List.map_cons, List.mem_cons, different, false_or,
          inductionHypothesis]
        split <;> simp_all

/-- Inserting keeps keys distinct. -/
theorem nodup_keys_insert {α : Type} {map : OrderedMap α} (distinct : map.keys.Nodup)
    (key : String) (value : α) : (map.insert key value).keys.Nodup := by
  rw [keys_insert]
  split
  · exact distinct
  · rename_i missing
    rw [List.nodup_append]
    exact ⟨distinct, by simp, by
      intro other member last same
      simp only [List.mem_singleton] at same
      intro equal
      exact missing (by rw [← same, ← equal]; exact member)⟩

/-- The other keys keep their order when one is erased. -/
theorem keys_erase {α : Type} (map : OrderedMap α) (key : String) :
    (map.erase key).keys = map.keys.filter (· ≠ key) := by
  obtain ⟨entries⟩ := map
  simp only [erase, keys, List.filter_map]
  rfl

theorem nodup_keys_erase {α : Type} {map : OrderedMap α} (distinct : map.keys.Nodup)
    (key : String) : (map.erase key).keys.Nodup := by
  rw [keys_erase]
  exact distinct.filter _

/-- An erased key is read no more, and the others are. -/
theorem get?_erase {α : Type} (map : OrderedMap α) (key query : String) :
    (map.erase key).get? query = if query = key then none else map.get? query := by
  obtain ⟨entries⟩ := map
  simp only [erase, get?]
  induction entries with
  | nil => simp
  | cons entry rest inductionHypothesis =>
      obtain ⟨first, held⟩ := entry
      by_cases removed : first = key
      · subst removed
        simp only [List.filter_cons, ne_eq, not_true_eq_false, decide_false, Bool.false_eq_true,
          if_false, inductionHypothesis, lookup_cons]
        split <;> simp_all
      · simp only [List.filter_cons, ne_eq, removed, not_false_eq_true, decide_true, if_true,
          lookup_cons, inductionHypothesis]
        by_cases found : query = first
        · simp [found, removed]
        · simp [found]

theorem erase_comm {α : Type} (map : OrderedMap α) (first second : String) :
    (map.erase first).erase second = (map.erase second).erase first := by
  simp only [erase, List.filter_filter, Bool.and_comm]

/-- An insertion under another key may be made before or behind a removal. -/
theorem insert_erase_of_ne {α : Type} (map : OrderedMap α) {key removed : String}
    (other : key ≠ removed) (value : α) :
    (map.erase removed).insert key value = (map.insert key value).erase removed := by
  obtain ⟨entries⟩ := map
  simp only [insert, erase, OrderedMap.mk.injEq]
  induction entries with
  | nil => simp [insertEntry, other]
  | cons entry rest inductionHypothesis =>
      by_cases gone : entry.1 = removed
      · have apart : entry.1 ≠ key := fun same => other (same ▸ gone)
        rw [insertEntry, if_neg apart, List.filter_cons_of_neg (by simp [gone]),
          List.filter_cons_of_neg (by simp [gone]), inductionHypothesis]
      · rw [List.filter_cons_of_pos (by simp [gone]), insertEntry, insertEntry]
        split
        · rw [List.filter_cons_of_pos (by simp [other])]
        · rw [List.filter_cons_of_pos (by simp [gone]), inductionHypothesis]

/-- The value that is written last is kept. -/
theorem insert_insert {α : Type} (map : OrderedMap α) (key : String) (first second : α) :
    (map.insert key first).insert key second = map.insert key second := by
  obtain ⟨entries⟩ := map
  simp only [insert, OrderedMap.mk.injEq]
  induction entries with
  | nil => simp [insertEntry]
  | cons entry rest inductionHypothesis =>
      by_cases here : entry.1 = key
      · simp [insertEntry, here]
      · simp [insertEntry, here, inductionHypothesis]

/-- A value under a key that is there may be written before or behind another entry. -/
theorem insert_insert_of_mem {α : Type} {map : OrderedMap α} {key other : String}
    (held : key ∈ map.keys) (different : other ≠ key) (value written : α) :
    (map.insert other written).insert key value = (map.insert key value).insert other written := by
  obtain ⟨entries⟩ := map
  simp only [insert, keys, OrderedMap.mk.injEq] at held ⊢
  induction entries with
  | nil => cases held
  | cons entry rest inductionHypothesis =>
      by_cases here : entry.1 = key
      · simp [insertEntry, here, Ne.symm different]
      · by_cases there : entry.1 = other
        · simp [insertEntry, there, different]
        · have behind : key ∈ rest.map (·.1) := by
            rcases List.mem_cons.mp held with same | member
            · exact absurd same.symm here
            · exact member
          simp [insertEntry, here, there, inductionHypothesis behind]

/-- Added entries never make a key stand twice. -/
theorem nodup_keys_insertAll {α : Type} (entries : List (String × α)) {map : OrderedMap α}
    (distinct : map.keys.Nodup) : (map.insertAll entries).keys.Nodup := by
  induction entries generalizing map with
  | nil => exact distinct
  | cons entry rest inductionHypothesis =>
      exact inductionHypothesis (nodup_keys_insert distinct entry.1 entry.2)

/-- No key stands twice in a map made of a list. -/
theorem nodup_keys_ofList {α : Type} (entries : List (String × α)) :
    (ofList entries).keys.Nodup := nodup_keys_insertAll entries (by simp [keys, empty])

/-- A new key comes last. -/
theorem entries_insert_of_notMem {α : Type} {map : OrderedMap α} {key : String}
    (new : key ∉ map.keys) (value : α) :
    (map.insert key value).entries = map.entries ++ [(key, value)] := by
  obtain ⟨entries⟩ := map
  simp only [insert, keys] at new ⊢
  induction entries with
  | nil => rfl
  | cons entry rest inductionHypothesis =>
      simp only [List.map_cons, List.mem_cons, not_or] at new
      simp [insertEntry, Ne.symm new.1, inductionHypothesis new.2]

/-- A new key makes a map larger by one. -/
theorem size_insert_of_get? {α : Type} {map : OrderedMap α} {key : String}
    (missing : map.get? key = none) (value : α) : (map.insert key value).size = map.size + 1 := by
  have new : key ∉ map.keys := by
    rw [mem_keys_iff, missing]
    simp
  rw [size, entries_insert_of_notMem new value, List.length_append]
  rfl

/-- New keys come last, in the order in which they are inserted. -/
theorem entries_insertAll_of_nodup {α : Type} (entries : List (String × α)) {map : OrderedMap α}
    (distinct : (map.keys ++ entries.map (·.1)).Nodup) :
    (map.insertAll entries).entries = map.entries ++ entries := by
  induction entries generalizing map with
  | nil => simp [insertAll]
  | cons entry rest inductionHypothesis =>
      have new : entry.1 ∉ map.keys := by
        intro held
        have apart := (List.nodup_append.mp distinct).2.2 entry.1 held entry.1 (by simp)
        exact apart rfl
      have distinctBehind : ((map.insert entry.1 entry.2).keys ++ rest.map (·.1)).Nodup := by
        rw [keys_insert, if_neg new, List.append_assoc]
        exact distinct
      have step := inductionHypothesis distinctBehind
      rw [entries_insert_of_notMem new, List.append_assoc] at step
      exact step

/-- Entries with distinct keys are kept as they are. -/
theorem ofList_of_nodup {α : Type} {entries : List (String × α)}
    (distinct : (entries.map (·.1)).Nodup) : ofList entries = ⟨entries⟩ := by
  have kept : (empty.insertAll entries).entries = [] ++ entries :=
    entries_insertAll_of_nodup entries (by simpa [keys, empty])
  rw [ofList]
  cases filled : empty.insertAll entries with
  | mk held =>
      rw [filled] at kept
      simpa using kept

/-- Of several entries with one key, the last one is read. -/
theorem get?_insertAll {α : Type} (entries : List (String × α)) (map : OrderedMap α)
    (key : String) :
    (map.insertAll entries).get? key =
      (((entries.filter (·.1 = key)).getLast?).map Prod.snd).or (map.get? key) := by
  induction entries generalizing map with
  | nil => rfl
  | cons entry rest inductionHypothesis =>
      have step := inductionHypothesis (map.insert entry.1 entry.2)
      rw [get?_insert] at step
      rw [show map.insertAll (entry :: rest) = (map.insert entry.1 entry.2).insertAll rest from rfl,
        step]
      by_cases here : entry.1 = key
      · rw [if_pos here.symm, List.filter_cons_of_pos (by simpa using here), List.getLast?_cons]
        cases (rest.filter (·.1 = key)).getLast? <;> rfl
      · rw [if_neg (Ne.symm here), List.filter_cons_of_neg (by simpa using here)]

/-- The last entry of a list decides what is read under its key. -/
theorem get?_ofList {α : Type} (entries : List (String × α)) (key : String) :
    (ofList entries).get? key = ((entries.filter (·.1 = key)).getLast?).map Prod.snd := by
  rw [ofList, get?_insertAll]
  exact Option.or_none

end OrderedMap

end Stencil
