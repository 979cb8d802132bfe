import Stencil.Proofs.Expression.Made
import Stencil.Proofs.Expression.Substitution
import Stencil.Text.Letter

/-! Evaluation of data, which asks no host and reads certain keys only. -/

namespace Stencil

/-- A value without resolvers, with certain keys in its maps and nodes only where allowed. -/
inductive Value.Data (keys : String → Prop) (withNodes : Prop) : Value → Prop
  | null : Data keys withNodes .null
  | bool (value : Bool) : Data keys withNodes (.bool value)
  | number (value : Number) : Data keys withNodes (.number value)
  | string (content : String) : Data keys withNodes (.string content)
  | list {items : List Value} (each : ∀ item ∈ items, Data keys withNodes item) :
      Data keys withNodes (.list items)
  | map {entries : OrderedMap Value} (named : ∀ entry ∈ entries.entries, keys entry.1)
      (each : ∀ entry ∈ entries.entries, Data keys withNodes entry.2) :
      Data keys withNodes (.map entries)
  | node (allowed : withNodes) (content : Node) : Data keys withNodes (.node content)
  | nodes (allowed : withNodes) (content : List Node) : Data keys withNodes (.nodes content)

/-- The value at the end of a path, without a host. -/
def Value.follow? : List String → Value → Option Value
  | [], value => if value.isNull then none else some value
  | segment :: rest, value => (value.member? segment).bind (follow? rest)

namespace Context

/-- The value that a path leads to in a context of data. -/
def read? (context : Context) : List String → Option Value
  | [] => none
  | first :: rest => (context.get? first).bind (Value.follow? rest)

/-- The value of an expression, without a host. -/
def valueOf? (context : Context) (expression : String) : Option Value :=
  context.read? (Path.parse expression)

/-- The text that a piece stands for, without a host. -/
def pieceText (context : Context) : Piece → String
  | .literal content => String.ofList content
  | .escaped body => String.ofList (Placeholder.write body)
  | .placeholder body => ((context.read? (Piece.path body)).map Value.text).getD ""

/-- The text of pieces in a context of data. -/
def joinPieces (context : Context) : List Piece → String
  | [] => ""
  | piece :: rest => context.pieceText piece ++ context.joinPieces rest

/-- A text with its placeholders replaced, without a host. -/
def fill (context : Context) (text : String) : String :=
  let pieces := Piece.scan text.toList
  if hasPlaceholders pieces then context.joinPieces pieces else text

end Context

/-- The keys of a dataset are without dashes. -/
theorem Dataset.dash_notMem_camelCase (capital : Bool) (name : List Char) :
    '-' ∉ camelCase capital name := by
  induction name generalizing capital with
  | nil => simp [camelCase]
  | cons character rest inductionHypothesis =>
      by_cases dash : character = '-'
      · subst dash
        exact inductionHypothesis true
      · simp only [camelCase, List.mem_cons, not_or]
        refine ⟨?_, inductionHypothesis false⟩
        cases capital
        · exact Ne.symm dash
        · exact Ne.symm (Text.toUpper_ne_dash dash)

/-- No entry of a dataset has a dash in its key. -/
theorem Dataset.dash_notMem_of_mem_entries {attributes : OrderedMap String}
    {entry : String × String} (member : entry ∈ entries attributes) : '-' ∉ entry.1.toList := by
  obtain ⟨source, -, made⟩ := List.mem_filterMap.mp member
  obtain ⟨key, named, rfl⟩ := Option.map_eq_some_iff.mp made
  obtain ⟨rest, -, rfl⟩ := Option.map_eq_some_iff.mp named
  rw [String.toList_ofList]
  exact dash_notMem_camelCase false rest

namespace Value

variable {keys : String → Prop} {withNodes : Prop}

theorem Data.settle {World : Type} {value : Value} (data : value.Data keys withNodes)
    (answering : Answering World) (context : Context) (receiver : Value) :
    answering.settle context receiver value = pure value := by
  cases data <;> rfl

/-- The material of data. -/
def Data.material (keys : String → Prop) (withNodes : Prop) : Material where
  keys := keys
  nodes _ := withNodes
  resolvers := False

/-- Data is what is made of the material of data. -/
theorem data_iff_made {value : Value} :
    value.Data keys withNodes ↔ value.Made (Data.material keys withNodes) := by
  constructor
  · intro data
    induction data with
    | null => exact .null
    | bool value => exact .bool value
    | number value => exact .number value
    | string content => exact .string content
    | list _ inductionHypothesis => exact .list inductionHypothesis
    | map named _ inductionHypothesis => exact .map named inductionHypothesis
    | node allowed content => exact .node allowed
    | nodes allowed content => exact .nodes ⟨.text "", allowed⟩ fun _ _ => allowed
  · intro made
    induction made with
    | null => exact .null
    | bool value => exact .bool value
    | number value => exact .number value
    | string content => exact .string content
    | list _ inductionHypothesis => exact .list inductionHypothesis
    | map named _ inductionHypothesis => exact .map named inductionHypothesis
    | node allowed => exact .node allowed _
    | nodes withNodes _ => exact .nodes withNodes.choose_spec _
    | resolver impossible => exact impossible.elim

/-- The data of a node has keys without dashes. -/
theorem Data.closed_material (dashless : ∀ key : String, '-' ∉ key.toList → keys key) :
    (Data.material keys withNodes).Closed where
  child allowed _ _ := allowed
  data _ _ member := dashless _ (Dataset.dash_notMem_of_mem_entries member)

/-- Members of data are data. -/
theorem Data.member? {value : Value} (data : value.Data keys withNodes)
    (dashless : ∀ key : String, '-' ∉ key.toList → keys key) {key : String} {found : Value}
    (held : value.member? key = some found) : found.Data keys withNodes :=
  data_iff_made.mpr ((data_iff_made.mp data).member? (closed_material dashless) held)

/-- The items of data are data. -/
theorem Data.collection? {value : Value} (data : value.Data keys withNodes)
    {collection : Collection} (held : value.collection? = some collection) :
    ∀ entry ∈ collection.entries, entry.2.Data keys withNodes := fun entry member =>
  data_iff_made.mpr ((data_iff_made.mp data).collection? held entry member)

/-- A path into data leads to data. -/
theorem Data.follow? (dashless : ∀ key : String, '-' ∉ key.toList → keys key)
    (segments : List String) {value found : Value} (data : value.Data keys withNodes)
    (held : value.follow? segments = some found) : found.Data keys withNodes := by
  induction segments generalizing value with
  | nil =>
      rw [Value.follow?] at held
      split at held
      · cases held
      · cases held
        exact data
  | cons segment rest inductionHypothesis =>
      obtain ⟨next, member, behind⟩ := Option.bind_eq_some_iff.mp held
      exact inductionHypothesis (data.member? dashless member) behind

/-- A path into data is followed without the host. -/
theorem Data.follow_eq {World : Type} (dashless : ∀ key : String, '-' ∉ key.toList → keys key)
    (answering : Answering World) (context : Context) (segments : List String) {value : Value}
    (data : value.Data keys withNodes) :
    answering.follow context segments value = pure (value.follow? segments) := by
  induction segments generalizing value with
  | nil => rfl
  | cons segment rest inductionHypothesis =>
      cases member : value.member? segment with
      | none => simp only [Answering.follow, Value.follow?, member, Option.bind_none]
      | some next =>
          have inner := data.member? dashless member
          have settled := inner.settle answering context value
          simp only [Answering.follow, Value.follow?, member, settled, pure_bind, Option.bind_some]
          exact inductionHypothesis inner

end Value

namespace Context

/-- Under the keys that are read, two contexts hold the same values, which are data. -/
def AgreeOn (reads : String → Prop) (keys : String → Prop) (withNodes : Prop)
    (left right : Context) : Prop :=
  ∀ key, reads key → left.get? key = right.get? key ∧
    ∀ value, left.get? key = some value → value.Data keys withNodes

variable {reads keys : String → Prop} {withNodes : Prop} {left right : Context}

theorem AgreeOn.symm (agree : AgreeOn reads keys withNodes left right) :
    AgreeOn reads keys withNodes right left := fun key read =>
  ⟨(agree key read).1.symm, fun value held =>
    (agree key read).2 value ((agree key read).1.trans held)⟩

/-- Writing the same data under one key keeps the agreement. -/
theorem AgreeOn.insert (agree : AgreeOn reads keys withNodes left right) (key : String)
    {value : Value} (data : value.Data keys withNodes) :
    AgreeOn reads keys withNodes (left.insert key value) (right.insert key value) := by
  intro query read
  rw [OrderedMap.get?_insert, OrderedMap.get?_insert]
  split
  · refine ⟨rfl, fun held same => ?_⟩
    cases same
    exact data
  · exact agree query read

/-- What is written under a key that is not read does not matter. -/
theorem AgreeOn.insert_unread (agree : AgreeOn reads keys withNodes left right) {key : String}
    (unread : ¬ reads key) (first second : Value) :
    AgreeOn reads keys withNodes (left.insert key first) (right.insert key second) := by
  intro query read
  have other : query ≠ key := fun same => unread (same ▸ read)
  rw [OrderedMap.get?_insert, OrderedMap.get?_insert, if_neg other, if_neg other]
  exact agree query read

/-- A path whose first key is known leads to the same value in both contexts. -/
theorem AgreeOn.read?_eq (agree : AgreeOn reads keys withNodes left right) {path : List String}
    (known : ∀ key ∈ path.head?, reads key) : left.read? path = right.read? path := by
  cases path with
  | nil => rfl
  | cons first rest => rw [read?, read?, (agree first (known first rfl)).1]

/-- Contexts that agree give the same value to an expression. -/
theorem AgreeOn.valueOf?_eq (agree : AgreeOn reads keys withNodes left right)
    {expression : String} (known : ∀ key ∈ Path.readKeys expression, reads key) :
    left.valueOf? expression = right.valueOf? expression :=
  agree.read?_eq fun key first => known key (Option.mem_toList.mpr first)

/-- Pieces whose keys are known have the same text in both contexts. -/
theorem AgreeOn.joinPieces_eq (agree : AgreeOn reads keys withNodes left right)
    (pieces : List Piece) (known : ∀ key ∈ pieces.flatMap Piece.readKeys, reads key) :
    left.joinPieces pieces = right.joinPieces pieces := by
  induction pieces with
  | nil => rfl
  | cons piece rest inductionHypothesis =>
      have behind := inductionHypothesis fun key member =>
        known key (List.mem_append_right _ member)
      have here : left.pieceText piece = right.pieceText piece := by
        cases piece with
        | literal content => rfl
        | escaped body => rfl
        | placeholder body =>
            have first : ∀ key ∈ (Piece.path body).head?, reads key := fun key held =>
              known key (List.mem_append_left _ (Option.mem_toList.mpr held))
            rw [pieceText, pieceText, agree.read?_eq first]
      rw [joinPieces, joinPieces, here, behind]

/-- Contexts that agree fill a text in the same way. -/
theorem AgreeOn.fill_eq (agree : AgreeOn reads keys withNodes left right) {text : String}
    (known : ∀ key ∈ Placeholder.readKeys text, reads key) : left.fill text = right.fill text := by
  simp only [fill, agree.joinPieces_eq (Piece.scan text.toList) known]

variable (dashless : ∀ key : String, '-' ∉ key.toList → keys key)
include dashless

/-- The address of a template is data. -/
theorem data_templateValue (path name : String) :
    (templateValue path name).Data keys withNodes :=
  Value.data_iff_made.mpr
    (made_templateValue (dashless "path" (by decide)) (dashless "name" (by decide)) path name)

/-- A path is read off the context, without a question to the host. -/
theorem AgreeOn.resolve_eq {World : Type} (agree : AgreeOn reads keys withNodes left right)
    (answering : Answering World) {path : List String} (known : ∀ key ∈ path.head?, reads key) :
    answering.resolve left path = pure (left.read? path) := by
  cases path with
  | nil => rfl
  | cons first rest =>
      cases held : left.get? first with
      | none => simp only [Answering.resolve, read?, held, Option.bind_none]
      | some value =>
          have data := (agree first (known first rfl)).2 value held
          simp only [Answering.resolve, read?, held, data.settle, pure_bind, Option.bind_some]
          exact data.follow_eq dashless answering left rest

/-- An expression is evaluated without the host, to data. -/
theorem AgreeOn.evaluate_eq {World : Type} (agree : AgreeOn reads keys withNodes left right)
    (answering : Answering World) {expression : String}
    (known : ∀ key ∈ Path.readKeys expression, reads key) :
    answering.evaluate left expression = pure (left.valueOf? expression) :=
  agree.resolve_eq dashless answering fun key first => known key (Option.mem_toList.mpr first)

/-- What a known expression leads to is data. -/
theorem AgreeOn.data_valueOf? (agree : AgreeOn reads keys withNodes left right)
    {expression : String} (known : ∀ key ∈ Path.readKeys expression, reads key) {value : Value}
    (found : left.valueOf? expression = some value) : value.Data keys withNodes := by
  rw [valueOf?] at found
  rw [Path.readKeys] at known
  cases path : Path.parse expression with
  | nil =>
      rw [path] at found
      cases found
  | cons first rest =>
      rw [path] at found known
      obtain ⟨held, here, followed⟩ := Option.bind_eq_some_iff.mp found
      have data := (agree first (known first List.mem_cons_self)).2 held here
      exact data.follow? dashless rest followed

/-- Pieces are written from the context, without a question to the host. -/
theorem AgreeOn.join_eq {World : Type} (agree : AgreeOn reads keys withNodes left right)
    (answering : Answering World) (pieces : List Piece)
    (known : ∀ key ∈ pieces.flatMap Piece.readKeys, reads key) :
    answering.joinPieces left pieces = pure (left.joinPieces pieces) := by
  induction pieces with
  | nil => rfl
  | cons piece rest inductionHypothesis =>
      have behind := inductionHypothesis fun key member =>
        known key (List.mem_append_right _ member)
      have here : answering.pieceText left piece = pure (left.pieceText piece) := by
        cases piece with
        | literal content => rfl
        | escaped body => rfl
        | placeholder body =>
            have first : ∀ key ∈ (Piece.path body).head?, reads key := fun key held =>
              known key (List.mem_append_left _ (Option.mem_toList.mpr held))
            simp only [Answering.pieceText, pieceText, agree.resolve_eq dashless answering first,
              pure_bind]
      simp only [Answering.joinPieces, here, behind, pure_bind, joinPieces]

/-- A text is filled without the host. -/
theorem AgreeOn.interpolate_eq {World : Type} (agree : AgreeOn reads keys withNodes left right)
    (answering : Answering World) {text : String}
    (known : ∀ key ∈ Placeholder.readKeys text, reads key) :
    answering.interpolate left text = pure (left.fill text) := by
  have joined := agree.join_eq dashless answering (Piece.scan text.toList) known
  simp only [Answering.interpolate, Answering.interpolate?_eq, fill]
  split
  · simp only [joined, map_pure, pure_bind, Option.getD_some]
  · simp only [pure_bind, Option.getD_none]

end Context

end Stencil
