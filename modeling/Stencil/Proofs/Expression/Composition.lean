import Stencil.Expression.Evaluate
import Stencil.Text.Split

/-! Paths are put together by dots. -/

namespace Stencil

/-! The segments of a path. -/

namespace Path

open Text

/-- The trimmed segments between the dots of a text. -/
def segments (text : List Char) : List String :=
  (text.splitOn '.').map fun segment => String.ofList (trim segment)

/-- A dot parts the segments before it from those behind it. -/
theorem segments_append_dot (front back : List Char) :
    segments (front ++ '.' :: back) = segments front ++ segments back := by
  have parted := List.splitOnP_append_cons (p := (· == '.')) front back (beq_self_eq_true '.')
  rw [segments, List.splitOn, parted, List.map_append]
  rfl

/-- Blanks in front of a path do not count. -/
theorem segments_blank_append {blanks : List Char}
    (blank : ∀ character ∈ blanks, isBlank character = true) (text : List Char) :
    segments (blanks ++ text) = segments text := by
  induction blanks with
  | nil => rfl
  | cons character rest inductionHypothesis =>
      obtain ⟨here, behind⟩ := List.forall_mem_cons.mp blank
      have different : character ≠ '.' := by
        rintro rfl
        exact absurd here (by decide)
      rw [← inductionHypothesis behind, List.cons_append, segments, splitOn_cons_of_ne different]
      cases split : (rest ++ text).splitOn '.' with
      | nil => exact absurd split (List.splitOn_ne_nil _ _)
      | cons first others =>
          rw [List.modifyHead_cons, List.map_cons, trim_cons_of_isBlank here, segments, split,
            List.map_cons]

/-- Blanks behind a path do not count. -/
theorem segments_append_blank {blanks : List Char}
    (blank : ∀ character ∈ blanks, isBlank character = true) (text : List Char) :
    segments (text ++ blanks) = segments text := by
  have dotless : '.' ∉ blanks := fun member => absurd (blank _ member) (by decide)
  obtain ⟨front, last, alone, followed⟩ := exists_splitOn_append dotless text
  rw [segments, segments, alone, followed, List.map_append, List.map_append, List.map_singleton,
    List.map_singleton, trim_append_of_blank blank]

/-- Trimming the whole path changes nothing, as each segment is trimmed. -/
theorem parse_eq_segments (expression : String) :
    parse expression = segments expression.toList := by
  obtain ⟨front, back, whole, frontBlank, backBlank⟩ := exists_eq_append_trim expression.toList
  have trimmed := congrArg segments whole
  rw [segments_append_blank backBlank, segments_blank_append frontBlank] at trimmed
  exact trimmed.symm

/-- A dot between two paths puts their segments together. -/
theorem parse_append (first second : String) :
    parse (first ++ "." ++ second) = parse first ++ parse second := by
  have whole : (first ++ "." ++ second).toList = first.toList ++ '.' :: second.toList := by simp
  rw [parse_eq_segments, whole, segments_append_dot, parse_eq_segments, parse_eq_segments]

/-- Every path has a first segment. -/
theorem parse_ne_nil (expression : String) : parse expression ≠ [] := by
  rw [parse_eq_segments, segments]
  exact fun empty => List.splitOn_ne_nil _ _ (List.map_eq_nil_iff.mp empty)

section

variable {before after : String} (blankBefore : allBlank before = true)
  (blankAfter : allBlank after = true)
include blankBefore blankAfter

/-- Blanks around a path do not count. -/
theorem parse_blanks_around (expression : String) :
    parse (before ++ expression ++ after) = parse expression := by
  rw [parse_eq_segments, String.toList_append, String.toList_append,
    segments_append_blank (List.all_eq_true.mp blankAfter),
    segments_blank_append (List.all_eq_true.mp blankBefore), parse_eq_segments]

/-- Blanks around a dot do not count. -/
theorem parse_blanks_at_dot (first second : String) :
    parse (first ++ before ++ "." ++ (after ++ second)) = parse (first ++ "." ++ second) := by
  have front : parse (first ++ before) = parse first := by
    rw [parse_eq_segments, String.toList_append,
      segments_append_blank (List.all_eq_true.mp blankBefore), parse_eq_segments]
  have back : parse (after ++ second) = parse second := by
    rw [parse_eq_segments, String.toList_append,
      segments_blank_append (List.all_eq_true.mp blankAfter), parse_eq_segments]
  rw [parse_append, parse_append, front, back]

end

end Path

/-! Walking a path. -/

/-- A resolver that was called, and what it was called with. -/
structure ResolverCall where
  resolver : Resolver
  invocation : Invocation

namespace Answering

variable {World : Type}

/-- A path is walked on from a value, with the resolvers that are called on the way. -/
inductive Walk (answering : Answering World) (context : Context) :
    List String → Value → World → List ResolverCall → Option Value → World → Prop
  | absent {segments : List String} {world : World} :
      Walk answering context segments .null world [] none world
  | ended {value : Value} {world : World} (present : value ≠ .null) :
      Walk answering context [] value world [] (some value) world
  | missing {segment : String} {rest : List String} {value : Value} {world : World}
      (present : value ≠ .null) (nowhere : value.member? segment = none) :
      Walk answering context (segment :: rest) value world [] none world
  | data {segment : String} {rest : List String} {value found : Value} {world after : World}
      {calls : List ResolverCall} {result : Option Value}
      (member : value.member? segment = some found) (data : found.resolver? = none)
      (behind : Walk answering context rest found world calls result after) :
      Walk answering context (segment :: rest) value world calls result after
  | called {segment : String} {rest : List String} {value : Value} {resolver : Resolver}
      {world after : World} {calls : List ResolverCall} {result : Option Value}
      (member : value.member? segment = some (.resolver resolver))
      (behind : Walk answering context rest (answering resolver ⟨value, context⟩ world).1
        (answering resolver ⟨value, context⟩ world).2 calls result after) :
      Walk answering context (segment :: rest) value world
        (⟨resolver, ⟨value, context⟩⟩ :: calls) result after

variable {answering : Answering World} {context : Context}

/-- What is no resolver is its own answer. -/
theorem settle_of_data {found : Value} (data : found.resolver? = none) (receiver : Value) :
    answering.settle context receiver found = pure found := by
  cases found with
  | resolver _ => cases data
  | null | bool _ | number _ | string _ | list _ | map _ | node _ | nodes _ => rfl

/-- Nothing is found behind null. -/
theorem follow_null (segments : List String) :
    answering.follow context segments .null = pure none := by
  cases segments with
  | nil => rfl
  | cons segment rest => rfl

/-- A walk is what the evaluation does. -/
theorem Walk.follow_eq {segments : List String} {value : Value} {world after : World}
    {calls : List ResolverCall} {result : Option Value}
    (walk : Walk answering context segments value world calls result after) :
    answering.follow context segments value world = (result, after) := by
  induction walk with
  | absent => rw [follow_null]; rfl
  | ended present =>
      rw [follow, Value.isNull_eq_false present]
      rfl
  | missing present nowhere => rw [follow, nowhere]; rfl
  | data member data behind inductionHypothesis =>
      rw [follow, member]
      simp only [settle_of_data data, pure_bind]
      exact inductionHypothesis
  | called member behind inductionHypothesis =>
      rw [follow, member]
      exact inductionHypothesis

/-- From every value every path is walked. -/
theorem exists_walk (answering : Answering World) (context : Context) (segments : List String)
    (value : Value) (world : World) :
    ∃ calls result after, Walk answering context segments value world calls result after := by
  -- The induction is on the segments that are left, from any value.
  induction segments generalizing value world with
  | nil =>
      by_cases present : value = .null
      · exact ⟨[], none, world, present ▸ .absent⟩
      · exact ⟨[], some value, world, .ended present⟩
  | cons segment rest inductionHypothesis =>
      by_cases present : value = .null
      · exact ⟨[], none, world, present ▸ .absent⟩
      cases member : value.member? segment with
      | none => exact ⟨[], none, world, .missing present member⟩
      | some found =>
          cases handle : found.resolver? with
          | none =>
              obtain ⟨calls, result, after, behind⟩ := inductionHypothesis found world
              exact ⟨calls, result, after, .data member handle behind⟩
          | some resolver =>
              obtain rfl := Value.eq_resolver_of_resolver? handle
              obtain ⟨calls, result, after, behind⟩ := inductionHypothesis
                (answering resolver ⟨value, context⟩ world).1
                (answering resolver ⟨value, context⟩ world).2
              exact ⟨⟨resolver, ⟨value, context⟩⟩ :: calls, result, after, .called member behind⟩

/-- The calls of a walk are determined. -/
theorem Walk.calls_unique {segments : List String} {value : Value} {world after after' : World}
    {calls calls' : List ResolverCall} {result result' : Option Value}
    (walk : Walk answering context segments value world calls result after)
    (other : Walk answering context segments value world calls' result' after') :
    calls = calls' := by
  -- A rule is determined by the value and the next segment, so that both walks take the same.
  induction walk generalizing calls' result' after' with
  | absent =>
      cases other with
      | absent => rfl
      | ended present => rfl
      | missing present nowhere => rfl
      | data member data behind => cases member
      | called member behind => cases member
  | ended present =>
      cases other with
      | absent => rfl
      | ended present => rfl
  | missing present nowhere =>
      cases other with
      | absent => rfl
      | missing present nowhere => rfl
      | data member data behind => simp [nowhere] at member
      | called member behind => simp [nowhere] at member
  | data member data behind inductionHypothesis =>
      cases other with
      | absent => cases member
      | missing present nowhere => simp [nowhere] at member
      | data member' data' behind' =>
          cases Option.some.inj (member.symm.trans member')
          exact inductionHypothesis behind'
      | called member' behind' =>
          cases Option.some.inj (member.symm.trans member')
          cases data
  | called member behind inductionHypothesis =>
      cases other with
      | absent => cases member
      | missing present nowhere => simp [nowhere] at member
      | data member' data' behind' =>
          cases Option.some.inj (member.symm.trans member')
          cases data'
      | called member' behind' =>
          cases Option.some.inj (member.symm.trans member')
          rw [inductionHypothesis behind']

/-- A longer path goes on from the value of its first part. -/
theorem follow_append (first second : List String) (value : Value) :
    answering.follow context (first ++ second) value =
      answering.follow context first value >>= fun found =>
        found.elim (pure none) (answering.follow context second) := by
  induction first generalizing value with
  | nil =>
      cases value with
      | null => rw [List.nil_append, follow_null, follow_null]; rfl
      | bool _ | number _ | string _ | list _ | map _ | node _ | nodes _ | resolver _ => rfl
  | cons segment rest inductionHypothesis =>
      rw [List.cons_append, follow, follow]
      cases value.member? segment with
      | none => rfl
      | some found => simp only [inductionHypothesis, bind_assoc]

/-- A longer path is resolved by going on from the value of its first part. -/
theorem resolve_append {first : List String} (nonempty : first ≠ []) (second : List String) :
    answering.resolve context (first ++ second) =
      answering.resolve context first >>= fun found =>
        found.elim (pure none) (answering.follow context second) := by
  cases first with
  | nil => exact absurd rfl nonempty
  | cons name rest =>
      rw [List.cons_append, resolve, resolve]
      cases context.get? name with
      | none => rfl
      | some found => simp only [follow_append, bind_assoc]

/-- An action goes on from the answer and the state of the one before it. -/
theorem bind_of_run {α β : Type} {action : StateM World α} {next : α → StateM World β}
    {world behind : World} {answer : α} (ran : action world = (answer, behind)) :
    (action >>= next) world = next answer behind := by
  show next (action world).1 (action world).2 = next answer behind
  rw [ran]

/-- A path with a dot in it goes on, behind the dot, from the value before it. -/
theorem evaluate_append (answering : Answering World) (context : Context)
    (first second : String) (world : World) :
    Path.parse (first ++ "." ++ second) = Path.parse first ++ Path.parse second ∧
    (∀ behind, answering.evaluate context first world = (none, behind) →
      answering.evaluate context (first ++ "." ++ second) world = (none, behind)) ∧
    (∀ value behind, answering.evaluate context first world = (some value, behind) →
      ∃ calls result after,
        answering.evaluate context (first ++ "." ++ second) world = (result, after) ∧
        ∀ calls' result' after',
          Walk answering context (Path.parse second) value behind calls' result' after' ↔
            calls' = calls ∧ result' = result ∧ after' = after) ∧
    (∀ before after, Text.allBlank before = true → Text.allBlank after = true →
      answering.evaluate context (before ++ first ++ after) = answering.evaluate context first ∧
      answering.evaluate context (first ++ before ++ "." ++ (after ++ second)) =
        answering.evaluate context (first ++ "." ++ second)) := by
  -- All clauses follow from how the longer path goes on behind the first part.
  have continued : answering.evaluate context (first ++ "." ++ second) =
      answering.evaluate context first >>= fun found =>
        found.elim (pure none) (answering.follow context (Path.parse second)) := by
    rw [evaluate, Path.parse_append, resolve_append (Path.parse_ne_nil first), evaluate]
  refine ⟨Path.parse_append first second, fun behind nothing => ?_, fun value behind found => ?_,
    fun before after blankBefore blankAfter => ⟨?_, ?_⟩⟩
  · rw [continued, bind_of_run nothing]
    rfl
  · obtain ⟨calls, result, after, walk⟩ :=
      exists_walk answering context (Path.parse second) value behind
    refine ⟨calls, result, after, ?_, fun calls' result' after' => ⟨fun other => ?_, ?_⟩⟩
    · rw [continued, bind_of_run found]
      exact walk.follow_eq
    · obtain ⟨rfl, rfl⟩ := Prod.mk.inj (other.follow_eq.symm.trans walk.follow_eq)
      exact ⟨other.calls_unique walk, rfl, rfl⟩
    · rintro ⟨rfl, rfl, rfl⟩
      exact walk
  · rw [evaluate, Path.parse_blanks_around blankBefore blankAfter, evaluate]
  · rw [evaluate, Path.parse_blanks_at_dot blankBefore blankAfter, evaluate]

/-- A host that counts its calls and answers with the name of the receiver. -/
def nameAnswers : Answering Nat := fun _ invocation calls =>
  (.map ⟨[("full", (invocation.receiver.member? "first").getD .null)]⟩, calls + 1)

/-- A person whose name is given by a resolver. -/
def samplePerson : Value := .map ⟨[("first", .string "Ada"), ("name", .resolver ⟨0⟩)]⟩

/-- A person, and null. -/
def samplePeople : Context := ⟨[("person", samplePerson), ("gone", .null)]⟩

/-- A resolver on the way is called once, and a path behind null leads nowhere. -/
theorem evaluate_append_samplePeople :
    nameAnswers.evaluate samplePeople "person" 0 = (some samplePerson, 0) ∧
      nameAnswers.evaluate samplePeople "person.name.full" 0 = (some (.string "Ada"), 1) ∧
      nameAnswers.evaluate samplePeople "gone" 0 = (none, 0) ∧
      nameAnswers.evaluate samplePeople "gone.name" 0 = (none, 0) ∧
      Text.allBlank " \t" = true ∧
      nameAnswers.evaluate samplePeople "person \t. \tname" =
        nameAnswers.evaluate samplePeople "person.name" := by
  have person : nameAnswers.evaluate samplePeople "person" 0 = (some samplePerson, 0) := rfl
  have gone : nameAnswers.evaluate samplePeople "gone" 0 = (none, 0) := rfl
  have blank : Text.allBlank " \t" = true := by decide
  have present : Value.string "Ada" ≠ .null := by simp
  have walk : Walk nameAnswers samplePeople ["name", "full"] samplePerson 0
      [⟨⟨0⟩, ⟨samplePerson, samplePeople⟩⟩] (some (.string "Ada")) 1 :=
    .called rfl (.data rfl rfl (.ended present))
  obtain ⟨calls, result, after, ran, walks⟩ :=
    (evaluate_append nameAnswers samplePeople "person" "name.full" 0).2.2.1 _ _ person
  obtain ⟨rfl, rfl, rfl⟩ := (walks _ _ _).mp walk
  exact ⟨person, ran, gone,
    (evaluate_append nameAnswers samplePeople "gone" "name" 0).2.1 _ gone, blank,
    ((evaluate_append nameAnswers samplePeople "person" "name" 0).2.2.2 _ _ blank blank).2⟩

end Answering

end Stencil
