import Stencil.Proofs.Render.Closed

/-! Two renders that run in step, from different contexts and over different caches. -/

namespace Stencil.Render

variable {World : Type}

/-- An action remembers what was asked for before it. -/
def Remembers {α : Type} (action : Render World α) : Prop :=
  ∀ scene, scene.requested ⊆ (leaves action scene).requested

/-- Steps that only remember more do so one behind the other. -/
theorem Remembers.bind {α β : Type} {action : Render World α} {next : α → Render World β}
    (first : Remembers action) (second : ∀ answer, Remembers (next answer)) :
    Remembers (action >>= next) := by
  intro scene
  have before := first scene
  cases ran : action scene with
  | error cause after =>
      rw [leaves_of_error ran] at before
      rw [leaves_bind_of_error ran]
      exact before
  | ok answer after =>
      rw [leaves_of_ok ran] at before
      rw [leaves_bind_of_ok ran]
      exact List.Subset.trans before (second answer after)

/-- Every part of a render only remembers more. -/
theorem closed_remembers (host : Host World) : ClosedRender host (@Remembers World) where
  pure _ _ := List.Subset.refl _
  bind := Remembers.bind
  evaluate _ _ := List.Subset.refl _
  interpolate _ _ := List.Subset.refl _
  changeContext _ _ := List.Subset.refl _
  inScope change action remembers scene := by
    rw [leaves_inScope]
    exact remembers { scene with context := change scene.context }
  throw _ _ := List.Subset.refl _
  ask _ _ := List.Subset.refl _
  lookUp key scene := by
    rw [leaves_lookUp]
    exact List.subset_append_left _ _

/-- What two runs have in common beside their contexts, and which failures are excused. -/
structure Accord (World : Type) where
  store : Cache × World → Cache × World → Prop
  keys : TemplateKey → Prop
  excused : TemplateError → Prop

namespace Accord

/-- Two scenes with related contexts and related stores. -/
structure Holds (accord : Accord World) (contexts : Context → Context → Prop)
    (left right : Scene World) : Prop where
  context : contexts left.context right.context
  store : accord.store (left.cache, left.world) (right.cache, right.world)

/-- Two runs succeed with related answers or fail alike, unless the first failure is excused. -/
inductive Matched (accord : Accord World) (ends : Context → Context → Prop) {α β : Type}
    (related : α → β → Prop) :
    EStateM.Result TemplateError (Scene World) α →
    EStateM.Result TemplateError (Scene World) β → Prop
  | ok {answer : α} {other : β} {left right : Scene World} (answers : related answer other)
      (holds : accord.Holds ends left right) :
      Matched accord ends related (.ok answer left) (.ok other right)
  | error {cause : TemplateError} {left right : Scene World} :
      Matched accord ends related (.error cause left) (.error cause right)
  | excused {cause : TemplateError} {left : Scene World}
      {result : EStateM.Result TemplateError (Scene World) β} (excused : accord.excused cause) :
      Matched accord ends related (.error cause left) result

/-- From related scenes two actions run in step, if the first asks for allowed keys only. -/
def InStep (accord : Accord World) (starts ends : Context → Context → Prop) {α β : Type}
    (related : α → β → Prop) (first : Render World α) (second : Render World β) : Prop :=
  ∀ left right, accord.Holds starts left right →
    (∀ key ∈ (leaves first left).requested, accord.keys key) →
      Matched accord ends related (first left) (second right)

/-- Two actions that succeed together, whatever they ask for. -/
def Calm (accord : Accord World) (starts ends : Context → Context → Prop) {α β : Type}
    (related : α → β → Prop) (first : Render World α) (second : Render World β) : Prop :=
  ∀ left right, accord.Holds starts left right → ∃ answer after other behind,
    first left = .ok answer after ∧ second right = .ok other behind ∧ related answer other ∧
      accord.Holds ends after behind

/-- The answers of two runs are the same, and have a property. -/
def Same {α : Type} (property : α → Prop) (answer other : α) : Prop :=
  answer = other ∧ property answer

variable {accord : Accord World} {starts middle ends outer : Context → Context → Prop}
  {α β γ δ : Type} {related : α → β → Prop} {relatedNext : γ → δ → Prop}
  {first : Render World α} {second : Render World β} {next : α → Render World γ}
  {nextSecond : β → Render World δ}

theorem calm_pure {answer : α} {other : β} (answers : related answer other) :
    accord.Calm starts starts related (pure answer) (pure other) := fun left right holds =>
  ⟨answer, left, other, right, rfl, rfl, answers, holds⟩

theorem calm_changeContext {change changeSecond : Context → Context}
    (kept : ∀ left right, starts left right → ends (change left) (changeSecond right)) :
    accord.Calm starts ends (fun _ _ => True) (changeContext change)
      (changeContext changeSecond) := fun _ _ holds =>
  ⟨(), _, (), _, rfl, rfl, trivial, kept _ _ holds.context, holds.store⟩

theorem calm_ask {question : Context → α} {questionSecond : Context → β}
    (answers : ∀ left right, starts left right → related (question left) (questionSecond right)) :
    accord.Calm starts starts related (ask question) (ask questionSecond) := fun left right holds =>
  ⟨_, left, _, right, rfl, rfl, answers _ _ holds.context, holds⟩

theorem Calm.inStep (calm : accord.Calm starts ends related first second) :
    accord.InStep starts ends related first second := by
  intro left right holds _
  obtain ⟨answer, after, other, behind, ran, ranSecond, answers, ended⟩ := calm left right holds
  rw [ran, ranSecond]
  exact .ok answers ended

theorem inStep_throw (cause : TemplateError) :
    accord.InStep starts ends related (throw cause) (throw cause) := fun _ _ _ _ => .error

theorem inStep_excused {cause : TemplateError} (excused : accord.excused cause)
    (second : Render World β) : accord.InStep starts ends related (throw cause) second :=
  fun _ _ _ _ => .excused excused

/-- Behind calm actions, their successors run in step. -/
theorem Calm.bind (calm : accord.Calm starts middle related first second)
    (behind : ∀ answer other, related answer other →
      accord.InStep middle ends relatedNext (next answer) (nextSecond other)) :
    accord.InStep starts ends relatedNext (first >>= next) (second >>= nextSecond) := by
  intro left right holds asked
  obtain ⟨answer, after, other, rest, ran, ranSecond, answers, ended⟩ := calm left right holds
  rw [leaves_bind_of_ok ran] at asked
  rw [bind_of_ok ran, bind_of_ok ranSecond]
  exact behind answer other answers after rest ended asked

/-- What the first action asks for is still remembered behind its successor. -/
theorem InStep.bind (step : accord.InStep starts middle related first second)
    (remembers : ∀ answer, Remembers (next answer))
    (behind : ∀ answer other, related answer other →
      accord.InStep middle ends relatedNext (next answer) (nextSecond other)) :
    accord.InStep starts ends relatedNext (first >>= next) (second >>= nextSecond) := by
  intro left right holds asked
  have matched := step left right holds
  cases ran : first left with
  | error cause after =>
      rw [leaves_of_error ran, ran] at matched
      rw [leaves_bind_of_error ran] at asked
      rw [bind_of_error ran]
      -- An excused failure of the first run says nothing of the second.
      generalize other : second right = result at matched
      cases matched asked with
      | error =>
          rw [bind_of_error other]
          exact .error
      | excused excused => exact .excused excused
  | ok answer after =>
      rw [leaves_of_ok ran, ran] at matched
      rw [leaves_bind_of_ok ran] at asked
      rw [bind_of_ok ran]
      generalize other : second right = result at matched
      cases matched fun key held => asked key (remembers answer after held) with
      | ok answers ended =>
          rw [bind_of_ok other]
          exact behind answer _ answers after _ ended asked

theorem InStep.mono {weaker : α → β → Prop}
    (step : accord.InStep starts middle related first second)
    (answers : ∀ answer other, related answer other → weaker answer other)
    (contexts : ∀ left right, middle left right → ends left right) :
    accord.InStep starts ends weaker first second := by
  intro left right holds asked
  have matched := step left right holds asked
  generalize first left = result at matched
  generalize second right = other at matched
  cases matched with
  | ok answer ended => exact .ok (answers _ _ answer) ⟨contexts _ _ ended.context, ended.store⟩
  | error => exact .error
  | excused excused => exact .excused excused

/-- Answers are reworked without a trace. -/
theorem InStep.map (step : accord.InStep starts ends related first second) {rework : α → γ}
    {reworkSecond : β → δ}
    (answers : ∀ answer other, related answer other →
      relatedNext (rework answer) (reworkSecond other)) :
    accord.InStep starts ends relatedNext (first >>= fun answer => pure (rework answer))
      (second >>= fun other => pure (reworkSecond other)) :=
  step.bind (fun _ _ => List.Subset.refl _) fun answer other held =>
    (calm_pure (answers answer other held)).inStep

/-- A scope gives the contexts back in which it started, whatever they become in it. -/
theorem InStep.inScope {change changeSecond : Context → Context}
    (step : accord.InStep middle ends related first second)
    (entered : ∀ left right, starts left right → middle (change left) (changeSecond right)) :
    accord.InStep starts starts related (inScope change first) (inScope changeSecond second) := by
  intro left right holds asked
  rw [leaves_inScope] at asked
  have matched := step { left with context := change left.context }
    { right with context := changeSecond right.context }
    ⟨entered _ _ holds.context, holds.store⟩ asked
  unfold Render.inScope
  generalize first { left with context := change left.context } = result at matched
  generalize second { right with context := changeSecond right.context } = other at matched
  cases matched with
  | ok answers ended => exact .ok answers ⟨holds.context, ended.store⟩
  | error => exact .error
  | excused excused => exact .excused excused

/-- A step that only the first run makes. -/
theorem InStep.before {held : α → Prop}
    (step : accord.InStep starts middle (fun answer _ => held answer) first (pure ()))
    (remembers : ∀ answer, Remembers (next answer)) {other : Render World δ}
    (behind : ∀ answer, held answer → accord.InStep middle ends relatedNext (next answer) other) :
    accord.InStep starts ends relatedNext (first >>= next) other := by
  have whole : accord.InStep starts ends relatedNext (first >>= next)
      (pure () >>= fun _ => other) :=
    step.bind remembers fun answer _ => behind answer
  rw [pure_bind] at whole
  exact whole

/-- A scope that only the first run has. -/
theorem InStep.inScope_first {change : Context → Context} {kept : Context → Prop}
    (step : accord.InStep middle ends related first second)
    (entered : ∀ left right, starts left right → middle (change left) right)
    (before : ∀ left right, starts left right → kept left) :
    accord.InStep starts (fun left _ => kept left) related (Render.inScope change first)
      second := by
  intro left right holds asked
  rw [leaves_inScope] at asked
  have matched := step { left with context := change left.context } right
    ⟨entered _ _ holds.context, holds.store⟩ asked
  unfold Render.inScope
  generalize first { left with context := change left.context } = result at matched
  generalize second right = other at matched
  cases matched with
  | ok answers ended => exact .ok answers ⟨before _ _ holds.context, ended.store⟩
  | error => exact .error
  | excused excused => exact .excused excused

/-- A first run that succeeds is followed by the second. -/
theorem Matched.exists_of_ok {left right : Scene World}
    (matched : Matched accord ends related (first left) (second right)) {answer : α}
    (succeeded : outcome first left = .ok answer) :
    ∃ other, outcome second right = .ok other ∧ related answer other := by
  unfold outcome at succeeded ⊢
  generalize first left = result at matched succeeded
  generalize second right = otherResult at matched ⊢
  cases matched with
  | ok answers ended =>
      cases succeeded
      exact ⟨_, rfl, answers⟩
  | error => cases succeeded
  | excused excused => cases succeeded

/-- Where no failure is excused, runs with the same answers are the same to a caller. -/
theorem Matched.outcome_eq {property : α → Prop} {second : Render World α}
    {left right : Scene World}
    (matched : Matched accord ends (Same property) (first left) (second right))
    (strict : ∀ cause, ¬ accord.excused cause) : outcome first left = outcome second right := by
  unfold outcome
  generalize first left = result at matched
  generalize second right = otherResult at matched
  cases matched with
  | ok answers ended => rw [answers.1]
  | error => rfl
  | excused excused => exact absurd excused (strict _)

end Accord

end Stencil.Render
