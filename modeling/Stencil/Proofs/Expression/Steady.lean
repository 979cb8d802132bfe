import Stencil.Proofs.Expression.Substitution
import Stencil.Render.Scene

/-! Hosts whose answers do not depend on their state. -/

namespace Stencil

variable {World α β : Type}

/-- An action whose answer is the same in every state. -/
def Steady (action : StateM World α) : Prop := ∀ first second, (action first).1 = (action second).1

/-- An answer alone depends on no state. -/
theorem steady_pure (answer : α) : Steady (pure answer : StateM World α) := fun _ _ => rfl

/-- Steady steps make a steady action. -/
theorem Steady.bind {action : StateM World α} {next : α → StateM World β} (steady : Steady action)
    (behind : ∀ answer, Steady (next answer)) : Steady (action >>= next) := by
  intro first second
  have same := steady first second
  show (next (action first).1 (action first).2).1 = (next (action second).1 (action second).2).1
  rw [same]
  exact behind _ _ _

/-- A host that answers a resolver and a fetch the same way every time. -/
structure Host.Steady (host : Host World) : Prop where
  answering : ∀ resolver invocation, Stencil.Steady (host.answering resolver invocation)
  fetching : ∀ path, Stencil.Steady (host.fetching path)

namespace Answering

variable {answering : Answering World}
  (steady : ∀ resolver invocation, Steady (answering resolver invocation))
include steady

/-- The answer of a resolver depends on the call alone. -/
theorem steady_settle (context : Context) (receiver value : Value) :
    Steady (answering.settle context receiver value) := by
  unfold settle
  split
  · exact steady _ _
  · exact steady_pure _

/-- Following a path is steady, by induction on its segments. -/
theorem steady_follow (context : Context) (segments : List String) (value : Value) :
    Steady (answering.follow context segments value) := by
  induction segments generalizing value with
  | nil => exact steady_pure _
  | cons segment rest inductionHypothesis =>
      unfold follow
      cases value.member? segment with
      | none => exact steady_pure none
      | some found =>
          apply (steady_settle steady context value found).bind
          intro settled
          exact inductionHypothesis settled

/-- The value of a path depends on the context alone. -/
theorem steady_resolve (context : Context) (segments : List String) :
    Steady (answering.resolve context segments) := by
  cases segments with
  | nil => exact steady_pure none
  | cons first rest =>
      simp only [resolve]
      cases context.get? first with
      | none => exact steady_pure none
      | some found =>
          apply (steady_settle steady context context.value found).bind
          intro settled
          exact steady_follow steady context rest settled

/-- The value of an expression depends on the context alone. -/
theorem steady_evaluate (context : Context) (expression : String) :
    Steady (answering.evaluate context expression) :=
  steady_resolve steady context _

theorem steady_pieceText (context : Context) (piece : Piece) :
    Steady (answering.pieceText context piece) := by
  cases piece with
  | literal content => exact steady_pure _
  | escaped body => exact steady_pure _
  | placeholder body =>
      apply (steady_resolve steady context _).bind
      intro found
      exact steady_pure _

/-- The text of pieces depends on the context alone. -/
theorem steady_joinPieces (context : Context) (pieces : List Piece) :
    Steady (answering.joinPieces context pieces) := by
  induction pieces with
  | nil => exact steady_pure ""
  | cons piece rest inductionHypothesis =>
      apply (steady_pieceText steady context piece).bind
      intro first
      apply inductionHypothesis.bind
      intro others
      exact steady_pure _

/-- The interpolated text depends on the context alone. -/
theorem steady_interpolate (context : Context) (text : String) :
    Steady (answering.interpolate context text) := by
  have written : Steady (answering.interpolate? context text) := by
    rw [interpolate?_eq]
    split
    · exact (steady_joinPieces steady context _).bind fun joined => steady_pure (some joined)
    · exact steady_pure none
  apply written.bind
  intro answer
  exact steady_pure _

end Answering

end Stencil
