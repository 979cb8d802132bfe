import Stencil.Expression.Evaluate

/-! Interpolation piece by piece. -/

namespace Stencil.Answering

variable {World : Type} (answering : Answering World) (context : Context)

/-- The text that a piece stands for; absent data leaves nothing. -/
def pieceText : Piece → StateM World String
  | .literal content => pure (String.ofList content)
  | .escaped body => pure (String.ofList (Placeholder.write body))
  | .placeholder body => do
      let found ← answering.resolve context (Piece.path body)
      return (found.map Value.text).getD ""

/-- The pieces are written one after the other. -/
def joinPieces : List Piece → StateM World String
  | [] => pure ""
  | piece :: rest => do
      let first ← answering.pieceText context piece
      let others ← joinPieces rest
      return first ++ others

/-- Every placeholder takes the value that its own path leads to. -/
theorem substitute_mapM_paths (pieces : List Piece) :
    Piece.substitute pieces <$> (Piece.paths pieces).mapM (answering.resolve context) =
      answering.joinPieces context pieces := by
  induction pieces with
  | nil => rfl
  | cons piece rest inductionHypothesis =>
      rw [joinPieces, ← inductionHypothesis]
      cases piece with
      | literal content =>
          simp only [pieceText, pure_bind, bind_pure_comp, Functor.map_map]
          rfl
      | escaped body =>
          simp only [pieceText, pure_bind, bind_pure_comp, Functor.map_map]
          rfl
      | placeholder body =>
          have paths : Piece.paths (.placeholder body :: rest) =
            Piece.path body :: Piece.paths rest := rfl
          simp only [paths, List.mapM_cons, pieceText, Piece.substitute, bind_pure_comp,
            map_bind, Functor.map_map, bind_map_left]

/-- The text is as if each piece were written when it is its turn. -/
theorem interpolate?_eq (text : String) :
    answering.interpolate? context text =
      if hasPlaceholders (Piece.scan text.toList) then
        some <$> answering.joinPieces context (Piece.scan text.toList)
      else pure none := by
  simp only [interpolate?, ← substitute_mapM_paths, Functor.map_map, bind_pure_comp]

end Stencil.Answering
