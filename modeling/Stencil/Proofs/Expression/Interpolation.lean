import Stencil.Proofs.Expression.Scanning
import Stencil.Proofs.Expression.Substitution

/-! Interpolation of whole texts. -/

namespace Stencil

namespace Placeholder

/-- One backslash is put directly before each placeholder. -/
def escapeAll : List Char → List Char
  | [] => []
  | character :: rest =>
      if Starts (character :: rest) then '\\' :: character :: escapeAll rest
      else character :: escapeAll rest

/-- A text in which every placeholder is escaped. -/
def escape (text : String) : String := String.ofList (escapeAll text.toList)

variable {text : List Char}

/-- Where no placeholder can start nothing is put in. -/
theorem escapeAll_append {plain : List Char} (markless : '$' ∉ plain) (after : List Char) :
    escapeAll (plain ++ after) = plain ++ escapeAll after := by
  induction plain with
  | nil => rfl
  | cons character rest inductionHypothesis =>
      have different := List.ne_of_not_mem_cons markless
      have further := List.not_mem_of_not_mem_cons markless
      have plainHere : ¬ Starts (character :: (rest ++ after)) := fun starts =>
        different (eq_dollar_of_starts starts).symm
      rw [List.cons_append, escapeAll, if_neg plainHere, inductionHypothesis further,
        List.cons_append]

/-- What follows the dollar sign of a placeholder holds no other. -/
theorem dollar_notMem {body : List Char} (isBody : IsBody body) :
    '$' ∉ '\x7b' :: (body ++ closing) := by
  have inside := List.all_eq_true.mp isBody.2
  intro member
  rcases List.mem_cons.mp member with same | member
  · exact absurd same (by decide)
  rcases List.mem_append.mp member with member | member
  · exact absurd (inside _ member) (by decide)
  · exact absurd member (by decide)

/-- A placeholder is escaped as a whole. -/
theorem escapeAll_write {body : List Char} (isBody : IsBody body) (after : List Char) :
    escapeAll (write body ++ after) = '\\' :: (write body ++ escapeAll after) := by
  have starts : Starts ('$' :: ('\x7b' :: (body ++ closing) ++ after)) := ⟨body, isBody, after, rfl⟩
  show escapeAll ('$' :: ('\x7b' :: (body ++ closing) ++ after)) = _
  rw [escapeAll, if_pos starts, escapeAll_append (dollar_notMem isBody)]
  rfl

/-- What starts an escaped text without dollar signs starts the text, backslashes apart. -/
theorem prefix_of_prefix_escapeAll {plain : List Char} {stop : Char} (markless : '$' ∉ plain)
    (unmarked : stop ≠ '$') (kept : stop ≠ '\\') (found : plain ++ [stop] <+: escapeAll text) :
    plain ++ [stop] <+: text := by
  induction plain generalizing text with
  | nil =>
      cases text with
      | nil => exact found
      | cons character rest =>
          rw [escapeAll] at found
          split at found
          · exact absurd (List.cons_prefix_cons.mp found).1 kept
          · rw [(List.cons_prefix_cons.mp found).1]
            exact List.cons_prefix_cons.mpr ⟨rfl, List.nil_prefix⟩
  | cons first rest inductionHypothesis =>
      have further := List.not_mem_of_not_mem_cons markless
      cases text with
      | nil => exact found
      | cons character others =>
          rw [escapeAll] at found
          split at found
          · -- Behind the backslash that was put in stands a dollar sign.
            rename_i starts
            have behind := (List.cons_prefix_cons.mp found).2
            rw [eq_dollar_of_starts starts] at behind
            cases rest with
            | nil => exact absurd (List.cons_prefix_cons.mp behind).1 unmarked
            | cons second others =>
                have dollar : second = '$' := (List.cons_prefix_cons.mp behind).1
                exact absurd (dollar ▸ List.mem_cons_self) further
          · obtain ⟨same, behind⟩ := List.cons_prefix_cons.mp found
            exact List.cons_prefix_cons.mpr ⟨same, inductionHypothesis further behind⟩

/-- No placeholder stands at the start of an escaped text. -/
theorem not_starts_escapeAll (text : List Char) : ¬ Starts (escapeAll text) := by
  rintro ⟨body, isBody, found⟩
  have whole : write body = '$' :: ('\x7b' :: body ++ ['\x7d']) := rfl
  cases text with
  | nil => exact absurd (List.prefix_nil.mp found) (List.cons_ne_nil _ _)
  | cons character rest =>
      rw [escapeAll, whole] at found
      split at found
      · exact absurd (List.cons_prefix_cons.mp found).1 (by decide)
      · rename_i plain
        obtain ⟨rfl, behind⟩ := List.cons_prefix_cons.mp found
        have markless : '$' ∉ '\x7b' :: body := fun member =>
          dollar_notMem isBody (List.mem_append_left closing member)
        have stood := prefix_of_prefix_escapeAll markless (by decide) (by decide) behind
        exact plain ⟨body, isBody, List.cons_prefix_cons.mpr ⟨rfl, stood⟩⟩

/-- Where nothing is put in no placeholder starts. -/
theorem not_starts_cons_escapeAll {character : Char} (plain : ¬ Starts (character :: text)) :
    ¬ Starts (character :: escapeAll text) := by
  have same : escapeAll (character :: text) = character :: escapeAll text := by
    rw [escapeAll, if_neg plain]
  exact same ▸ not_starts_escapeAll (character :: text)

end Placeholder

open Placeholder

namespace Piece

/-- Whether a piece is replaced. -/
def isPlaceholder : Piece → Bool
  | placeholder _ => true
  | literal _ => false
  | escaped _ => false

/-- The text of a piece, whose placeholder is left as it is. -/
def unescaped : Piece → List Char
  | literal content => content
  | placeholder body => write body
  | escaped body => write body

/-- Literals alone are written as they were read. -/
theorem unescaped_of_literals {pieces : List Piece} (literals : hasPlaceholders pieces = false) :
    pieces.flatMap unescaped = pieces.flatMap source := by
  induction pieces with
  | nil => rfl
  | cons piece rest inductionHypothesis =>
      rw [hasPlaceholders, List.any_cons, Bool.or_eq_false_iff] at literals
      rw [List.flatMap_cons, List.flatMap_cons, inductionHypothesis literals.2]
      cases piece with
      | literal content => rfl
      | escaped body => exact absurd literals.1 (by simp [isLiteral])
      | placeholder body => exact absurd literals.1 (by simp [isLiteral])

/-- The pieces in order, with the text for its number in place of each placeholder. -/
def numbered (shown : Nat → String) : Nat → List Piece → String
  | _, [] => ""
  | number, placeholder _ :: rest => shown number ++ numbered shown (number + 1) rest
  | number, piece :: rest => String.ofList piece.unescaped ++ numbered shown number rest

/-- Each value goes to the placeholder of its number. -/
theorem substitute_drop (pieces : List Piece) (values : List (Option Value)) (number : Nat) :
    substitute pieces (values.drop number) =
      numbered (fun index => (values[index]?.join.map Value.text).getD "") number pieces := by
  induction pieces generalizing number with
  | nil => rfl
  | cons piece rest inductionHypothesis =>
      cases piece with
      | literal content => rw [substitute, numbered, inductionHypothesis, unescaped]; simp
      | escaped body => rw [substitute, numbered, inductionHypothesis, unescaped]; simp
      | placeholder body =>
          by_cases within : number < values.length
          · rw [List.drop_eq_getElem_cons within, substitute, numbered, inductionHypothesis,
              List.getElem?_eq_getElem within, Option.join_some]
          · have none : values[number]? = none := List.getElem?_eq_none (Nat.le_of_not_lt within)
            have behind := inductionHypothesis (number + 1)
            rw [List.drop_eq_nil_of_le (by omega)] at behind ⊢
            rw [substitute, behind, numbered, none]
            simp

/-- An escaped text is read without placeholders and gives back the text. -/
theorem exists_reading_escapeAll (text : List Char) :
    ∃ pieces, Reading (escapeAll text) pieces ∧ pieces.any isPlaceholder = false ∧
      pieces.flatMap unescaped = text := by
  -- A placeholder is passed at once, so that the induction is on the length.
  induction length : text.length using Nat.strongRecOn generalizing text with
  | ind count inductionHypothesis =>
      cases text with
      | nil => exact ⟨[], .ended, rfl, rfl⟩
      | cons character rest =>
          by_cases starts : Starts (character :: rest)
          · obtain ⟨body, isBody, after, whole⟩ := starts
            have shorter : after.length < count := by
              rw [← length, ← whole, List.length_append]
              exact Nat.lt_add_of_pos_left (List.length_pos_iff.mpr (List.cons_ne_nil _ _))
            obtain ⟨pieces, behind, fixed, restored⟩ := inductionHypothesis _ shorter after rfl
            rw [← whole, escapeAll_write isBody]
            refine ⟨escaped body :: pieces, .escaped isBody behind, fixed, ?_⟩
            rw [List.flatMap_cons, restored]
            rfl
          · have shorter : rest.length < count := length ▸ Nat.lt_succ_self _
            obtain ⟨pieces, behind, fixed, restored⟩ := inductionHypothesis _ shorter rest rfl
            have reading := Reading.literal (fun _ => not_starts_escapeAll rest)
              (not_starts_cons_escapeAll starts) behind
            rw [escapeAll, if_neg starts]
            refine ⟨_, reading, ?_, ?_⟩
            · rw [any_join fun _ => rfl, fixed]
            · rw [flatMap_join fun _ => rfl, restored]

/-- An escaped text is scanned without a placeholder that is replaced. -/
theorem scan_escapeAll (text : List Char) :
    (scan (escapeAll text)).any isPlaceholder = false ∧
      (scan (escapeAll text)).flatMap unescaped = text := by
  obtain ⟨pieces, reading, fixed, restored⟩ := exists_reading_escapeAll text
  rw [← reading.eq_scan]
  exact ⟨fixed, restored⟩

end Piece

namespace Answering

variable {World : Type} (answering : Answering World) (context : Context)

/-- Pieces that are not replaced are written without a host. -/
theorem joinPieces_of_fixed {pieces : List Piece}
    (fixed : pieces.any Piece.isPlaceholder = false) :
    answering.joinPieces context pieces =
      pure (String.ofList (pieces.flatMap Piece.unescaped)) := by
  induction pieces with
  | nil => rfl
  | cons piece rest inductionHypothesis =>
      rw [List.any_cons, Bool.or_eq_false_iff] at fixed
      have here : answering.pieceText context piece = pure (String.ofList piece.unescaped) := by
        cases piece with
        | literal content => rfl
        | escaped body => rfl
        | placeholder body => exact absurd fixed.1 (by simp [Piece.isPlaceholder])
      rw [joinPieces, here, inductionHypothesis fixed.2, List.flatMap_cons, String.ofList_append,
        pure_bind, pure_bind]

/-- A text without placeholders is left alone. -/
theorem interpolate?_of_not_occurs {text : String} (plain : ¬ Occurs text.toList) :
    answering.interpolate? context text = pure none := by
  rw [← (Piece.reading_scan text.toList).hasPlaceholders_iff] at plain
  rw [interpolate?_eq, if_neg plain]

/-- A text with placeholders is written piece by piece. -/
theorem interpolate?_of_occurs {text : String} (occurs : Occurs text.toList) :
    answering.interpolate? context text =
      some <$> answering.joinPieces context (Piece.scan text.toList) := by
  rw [← (Piece.reading_scan text.toList).hasPlaceholders_iff] at occurs
  rw [interpolate?_eq, if_pos occurs]

/-- An escaped text is given back, whatever the context holds, and no resolver is asked. -/
theorem interpolate_escape (text : String) :
    answering.interpolate context (escape text) = pure text := by
  obtain ⟨fixed, restored⟩ := Piece.scan_escapeAll text.toList
  have scanned : (escape text).toList = escapeAll text.toList := String.toList_ofList
  by_cases occurs : Occurs (escape text).toList
  · rw [interpolate, interpolate?_of_occurs answering context occurs, scanned,
      joinPieces_of_fixed answering context fixed, restored, String.ofList_toList]
    rfl
  · have literals := occurs
    rw [scanned, ← (Piece.reading_scan _).hasPlaceholders_iff, Bool.not_eq_true] at literals
    have same : escape text = text := by
      rw [Piece.unescaped_of_literals literals, (Piece.reading_scan _).flatMap_source] at restored
      rw [escape, restored, String.ofList_toList]
    rw [interpolate, interpolate?_of_not_occurs answering context occurs, same]
    rfl

/-- Each placeholder is replaced once by its own value, and escaped texts are given back. -/
theorem interpolate_exact (text : String) :
    (¬ Occurs text.toList → answering.interpolate? context text = pure none ∧
      answering.interpolate context text = pure text) ∧
    (Occurs text.toList → answering.interpolate? context text =
      some <$> answering.joinPieces context (Piece.scan text.toList)) ∧
    (∀ values, Piece.substitute (Piece.scan text.toList) values =
      Piece.numbered (fun index => (values[index]?.join.map Value.text).getD "") 0
        (Piece.scan text.toList)) ∧
    answering.interpolate context (escape text) = pure text := by
  refine ⟨fun plain => ?_, interpolate?_of_occurs answering context,
    fun values => Piece.substitute_drop _ values 0, interpolate_escape answering context text⟩
  have unchanged := interpolate?_of_not_occurs answering context plain
  refine ⟨unchanged, ?_⟩
  rw [interpolate, unchanged]
  rfl

/-- A host without answers. -/
def silent : Answering Unit := fun _ _ => pure .null

/-- A value that looks like a placeholder. -/
def sampleValues : Context := ⟨[("a", .string "$\x7ba\x7d")]⟩

/-- Placeholders that are escaped, look like a value, or have none, and a dollar sign. -/
def sampleText : String := "\\$\x7ba\x7d$\x7b a \x7d-$\x7bgone.b\x7d $"

/-- No value is scanned again. -/
theorem interpolate_exact_sampleText :
    Occurs sampleText.toList ∧
      (silent.interpolate? sampleValues sampleText ()).1 = some "$\x7ba\x7d$\x7ba\x7d- $" ∧
      ¬ Occurs "a $".toList ∧ silent.interpolate sampleValues "a $" = pure "a $" := by
  have occurs : Occurs sampleText.toList := by decide +kernel
  have plain : ¬ Occurs "a $".toList := by decide +kernel
  have filled := (interpolate_exact silent sampleValues sampleText).2.1 occurs
  have unchanged := (interpolate_exact silent sampleValues "a $").1 plain
  refine ⟨occurs, ?_, plain, unchanged.2⟩
  rw [filled]
  decide +kernel

end Answering

end Stencil
