import Mathlib.Data.List.Chain
import Stencil.Expression.Placeholder

/-! Placeholders where they stand, read character by character from the left. -/

namespace Stencil

namespace Placeholder

/-- A body has at least one character, and all of them are body characters. -/
def IsBody (body : List Char) : Prop := body ≠ [] ∧ body.all isBodyCharacter = true

instance (body : List Char) : Decidable (IsBody body) := inferInstanceAs (Decidable (_ ∧ _))

/-- A placeholder stands at the start of the text. -/
def Starts (text : List Char) : Prop := ∃ body, IsBody body ∧ write body <+: text

/-- A placeholder stands somewhere in the text. -/
def Occurs (text : List Char) : Prop := ∃ body, IsBody body ∧ write body <:+: text

variable {body after text rest : List Char} {character : Char}

/-- A closing brace ends the body. -/
theorem start?_write (isBody : IsBody body) (after : List Char) :
    start? (write body ++ after) = some (body, after) := by
  have stop : isBodyCharacter '\x7d' = false := by decide
  have taken : (body ++ '\x7d' :: after).takeWhile isBodyCharacter = body := by
    rw [List.takeWhile_append_of_pos (List.all_eq_true.mp isBody.2),
      List.takeWhile_cons_of_neg (by simp [stop]), List.append_nil]
  have left : (body ++ '\x7d' :: after).dropWhile isBodyCharacter = '\x7d' :: after := by
    rw [List.dropWhile_append_of_pos (List.all_eq_true.mp isBody.2),
      List.dropWhile_cons_of_neg (by simp [stop])]
  have whole : write body ++ after = '$' :: '\x7b' :: (body ++ '\x7d' :: after) := by
    simp [write, opening, closing]
  rw [whole, start?, left]
  simp only [taken, if_neg isBody.1]

/-- A placeholder stands at the start exactly if one is read there. -/
theorem starts_iff_isSome : Starts text ↔ (start? text).isSome = true := by
  constructor
  · rintro ⟨body, isBody, after, rfl⟩
    rw [start?_write isBody, Option.isSome_some]
  · intro found
    obtain ⟨⟨body, after⟩, here⟩ := Option.isSome_iff_exists.mp found
    obtain ⟨whole, nonempty, inside⟩ := start?_eq here
    exact ⟨body, ⟨nonempty, inside⟩, after, whole.symm⟩

instance (text : List Char) : Decidable (Starts text) := decidable_of_iff _ starts_iff_isSome.symm

/-- Where no placeholder stands none is read. -/
theorem start?_eq_none (plain : ¬ Starts text) : start? text = none := by
  rw [starts_iff_isSome, Bool.not_eq_true, Option.isSome_eq_false_iff] at plain
  exact Option.isNone_iff_eq_none.mp plain

/-- A placeholder starts with a dollar sign. -/
theorem eq_dollar_of_starts (starts : Starts (character :: rest)) : character = '$' := by
  obtain ⟨body, -, found⟩ := starts
  exact (List.cons_prefix_cons.mp found).1.symm

theorem not_occurs_nil : ¬ Occurs [] := by
  rintro ⟨body, -, found⟩
  exact absurd (List.infix_nil.mp found) (List.cons_ne_nil _ _)

/-- Every placeholder stands at the start or further behind. -/
theorem occurs_cons : Occurs (character :: rest) ↔ Starts (character :: rest) ∨ Occurs rest := by
  simp only [Occurs, Starts, List.infix_cons_iff, and_or_left, exists_or]

/-- Where no placeholder starts none stands in what goes on there as the text does. -/
theorem not_occurs_cons {run : List Char} (plain : ¬ Starts (character :: rest))
    (front : run <+: rest) (further : ¬ Occurs run) : ¬ Occurs (character :: run) := by
  intro occurs
  rcases occurs_cons.mp occurs with ⟨body, isBody, found⟩ | behind
  · exact plain ⟨body, isBody, found.trans (List.cons_prefix_cons.mpr ⟨rfl, front⟩)⟩
  · exact further behind

instance decidableOccurs : (text : List Char) → Decidable (Occurs text)
  | [] => isFalse not_occurs_nil
  | _ :: rest =>
      have := decidableOccurs rest
      decidable_of_iff _ occurs_cons.symm

end Placeholder

open Placeholder

namespace Piece

/-- A piece goes before others. A literal joins the literal behind it. -/
def join : Piece → List Piece → List Piece
  | literal content, literal after :: rest => literal (content ++ after) :: rest
  | piece, rest => piece :: rest

@[simp] theorem join_placeholder (body : List Char) (pieces : List Piece) :
    join (placeholder body) pieces = placeholder body :: pieces := rfl

@[simp] theorem join_escaped (body : List Char) (pieces : List Piece) :
    join (escaped body) pieces = escaped body :: pieces := rfl

/-- The pieces of a text, read from the left character by character. -/
inductive Reading : List Char → List Piece → Prop
  | ended : Reading [] []
  | escaped {body after : List Char} {pieces : List Piece} (isBody : IsBody body)
      (behind : Reading after pieces) :
      Reading ('\\' :: (write body ++ after)) (escaped body :: pieces)
  | placeholder {body after : List Char} {pieces : List Piece} (isBody : IsBody body)
      (behind : Reading after pieces) :
      Reading (write body ++ after) (placeholder body :: pieces)
  | literal {character : Char} {rest : List Char} {pieces : List Piece}
      (unescaped : character = '\\' → ¬ Starts rest) (plain : ¬ Starts (character :: rest))
      (behind : Reading rest pieces) :
      Reading (character :: rest) (join (literal [character]) pieces)

/-! What is read in sequence. -/

section

variable {text rest : List Char} {piece : Piece}

/-- What is read and what is left make up the text. -/
theorem next?_eq (found : next? text = some (piece, rest)) :
    text = piece.source ++ rest ∧ piece.source ≠ [] := by
  rcases Option.or_eq_some_iff.mp found with escaped | ⟨-, others⟩
  · unfold escaped? at escaped
    split at escaped
    · obtain ⟨⟨body, after⟩, here, same⟩ := Option.map_eq_some_iff.mp escaped
      cases same
      obtain ⟨rfl, -⟩ := start?_eq here
      exact ⟨rfl, List.cons_ne_nil _ _⟩
    · cases escaped
  rcases Option.or_eq_some_iff.mp others with placeholder | ⟨-, literals⟩
  · obtain ⟨⟨body, after⟩, here, same⟩ := Option.map_eq_some_iff.mp placeholder
    cases same
    obtain ⟨rfl, -⟩ := start?_eq here
    exact ⟨rfl, List.cons_ne_nil _ _⟩
  rcases Option.or_eq_some_iff.mp literals with run | ⟨-, single⟩
  · unfold run? at run
    split at run
    · cases run
    · rename_i taken nonempty
      cases run
      exact ⟨List.takeWhile_append_dropWhile.symm, nonempty⟩
  · cases text with
    | nil => cases single
    | cons character others =>
        cases single
        exact ⟨rfl, List.cons_ne_nil _ _⟩

/-- A piece takes something of the text. -/
theorem next?_length_lt (found : next? text = some (piece, rest)) : rest.length < text.length := by
  obtain ⟨whole, nonempty⟩ := next?_eq found
  have taken := List.length_pos_iff.mpr nonempty
  rw [whole, List.length_append]
  omega

/-- Something can be read as long as there is text. -/
theorem next?_isSome (character : Char) (rest : List Char) :
    (next? (character :: rest)).isSome = true := by
  simp [next?, single?]

/-- The pieces behind the first one are those of the rest. -/
theorem sequence?_of_next? (found : next? text = some (piece, rest)) :
    sequence? text = (sequence? rest).map fun behind => (piece :: behind.1, behind.2) := by
  rw [sequence?, found]
  exact dif_pos (next?_length_lt found)

/-- Reading never fails and leaves nothing of the text. -/
theorem exists_sequence? (text : List Char) : ∃ pieces, sequence? text = some (pieces, []) := by
  induction length : text.length using Nat.strongRecOn generalizing text with
  | ind count inductionHypothesis =>
      cases text with
      | nil => exact ⟨[], by rw [sequence?]; rfl⟩
      | cons character others =>
          obtain ⟨⟨piece, rest⟩, found⟩ :=
            Option.isSome_iff_exists.mp (next?_isSome character others)
          obtain ⟨behind, read⟩ :=
            inductionHypothesis rest.length (length ▸ next?_length_lt found) rest rfl
          exact ⟨piece :: behind, by rw [sequence?_of_next? found, read, Option.map_some]⟩

/-! Joining from the front is merging. -/

/-- Two literals that are joined one after the other are one. -/
theorem join_literal_join (first second : List Char) (pieces : List Piece) :
    join (literal first) (join (literal second) pieces) =
      join (literal (first ++ second)) pieces := by
  cases pieces with
  | nil => rfl
  | cons next others => cases next <;> simp [join]

/-- Merged pieces, the newest first, with others behind them. -/
def mergedBefore : List Piece → List Piece → List Piece
  | literal before :: older, pieces => older.reverse ++ join (literal before) pieces
  | merged, pieces => merged.reverse ++ pieces

theorem mergedBefore_nil (merged : List Piece) : mergedBefore merged [] = merged.reverse := by
  cases merged with
  | nil => rfl
  | cons newest older => cases newest <;> simp [mergedBefore, join]

/-- Merging a piece is joining it in front of what follows. -/
theorem mergedBefore_mergeNext (merged : List Piece) (piece : Piece) (pieces : List Piece) :
    mergedBefore (mergeNext merged piece) pieces = mergedBefore merged (join piece pieces) := by
  cases merged with
  | nil => cases piece <;> simp [mergeNext, mergedBefore]
  | cons newest older =>
      cases newest with
      | literal before =>
          cases piece with
          | literal content => simp only [mergeNext, mergedBefore, join_literal_join]
          | placeholder body => simp [mergeNext, mergedBefore, join]
          | escaped body => simp [mergeNext, mergedBefore, join]
      | placeholder body => cases piece <;> simp [mergeNext, mergedBefore]
      | escaped body => cases piece <;> simp [mergeNext, mergedBefore]

/-- Pieces are merged as they are joined from the right. -/
theorem merge_eq_foldr (pieces : List Piece) : merge pieces = pieces.foldr join [] := by
  have general (merged : List Piece) :
      (pieces.foldl mergeNext merged).reverse = mergedBefore merged (pieces.foldr join []) := by
    induction pieces generalizing merged with
    | nil => exact (mergedBefore_nil merged).symm
    | cons piece rest inductionHypothesis =>
        rw [List.foldl_cons, inductionHypothesis, mergedBefore_mergeNext, List.foldr_cons]
  exact general []

/-- A scan goes on behind the piece that a text starts with. -/
theorem scan_of_next? (found : next? text = some (piece, rest)) :
    scan text = join piece (scan rest) := by
  obtain ⟨behind, read⟩ := exists_sequence? rest
  rw [scan, scan, sequence?_of_next? found, read]
  simp only [Option.map_some, merge_eq_foldr, List.foldr_cons]

end

/-! The pieces of a scan are those of the reading. -/

section

variable {body rest : List Char} {character : Char}

theorem scan_nil : scan [] = [] := by
  rw [scan, sequence?]
  rfl

/-- An escaped placeholder is one piece. -/
theorem scan_escaped (isBody : IsBody body) (after : List Char) :
    scan ('\\' :: (write body ++ after)) = escaped body :: scan after := by
  have found : next? ('\\' :: (write body ++ after)) = some (escaped body, after) := by
    rw [next?, escaped?, start?_write isBody]
    rfl
  exact scan_of_next? found

/-- A placeholder is one piece. -/
theorem scan_placeholder (isBody : IsBody body) (after : List Char) :
    scan (write body ++ after) = placeholder body :: scan after := by
  have unescaped : escaped? (write body ++ after) = none := rfl
  have found : next? (write body ++ after) = some (placeholder body, after) := by
    rw [next?, unescaped, placeholder?, start?_write isBody]
    rfl
  exact scan_of_next? found

/-- Where no placeholder stands a literal is read. -/
theorem next?_literal (unescaped : character = '\\' → ¬ Starts rest)
    (plain : ¬ Starts (character :: rest)) :
    next? (character :: rest) = (run? (character :: rest)).or (single? (character :: rest)) := by
  have noEscape : escaped? (character :: rest) = none := by
    unfold escaped?
    split
    · rename_i slash
      cases slash
      rw [start?_eq_none (unescaped rfl), Option.map_none]
    · rfl
  rw [next?, noEscape, placeholder?, start?_eq_none plain, Option.map_none, Option.none_or,
    Option.none_or]

/-- Characters other than marks are read in one run. -/
theorem next?_run (unmarked : isMark character = false) (rest : List Char) :
    next? (character :: rest) =
      some (literal (character :: rest.takeWhile fun other => !isMark other),
        rest.dropWhile fun other => !isMark other) := by
  simp only [isMark, Bool.or_eq_false_iff, decide_eq_false_iff_not] at unmarked
  have plain : ¬ Starts (character :: rest) := fun starts =>
    unmarked.1 (eq_dollar_of_starts starts)
  rw [next?_literal (fun slash => absurd slash unmarked.2) plain]
  simp [run?, isMark, unmarked]

/-- A literal character joins what is read behind it. -/
theorem scan_literal (unescaped : character = '\\' → ¬ Starts rest)
    (plain : ¬ Starts (character :: rest)) :
    scan (character :: rest) = join (literal [character]) (scan rest) := by
  by_cases mark : isMark character = true
  · apply scan_of_next?
    rw [next?_literal unescaped plain]
    simp [run?, mark, single?]
  · have unmarked : isMark character = false := Bool.not_eq_true _ ▸ mark
    rw [scan_of_next? (next?_run unmarked rest)]
    cases rest with
    | nil => rfl
    | cons next others =>
        by_cases nextMark : isMark next = true
        · simp [nextMark]
        · have nextUnmarked : isMark next = false := Bool.not_eq_true _ ▸ nextMark
          rw [scan_of_next? (next?_run nextUnmarked others), join_literal_join]
          simp [nextUnmarked]

/-- A text is read in one way only. -/
theorem Reading.eq_scan {text : List Char} {pieces : List Piece} (reading : Reading text pieces) :
    pieces = scan text := by
  induction reading with
  | ended => exact scan_nil.symm
  | escaped isBody behind inductionHypothesis =>
      rw [inductionHypothesis, scan_escaped isBody]
  | placeholder isBody behind inductionHypothesis =>
      rw [inductionHypothesis, scan_placeholder isBody]
  | literal unescaped plain behind inductionHypothesis =>
      rw [inductionHypothesis, scan_literal unescaped plain]

/-- Every text has a reading. -/
theorem exists_reading (text : List Char) : ∃ pieces, Reading text pieces := by
  -- A placeholder is passed at once, so that the induction is on the length.
  induction length : text.length using Nat.strongRecOn generalizing text with
  | ind count inductionHypothesis =>
      have shorter (taken after : List Char) (whole : text = taken ++ after)
          (nonempty : taken ≠ []) : ∃ pieces, Reading after pieces := by
        have positive := List.length_pos_iff.mpr nonempty
        apply inductionHypothesis after.length _ after rfl
        rw [← length, whole, List.length_append]
        omega
      cases text with
      | nil => exact ⟨[], .ended⟩
      | cons character rest =>
          by_cases starts : Starts (character :: rest)
          · obtain ⟨body, isBody, after, whole⟩ := starts
            obtain ⟨pieces, behind⟩ := shorter _ _ whole.symm (List.cons_ne_nil _ _)
            rw [← whole]
            exact ⟨_, .placeholder isBody behind⟩
          by_cases escape : character = '\\' ∧ Starts rest
          · obtain ⟨rfl, body, isBody, after, rfl⟩ := escape
            obtain ⟨pieces, behind⟩ := shorter ('\\' :: write body) after rfl (List.cons_ne_nil _ _)
            exact ⟨_, .escaped isBody behind⟩
          · obtain ⟨pieces, behind⟩ := shorter [character] rest rfl (List.cons_ne_nil _ _)
            exact ⟨_, .literal (fun slash found => escape ⟨slash, found⟩) starts behind⟩

/-- The scanned pieces are those that are read from the left. -/
theorem reading_scan (text : List Char) : Reading text (scan text) := by
  obtain ⟨pieces, reading⟩ := exists_reading text
  exact reading.eq_scan ▸ reading

end

/-! What every reading is like. -/

section

/-- A literal character comes first, with the literal that it joins, if there is one. -/
theorem join_character (character : Char) (pieces : List Piece) :
    ∃ content others, join (literal [character]) pieces = literal (character :: content) :: others ∧
      (pieces = literal content :: others ∨
        content = [] ∧ pieces = others ∧ ∀ piece ∈ others.head?, piece.isLiteral = false) := by
  cases pieces with
  | nil => exact ⟨[], [], rfl, .inr ⟨rfl, rfl, by simp⟩⟩
  | cons next others =>
      cases next with
      | literal content => exact ⟨content, others, rfl, .inl rfl⟩
      | placeholder body =>
          exact ⟨[], placeholder body :: others, rfl, .inr ⟨rfl, rfl, by simp [isLiteral]⟩⟩
      | escaped body =>
          exact ⟨[], escaped body :: others, rfl, .inr ⟨rfl, rfl, by simp [isLiteral]⟩⟩

/-- What is written for the pieces grows by the character, whatever is written for placeholders. -/
theorem flatMap_join {write : Piece → List Char}
    (literally : ∀ content, write (literal content) = content) (character : Char)
    (pieces : List Piece) :
    (join (literal [character]) pieces).flatMap write = character :: pieces.flatMap write := by
  obtain ⟨content, others, joined, rfl | ⟨rfl, rfl, -⟩⟩ := join_character character pieces
  · rw [joined, List.flatMap_cons, List.flatMap_cons, literally, literally]
    rfl
  · rw [joined, List.flatMap_cons, literally]
    rfl

/-- No piece that is looked for comes with a literal character. -/
theorem any_join {marks : Piece → Bool} (unmarked : ∀ content, marks (literal content) = false)
    (character : Char) (pieces : List Piece) :
    (join (literal [character]) pieces).any marks = pieces.any marks := by
  obtain ⟨content, others, joined, rfl | ⟨rfl, rfl, -⟩⟩ := join_character character pieces
  · rw [joined, List.any_cons, List.any_cons, unmarked, unmarked]
  · rw [joined, List.any_cons, unmarked, Bool.false_or]

/-- No two literals stand side by side. -/
def Separated (pieces : List Piece) : Prop :=
  pieces.IsChain fun first second => first.isLiteral = false ∨ second.isLiteral = false

/-- A piece that is no literal may stand before any pieces. -/
theorem separated_cons {piece : Piece} {pieces : List Piece} (mark : piece.isLiteral = false)
    (separated : Separated pieces) : Separated (piece :: pieces) := by
  cases pieces with
  | nil => exact List.isChain_singleton piece
  | cons next others => exact List.IsChain.cons_cons (.inl mark) separated

/-- Joining a character keeps literals apart. -/
theorem Separated.join {pieces : List Piece} (separated : Separated pieces) (character : Char) :
    Separated (join (literal [character]) pieces) := by
  obtain ⟨content, others, joined, rfl | ⟨rfl, rfl, mark⟩⟩ := join_character character pieces
  · rw [joined]
    cases others with
    | nil => exact List.isChain_singleton _
    | cons next behind =>
        obtain ⟨apart, rest⟩ := List.isChain_cons_cons.mp separated
        exact List.IsChain.cons_cons (.inr (apart.resolve_left (by simp [isLiteral]))) rest
  · rw [joined]
    cases pieces with
    | nil => exact List.isChain_singleton _
    | cons next behind => exact List.IsChain.cons_cons (.inr (mark next rfl)) separated

namespace Reading

variable {text : List Char} {pieces : List Piece}

/-- The sources of the pieces make up the text. -/
theorem flatMap_source (reading : Reading text pieces) : pieces.flatMap source = text := by
  induction reading with
  | ended => rfl
  | escaped isBody behind inductionHypothesis =>
      rw [List.flatMap_cons, inductionHypothesis]
      rfl
  | placeholder isBody behind inductionHypothesis =>
      rw [List.flatMap_cons, inductionHypothesis]
      rfl
  | literal unescaped plain behind inductionHypothesis =>
      rw [flatMap_join fun _ => rfl, inductionHypothesis]

/-- No two literals stand side by side. -/
theorem separated (reading : Reading text pieces) : Separated pieces := by
  induction reading with
  | ended => exact List.isChain_nil
  | escaped isBody behind inductionHypothesis => exact separated_cons rfl inductionHypothesis
  | placeholder isBody behind inductionHypothesis => exact separated_cons rfl inductionHypothesis
  | literal unescaped plain behind inductionHypothesis => exact inductionHypothesis.join _

/-- A literal has characters, and no placeholder stands in it: it would have been read as one. -/
theorem literal_plain (reading : Reading text pieces) {content : List Char}
    (member : Piece.literal content ∈ pieces) : content ≠ [] ∧ ¬ Occurs content := by
  induction reading generalizing content with
  | ended => cases member
  | escaped isBody behind inductionHypothesis =>
      rcases List.mem_cons.mp member with same | behindMember
      · cases same
      · exact inductionHypothesis behindMember
  | placeholder isBody behind inductionHypothesis =>
      rcases List.mem_cons.mp member with same | behindMember
      · cases same
      · exact inductionHypothesis behindMember
  | @literal character rest behindPieces unescaped plain behind inductionHypothesis =>
      have whole := flatMap_source behind
      obtain ⟨run, others, joined, rfl | ⟨rfl, rfl, -⟩⟩ := join_character character behindPieces
      · rw [joined] at member
        rcases List.mem_cons.mp member with same | further
        · cases same
          rw [List.flatMap_cons] at whole
          have further := (inductionHypothesis List.mem_cons_self).2
          exact ⟨List.cons_ne_nil _ _, not_occurs_cons plain ⟨_, whole⟩ further⟩
        · exact inductionHypothesis (List.mem_cons_of_mem _ further)
      · rw [joined] at member
        rcases List.mem_cons.mp member with same | further
        · cases same
          exact ⟨List.cons_ne_nil _ _, not_occurs_cons plain List.nil_prefix not_occurs_nil⟩
        · exact inductionHypothesis further

/-- There is a placeholder among the pieces exactly if one stands in the text. -/
theorem hasPlaceholders_iff (reading : Reading text pieces) :
    hasPlaceholders pieces = true ↔ Occurs text := by
  induction reading with
  | ended => exact iff_of_false (by decide) not_occurs_nil
  | @escaped body after others isBody behind inductionHypothesis =>
      have occurs : Occurs ('\\' :: (write body ++ after)) := ⟨body, isBody, ['\\'], after, rfl⟩
      exact iff_of_true rfl occurs
  | @placeholder body after others isBody behind inductionHypothesis =>
      have occurs : Occurs (write body ++ after) := ⟨body, isBody, [], after, rfl⟩
      exact iff_of_true rfl occurs
  | literal unescaped plain behind inductionHypothesis =>
      rw [hasPlaceholders, any_join fun _ => rfl]
      rw [occurs_cons, or_iff_right plain, ← inductionHypothesis, hasPlaceholders]

end Reading

end

/-- The pieces are those that are read from the left; they lose nothing of the text. -/
theorem scan_exact (text : List Char) :
    (∀ pieces, Reading text pieces ↔ pieces = scan text) ∧
      (∃ pieces, sequence? text = some (pieces, [])) ∧
      (scan text).flatMap source = text ∧
      Separated (scan text) ∧
      (∀ content, literal content ∈ scan text → content ≠ [] ∧ ¬ Occurs content) ∧
      (hasPlaceholders (scan text) = false ↔ ¬ Occurs text) := by
  have reading := reading_scan text
  refine ⟨fun pieces => ⟨Reading.eq_scan, fun same => same ▸ reading⟩, exists_sequence? text,
    reading.flatMap_source, reading.separated, fun content => reading.literal_plain, ?_⟩
  rw [← reading.hasPlaceholders_iff, Bool.not_eq_true]

/-- Backslashes, dollar signs, an open body, and a placeholder without a body. -/
def mixedText : List Char := "\\\\$\x7ba.b\x7d$$\x7bx$\x7b \\n\x7d$\x7b\x7d".toList

/-- The near misses are literal. -/
theorem scan_exact_mixedText :
    scan mixedText =
        [literal "\\".toList, escaped "a.b".toList, literal "$$\x7bx".toList,
          placeholder " \\n".toList, literal "$\x7b\x7d".toList] ∧
      literal "$$\x7bx".toList ∈ scan mixedText ∧ ¬ Occurs "$$\x7bx".toList := by
  have member : literal "$$\x7bx".toList ∈ scan mixedText := by decide +kernel
  refine ⟨by decide +kernel, member, ?_⟩
  exact ((scan_exact mixedText).2.2.2.2.1 _ member).2

end Piece

end Stencil
