import Stencil.Markup.Html
import Stencil.Proofs.Markup.Reading

/-! Escaped texts, attribute values and comments are read back. -/

namespace Stencil

@[simp] theorem toList_escapeText (text : String) :
    (escapeText text).toList = text.toList.flatMap escapeTextCharacter := by
  simp [escapeText]

@[simp] theorem toList_escapeValue (value : String) :
    (escapeValue value).toList = value.toList.flatMap escapeValueCharacter := by
  simp [escapeValue]

namespace Markup

/-- An escaped value holds no quote, so that the next quote ends it. -/
theorem quote_notMem_escapeValue (value : String) : '"' ∉ (escapeValue value).toList := by
  simp only [toList_escapeValue, List.mem_flatMap, not_exists, not_and]
  intro character _
  unfold escapeValueCharacter
  split
  · decide
  · decide
  · decide
  · rename_i different
    simpa using fun same => different same.symm

/-- The references that escapes write stand for the characters that are escaped. -/
theorem referenced?_escapes :
    referenced? "amp".toList = some ['&'] ∧ referenced? "nbsp".toList = some ['\u00A0'] ∧
      referenced? "lt".toList = some ['<'] ∧ referenced? "gt".toList = some ['>'] ∧
      referenced? "quot".toList = some ['"'] := by
  decide

/-- A known reference is decoded to its characters. -/
theorem decoded?_reference (body : List Char) {characters : List Char}
    (inside : body.all insideReference = true) (known : referenced? body = some characters)
    (rest : List Char) :
    decoded? ('&' :: (body ++ ';' :: rest)) = (decoded? rest).map (characters ++ ·) := by
  have inner : ∀ symbol ∈ body, insideReference symbol = true := List.all_eq_true.mp inside
  have stop : insideReference ';' = false := by decide
  have found : valueReference? (body ++ ';' :: rest) = some (body, rest) := by
    simp [valueReference?, List.dropWhile_append_of_pos inner, List.takeWhile_append_of_pos inner,
      stop]
  rw [decoded?]
  split
  · rename_i other
    rw [found, Option.some.injEq, Prod.mk.injEq] at other
    rw [← other.1, ← other.2, known]
  · rename_i other
    rw [found] at other
    simp at other

/-- The escape of a character is decoded to it. -/
theorem decoded?_escapeValueCharacter (character : Char) (rest : List Char) :
    decoded? (escapeValueCharacter character ++ rest) =
      (decoded? rest).map (character :: ·) := by
  obtain ⟨ampersand, space, -, -, quote⟩ := referenced?_escapes
  unfold escapeValueCharacter
  split
  · exact decoded?_reference "amp".toList (by decide) ampersand rest
  · exact decoded?_reference "nbsp".toList (by decide) space rest
  · exact decoded?_reference "quot".toList (by decide) quote rest
  · rename_i plain _ _
    rw [List.singleton_append, decoded?]
    exact plain

/-- A value is decoded from its written form. -/
theorem decodeValue_escapeValue (value : String) :
    String.ofList (decodeValue (escapeValue value).toList) = value := by
  have decoded (text : List Char) : decoded? (text.flatMap escapeValueCharacter) = some text := by
    induction text with
    | nil => rw [List.flatMap_nil, decoded?]
    | cons character rest inductionHypothesis =>
        rw [List.flatMap_cons, decoded?_escapeValueCharacter, inductionHypothesis, Option.map_some]
  rw [decodeValue, toList_escapeValue, decoded, Option.getD_some, String.ofList_toList]

namespace Reader

/-- A text runs up to the next tag or ampersand. -/
theorem readInto_textRun {first : Char} (plain : Lexeme.isPlain first = true) (position : Nat)
    (marked : Bool) (others : List Char) (forest : Forest) :
    readInto ⟨position, marked, first :: others⟩ forest =
      readInto ⟨position + Text.byteLength (first :: others.takeWhile Lexeme.isPlain), marked,
        others.dropWhile Lexeme.isPlain⟩
        (forest.addText (String.ofList (first :: others.takeWhile Lexeme.isPlain))) := by
  have next : Lexeme.next? (first :: others) = .ok (some (Lexeme.plain (first :: others))) := by
    unfold Lexeme.next?
    split
    · simp_all
    · simp_all [Lexeme.isPlain]
    · simp_all [Lexeme.isPlain]
    · rfl
  have step := readInto_steps ⟨position, marked, first :: others⟩ next rfl forest
  simp only [Lexeme.plain, List.takeWhile_cons, List.dropWhile_cons, plain, if_true] at step
  exact step

/-- A character outside markup adds itself, even where it is read together with its neighbours. -/
theorem readInto_plain {character : Char} (plain : Lexeme.isPlain character = true)
    (position : Nat) (marked : Bool) (rest : List Char) (forest : Forest) :
    readInto ⟨position, marked, character :: rest⟩ forest =
      readInto ⟨position + character.utf8Size, marked, rest⟩
        (forest.addText (String.ofList [character])) := by
  rw [readInto_textRun plain]
  cases rest with
  | nil => simp
  | cons second others =>
      by_cases secondPlain : Lexeme.isPlain second = true
      · rw [readInto_textRun secondPlain, Forest.addText_addText]
        simp only [List.takeWhile_cons, List.dropWhile_cons, secondPlain, if_true,
          ← String.ofList_append, List.singleton_append, Text.byteLength_cons, Nat.add_assoc]
      · simp [secondPlain]

/-- A known reference adds its characters. -/
theorem readInto_reference (body : List Char) {characters : List Char}
    (inside : body.all Lexeme.insideReference = true) (known : referenced? body = some characters)
    (position : Nat) (marked : Bool) (rest : List Char) (forest : Forest) :
    readInto ⟨position, marked, '&' :: (body ++ ';' :: rest)⟩ forest =
      readInto ⟨position + Text.byteLength ('&' :: (body ++ [';'])), marked, rest⟩
        (forest.addText (String.ofList characters)) := by
  have inner : ∀ symbol ∈ body, Lexeme.insideReference symbol = true := List.all_eq_true.mp inside
  have stop : Lexeme.insideReference ';' = false := by decide
  have next : Lexeme.next? ('&' :: (body ++ ';' :: rest)) =
      .ok (some ⟨.reference body, '&' :: (body ++ [';']), rest⟩) := by
    simp [Lexeme.next?, Lexeme.ampersand, Lexeme.enclosed, List.dropWhile_append_of_pos inner,
      List.takeWhile_append_of_pos inner, stop]
  have means : meaning (.reference body) = .ok (.steps [.text (String.ofList characters)]) := by
    simp [meaning, referenceText, known]
  exact readInto_steps ⟨position, marked, '&' :: (body ++ ';' :: rest)⟩ next means forest

/-- The escape of a character is read as that character. -/
theorem readInto_escapeTextCharacter (character : Char) (position : Nat) (marked : Bool)
    (rest : List Char) (forest : Forest) :
    readInto ⟨position, marked, escapeTextCharacter character ++ rest⟩ forest =
      readInto ⟨position + Text.byteLength (escapeTextCharacter character), marked, rest⟩
        (forest.addText (String.ofList [character])) := by
  obtain ⟨ampersand, space, less, greater, -⟩ := referenced?_escapes
  unfold escapeTextCharacter
  split
  · exact readInto_reference "amp".toList (by decide) ampersand ..
  · exact readInto_reference "nbsp".toList (by decide) space ..
  · exact readInto_reference "lt".toList (by decide) less ..
  · exact readInto_reference "gt".toList (by decide) greater ..
  · rename_i notReference _ notTag _
    have plain : Lexeme.isPlain character = true := by
      simp only [Lexeme.isPlain, Bool.and_eq_true, bne_iff_ne]
      exact ⟨notTag, notReference⟩
    rw [List.singleton_append, readInto_plain plain]
    simp

end Reader

/-- The written form of a text adds the text. -/
theorem ReadsAnywhere.text (text : String) (forest : Forest) :
    ReadsAnywhere (escapeText text).toList forest (forest.addText text) := by
  intro position marked rest
  have characters (content : List Char) (start : Nat) (before : Forest) :
      Reader.readInto ⟨start, marked, content.flatMap escapeTextCharacter ++ rest⟩ before =
        Reader.readInto
          ⟨start + Text.byteLength (content.flatMap escapeTextCharacter), marked, rest⟩
          (before.addText (String.ofList content)) := by
    induction content generalizing start before with
    | nil => simp
    | cons character others inductionHypothesis =>
        rw [List.flatMap_cons, List.append_assoc, Reader.readInto_escapeTextCharacter,
          inductionHypothesis, Forest.addText_addText, ← String.ofList_append,
          List.singleton_append, Text.byteLength_append, Nat.add_assoc]
  have whole := characters text.toList position forest
  rw [String.ofList_toList] at whole
  rw [toList_escapeText]
  exact whole

/-- A mark that ends a comment is found behind content that does not hold it. -/
theorem upTo?_commentEnd {content : List Char} (absent : ¬ "-->".toList <:+: content)
    (rest : List Char) :
    upTo? "-->".toList (content ++ "-->".toList ++ rest) = some (content, rest) := by
  induction content with
  | nil => rfl
  | cons first others inductionHypothesis =>
      have absentBehind : ¬ "-->".toList <:+: others :=
        fun within => absent (within.trans (List.suffix_cons first others).isInfix)
      have notHere : "-->".toList.isPrefixOf? (first :: others ++ "-->".toList ++ rest) = none := by
        cases started : "-->".toList.isPrefixOf? (first :: others ++ "-->".toList ++ rest) with
        | none => rfl
        | some after =>
            have whole := Text.isPrefixOf?_eq started
            -- The mark has three characters, and its last one is no dash.
            match others, absent with
            | [], _ => simp at whole
            | [second], _ => simp at whole
            | second :: third :: more, absent =>
                simp only [List.cons_append, List.cons.injEq, String.reduceToList,
                  List.nil_append] at whole
                obtain ⟨rfl, rfl, rfl, -⟩ := whole
                exact (absent ⟨[], more, rfl⟩).elim
      rw [List.cons_append, List.cons_append] at notHere ⊢
      rw [upTo?, notHere, inductionHypothesis absentBehind, Option.map_some]

/-- The written form of a comment appends the comment. -/
theorem ReadsAnywhere.comment {content : String} (absent : ¬ "-->".toList <:+: content.toList)
    (forest : Forest) :
    ReadsAnywhere (Node.comment content).html.toList forest (forest.append (.comment content)) := by
  have written : (Node.comment content).html.toList =
      "<!--".toList ++ content.toList ++ "-->".toList := by
    simp [Node.html]
  rw [written]
  have read (rest : List Char) :
      Lexeme.next? ("<!--".toList ++ content.toList ++ "-->".toList ++ rest) = .ok (some
        ⟨.comment content.toList, "<!--".toList ++ content.toList ++ "-->".toList, rest⟩) := by
    have inner : "<!--".toList.isPrefixOf?
        ("<!--".toList ++ content.toList ++ "-->".toList ++ rest) =
          some (content.toList ++ "-->".toList ++ rest) := by
      rw [List.append_assoc, List.append_assoc, List.append_assoc]
      exact Text.isPrefixOf?_append _ _
    have lexeme : Lexeme.comment ("<!--".toList ++ content.toList ++ "-->".toList ++ rest) =
        .ok ⟨.comment content.toList, "<!--".toList ++ content.toList ++ "-->".toList, rest⟩ := by
      rw [Lexeme.comment, inner]
      simp only [upTo?_commentEnd absent]
      rfl
    have markup : Lexeme.next? ("<!--".toList ++ content.toList ++ "-->".toList ++ rest) =
        (Lexeme.comment ("<!--".toList ++ content.toList ++ "-->".toList ++ rest)).map some := rfl
    rw [markup, lexeme]
    rfl
  have means : meaning (.comment content.toList) = .ok (.steps [.append (.comment content)]) := by
    simp [meaning]
  exact .of_lexeme read means forest

end Markup

end Stencil
