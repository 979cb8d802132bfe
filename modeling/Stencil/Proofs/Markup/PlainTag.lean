import Stencil.Proofs.Markup.Escape

/-! Tags with plain names are read back. -/

namespace Stencil.Markup

/-- The characters of a plain name behind its first one. -/
def isNameCharacter (character : Char) : Bool :=
  character.isLower || character.isDigit || character = '-' || character = '_' ||
    character = ':' || character = '.'

/-- A plain name is a small letter and then small letters, digits, `-`, `_`, `:` and `.`. -/
def isPlainName (name : String) : Bool :=
  match name.toList with
  | [] => false
  | first :: rest => first.isLower && rest.all isNameCharacter

/-- A plain name is a small letter with characters of names behind it. -/
theorem isPlainName_iff {name : String} :
    isPlainName name = true ↔ ∃ first rest, name.toList = first :: rest ∧
      first.isLower = true ∧ ∀ character ∈ rest, isNameCharacter character = true := by
  unfold isPlainName
  cases name.toList with
  | nil => simp
  | cons first rest => simp [and_assoc]

/-- No mark is a character of a name. -/
theorem ne_of_isNameCharacter {character : Char} (inside : isNameCharacter character = true)
    (other : Char) (outside : isNameCharacter other = false) : character ≠ other := by
  rintro rfl
  rw [inside] at outside
  exact Bool.noConfusion outside

/-- No space is a character of a name. -/
theorem isSpace_of_isNameCharacter {character : Char} (inside : isNameCharacter character = true) :
    isSpace character = false := by
  have blank := ne_of_isNameCharacter inside ' ' (by decide)
  have tab := ne_of_isNameCharacter inside '\t' (by decide)
  have carriage := ne_of_isNameCharacter inside '\r' (by decide)
  have line := ne_of_isNameCharacter inside '\n' (by decide)
  simp [isSpace, blank, tab, carriage, line]

/-- Characters of names have no capitals. -/
theorem toLower_of_isNameCharacter {character : Char} (inside : isNameCharacter character = true) :
    character.toLower = character := by
  have lowerRange : character.isLower =
      (decide (character.val ≥ 'a'.val) && decide (character.val ≤ 'z'.val)) := rfl
  have notCapital : ¬ (character.val ≥ 'A'.val ∧ character.val ≤ 'Z'.val) := by
    rintro ⟨low, high⟩
    simp only [isNameCharacter, lowerRange, Char.isDigit, Bool.or_eq_true, Bool.and_eq_true,
      decide_eq_true_eq, ge_iff_le, UInt32.le_iff_toNat_le, Char.reduceVal,
      UInt32.reduceToNat] at inside low high
    rcases inside with ((((lower | digit) | rfl) | rfl) | rfl) | rfl
    · omega
    · omega
    all_goals revert low high; decide
  exact dif_neg notCapital

/-- All characters of a plain name are name characters, and there is one. -/
theorem isNameCharacter_of_isPlainName {name : String} (plain : isPlainName name = true) :
    ∀ character ∈ name.toList, isNameCharacter character = true := by
  obtain ⟨first, rest, whole, lower, others⟩ := isPlainName_iff.mp plain
  rw [whole]
  intro character member
  cases member with
  | head => simp [isNameCharacter, lower]
  | tail _ behind => exact others character behind

theorem map_toLower_of_isPlainName {name : String} (plain : isPlainName name = true) :
    name.toList.map Char.toLower = name.toList := by
  calc name.toList.map Char.toLower
      = name.toList.map id := List.map_congr_left fun character member =>
        toLower_of_isNameCharacter (isNameCharacter_of_isPlainName plain character member)
    _ = name.toList := List.map_id _

/-- Plain names are in lower case. -/
theorem toLower_of_isPlainName {name : String} (plain : isPlainName name = true) :
    name.toLower = name := by
  apply String.toList_injective
  have mapped : name.toLower = name.map Char.toLower := rfl
  rw [mapped, String.toList_map, map_toLower_of_isPlainName plain]

/-- A tag whose name and keys are plain, and whose keys are distinct. -/
structure PlainTag (tag : Tag) : Prop where
  name : isPlainName tag.name = true
  keys : ∀ key ∈ tag.attributes.keys, isPlainName key = true
  distinct : tag.attributes.keys.Nodup

/-! The end of a tag is the first `>` outside quotes. -/

/-- Characters outside of quotes belong to the content of the tag. -/
theorem tagContent?_append {piece : List Char}
    (outside : ∀ character ∈ piece, character ≠ '>' ∧ character ≠ '"' ∧ character ≠ '\x27')
    (source : List Char) :
    tagContent? none (piece ++ source) =
      (tagContent? none source).map fun found => (piece ++ found.1, found.2) := by
  induction piece with
  | nil => simp
  | cons first others inductionHypothesis =>
      have here := outside first (by simp)
      have behind := inductionHypothesis fun character member =>
        outside character (List.mem_cons_of_mem _ member)
      simp [tagContent?, here.1, here.2.1, here.2.2, behind, Function.comp_def]

/-- A value in quotes belongs to the content of the tag, whatever it holds. -/
theorem tagContent?_quoted {value : List Char} (closed : '"' ∉ value) (source : List Char) :
    tagContent? (some '"') (value ++ '"' :: source) =
      (tagContent? none source).map fun found => (value ++ '"' :: found.1, found.2) := by
  induction value with
  | nil => simp [tagContent?]
  | cons first others inductionHypothesis =>
      simp only [List.mem_cons, not_or] at closed
      simp [tagContent?, Ne.symm closed.1, inductionHypothesis closed.2, Function.comp_def]

theorem toList_attributesHtml_cons (name value : String) (rest : List (String × String)) :
    (Tag.attributesHtml ((name, value) :: rest)).toList =
      ' ' :: (name.toList ++ '=' :: '"' ::
        ((escapeValue value).toList ++ '"' :: (Tag.attributesHtml rest).toList)) := by
  simp [Tag.attributesHtml]

theorem isNameCharacter_outside {name : String} (plain : isPlainName name = true) :
    ∀ character ∈ name.toList, character ≠ '>' ∧ character ≠ '"' ∧ character ≠ '\x27' := by
  intro character member
  have inside := isNameCharacter_of_isPlainName plain character member
  exact ⟨ne_of_isNameCharacter inside '>' (by decide), ne_of_isNameCharacter inside '"' (by decide),
    ne_of_isNameCharacter inside '\x27' (by decide)⟩

/-- Written attributes belong to the content of the tag. -/
theorem tagContent?_attributesHtml {entries : List (String × String)}
    (plain : ∀ entry ∈ entries, isPlainName entry.1 = true) (source : List Char) :
    tagContent? none ((Tag.attributesHtml entries).toList ++ source) =
      (tagContent? none source).map fun found =>
        ((Tag.attributesHtml entries).toList ++ found.1, found.2) := by
  induction entries with
  | nil => simp [Tag.attributesHtml]
  | cons entry rest inductionHypothesis =>
      obtain ⟨name, value⟩ := entry
      have behind := inductionHypothesis fun entry member =>
        plain entry (List.mem_cons_of_mem _ member)
      have key := isNameCharacter_outside (plain (name, value) (by simp))
      have start (tail : List Char) : tagContent? none (' ' :: tail) =
          (tagContent? none tail).map fun found => (' ' :: found.1, found.2) := by
        simp [tagContent?]
      have assign (tail : List Char) : tagContent? none ('=' :: '"' :: tail) =
          (tagContent? (some '"') tail).map fun found => ('=' :: '"' :: found.1, found.2) := by
        simp [tagContent?, Function.comp_def]
      rw [toList_attributesHtml_cons]
      simp only [List.cons_append, List.append_assoc, start, tagContent?_append key, assign,
        tagContent?_quoted (quote_notMem_escapeValue value), behind, Option.map_map,
        Function.comp_def]

/-! The content of a start tag gives back the name and the attributes. -/

/-- A value in quotes is read up to its closing quote. -/
theorem attributeValue_written (ending : Nat) {value : List Char} (closed : '"' ∉ value)
    (rest : List Char) :
    attributeValue ending ('=' :: '"' :: (value ++ '"' :: rest)) = .ok (value, rest) := by
  have inner : ∀ character ∈ value, (character != '"') = true := by
    intro character member
    rw [bne_iff_ne]
    rintro rfl
    exact closed member
  have assigned : ('=' :: '"' :: (value ++ '"' :: rest)).dropWhile isSpace =
      '=' :: '"' :: (value ++ '"' :: rest) := by
    simp [isSpace]
  have opened : ('"' :: (value ++ '"' :: rest)).dropWhile isSpace =
      '"' :: (value ++ '"' :: rest) := by
    simp [isSpace]
  simp [attributeValue, assigned, opened, isQuote, List.dropWhile_append_of_pos inner,
    List.takeWhile_append_of_pos inner]

/-- A written attribute is read as its name and value. -/
theorem attributePairs_cons (ending : Nat) (seen : List (List Char × Nat)) {name : String}
    (plain : isPlainName name = true) (fresh : seen.lookup name.toList = none) {value : List Char}
    (closed : '"' ∉ value) (rest : List Char) :
    ∃ position, attributePairs ending seen
        (' ' :: (name.toList ++ '=' :: '"' :: (value ++ '"' :: rest))) =
      (attributePairs ending ((name.toList, position) :: seen) rest).map
        ((name.toList, value) :: ·) := by
  obtain ⟨first, others, whole, lower, inside⟩ := isPlainName_iff.mp plain
  have parts : ∀ character ∈ others, isKeyPart character = true := by
    intro character member
    have notEquals := ne_of_isNameCharacter (inside character member) '=' (by decide)
    simp [isKeyPart, notEquals, isSpace_of_isNameCharacter (inside character member)]
  have notSpace : isSpace first = false :=
    isSpace_of_isNameCharacter (by simp [isNameCharacter, lower])
  have stop : isKeyPart '=' = false := by decide
  rw [whole] at fresh ⊢
  have blank : isSpace ' ' = true := by decide
  have begins :
      (' ' :: (first :: others ++ '=' :: '"' :: (value ++ '"' :: rest))).dropWhile isSpace =
        first :: (others ++ '=' :: '"' :: (value ++ '"' :: rest)) := by
    simp [blank, notSpace]
  have key : (others ++ '=' :: '"' :: (value ++ '"' :: rest)).takeWhile isKeyPart = others := by
    simp [List.takeWhile_append_of_pos parts, stop]
  have behindKey : (others ++ '=' :: '"' :: (value ++ '"' :: rest)).dropWhile isKeyPart =
      '=' :: '"' :: (value ++ '"' :: rest) := by
    simp [List.dropWhile_append_of_pos parts, stop]
  refine ⟨ending -
    Text.byteLength (first :: (others ++ '=' :: '"' :: (value ++ '"' :: rest))), ?_⟩
  conv => lhs; rw [attributePairs]
  split
  · rename_i none
    rw [begins] at none
    simp at none
  · rename_i found tail start
    rw [begins, List.cons.injEq] at start
    obtain ⟨rfl, rfl⟩ := start
    simp only [key, fresh]
    split
    · rename_i read
      rw [behindKey, attributeValue_written ending closed] at read
      simp at read
    · rename_i found after read
      rw [behindKey, attributeValue_written ending closed, Except.ok.injEq, Prod.mk.injEq] at read
      rw [← read.1, ← read.2]

/-- Written attributes are read in their order. -/
theorem attributePairs_attributesHtml (ending : Nat) {entries : List (String × String)}
    (plain : ∀ entry ∈ entries, isPlainName entry.1 = true) (distinct : (entries.map (·.1)).Nodup)
    (seen : List (List Char × Nat)) (fresh : ∀ entry ∈ entries, seen.lookup entry.1.toList = none) :
    attributePairs ending seen (Tag.attributesHtml entries).toList =
      .ok (entries.map fun entry => (entry.1.toList, (escapeValue entry.2).toList)) := by
  induction entries generalizing seen with
  | nil =>
      rw [attributePairs]
      rfl
  | cons entry rest inductionHypothesis =>
      obtain ⟨name, value⟩ := entry
      simp only [List.map_cons, List.nodup_cons, List.mem_map, not_exists, not_and] at distinct
      obtain ⟨position, step⟩ := attributePairs_cons ending seen (plain (name, value) (by simp))
        (fresh (name, value) (by simp)) (quote_notMem_escapeValue value)
        (Tag.attributesHtml rest).toList
      -- A name that was just read is none of the names behind it.
      have freshBehind : ∀ entry ∈ rest,
          ((name.toList, position) :: seen).lookup entry.1.toList = none := by
        intro entry member
        have different : entry.1.toList ≠ name.toList := fun same =>
          distinct.1 entry member (String.toList_injective same)
        rw [List.lookup_cons, beq_false_of_ne different]
        exact fresh entry (List.mem_cons_of_mem _ member)
      have behind := inductionHypothesis
        (fun entry member => plain entry (List.mem_cons_of_mem _ member)) distinct.2 _ freshBehind
      rw [toList_attributesHtml_cons, step, behind]
      rfl

/-- Written attributes end with a quote. -/
theorem getLast?_attributesHtml_cons (entry : String × String) (rest : List (String × String)) :
    (Tag.attributesHtml (entry :: rest)).toList.getLast? = some '"' := by
  induction rest generalizing entry with
  | nil =>
      obtain ⟨name, value⟩ := entry
      rw [toList_attributesHtml_cons, ← List.cons_append, List.getLast?_append, List.getLast?_cons,
        List.getLast?_cons, List.getLast?_append]
      simp [Tag.attributesHtml]
  | cons second others inductionHypothesis =>
      obtain ⟨name, value⟩ := entry
      have behind := inductionHypothesis second
      rw [toList_attributesHtml_cons, List.getLast?_cons, List.getLast?_append, List.getLast?_cons,
        List.getLast?_cons, List.getLast?_append, List.getLast?_cons, behind]
      rfl

/-- The content of the written start tag. -/
def tagContent (tag : Tag) : List Char :=
  tag.name.toList ++ (Tag.attributesHtml tag.attributes.entries).toList

/-- A start tag is its content between `<` and `>`. -/
theorem toList_opening (tag : Tag) : tag.opening.toList = '<' :: (tagContent tag ++ ['>']) := by
  simp [Tag.opening, tagContent]

namespace PlainTag

variable {tag : Tag}

theorem entries (plain : PlainTag tag) :
    ∀ entry ∈ tag.attributes.entries, isPlainName entry.1 = true := fun entry member =>
  plain.keys entry.1 (List.mem_map.mpr ⟨entry, member, rfl⟩)

/-- Written attributes are had back. -/
theorem attributesOf (plain : PlainTag tag) :
    attributesOf (tag.attributes.entries.map fun entry =>
      (entry.1.toList, (escapeValue entry.2).toList)) = tag.attributes := by
  have same : tag.attributes.entries.map (fun entry =>
      ((String.ofList entry.1.toList).toLower,
        String.ofList (decodeValue (escapeValue entry.2).toList))) = tag.attributes.entries := by
    calc _ = tag.attributes.entries.map id := List.map_congr_left fun entry member => by
          rw [String.ofList_toList, toLower_of_isPlainName (plain.entries entry member),
            decodeValue_escapeValue, id]
      _ = tag.attributes.entries := List.map_id _
  rw [Markup.attributesOf, List.map_map, Function.comp_def, same,
    OrderedMap.ofList_of_nodup plain.distinct]

/-- The content of the written start tag is read as the tag. -/
theorem tagOf (plain : PlainTag tag) : tagOf (tagContent tag) = .ok tag := by
  have outside : ∀ character ∈ tag.name.toList, (!isSpace character) = true := by
    intro character member
    rw [isSpace_of_isNameCharacter (isNameCharacter_of_isPlainName plain.name character member)]
    rfl
  have noName : (Tag.attributesHtml tag.attributes.entries).toList.takeWhile (!isSpace ·) = [] ∧
      (Tag.attributesHtml tag.attributes.entries).toList.dropWhile (!isSpace ·) =
        (Tag.attributesHtml tag.attributes.entries).toList := by
    cases tag.attributes.entries with
    | nil => exact ⟨rfl, rfl⟩
    | cons entry rest =>
        rw [toList_attributesHtml_cons]
        exact ⟨rfl, rfl⟩
  have name : (tagContent tag).takeWhile (!isSpace ·) = tag.name.toList := by
    rw [tagContent, List.takeWhile_append_of_pos outside, noName.1, List.append_nil]
  have attributes : (tagContent tag).dropWhile (!isSpace ·) =
      (Tag.attributesHtml tag.attributes.entries).toList := by
    rw [tagContent, List.dropWhile_append_of_pos outside, noName.2]
  have pairs := attributePairs_attributesHtml (Text.byteLength (tagContent tag)) plain.entries
    plain.distinct [] (by simp)
  rw [Markup.tagOf, name, attributes, pairs]
  simp only [Except.map, plain.attributesOf, String.ofList_toList,
    toLower_of_isPlainName plain.name]

/-- The name starts with a small letter, so that what follows `<` is a start tag. -/
theorem markup_eq (plain : PlainTag tag) (rest : List Char) :
    Lexeme.markup ('<' :: (tag.name.toList ++ rest)) =
      Lexeme.startTag ('<' :: (tag.name.toList ++ rest)) := by
  obtain ⟨first, others, whole, lower, -⟩ := isPlainName_iff.mp plain.name
  have inside : isNameCharacter first = true := by simp [isNameCharacter, lower]
  have bang := ne_of_isNameCharacter inside '!' (by decide)
  have question := ne_of_isNameCharacter inside '?' (by decide)
  have slash := ne_of_isNameCharacter inside '/' (by decide)
  rw [whole]
  unfold Lexeme.markup
  split <;> simp_all

/-- The content ends in a quote or in a character of the name. -/
theorem getLast?_tagContent_ne (plain : PlainTag tag) : (tagContent tag).getLast? ≠ some '/' := by
  intro slash
  rw [tagContent, List.getLast?_append] at slash
  cases held : tag.attributes.entries with
  | nil =>
      rw [held] at slash
      have member : '/' ∈ tag.name.toList :=
        List.mem_of_getLast? (by simpa [Tag.attributesHtml] using slash)
      have inside := isNameCharacter_of_isPlainName plain.name '/' member
      exact absurd inside (by decide)
  | cons entry rest =>
      rw [held, getLast?_attributesHtml_cons] at slash
      simp at slash

/-- The written start tag is read as the tag whatever stands behind it. -/
theorem next?_opening (plain : PlainTag tag) (rest : List Char) :
    Lexeme.next? (tag.opening.toList ++ rest) =
      .ok (some ⟨.startTag (tagContent tag), tag.opening.toList, rest⟩) := by
  have content :
      tagContent? none (tagContent tag ++ '>' :: rest) = some (tagContent tag, rest) := by
    rw [tagContent, List.append_assoc, tagContent?_append (isNameCharacter_outside plain.name),
      tagContent?_attributesHtml plain.entries]
    simp [tagContent?]
  have start : Lexeme.startTag ('<' :: (tagContent tag ++ '>' :: rest)) =
      .ok ⟨.startTag (tagContent tag), '<' :: (tagContent tag ++ ['>']), rest⟩ := by
    simp [Lexeme.startTag, content, Lexeme.enclosed, Lexeme.startToken,
      plain.getLast?_tagContent_ne]
  have markup := plain.markup_eq ((Tag.attributesHtml tag.attributes.entries).toList ++ '>' :: rest)
  rw [← List.append_assoc, ← tagContent, start] at markup
  rw [toList_opening, List.cons_append, List.append_assoc, List.singleton_append, Lexeme.next?,
    markup]
  rfl

/-- What a start tag means is what its tag does. -/
theorem meaning_startTag (plain : PlainTag tag) :
    meaning (.startTag (tagContent tag)) = .ok (startMeaning tag) := by
  rw [meaning, plain.tagOf]
  rfl

/-- The written tag of a void element appends the element. -/
theorem reads_void (plain : PlainTag tag) (isVoid : tag.isVoid = true) (forest : Forest) :
    ReadsAnywhere tag.opening.toList forest (forest.append (.element tag [])) := by
  have means : meaning (.startTag (tagContent tag)) =
      .ok (.steps [.append (.element tag [])]) := by
    rw [plain.meaning_startTag, startMeaning, if_pos isVoid]
  exact .of_lexeme plain.next?_opening means forest

/-- The written start tag opens the element. -/
theorem reads_opening (plain : PlainTag tag) (notVoid : tag.isVoid = false)
    (notRaw : tag.isRawText = false) (forest : Forest) :
    ReadsAnywhere tag.opening.toList forest (forest.openElement tag) := by
  have means : meaning (.startTag (tagContent tag)) = .ok (.steps [.openElement tag]) := by
    rw [plain.meaning_startTag, startMeaning, notVoid, notRaw]
    rfl
  exact .of_lexeme plain.next?_opening means forest

/-- The name of an end tag is had back. -/
theorem closedName (plain : PlainTag tag) : closedName tag.name.toList = tag.name := by
  obtain ⟨first, others, whole, -, -⟩ := isPlainName_iff.mp plain.name
  have unspaced : tag.name.toList.reverse.dropWhile isSpace = tag.name.toList.reverse := by
    cases reversed : tag.name.toList.reverse with
    | nil => rfl
    | cons last before =>
        have member : last ∈ tag.name.toList := by
          rw [← List.mem_reverse, reversed]
          exact List.mem_cons_self
        have inside := isNameCharacter_of_isPlainName plain.name last member
        rw [List.dropWhile_cons, isSpace_of_isNameCharacter inside]
        rfl
  simp [Markup.closedName, unspaced, toLower_of_isPlainName plain.name]

/-- The written end tag closes the innermost open element of its name. -/
theorem reads_closing (plain : PlainTag tag) (notVoid : tag.isVoid = false) (forest : Forest) :
    ReadsAnywhere tag.closing.toList forest (forest.close tag.name) := by
  have written : tag.closing.toList = '<' :: '/' :: (tag.name.toList ++ ['>']) := by
    simp [Tag.closing]
  have read (rest : List Char) : Lexeme.next? (tag.closing.toList ++ rest) =
      .ok (some ⟨.endTag tag.name.toList, tag.closing.toList, rest⟩) := by
    have content : tagContent? none (tag.name.toList ++ '>' :: rest) =
        some (tag.name.toList, rest) := by
      rw [tagContent?_append (isNameCharacter_outside plain.name)]
      simp [tagContent?]
    rw [written]
    simp [Lexeme.next?, Lexeme.markup, Lexeme.endTag, content, Lexeme.enclosed, Except.map]
  have means : meaning (.endTag tag.name.toList) = .ok (.steps [.close tag.name]) := by
    have known : voidNames.contains tag.name = false := notVoid
    rw [meaning]
    simp only [plain.closedName, known, Bool.false_eq_true, if_false]
  exact .of_lexeme read means forest

end PlainTag

end Stencil.Markup
