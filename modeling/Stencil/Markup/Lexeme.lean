import Stencil.Text.Start

/-! The lexemes of markup text: texts, references, tags, comments, and what is skipped. Which
lexemes and faults there are is assumed behaviour of the tokenizer; the parser's own rules begin
where a token gets a `meaning`. -/

namespace Stencil.Markup

/-- The reasons why no lexeme can be read. -/
inductive Fault where
  | openTag
  | openComment
  | openCharacterData
  | openDoctype
  | openInstruction
  | namelessDoctype
  | unknownMarkup
deriving Repr, DecidableEq

/-- The text of a fault. -/
def Fault.message : Fault → String
  | openTag => "syntax error: tag not closed: `>` not found before end of input"
  | openComment => "syntax error: comment not closed: `-->` not found before end of input"
  | openCharacterData => "syntax error: CDATA not closed: `]]>` not found before end of input"
  | openDoctype => "syntax error: DOCTYPE not closed: `>` not found before end of input"
  | openInstruction =>
      "syntax error: processing instruction or xml declaration not closed: " ++
        "`?>` not found before end of input"
  | namelessDoctype =>
      "ill-formed document: `<!DOCTYPE>` declaration does not contain a name of a document type"
  | unknownMarkup => "syntax error: unknown or missed symbol in markup"

/-- The kinds of lexemes, with what stands between their marks. -/
inductive Token where
  | text (content : List Char)
  | reference (body : List Char)
  | startTag (content : List Char)
  | emptyTag (content : List Char)
  | endTag (content : List Char)
  | comment (content : List Char)
  | skipped
deriving Repr, DecidableEq

/-- A token, the characters it was read from, and the characters behind it. -/
structure Lexeme where
  token : Token
  text : List Char
  rest : List Char
deriving Repr, DecidableEq

/-- Tags know four blank characters. -/
def isSpace (character : Char) : Bool :=
  character = ' ' || character = '\t' || character = '\r' || character = '\n'

/-- The characters before the first occurrence of a mark, and the characters after it. -/
def upTo? (mark : List Char) : List Char → Option (List Char × List Char)
  | [] => none
  | character :: rest =>
      match mark.isPrefixOf? (character :: rest) with
      | some after => some ([], after)
      | none => (upTo? mark rest).map fun found => (character :: found.1, found.2)

/-- The characters before the first `>` outside quotes, and the characters after it. -/
def tagContent? (quote : Option Char) : List Char → Option (List Char × List Char)
  | [] => none
  | character :: rest =>
      if quote = none ∧ character = '>' then some ([], rest)
      else
        let quote := match quote with
          | some mark => if character = mark then none else quote
          | none => if character = '"' ∨ character = '\x27' then some character else none
        (tagContent? quote rest).map fun found => (character :: found.1, found.2)

/-- The characters before the `>` that closes the given number of inner `<` and itself. -/
def declaration? (inner : Nat) : List Char → Option (List Char × List Char)
  | [] => none
  | character :: rest =>
      if inner = 0 ∧ character = '>' then some ([], rest)
      else
        let inner :=
          if character = '>' then inner - 1 else if character = '<' then inner + 1 else inner
        (declaration? inner rest).map fun found => (character :: found.1, found.2)

namespace Lexeme

/-- A lexeme made of an opening, a content and a closing. -/
def enclosed (opening closing : List Char) (token : List Char → Token)
    (found : List Char × List Char) : Lexeme :=
  ⟨token found.1, opening ++ found.1 ++ closing, found.2⟩

/-- A comment ends at the first `-->`. -/
def comment (source : List Char) : Except Fault Lexeme :=
  match "<!--".toList.isPrefixOf? source with
  | none => .error .openComment
  | some inner =>
      match upTo? "-->".toList inner with
      | none => .error .openComment
      | some found => .ok (enclosed "<!--".toList "-->".toList .comment found)

/-- Character data is text up to the first `]]>`. -/
def characterData (source : List Char) : Except Fault Lexeme :=
  match "<![CDATA[".toList.isPrefixOf? source with
  | none => .error .openCharacterData
  | some inner =>
      match upTo? "]]>".toList inner with
      | none => .error .openCharacterData
      | some found => .ok (enclosed "<![CDATA[".toList "]]>".toList .text found)

/-- The word `doctype` may be written in any case, and a name has to follow it. -/
def doctype (source : List Char) : Except Fault Lexeme :=
  match declaration? 0 (source.drop 2) with
  | none => .error .openDoctype
  | some found =>
      if (found.1.take 7).map Char.toLower ≠ "doctype".toList then .error .openDoctype
      else if (found.1.drop 7).all isSpace then .error .namelessDoctype
      else .ok (enclosed (source.take 2) ['>'] (fun _ => .skipped) found)

/-- The first `?>` ends an instruction; the mark that opens it may not be part of that. -/
def instruction (source : List Char) : Except Fault Lexeme :=
  match source.drop 2 with
  | '>' :: _ => .error .openInstruction
  | inner =>
      match upTo? "?>".toList inner with
      | none => .error .openInstruction
      | some found => .ok (enclosed (source.take 2) "?>".toList (fun _ => .skipped) found)

/-- An end tag ends at the first `>`. -/
def endTag (source : List Char) : Except Fault Lexeme :=
  match tagContent? none (source.drop 2) with
  | none => .error .openTag
  | some found => .ok (enclosed (source.take 2) ['>'] .endTag found)

/-- A start tag whose content ends in a slash is an empty one. -/
def startToken (content : List Char) : Token :=
  if content.getLast? = some '/' then .emptyTag content.dropLast else .startTag content

/-- A start tag ends at the first `>` outside of quotes. -/
def startTag (source : List Char) : Except Fault Lexeme :=
  match tagContent? none (source.drop 1) with
  | none => .error .openTag
  | some found => .ok (enclosed (source.take 1) ['>'] startToken found)

/-- What starts with `<` is told apart by the two characters behind it. -/
def markup (source : List Char) : Except Fault Lexeme :=
  match source with
  | _ :: '!' :: '-' :: _ => comment source
  | _ :: '!' :: '[' :: _ => characterData source
  | _ :: '!' :: 'd' :: _ => doctype source
  | _ :: '!' :: 'D' :: _ => doctype source
  | _ :: '!' :: _ => .error .unknownMarkup
  | _ :: '?' :: _ => instruction source
  | _ :: '/' :: _ => endTag source
  | _ => startTag source

/-- A character that belongs to a text whatever stands before it. -/
def isPlain (character : Char) : Bool := character != '<' && character != '&'

def insideReference (character : Char) : Bool := isPlain character && character != ';'

/-- An ampersand starts a reference if a semicolon comes before the next ampersand or tag. -/
def ampersand (source : List Char) : Lexeme :=
  let body := (source.drop 1).takeWhile insideReference
  match (source.drop 1).dropWhile insideReference with
  | ';' :: after => enclosed (source.take 1) [';'] .reference (body, after)
  | after => ⟨.text (source.take 1 ++ body), source.take 1 ++ body, after⟩

/-- Text up to the next mark. -/
def plain (source : List Char) : Lexeme :=
  ⟨.text (source.takeWhile isPlain), source.takeWhile isPlain, source.dropWhile isPlain⟩

/-- The first lexeme of a source; the empty source has none. -/
def next? (source : List Char) : Except Fault (Option Lexeme) :=
  match source with
  | [] => .ok none
  | '<' :: _ => (markup source).map some
  | '&' :: _ => .ok (some (ampersand source))
  | _ => .ok (some (plain source))

end Lexeme

/-- The source is what stands before the mark, the mark, and what follows it. -/
theorem upTo?_eq {mark source before after : List Char}
    (found : upTo? mark source = some (before, after)) : source = before ++ mark ++ after := by
  induction source generalizing before with
  | nil => simp [upTo?] at found
  | cons character rest inductionHypothesis =>
      unfold upTo? at found
      split at found
      · rename_i remaining started
        simp only [Option.some.injEq, Prod.mk.injEq] at found
        obtain ⟨rfl, rfl⟩ := found
        exact Text.isPrefixOf?_eq started
      · obtain ⟨⟨inner, behind⟩, foundRest, same⟩ := Option.map_eq_some_iff.mp found
        simp only [Prod.mk.injEq] at same
        obtain ⟨rfl, rfl⟩ := same
        rw [inductionHypothesis foundRest]
        simp

/-- The content of a tag stands in front of its `>`. -/
theorem tagContent?_eq {quote : Option Char} {source content after : List Char}
    (found : tagContent? quote source = some (content, after)) :
    source = content ++ '>' :: after := by
  induction source generalizing quote content with
  | nil => simp [tagContent?] at found
  | cons character rest inductionHypothesis =>
      unfold tagContent? at found
      split at found
      · rename_i closing
        simp only [Option.some.injEq, Prod.mk.injEq] at found
        simp [← found.1, ← found.2, closing.2]
      · obtain ⟨⟨inner, behind⟩, foundRest, same⟩ := Option.map_eq_some_iff.mp found
        simp only [Prod.mk.injEq] at same
        obtain ⟨rfl, rfl⟩ := same
        rw [inductionHypothesis foundRest]
        simp

/-- The content of a declaration stands in front of its `>`. -/
theorem declaration?_eq {inner : Nat} {source content after : List Char}
    (found : declaration? inner source = some (content, after)) :
    source = content ++ '>' :: after := by
  induction source generalizing inner content with
  | nil => simp [declaration?] at found
  | cons character rest inductionHypothesis =>
      unfold declaration? at found
      split at found
      · rename_i closing
        simp only [Option.some.injEq, Prod.mk.injEq] at found
        simp [← found.1, ← found.2, closing.2]
      · obtain ⟨⟨first, behind⟩, foundRest, same⟩ := Option.map_eq_some_iff.mp found
        simp only [Prod.mk.injEq] at same
        obtain ⟨rfl, rfl⟩ := same
        rw [inductionHypothesis foundRest]
        simp

namespace Lexeme

/-- A lexeme and its rest are the source, and something was read. -/
def Covers (lexeme : Lexeme) (source : List Char) : Prop :=
  lexeme.text ++ lexeme.rest = source ∧ lexeme.text ≠ []

/-- A lexeme leaves less than there was. -/
theorem Covers.length_lt {lexeme : Lexeme} {source : List Char} (covers : lexeme.Covers source) :
    lexeme.rest.length < source.length := by
  have := List.length_pos_iff.mpr covers.2
  rw [← covers.1, List.length_append]
  omega

/-- A token between marks covers its source. -/
theorem enclosed_covers {opening closing : List Char} {token : List Char → Token}
    {found : List Char × List Char} {source : List Char} (opened : opening ≠ [])
    (whole : source = opening ++ (found.1 ++ closing ++ found.2)) :
    (enclosed opening closing token found).Covers source := by
  refine ⟨?_, ?_⟩
  · simp [enclosed, whole]
  · simp [enclosed, opened]

theorem comment_covers {source : List Char} {lexeme : Lexeme}
    (read : comment source = .ok lexeme) : lexeme.Covers source := by
  unfold comment at read
  split at read
  · simp at read
  · rename_i inner started
    split at read
    · simp at read
    · rename_i found search
      simp only [Except.ok.injEq] at read
      subst read
      exact enclosed_covers (by simp) (by rw [Text.isPrefixOf?_eq started, upTo?_eq search])

theorem characterData_covers {source : List Char} {lexeme : Lexeme}
    (read : characterData source = .ok lexeme) : lexeme.Covers source := by
  unfold characterData at read
  split at read
  · simp at read
  · rename_i inner started
    split at read
    · simp at read
    · rename_i found search
      simp only [Except.ok.injEq] at read
      subst read
      exact enclosed_covers (by simp) (by rw [Text.isPrefixOf?_eq started, upTo?_eq search])

theorem doctype_covers {source : List Char} {lexeme : Lexeme} (marked : source ≠ [])
    (read : doctype source = .ok lexeme) : lexeme.Covers source := by
  unfold doctype at read
  split at read
  · simp at read
  · rename_i found search
    split at read
    · simp at read
    · split at read
      · simp at read
      · simp only [Except.ok.injEq] at read
        subst read
        refine enclosed_covers (by simp [marked]) ?_
        conv => lhs; rw [← List.take_append_drop 2 source]
        rw [declaration?_eq search]
        simp

theorem instruction_covers {source : List Char} {lexeme : Lexeme} (marked : source ≠ [])
    (read : instruction source = .ok lexeme) : lexeme.Covers source := by
  unfold instruction at read
  split at read
  · simp at read
  · split at read
    · simp at read
    · rename_i found search
      simp only [Except.ok.injEq] at read
      subst read
      refine enclosed_covers (by simp [marked]) ?_
      conv => lhs; rw [← List.take_append_drop 2 source]
      rw [upTo?_eq search]

theorem endTag_covers {source : List Char} {lexeme : Lexeme} (marked : source ≠ [])
    (read : endTag source = .ok lexeme) : lexeme.Covers source := by
  unfold endTag at read
  split at read
  · simp at read
  · rename_i found search
    simp only [Except.ok.injEq] at read
    subst read
    refine enclosed_covers (by simp [marked]) ?_
    conv => lhs; rw [← List.take_append_drop 2 source]
    rw [tagContent?_eq search]
    simp

theorem startTag_covers {source : List Char} {lexeme : Lexeme} (marked : source ≠ [])
    (read : startTag source = .ok lexeme) : lexeme.Covers source := by
  unfold startTag at read
  split at read
  · simp at read
  · rename_i found search
    simp only [Except.ok.injEq] at read
    subst read
    refine enclosed_covers (by simp [marked]) ?_
    conv => lhs; rw [← List.take_append_drop 1 source]
    rw [tagContent?_eq search]
    simp

/-- Whatever starts with `<` covers its source. -/
theorem markup_covers {source : List Char} {lexeme : Lexeme} (marked : source ≠ [])
    (read : markup source = .ok lexeme) : lexeme.Covers source := by
  unfold markup at read
  split at read
  · exact comment_covers read
  · exact characterData_covers read
  · exact doctype_covers marked read
  · exact doctype_covers marked read
  · simp at read
  · exact instruction_covers marked read
  · exact endTag_covers marked read
  · exact startTag_covers marked read

/-- A reference or a bare ampersand covers its source. -/
theorem ampersand_covers {source : List Char} (marked : source ≠ []) :
    (ampersand source).Covers source := by
  have whole := List.takeWhile_append_dropWhile (p := insideReference) (l := source.drop 1)
  unfold ampersand
  simp only
  split
  · rename_i after stop
    refine enclosed_covers (by simp [marked]) ?_
    conv => lhs; rw [← List.take_append_drop 1 source, ← whole, stop]
    simp
  · refine ⟨?_, by simp [marked]⟩
    conv => rhs; rw [← List.take_append_drop 1 source, ← whole]
    simp

/-- A lexeme covers the source it was read from. -/
theorem next?_covers {source : List Char} {lexeme : Lexeme}
    (read : next? source = .ok (some lexeme)) : lexeme.Covers source := by
  unfold next? at read
  split at read
  · simp at read
  · rename_i rest
    generalize found : markup ('<' :: rest) = result at read
    cases result with
    | error fault => simp [Except.map] at read
    | ok inner =>
        simp only [Except.map, Except.ok.injEq, Option.some.injEq] at read
        subst read
        exact markup_covers (by simp) found
  · simp only [Except.ok.injEq, Option.some.injEq] at read
    subst read
    exact ampersand_covers (by simp)
  · rename_i notEmpty notMarkup notReference
    simp only [Except.ok.injEq, Option.some.injEq] at read
    subst read
    refine ⟨List.takeWhile_append_dropWhile, ?_⟩
    cases source with
    | nil => exact (notEmpty rfl).elim
    | cons first rest =>
        have markless : first ≠ '<' := fun same => notMarkup rest (by rw [same])
        have referenceless : first ≠ '&' := fun same => notReference rest (by rw [same])
        simp [plain, List.takeWhile_cons, isPlain, markless, referenceless]

end Lexeme

end Stencil.Markup
