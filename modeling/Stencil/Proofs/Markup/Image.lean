import Stencil.Proofs.Markup.Canonical

/-! What a source is read as: nodes of the canonical form only. -/

namespace Stencil.Markup

theorem ok_of_map_eq_ok {ε α β : Type} {result : Except ε α} {change : α → β} {value : β}
    (mapped : result.map change = .ok value) :
    ∃ inner, result = .ok inner ∧ change inner = value := by
  cases result with
  | error fault => cases mapped
  | ok inner => exact ⟨inner, rfl, Except.ok.inj mapped⟩

/-- What stands in front of the first mark does not hold the mark. -/
theorem not_infix_of_upTo? {mark source before after : List Char} (nonempty : mark ≠ [])
    (found : upTo? mark source = some (before, after)) : ¬ mark <:+: before := by
  induction source generalizing before with
  | nil => cases found
  | cons character rest inductionHypothesis =>
      have whole := upTo?_eq found
      rw [upTo?] at found
      split at found
      · cases found
        exact fun within => nonempty (List.infix_nil.mp within)
      · rename_i absent
        obtain ⟨⟨inner, behind⟩, foundRest, same⟩ := Option.map_eq_some_iff.mp found
        cases same
        intro within
        rcases List.infix_cons_iff.mp within with ⟨others, starts⟩ | inside
        · rw [whole, ← starts, List.append_assoc, List.append_assoc,
            Text.isPrefixOf?_append] at absent
          cases absent
        · exact inductionHypothesis foundRest inside

/-! Tags are read in small letters. -/

/-- Names in lower case are small. -/
theorem isSmall_toLower (name : String) : IsSmall name.toLower := by
  intro character member
  have mapped : name.toLower = name.map Char.toLower := rfl
  rw [mapped, String.toList_map, List.mem_map] at member
  obtain ⟨written, -, rfl⟩ := member
  exact Text.isUpper_toLower written

/-- The tag of a start tag is small. -/
theorem smallTag_of_tagOf {content : List Char} {tag : Tag} (read : tagOf content = .ok tag) :
    SmallTag tag := by
  obtain ⟨pairs, -, rfl⟩ := ok_of_map_eq_ok read
  refine ⟨isSmall_toLower _, fun key held => ?_, OrderedMap.nodup_keys_ofList _⟩
  obtain ⟨entry, member, rfl⟩ := List.mem_map.mp held
  obtain ⟨pair, -, rfl⟩ := List.mem_map.mp (OrderedMap.mem_entries_ofList member)
  exact isSmall_toLower _

/-! A comment is read up to the first `-->`. -/

namespace Lexeme

/-- No comment ends inside of itself. -/
theorem unended_of_comment {source content : List Char} {lexeme : Lexeme}
    (read : comment source = .ok lexeme) (token : lexeme.token = .comment content) :
    ¬ "-->".toList <:+: content := by
  unfold comment at read
  split at read
  · cases read
  · split at read
    · cases read
    · rename_i found search
      cases read
      cases token
      exact not_infix_of_upTo? (by decide) search

/-- A declaration is no comment. -/
theorem ne_comment_of_doctype {source : List Char} {lexeme : Lexeme}
    (read : doctype source = .ok lexeme) (content : List Char) :
    lexeme.token ≠ .comment content := by
  unfold doctype at read
  split at read
  · cases read
  · split at read
    · cases read
    · split at read
      · cases read
      · cases read
        intro token
        cases token

/-- No other markup is a comment. -/
theorem comment_of_markup {source content : List Char} {lexeme : Lexeme}
    (read : markup source = .ok lexeme) (token : lexeme.token = .comment content) :
    comment source = .ok lexeme := by
  unfold markup at read
  split at read
  · exact read
  · unfold characterData at read
    split at read
    · cases read
    · split at read
      · cases read
      · cases read
        cases token
  · exact (ne_comment_of_doctype read content token).elim
  · exact (ne_comment_of_doctype read content token).elim
  · cases read
  · unfold instruction at read
    split at read
    · cases read
    · split at read
      · cases read
      · cases read
        cases token
  · unfold endTag at read
    split at read
    · cases read
    · cases read
      cases token
  · unfold startTag at read
    split at read
    · cases read
    · cases read
      simp only [enclosed, startToken] at token
      split at token
      · cases token
      · cases token

/-- No comment that is read ends inside of itself. -/
theorem unended_of_next? {source content : List Char} {lexeme : Lexeme}
    (read : next? source = .ok (some lexeme)) (token : lexeme.token = .comment content) :
    ¬ "-->".toList <:+: content := by
  unfold next? at read
  split at read
  · cases read
  · obtain ⟨found, readMarkup, same⟩ := ok_of_map_eq_ok read
    cases same
    exact unended_of_comment (comment_of_markup readMarkup token) token
  · cases read
    simp only [ampersand] at token
    split at token
    · cases token
    · cases token
  · cases read
    cases token

end Lexeme

/-! The nodes of one lexeme. -/

section

variable {source : List Char} {tag : Tag}

/-- A small tag without children has the form. -/
theorem canonical_childless (small : SmallTag tag) : Canonical source (.element tag []) :=
  .element small (fun _ => rfl) (fun _ => .inl rfl) .nil (by simp)

/-- A raw text element with what was cut out has the form. -/
theorem canonical_rawElement (small : SmallTag tag) (raw : tag.isRawText = true)
    {content : List Char} (cutOut : CutOut source tag.name.toList content) :
    Canonical source (rawElement tag content) := by
  by_cases empty : content = []
  · rw [rawElement, if_pos empty]
    exact canonical_childless small
  · rw [rawElement, if_neg empty]
    have notVoid : ¬ tag.isVoid = true := by simp [isVoid_of_isRawText raw]
    have cutOutText : CutOut source tag.name.toList (String.ofList content).toList := by
      rwa [String.toList_ofList]
    have filled : Canonical source (.text (String.ofList content)) := .text (by simpa using empty)
    exact .element small (absurd · notVoid) (fun _ => .inr ⟨_, rfl, cutOutText⟩) (.singleton _)
      (List.forall_mem_singleton.mpr filled)

end

/-- Only the start tag of a raw text element has its text cut out. -/
theorem tagOf_of_meaning {token : Token} {tag : Tag} (means : meaning token = .ok (.rawText tag)) :
    ∃ content, tagOf content = .ok tag ∧ tag.isRawText = true := by
  cases token with
  | startTag content =>
      obtain ⟨described, named, started⟩ := ok_of_map_eq_ok means
      unfold startMeaning at started
      split at started
      · cases started
      · split at started
        · rename_i raw
          cases started
          exact ⟨content, named, raw⟩
        · cases started
  | emptyTag content =>
      obtain ⟨described, -, started⟩ := ok_of_map_eq_ok means
      cases started
  | text content => cases means
  | reference body => cases means
  | endTag content => cases means
  | comment content => cases means
  | skipped => cases means

namespace Reader

open Forest (StepFits)

variable {source : List Char}

/-- The steps that a lexeme means bring in nodes of the form only. -/
theorem stepsFit_of_meaning {before : List Char} {lexeme : Lexeme} {taken : List Forest.Step}
    (read : Lexeme.next? before = .ok (some lexeme))
    (means : meaning lexeme.token = .ok (.steps taken)) :
    ∀ step ∈ taken, StepFits source step := by
  cases token : lexeme.token with
  | text content =>
      rw [token] at means
      cases means
      exact List.forall_mem_singleton.mpr trivial
  | reference body =>
      rw [token] at means
      cases means
      exact List.forall_mem_singleton.mpr trivial
  | startTag content =>
      rw [token] at means
      obtain ⟨tag, named, started⟩ := ok_of_map_eq_ok means
      -- A start tag opens its element only if that is neither void nor raw text.
      have small := smallTag_of_tagOf named
      unfold startMeaning at started
      split at started
      · cases started
        exact List.forall_mem_singleton.mpr ⟨rfl, canonical_childless small⟩
      · rename_i notVoid
        split at started
        · cases started
        · rename_i notRaw
          cases started
          rw [Bool.not_eq_true] at notVoid notRaw
          exact List.forall_mem_singleton.mpr ⟨small, notVoid, notRaw⟩
  | emptyTag content =>
      rw [token] at means
      obtain ⟨tag, named, started⟩ := ok_of_map_eq_ok means
      cases started
      exact List.forall_mem_singleton.mpr ⟨rfl, canonical_childless (smallTag_of_tagOf named)⟩
  | endTag content =>
      rw [token] at means
      cases means
      intro step member
      split at member
      · cases member
      · rw [List.mem_singleton.mp member]
        trivial
  | comment content =>
      rw [token] at means
      cases means
      have unended := Lexeme.unended_of_next? read token
      rw [← String.toList_ofList (l := content)] at unended
      exact List.forall_mem_singleton.mpr ⟨rfl, .comment unended⟩
  | skipped =>
      rw [token] at means
      cases means
      simp

/-- The steps of one turn bring in nodes of the form only. -/
theorem Turn.stepsFit {reader next : Reader} {taken : List Forest.Step}
    (reached : Reached source reader) (turn : Turn reader taken next) :
    ∀ step ∈ taken, StepFits source step := by
  cases turn with
  | steps read means => exact stepsFit_of_meaning read means
  | @rawText lexeme tag overlap content after read means overlapped cut =>
      obtain ⟨written, named, raw⟩ := tagOf_of_meaning means
      obtain ⟨consumed, whole, -⟩ := reached.consumes
      obtain ⟨front, text, -⟩ := append_of_overlap? overlapped
      have region : overlap ++ lexeme.rest <:+ source := by
        rw [whole, ← (Lexeme.next?_covers read).1, text]
        exact ⟨consumed ++ front, by simp⟩
      obtain ⟨behind, cuts⟩ :=
        cutsAtEndTag_rawText (rawTextName_unclosed raw) (overlap ++ lexeme.rest)
      rw [cut] at cuts
      have canonical := canonical_rawElement (smallTag_of_tagOf named) raw
        ⟨_, behind, after, region, cuts⟩
      exact List.forall_mem_singleton.mpr ⟨rfl, canonical⟩

/-- What a turn takes goes before what the reader behind it takes. -/
theorem Turn.append_of_steps {reader next : Reader} {first taken : List Forest.Step}
    (turn : Turn reader first next) (read : Markup.steps reader = .ok taken) :
    ∃ behind, Markup.steps next = .ok behind ∧ first ++ behind = taken := by
  rw [turn.steps_eq] at read
  exact ok_of_map_eq_ok read

/-- All steps of a reading bring in nodes of the form only. -/
theorem Reached.stepsFit (reader : Reader) (reached : Reached source reader) :
    ∀ taken, Markup.steps reader = .ok taken → ∀ step ∈ taken, StepFits source step := by
  -- The induction is on the reading; failed turns give no steps.
  induction reader using Markup.steps.induct with
  | case1 reader fault failed =>
      intro taken read
      simp [Reader.steps_eq reader, failed] at read
  | case2 reader ended =>
      intro taken read
      simp only [Reader.steps_eq reader, ended] at read
      cases read
      simp
  | case3 reader lexeme found fault means =>
      intro taken read
      simp [Reader.steps_eq reader, found, means] at read
  | case4 reader lexeme found next first means inductionHypothesis =>
      intro taken read
      have turn := Turn.steps found means
      obtain ⟨behind, readBehind, rfl⟩ := turn.append_of_steps read
      exact List.forall_mem_append.mpr
        ⟨turn.stepsFit reached, inductionHypothesis (reached.turn turn) behind readBehind⟩
  | case5 reader lexeme found tag means overlapped =>
      intro taken read
      simp [Reader.steps_eq reader, found, means, overlapped] at read
  | case6 reader lexeme found next tag means overlap overlapped region after consumed
      inductionHypothesis =>
      intro taken read
      have turn := Turn.rawText found means overlapped rfl
      obtain ⟨behind, readBehind, rfl⟩ := turn.append_of_steps read
      exact List.forall_mem_append.mpr
        ⟨turn.stepsFit reached, inductionHypothesis (reached.turn turn) behind readBehind⟩

end Reader

end Stencil.Markup

namespace Stencil

open Markup

/-- The nodes that a source is read as are in the form. -/
theorem Markup.canonicalAll_of_parse {source : String} {nodes : List Node}
    (read : parse source = .ok nodes) : CanonicalAll source.toList nodes := by
  unfold parse at read
  split at read
  · cases read
  · rename_i steps taken
    cases read
    exact Forest.canonicalAll_build (Reader.Reached.stepsFit _ .start steps taken)

/-- What a source is read as is canonical, and is read again if its names are plain. -/
theorem canonical_of_parse {source : String} {nodes : List Node} (read : parse source = .ok nodes) :
    CanonicalAll source.toList nodes ∧ (PlainAll nodes → parse (htmlOf nodes) = .ok nodes) := by
  have canonical := canonicalAll_of_parse read
  exact ⟨canonical, canonical.parse_htmlOf_eq⟩

/-- A reference, capitals, unclosed elements, and a script with half an end tag. -/
def sampleImage : List Node := [
  .element ⟨"div", ⟨[("id", "a")]⟩⟩ [.text "x&y", .comment " - ", .element ⟨"br", ∅⟩ [],
    .element ⟨"script", ∅⟩ [.text "1 </scripts></script"]]]

/-- The sample is read from tag soup, and again from what is written of it. -/
theorem canonical_of_parse_sampleImage :
    parse "<DIV Id=a>x&amp;y</b><!-- - --><BR/><Script>1 </scripts></script</SCRIPT >" =
        .ok sampleImage ∧
      PlainAll sampleImage ∧ parse (htmlOf sampleImage) = .ok sampleImage := by
  have read : parse
      "<DIV Id=a>x&amp;y</b><!-- - --><BR/><Script>1 </scripts></script</SCRIPT >" =
        .ok sampleImage := by
    decide +kernel
  have plain : PlainAll sampleImage := by
    simp only [sampleImage, PlainAll, Plain, Unmarked]
    decide
  exact ⟨read, plain, (canonical_of_parse read).2 plain⟩

end Stencil
