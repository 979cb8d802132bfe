import Stencil.Markup.Parse
import Stencil.Proofs.Markup.RawTextEnd
import Stencil.Proofs.Markup.RoundTrip

/-! Positions of a reading, and where raw texts are cut out. -/

namespace Stencil

namespace Markup

open Text

/-- The place behind what was consumed: the line is counted in line feeds, the column in bytes. -/
def Location.behind (consumed : List Char) : Location :=
  ⟨consumed.count '\n' + 1, byteLength (consumed.reverse.takeWhile (· != '\n')) + 1⟩

/-- The place behind what was consumed is counted from the start. -/
theorem Location.ofOffset_byteLength (consumed rest : List Char) :
    Location.ofOffset (consumed ++ rest) (byteLength consumed) = behind consumed := by
  rw [Location.ofOffset, takeBytes?_byteLength, Option.getD_some, behind]

/-- The content before the first end tag of a name, and what is behind its `>`. -/
structure CutsAtEndTag (name source content behind after : List Char) : Prop where
  whole : source = content ++ behind
  ends : behind = [] ∨ StartsEndTag name behind
  first : ∀ earlier later, content = earlier ++ later → later ≠ [] →
    ¬ StartsEndTag name (later ++ behind)
  resumes : (∃ inner, '>' ∉ inner ∧ behind = inner ++ '>' :: after) ∨ ('>' ∉ behind ∧ after = [])

/-- What follows an end tag starts behind its `>`. -/
theorem resumes_of_behindEndTag? {name source after : List Char} (unclosed : '>' ∉ name)
    (found : behindEndTag? name source = some after) :
    (∃ inner, '>' ∉ inner ∧ source = inner ++ '>' :: after) ∨ ('>' ∉ source ∧ after = []) := by
  obtain ⟨spelled, tail, rfl, named, ends⟩ := startsEndTag_of_behindEndTag? found
  rw [behindEndTag?_append tail named ends, Option.some.injEq] at found
  have outside : '>' ∉ spelled := by
    intro inside
    have image := List.mem_map_of_mem (f := Char.toLower) inside
    rw [named] at image
    exact unclosed image
  have notBefore : '>' ∉ tail.takeWhile (· != '>') := fun inside =>
    absurd (List.all_eq_true.mp List.all_takeWhile _ inside) (by simp)
  have whole := List.takeWhile_append_dropWhile (p := (· != '>')) (l := tail)
  cases rest : tail.dropWhile (· != '>') with
  | nil =>
      rw [rest, List.append_nil] at whole
      rw [rest] at found
      refine .inr ⟨?_, found.symm⟩
      rw [whole] at notBefore
      simp [outside, notBefore]
  | cons first others =>
      have closing : first = '>' := by
        have head := List.head_dropWhile_not (l := tail) (· != '>') (by rw [rest]; simp)
        simpa [rest] using head
      rw [rest, closing] at whole
      rw [rest] at found
      refine .inl ⟨'<' :: '/' :: (spelled ++ tail.takeWhile (· != '>')), ?_, ?_⟩
      · simp [outside, notBefore]
      · rw [← found, List.drop_one, List.tail_cons]
        simp [whole]

/-- The cut is at the first end tag. -/
theorem cutsAtEndTag_rawText {name : List Char} (unclosed : '>' ∉ name) (source : List Char) :
    ∃ behind, CutsAtEndTag name source (rawText name source).1 behind (rawText name source).2 := by
  induction source with
  | nil => exact ⟨[], rfl, .inl rfl, by simp [rawText], .inr ⟨by simp, rfl⟩⟩
  | cons character rest inductionHypothesis =>
      rw [rawText]
      cases found : behindEndTag? name (character :: rest) with
      | some after =>
          refine ⟨character :: rest, rfl, .inr (startsEndTag_of_behindEndTag? found), ?_,
            resumes_of_behindEndTag? unclosed found⟩
          intro earlier later empty nonempty
          exact absurd (List.append_eq_nil_iff.mp empty.symm).2 nonempty
      | none =>
          obtain ⟨behind, cuts⟩ := inductionHypothesis
          refine ⟨behind, congrArg (character :: ·) cuts.whole, cuts.ends, ?_, cuts.resumes⟩
          intro earlier later split nonempty starts
          cases earlier with
          | nil =>
              rw [← List.nil_append later, ← split, List.cons_append, ← cuts.whole,
                startsEndTag_iff, found] at starts
              cases starts
          | cons first others =>
              exact cuts.first others later (List.cons.inj split).2 nonempty starts

namespace Reader

/-- A lexeme that means some steps, or a start tag with its raw text. -/
inductive Turn : Reader → List Forest.Step → Reader → Prop
  | steps {reader : Reader} {lexeme : Lexeme} {taken : List Forest.Step}
      (read : Lexeme.next? reader.rest = .ok (some lexeme))
      (means : meaning lexeme.token = .ok (.steps taken)) :
      Turn reader taken ⟨reader.position + byteLength lexeme.text, reader.marked, lexeme.rest⟩
  | rawText {reader : Reader} {lexeme : Lexeme} {tag : Tag} {overlap content after : List Char}
      (read : Lexeme.next? reader.rest = .ok (some lexeme))
      (means : meaning lexeme.token = .ok (.rawText tag))
      (overlapped : overlap? reader.marked lexeme.text = some overlap)
      (cut : Markup.rawText tag.name.toList (overlap ++ lexeme.rest) = (content, after)) :
      Turn reader [.append (rawElement tag content)]
        (.start (reader.position + byteLength lexeme.text +
          (byteLength (overlap ++ lexeme.rest) - byteLength after)) after)

/-- The readers that the reading of a source comes by. -/
inductive Reached (source : List Char) : Reader → Prop
  | start : Reached source (.start 0 source)
  | turn {reader next : Reader} {taken : List Forest.Step} (earlier : Reached source reader)
      (turn : Turn reader taken next) : Reached source next

/-- The reading of a lexeme and of what is behind it. -/
theorem steps_eq (reader : Reader) :
    Markup.steps reader =
      match Lexeme.next? reader.rest with
      | .error fault => .error (.malformed fault reader.position)
      | .ok none => .ok []
      | .ok (some lexeme) =>
          match meaning lexeme.token with
          | .error fault => .error (.badAttribute fault)
          | .ok (.steps taken) =>
              (Markup.steps ⟨reader.position + byteLength lexeme.text, reader.marked,
                lexeme.rest⟩).map (taken ++ ·)
          | .ok (.rawText tag) =>
              match overlap? reader.marked lexeme.text with
              | none => .error (.splitCharacter (reader.position + byteLength lexeme.text))
              | some overlap =>
                  let (content, after) := Markup.rawText tag.name.toList (overlap ++ lexeme.rest)
                  (Markup.steps (.start (reader.position + byteLength lexeme.text +
                    (byteLength (overlap ++ lexeme.rest) - byteLength after)) after)).map
                      ([.append (rawElement tag content)] ++ ·) := by
  rw [Markup.steps]
  split
  · rename_i read
    simp only [read]
  · rename_i read
    simp only [read]
  · rename_i lexeme read
    simp only [read]
    cases meaning lexeme.token with
    | error fault => rfl
    | ok meant =>
        cases meant with
        | steps taken => rfl
        | rawText tag =>
            simp only
            split
            · rename_i cut
              simp only [cut]
            · rename_i overlap cut
              simp only [cut]
              rfl

/-- Steps in front do not bring in a fault. -/
theorem map_ne_error {read : Except ReadFault (List Forest.Step)}
    (change : List Forest.Step → List Forest.Step) {fault : ReadFault}
    (other : read ≠ .error fault) : read.map change ≠ .error fault := by
  cases read with
  | error cause => exact other
  | ok taken => exact fun same => nomatch same

/-- A reading goes on behind a turn. -/
theorem Turn.steps_eq {reader next : Reader} {taken : List Forest.Step}
    (turn : Turn reader taken next) :
    Markup.steps reader = (Markup.steps next).map (taken ++ ·) := by
  cases turn with
  | steps read means => simp only [Reader.steps_eq reader, read, means]
  | rawText read means overlapped cut =>
      simp only [Reader.steps_eq reader, read, means, overlapped, cut]

/-- A reading goes on with what a reader that it comes by reads. -/
theorem Reached.steps_eq {source : List Char} {reader : Reader}
    (reached : Reached source reader) : ∃ before,
      Markup.steps (.start 0 source) = (Markup.steps reader).map (before ++ ·) := by
  induction reached with
  | start =>
      refine ⟨[], ?_⟩
      cases Markup.steps (Reader.start 0 source) <;> rfl
  | turn earlier turn inductionHypothesis =>
      rename_i taken
      obtain ⟨before, read⟩ := inductionHypothesis
      refine ⟨before ++ taken, ?_⟩
      rw [read, turn.steps_eq]
      cases Markup.steps _ <;> simp [Except.map]

/-- Where no byte order mark is left out, no character is split. -/
theorem Reached.steps_ne_splitCharacter {source : List Char}
    (unmarked : ∀ reader, Reached source reader → reader.marked = false) (reader : Reader)
    (reached : Reached source reader) (position : Nat) :
    Markup.steps reader ≠ .error (.splitCharacter position) := by
  induction reader using Markup.steps.induct with
  | case1 reader fault read =>
      simp [Reader.steps_eq reader, read]
  | case2 reader read =>
      simp [Reader.steps_eq reader, read]
  | case3 reader lexeme read fault means =>
      simp [Reader.steps_eq reader, read, means]
  | case4 reader lexeme read next taken means inductionHypothesis =>
      have turn := Turn.steps read means
      rw [turn.steps_eq]
      exact map_ne_error _ (inductionHypothesis (reached.turn turn))
  | case5 reader lexeme read tag means overlapped =>
      -- Only a mark that is left out moves a cut into a character.
      rw [unmarked reader reached] at overlapped
      cases overlapped
  | case6 reader lexeme read next tag means overlap overlapped region after consumed
      inductionHypothesis =>
      have turn := Turn.rawText read means overlapped rfl
      rw [turn.steps_eq]
      exact map_ne_error _ (inductionHypothesis (reached.turn turn))

/-- The position counts what was consumed, up to a mark that was left out. -/
def Consumes (source consumed : List Char) (reader : Reader) : Prop :=
  source = consumed ++ reader.rest ∧
    byteLength consumed = reader.position + if reader.marked then 3 else 0

/-- A start counts all that is in front of it. -/
theorem consumes_start {source front rest : List Char} (whole : source = front ++ rest) :
    ∃ consumed, Consumes source consumed (.start (byteLength front) rest) := by
  unfold start
  split
  · rename_i behind
    exact ⟨front ++ ['\uFEFF'], by simpa using whole, by simp; rfl⟩
  · exact ⟨front, whole, rfl⟩

/-- A raw text starts with the characters that are not counted yet. -/
theorem append_of_overlap? {marked : Bool} {text overlap : List Char}
    (overlapped : overlap? marked text = some overlap) :
    ∃ front, text = front ++ overlap ∧ byteLength overlap = if marked then 3 else 0 := by
  cases marked with
  | false =>
      cases overlapped
      exact ⟨text, by simp, rfl⟩
  | true =>
      obtain ⟨front, whole, length⟩ := append_of_lastBytes? overlapped
      refine ⟨text.take 1 ++ front, ?_, length⟩
      rw [List.append_assoc, ← whole, List.take_append_drop]

/-- Behind a raw text the position counts all of the source again. -/
theorem Consumes.behind_rawText {source consumed : List Char} {reader : Reader}
    (consumes : Consumes source consumed reader) {lexeme : Lexeme} {name overlap : List Char}
    (read : Lexeme.next? reader.rest = .ok (some lexeme))
    (overlapped : overlap? reader.marked lexeme.text = some overlap) :
    ∃ front, source = front ++ (rawText name (overlap ++ lexeme.rest)).2 ∧
      byteLength front = reader.position + byteLength lexeme.text +
        (byteLength (overlap ++ lexeme.rest) -
          byteLength (rawText name (overlap ++ lexeme.rest)).2) := by
  obtain ⟨whole, length⟩ := consumes
  obtain ⟨front, text, counted⟩ := append_of_overlap? overlapped
  obtain ⟨passed, suffix⟩ := (rawText_prefix_suffix name (overlap ++ lexeme.rest)).2
  refine ⟨consumed ++ front ++ passed, ?_, ?_⟩
  · rw [List.append_assoc _ passed, suffix, whole, ← (Lexeme.next?_covers read).1, text]
    simp
  · have passedLength : byteLength (overlap ++ lexeme.rest) =
        byteLength passed + byteLength (rawText name (overlap ++ lexeme.rest)).2 := by
      rw [← byteLength_append, suffix]
    rw [passedLength, text]
    simp only [byteLength_append, length, counted]
    omega

/-- Every reader of a reading counts what was consumed. -/
theorem Reached.consumes {source : List Char} {reader : Reader} (reached : Reached source reader) :
    ∃ consumed, Consumes source consumed reader := by
  induction reached with
  | start => exact consumes_start (List.nil_append source).symm
  | turn earlier turn inductionHypothesis =>
      obtain ⟨consumed, consumes⟩ := inductionHypothesis
      cases turn with
      | @steps lexeme taken read means =>
          obtain ⟨whole, length⟩ := consumes
          refine ⟨consumed ++ lexeme.text, ?_, ?_⟩
          · rw [List.append_assoc, (Lexeme.next?_covers read).1]
            exact whole
          · rw [byteLength_append, length]
            exact Nat.add_right_comm _ _ _
      | @rawText lexeme tag overlap content after read means overlapped cut =>
          obtain ⟨front, whole, length⟩ := consumes.behind_rawText read overlapped
          rw [cut] at whole length
          rw [← length]
          exact consumes_start whole

/-- A start without a byte order mark leaves nothing out. -/
theorem marked_start {position : Nat} {source : List Char}
    (absent : '\uFEFF' ∉ source) : (start position source).marked = false := by
  unfold start
  split
  · exact absurd List.mem_cons_self absent
  · rfl

/-- Only a byte order mark of the source is left out. -/
theorem Reached.marked_eq_false {source : List Char} (absent : '\uFEFF' ∉ source) {reader : Reader}
    (reached : Reached source reader) : reader.marked = false := by
  induction reached with
  | start => exact marked_start absent
  | turn earlier turn inductionHypothesis =>
      cases turn with
      | steps => exact inductionHypothesis
      | rawText read means overlapped cut =>
          obtain ⟨consumed, consumes⟩ := earlier.consumes
          obtain ⟨front, whole, -⟩ := consumes.behind_rawText read overlapped
          rw [cut] at whole
          apply marked_start
          rw [whole] at absent
          exact fun inside => absent (List.mem_append_right front inside)

end Reader

/-- The names of raw text elements hold no `>`. -/
theorem rawTextName_unclosed {tag : Tag} (raw : tag.isRawText = true) : '>' ∉ tag.name.toList := by
  have among : tag.name ∈ rawTextNames := by simpa [Tag.isRawText] using raw
  have all : ∀ name ∈ rawTextNames, '>' ∉ name.toList := by decide
  exact all tag.name among

/-- A raw text is cut out between characters, at the first end tag behind a byte. -/
def CutsFrom (source : List Char) (tag : Tag) (start : Nat) (region : List Char) : Prop :=
  ∃ textEnd resume content behind after before,
    CutsAtEndTag tag.name.toList region content behind after ∧
    dropBytes? start source = some region ∧
    rawTextEnd? tag.name.toList region 0 = some (textEnd, resume) ∧
    slice? start (start + textEnd) source = some content ∧
    dropBytes? (start + resume) source = some after ∧
    Reader.Reached source (.start (start + resume) after) ∧
    steps (.start 0 source) = (steps (.start (start + resume) after)).map
      (before ++ .append (rawElement tag content) :: ·)

namespace Reader

variable {source consumed : List Char} {reader : Reader}

/-- A reader that left out no byte order mark counts all that it consumed. -/
theorem Consumes.position_eq (consumes : Consumes source consumed reader)
    (unmarked : reader.marked = false) : reader.position = byteLength consumed := by
  rw [consumes.2, unmarked, if_neg Bool.false_ne_true, Nat.add_zero]

/-- A reader that counts all it consumed cuts raw texts out where their tags end. -/
theorem Reached.cutsFrom (reached : Reached source reader) (unmarked : reader.marked = false)
    (consumes : Consumes source consumed reader) {lexeme : Lexeme} {tag : Tag}
    (read : Lexeme.next? reader.rest = .ok (some lexeme))
    (means : meaning lexeme.token = .ok (.rawText tag)) (raw : tag.isRawText = true) :
    CutsFrom source tag (byteLength (consumed ++ lexeme.text)) lexeme.rest := by
  have overlapped : overlap? reader.marked lexeme.text = some [] := by
    rw [unmarked]
    rfl
  have turn := Turn.rawText read means overlapped rfl
  obtain ⟨before, goesOn⟩ := reached.steps_eq
  obtain ⟨behind, cuts⟩ := cutsAtEndTag_rawText (rawTextName_unclosed raw) lexeme.rest
  obtain ⟨passed, suffix⟩ := (rawText_prefix_suffix tag.name.toList lexeme.rest).2
  have ends := rawTextEnd?_append tag.name.toList [] lexeme.rest
  rw [List.nil_append] at turn ends
  have whole : source = (consumed ++ lexeme.text) ++ lexeme.rest := by
    rw [List.append_assoc, (Lexeme.next?_covers read).1]
    exact consumes.1
  -- The count is right, so that raw text starts where the tag ends.
  have start : reader.position + byteLength lexeme.text =
      byteLength (consumed ++ lexeme.text) := by
    rw [byteLength_append, consumes.position_eq unmarked]
  generalize (rawText tag.name.toList lexeme.rest).1 = content at *
  generalize (rawText tag.name.toList lexeme.rest).2 = after at *
  have resume : byteLength lexeme.rest - byteLength after = byteLength passed := by
    rw [← suffix, byteLength_append, Nat.add_sub_cancel_right]
  refine ⟨_, _, content, behind, after, before, cuts, ?_, ends, ?_, ?_, ?_, ?_⟩
  · rw [whole]
    exact dropBytes?_byteLength _ _
  · rw [slice?, whole, dropBytes?_byteLength, Option.bind_some, Nat.add_sub_cancel_left, cuts.whole]
    exact takeBytes?_byteLength _ _
  · rw [resume, ← byteLength_append, whole, ← suffix, ← List.append_assoc]
    exact dropBytes?_byteLength _ _
  · rw [← start]
    exact reached.turn turn
  · rw [goesOn, turn.steps_eq, ← start]
    cases Markup.steps _ <;> simp [Except.map]

end Reader

end Markup

open Markup

/-- A reading that fails where its reader counts all that it consumed fails there. -/
theorem parse_eq_malformed {source : String} {reader : Reader} {consumed : List Char}
    {fault : Fault} (reached : Reader.Reached source.toList reader)
    (unmarked : reader.marked = false) (consumes : Reader.Consumes source.toList consumed reader)
    (read : Lexeme.next? reader.rest = .error fault) :
    parse source = .error (.malformed fault (.behind consumed)) := by
  obtain ⟨before, goesOn⟩ := reached.steps_eq
  have failed : steps reader = .error (.malformed fault reader.position) := by
    simp only [Reader.steps_eq reader, read]
  have location := Location.ofOffset_byteLength consumed reader.rest
  rw [← consumes.1, ← consumes.position_eq unmarked] at location
  rw [parse, goesOn, failed, ← location]
  rfl

/-- Readers that have left out no mark since they started count right and cut right. -/
theorem rawText_exact (source : String) :
    (∀ reader, Reader.Reached source.toList reader → reader.marked = false →
      ∃ consumed, source.toList = consumed ++ reader.rest ∧
        reader.position = Text.byteLength consumed ∧
        (∀ fault, Lexeme.next? reader.rest = .error fault →
          parse source = .error (.malformed fault (.behind consumed))) ∧
        ∀ lexeme written tag, Lexeme.next? reader.rest = .ok (some lexeme) →
          lexeme.token = .startTag written → tagOf written = .ok tag → tag.isRawText = true →
          CutsFrom source.toList tag (Text.byteLength (consumed ++ lexeme.text)) lexeme.rest) ∧
    ((∀ reader, Reader.Reached source.toList reader → reader.marked = false) →
      ∀ position, parse source ≠ .error (.splitCharacter position)) ∧
    ('\uFEFF' ∉ source.toList →
      ∀ reader, Reader.Reached source.toList reader → reader.marked = false) := by
  refine ⟨fun reader reached unmarked => ?_, fun allUnmarked position failed => ?_,
    fun absent reader reached => reached.marked_eq_false absent⟩
  · obtain ⟨consumed, consumes⟩ := reached.consumes
    refine ⟨consumed, consumes.1, consumes.position_eq unmarked,
      fun fault read => parse_eq_malformed reached unmarked consumes read,
      fun lexeme written tag read token named raw => ?_⟩
    have means : meaning lexeme.token = .ok (.rawText tag) := by
      rw [token, meaning, named]
      simp [Except.map, startMeaning, isVoid_of_isRawText raw, raw]
    exact reached.cutsFrom unmarked consumes read means raw
  · rw [parse] at failed
    split at failed
    · rename_i fault read
      cases fault with
      | malformed => cases failed
      | badAttribute => cases failed
      | splitCharacter other =>
          exact Reader.Reached.steps_ne_splitCharacter allUnmarked _ .start other read
    · cases failed

/-- Behind a byte order mark, a script begins three bytes inside its start tag. -/
theorem rawText_markedScript :
    (parse "\uFEFF<script>x</script>").toOption =
        some [.element (.named "script") [.text "pt>x"]] ∧
      Text.dropBytes? (Text.byteLength "\uFEFF<script>".toList)
        "\uFEFF<script>x</script>".toList = some "x</script>".toList ∧
      rawText "script".toList "x</script>".toList = ("x".toList, []) := by
  decide +kernel

end Stencil
