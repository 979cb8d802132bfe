import Stencil.Markup.Parse
import Stencil.Proofs.Markup.Normal

/-! Reading into a forest that is under construction, piece by piece. -/

namespace Stencil.Markup

/-- A source does not start with a byte order mark. -/
def Unmarked (source : List Char) : Prop := source.head? ≠ some '\uFEFF'

namespace Reader

/-- The forest after the steps that the rest of a source stands for. -/
def readInto (reader : Reader) (forest : Forest) : Except ReadFault Forest :=
  (steps reader).map fun read => read.foldl Forest.step forest

/-- Without a byte order mark nothing is dropped. -/
theorem start_unmarked {source : List Char} (position : Nat) (unmarked : Unmarked source) :
    start position source = ⟨position, false, source⟩ := by
  unfold start
  split
  · simp [Unmarked] at unmarked
  · rfl

/-- Nothing is read from an empty rest. -/
@[simp] theorem readInto_nil (position : Nat) (marked : Bool) (forest : Forest) :
    readInto ⟨position, marked, []⟩ forest = .ok forest := by
  rw [readInto, steps]
  split
  · rename_i read
    simp [Lexeme.next?] at read
  · rfl
  · rename_i read
    simp [Lexeme.next?] at read

/-- A lexeme that means some steps is read by taking these steps. -/
theorem readInto_steps (reader : Reader) {lexeme : Lexeme} {taken : List Forest.Step}
    (read : Lexeme.next? reader.rest = .ok (some lexeme))
    (means : meaning lexeme.token = .ok (.steps taken)) (forest : Forest) :
    readInto reader forest =
      readInto ⟨reader.position + Text.byteLength lexeme.text, reader.marked, lexeme.rest⟩
        (taken.foldl Forest.step forest) := by
  conv => lhs; rw [readInto, steps]
  split
  · rename_i other
    rw [read] at other
    simp at other
  · rename_i other
    rw [read] at other
    simp at other
  · rename_i found other
    rw [read] at other
    simp only [Except.ok.injEq, Option.some.injEq] at other
    subst other
    simp only [means, readInto]
    cases steps ⟨reader.position + Text.byteLength lexeme.text, reader.marked, lexeme.rest⟩ <;>
      simp [Except.map, List.foldl_append]

/-- A raw text that is read from an unmarked source ends at the cut. -/
theorem readInto_rawText {position : Nat} {source after content : List Char} {lexeme : Lexeme}
    {tag : Tag} (read : Lexeme.next? source = .ok (some lexeme))
    (means : meaning lexeme.token = .ok (.rawText tag))
    (cut : rawText tag.name.toList lexeme.rest = (content, after)) (unmarked : Unmarked after)
    (forest : Forest) :
    readInto ⟨position, false, source⟩ forest =
      readInto ⟨position + Text.byteLength lexeme.text +
          (Text.byteLength lexeme.rest - Text.byteLength after), false, after⟩
        (forest.append (rawElement tag content)) := by
  conv => lhs; rw [readInto, steps]
  split
  · rename_i other
    simp only [read] at other
    simp at other
  · rename_i other
    simp only [read] at other
    simp at other
  · rename_i found other
    simp only [read, Except.ok.injEq, Option.some.injEq] at other
    subst other
    simp only [means]
    split
    · -- An unmarked reader has nothing to read twice.
      rename_i noOverlap
      simp [overlap?] at noOverlap
    · rename_i overlap found
      simp only [overlap?, Bool.false_eq_true, if_false, Option.some.injEq] at found
      subst found
      simp only [List.nil_append, cut, start_unmarked _ unmarked, readInto]
      cases steps ⟨position + Text.byteLength lexeme.text +
          (Text.byteLength lexeme.rest - Text.byteLength after), false, after⟩ <;>
        simp [Except.map, Forest.step]

end Reader

/-- A parse reads into the empty forest and closes what is open. -/
theorem parse_eq_readInto (source : String) :
    parse source =
      match Reader.readInto (.start 0 source.toList) .empty with
      | .error fault => .error (.ofFault source.toList fault)
      | .ok forest => .ok forest.finish := by
  rw [parse, Reader.readInto]
  cases steps (.start 0 source.toList) <;> rfl

/-- Reading a written piece leads from one forest to another, and then goes on behind it. -/
def Reads (written : List Char) (before after : Forest) : Prop :=
  ∀ (position : Nat) (rest : List Char), Unmarked rest →
    Reader.readInto ⟨position, false, written ++ rest⟩ before =
      Reader.readInto ⟨position + Text.byteLength written, false, rest⟩ after

/-- A piece without raw text is read alike wherever it stands. -/
def ReadsAnywhere (written : List Char) (before after : Forest) : Prop :=
  ∀ (position : Nat) (marked : Bool) (rest : List Char),
    Reader.readInto ⟨position, marked, written ++ rest⟩ before =
      Reader.readInto ⟨position + Text.byteLength written, marked, rest⟩ after

namespace ReadsAnywhere

variable {written first second : List Char} {before middle after : Forest}

/-- A piece that is read anywhere is read at the start. -/
theorem reads (anywhere : ReadsAnywhere written before after) : Reads written before after :=
  fun position rest _ => anywhere position false rest

theorem nil (forest : Forest) : ReadsAnywhere [] forest forest := by
  intro position marked rest
  simp

theorem append (readFirst : ReadsAnywhere first before middle)
    (readSecond : ReadsAnywhere second middle after) :
    ReadsAnywhere (first ++ second) before after := by
  intro position marked rest
  rw [List.append_assoc, readFirst, readSecond, Text.byteLength_append, Nat.add_assoc]

/-- A lexeme that is read whatever stands behind it is a piece. -/
theorem of_lexeme {token : Token} {taken : List Forest.Step}
    (read : ∀ rest, Lexeme.next? (written ++ rest) = .ok (some ⟨token, written, rest⟩))
    (means : meaning token = .ok (.steps taken)) (forest : Forest) :
    ReadsAnywhere written forest (taken.foldl Forest.step forest) := by
  intro position marked rest
  exact Reader.readInto_steps ⟨position, marked, written ++ rest⟩ (read rest) means forest

/-- A source that is one piece yields the nodes of the finished forest. -/
theorem parse {source : String} {forest : Forest}
    (anywhere : ReadsAnywhere (Reader.start 0 source.toList).rest .empty forest) :
    parse source = .ok forest.finish := by
  have whole := anywhere 0 (Reader.start 0 source.toList).marked []
  have begun : Reader.start 0 source.toList =
      ⟨0, (Reader.start 0 source.toList).marked, (Reader.start 0 source.toList).rest⟩ := by
    unfold Reader.start
    split <;> rfl
  rw [List.append_nil, Reader.readInto_nil, ← begun] at whole
  rw [parse_eq_readInto, whole]

end ReadsAnywhere

namespace Reads

theorem append {first second : List Char} {before middle after : Forest}
    (unmarked : ∀ rest, Unmarked rest → Unmarked (second ++ rest))
    (readFirst : Reads first before middle) (readSecond : Reads second middle after) :
    Reads (first ++ second) before after := by
  intro position rest restUnmarked
  rw [List.append_assoc, readFirst _ _ (unmarked rest restUnmarked),
    readSecond _ _ restUnmarked, Text.byteLength_append, Nat.add_assoc]

/-- A whole source that is one piece yields the nodes of the finished forest. -/
theorem parse {source : String} {forest : Forest} (unmarked : Unmarked source.toList)
    (reads : Reads source.toList .empty forest) : parse source = .ok forest.finish := by
  have whole := reads 0 [] (by simp [Unmarked])
  rw [List.append_nil, Reader.readInto_nil] at whole
  rw [parse_eq_readInto, Reader.start_unmarked 0 unmarked, whole]

end Reads

end Stencil.Markup
