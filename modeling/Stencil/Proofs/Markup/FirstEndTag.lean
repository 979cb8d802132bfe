import Stencil.Proofs.Markup.Positions

/-! The first end tag of a raw text, by bytes. -/

namespace Stencil.Markup

open Text

/-- An end tag of a name starts at a byte of a text. -/
def EndTagAt (name source : List Char) (start : Nat) : Prop :=
  ∃ behind, dropBytes? start source = some behind ∧ StartsEndTag name behind

/-- A tag is closed behind the next `>`, or with the text. -/
def ClosesAt (source : List Char) (nameEnd resume : Nat) : Prop :=
  ∃ tail, dropBytes? nameEnd source = some tail ∧
    ((∃ inner after, '>' ∉ inner ∧ tail = inner ++ '>' :: after ∧
        resume = nameEnd + byteLength inner + 1) ∨
      ('>' ∉ tail ∧ resume = byteLength source))

/-- The bytes of the first end tag of a name, and of what follows it. -/
structure FirstEndTag (name source : List Char) (stop resume : Nat) : Prop where
  starts : EndTagAt name source stop
  first : ∀ earlier < stop, ¬ EndTagAt name source earlier
  closes : ClosesAt source (stop + 2 + byteLength name) resume

/-- A mark that does not stand in the front of a text stands behind it. -/
theorem exists_append_of_notMem {front tail inner after : List Char} {mark : Char}
    (outside : mark ∉ front) (same : front ++ tail = inner ++ mark :: after) :
    ∃ rest, inner = front ++ rest ∧ tail = rest ++ mark :: after := by
  rcases List.append_eq_append_iff.mp same with ⟨rest, whole, found⟩ | ⟨rest, whole, found⟩
  · exact ⟨rest, whole, found⟩
  · cases rest with
    | nil => exact ⟨[], by rw [whole, List.append_nil, List.append_nil], found.symm⟩
    | cons first others =>
        rw [whole, ← (List.cons.inj found).1] at outside
        exact absurd (List.mem_append_right _ List.mem_cons_self) outside

section

variable {name source content behind after : List Char}

/-- In front of the cut no end tag starts. -/
theorem CutsAtEndTag.not_endTagAt (cuts : CutsAtEndTag name source content behind after)
    {earlier : Nat} (inside : earlier < byteLength content) : ¬ EndTagAt name source earlier := by
  rintro ⟨tail, cut, starts⟩
  obtain ⟨front, whole, rfl⟩ := append_of_dropBytes? cut
  rw [cuts.whole] at whole
  rcases List.append_eq_append_iff.mp whole with ⟨more, rfl, -⟩ | ⟨later, rfl, rfl⟩
  · rw [byteLength_append] at inside
    omega
  · apply cuts.first front later rfl _ starts
    rintro rfl
    rw [List.append_nil] at inside
    exact Nat.lt_irrefl _ inside

/-- Where nothing is left behind the cut no end tag starts at all. -/
theorem CutsAtEndTag.not_endTagAt_of_nil (cuts : CutsAtEndTag name source content [] after)
    (start : Nat) : ¬ EndTagAt name source start := by
  by_cases inside : start < byteLength content
  · exact cuts.not_endTagAt inside
  · rintro ⟨tail, cut, starts⟩
    obtain ⟨front, whole, rfl⟩ := append_of_dropBytes? cut
    have lengths := congrArg byteLength (cuts.whole.symm.trans whole)
    obtain ⟨spelled, rest, rfl, -⟩ := starts
    have mark : '<'.utf8Size = 1 := rfl
    simp only [List.append_nil, byteLength_append, byteLength_cons, mark] at lengths
    omega

/-- The end tag that the cut is at is closed where the text goes on. -/
theorem CutsAtEndTag.closesAt (cuts : CutsAtEndTag name source content behind after)
    (unclosed : '>' ∉ name) (starts : StartsEndTag name behind) :
    ClosesAt source (byteLength content + 2 + byteLength name)
      (byteLength source - byteLength after) := by
  obtain ⟨spelled, tail, rfl, named, -⟩ := starts
  have outside : '>' ∉ '<' :: '/' :: spelled := by
    intro member
    have inside : '>' ∈ spelled := by simpa using member
    have image := List.mem_map_of_mem (f := Char.toLower) inside
    rw [named] at image
    exact unclosed image
  have whole : source = (content ++ '<' :: '/' :: spelled) ++ tail := by
    rw [cuts.whole, List.append_assoc]
    rfl
  -- Lower-casing a name leaves its number of bytes alone.
  have nameEnd : byteLength content + 2 + byteLength name =
      byteLength (content ++ '<' :: '/' :: spelled) := by
    have marks : byteLength ('<' :: '/' :: spelled) = 1 + (1 + byteLength spelled) := rfl
    rw [byteLength_append, marks, ← named, byteLength_map_toLower]
    omega
  refine ⟨tail, ?_, ?_⟩
  · rw [nameEnd, whole]
    exact dropBytes?_byteLength _ _
  · rcases cuts.resumes with ⟨inner, before, closed⟩ | ⟨absent, rfl⟩
    · obtain ⟨rest, rfl, rfl⟩ := exists_append_of_notMem outside closed
      refine .inl ⟨rest, after, fun member => before (List.mem_append_right _ member), rfl, ?_⟩
      have mark : '>'.utf8Size = 1 := rfl
      rw [nameEnd, whole, byteLength_append, byteLength_append rest, byteLength_cons, mark]
      omega
    · have further : '>' ∉ tail := fun member =>
        absent (List.mem_append_right ('<' :: '/' :: spelled) member)
      exact .inr ⟨further, by rw [byteLength_nil, Nat.sub_zero]⟩

/-- A cut in front of an end tag is in front of the first one. -/
theorem CutsAtEndTag.firstEndTag (cuts : CutsAtEndTag name source content behind after)
    (unclosed : '>' ∉ name) (starts : StartsEndTag name behind) :
    FirstEndTag name source (byteLength content) (byteLength source - byteLength after) := by
  refine ⟨⟨behind, ?_, starts⟩, fun earlier inside => cuts.not_endTagAt inside,
    cuts.closesAt unclosed starts⟩
  rw [congrArg (dropBytes? _) cuts.whole]
  exact dropBytes?_byteLength content behind

/-- Where nothing is left behind the cut the raw text is the whole text. -/
theorem CutsAtEndTag.eq_of_nil (cuts : CutsAtEndTag name source content [] after) :
    source = content ∧ after = [] := by
  refine ⟨by rw [cuts.whole, List.append_nil], ?_⟩
  rcases cuts.resumes with ⟨inner, -, closed⟩ | ⟨-, ended⟩
  · exact absurd closed (by simp)
  · exact ended

end

/-- What is behind a byte starts inside the text. -/
theorem le_of_endTagAt {name source : List Char} {start : Nat}
    (starts : EndTagAt name source start) : start ≤ byteLength source := by
  obtain ⟨behind, cut, -⟩ := starts
  obtain ⟨front, rfl, rfl⟩ := append_of_dropBytes? cut
  rw [byteLength_append]
  exact Nat.le_add_right _ _

/-- An end tag ends behind its start. -/
theorem FirstEndTag.le {name source : List Char} {stop resume : Nat}
    (found : FirstEndTag name source stop resume) : stop ≤ resume := by
  obtain ⟨tail, -, ⟨inner, after, -, -, rfl⟩ | ⟨-, rfl⟩⟩ := found.closes
  · omega
  · exact le_of_endTagAt found.starts

/-- The search finds the first end tag of every text, or its end. -/
theorem rawTextEnd?_exact {name : String} (raw : name ∈ rawTextNames) (source : List Char) :
    ∃ stop resume content after,
      rawTextEnd? name.toList source 0 = some (stop, resume) ∧
      stop ≤ resume ∧ resume ≤ byteLength source ∧
      takeBytes? stop source = some content ∧ dropBytes? resume source = some after ∧
      rawText name.toList source = (content, after) ∧
      ((stop = byteLength source ∧ resume = byteLength source ∧
          ∀ start, ¬ EndTagAt name.toList source start) ∨
        FirstEndTag name.toList source stop resume) := by
  have unclosed : '>' ∉ name.toList :=
    @rawTextName_unclosed ⟨name, ∅⟩ (List.contains_iff_mem.mpr raw)
  -- The search by bytes is the cut between characters, which is at the first end tag.
  obtain ⟨behind, cuts⟩ := cutsAtEndTag_rawText unclosed source
  obtain ⟨passed, suffix⟩ := (rawText_prefix_suffix name.toList source).2
  have found := rawTextEnd?_append name.toList [] source
  rw [List.nil_append, List.nil_append] at found
  obtain ⟨content, after, cut⟩ : ∃ content after, rawText name.toList source = (content, after) :=
    ⟨_, _, rfl⟩
  rw [cut] at cuts suffix found
  dsimp only at cuts suffix found
  have stops : takeBytes? (byteLength content) source = some content := by
    rw [cuts.whole]
    exact takeBytes?_byteLength content behind
  have goesOn : dropBytes? (byteLength source - byteLength after) source = some after := by
    rw [← suffix, byteLength_append, Nat.add_sub_cancel_right]
    exact dropBytes?_byteLength passed after
  rcases cuts.ends with rfl | starts
  · have none := cuts.not_endTagAt_of_nil
    obtain ⟨rfl, rfl⟩ := cuts.eq_of_nil
    exact ⟨_, _, source, [], found, Nat.le_refl _, Nat.sub_le _ _, stops, goesOn, cut,
      .inl ⟨rfl, rfl, none⟩⟩
  · have first := cuts.firstEndTag unclosed starts
    exact ⟨_, _, content, after, found, first.le, Nat.sub_le _ _, stops, goesOn, cut, .inr first⟩

/-- A mark before a mark, a longer name, and an end tag in capitals. -/
def nearEndTags : List Char := "é</</scripts></SCRIPT\té>ü".toList

/-- The near misses are passed, and the end tag in capitals is found. -/
theorem rawTextEnd?_exact_nearEndTags :
    "script" ∈ rawTextNames ∧ rawTextEnd? "script".toList nearEndTags 0 = some (14, 26) ∧
      FirstEndTag "script".toList nearEndTags 14 26 := by
  have raw : "script" ∈ rawTextNames := by decide
  have cut : rawText "script".toList nearEndTags = ("é</</scripts>".toList, "ü".toList) := by
    decide +kernel
  have here := rawTextEnd?_append "script".toList [] nearEndTags
  rw [List.nil_append, List.nil_append, cut] at here
  obtain ⟨stop, resume, content, after, found, -, -, -, -, -, ends⟩ :=
    rawTextEnd?_exact raw nearEndTags
  have same : some (stop, resume) = some (14, 26) := found.symm.trans here
  cases same
  rcases ends with ⟨ended, -⟩ | first
  · exact absurd ended (by decide)
  · exact ⟨raw, found, first⟩

end Stencil.Markup
