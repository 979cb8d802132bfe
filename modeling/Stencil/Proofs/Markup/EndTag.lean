import Stencil.Markup.RawText

/-! End tags of raw text: where a text holds one, and that the cut finds the first. -/

namespace Stencil.Markup

/-- A text starts with `</`, a name in any case, and what ends it. -/
def StartsEndTag (name source : List Char) : Prop :=
  ∃ spelled tail, source = '<' :: '/' :: (spelled ++ tail) ∧ spelled.map Char.toLower = name ∧
    endsName tail = true

/-- Some end tag of a name starts in a text. -/
def HasEndTag (name source : List Char) : Prop :=
  ∃ behind, behind <:+ source ∧ StartsEndTag name behind

/-- Where an end tag is read, one starts. -/
theorem startsEndTag_of_behindEndTag? {name source after : List Char}
    (found : behindEndTag? name source = some after) : StartsEndTag name source := by
  unfold behindEndTag? at found
  split at found
  · rename_i behind
    simp only at found
    split at found
    · rename_i ends
      exact ⟨behind.take name.length, behind.drop name.length, by simp, ends.1, ends.2⟩
    · simp at found
  · simp at found

/-- What follows an end tag starts behind the next `>`. -/
theorem behindEndTag?_append {name spelled : List Char} (tail : List Char)
    (named : spelled.map Char.toLower = name) (ends : endsName tail = true) :
    behindEndTag? name ('<' :: '/' :: (spelled ++ tail)) =
      some ((tail.dropWhile (· != '>')).drop 1) := by
  have length : name.length = spelled.length := by rw [← named, List.length_map]
  simp [behindEndTag?, length, named, ends]

/-- An end tag is read wherever one starts. -/
theorem startsEndTag_iff {name source : List Char} :
    StartsEndTag name source ↔ (behindEndTag? name source).isSome = true := by
  constructor
  · rintro ⟨spelled, tail, rfl, named, ends⟩
    rw [behindEndTag?_append tail named ends]
    rfl
  · intro found
    obtain ⟨after, found⟩ := Option.isSome_iff_exists.mp found
    exact startsEndTag_of_behindEndTag? found

/-- An end tag starts at the first character or behind it. -/
theorem hasEndTag_cons {name source : List Char} {first : Char} :
    HasEndTag name (first :: source) ↔
      StartsEndTag name (first :: source) ∨ HasEndTag name source := by
  constructor
  · rintro ⟨behind, suffix, starts⟩
    rcases List.suffix_cons_iff.mp suffix with rfl | inner
    · exact .inl starts
    · exact .inr ⟨behind, inner, starts⟩
  · rintro (starts | ⟨behind, suffix, starts⟩)
    · exact ⟨_, List.suffix_rfl, starts⟩
    · exact ⟨behind, suffix.trans (List.suffix_cons first source), starts⟩

/-- The cut takes the whole text exactly if no end tag starts in it. -/
theorem rawText_eq_self_iff {name source : List Char} :
    (rawText name source).1 = source ↔ ¬ HasEndTag name source := by
  induction source with
  | nil =>
      have absent : ¬ HasEndTag name [] := by
        rintro ⟨behind, suffix, spelled, tail, rfl, -⟩
        simp at suffix
      simp [rawText, absent]
  | cons first rest inductionHypothesis =>
      rw [hasEndTag_cons, startsEndTag_iff, rawText]
      cases behindEndTag? name (first :: rest) with
      | none => simp [inductionHypothesis]
      | some after => simp

/-- An end tag in front of a `<` does not depend on what stands behind it. -/
theorem startsEndTag_append {name content rest : List Char} (nonempty : content ≠ [])
    (tagless : '<' ∉ name) (starts : StartsEndTag name (content ++ '<' :: rest))
    (behind : List Char) : StartsEndTag name (content ++ behind) := by
  obtain ⟨spelled, tail, whole, named, ends⟩ := starts
  match content, nonempty with
  | [first], _ =>
      -- The content is `<`, and what follows it is no `/`.
      simp at whole
  | first :: second :: others, _ =>
      simp only [List.cons_append, List.cons.injEq] at whole
      obtain ⟨rfl, rfl, whole⟩ := whole
      rcases List.append_eq_append_iff.mp whole with ⟨reached, same, rest⟩ | ⟨kept, same, ended⟩
      · -- The name would reach up to the `<` behind the content or over it.
        cases reached with
        | nil =>
            rw [List.nil_append] at rest
            rw [← rest] at ends
            cases ends
        | cons character more =>
            rw [List.cons_append, List.cons.injEq] at rest
            have member : '<' ∈ spelled := by
              rw [same, rest.1]
              simp
            have image := List.mem_map_of_mem (f := Char.toLower) member
            rw [named] at image
            exact (tagless image).elim
      · refine ⟨spelled, kept ++ behind, by simp [same], named, ?_⟩
        cases kept with
        | nil =>
            rw [ended] at ends
            cases ends
        | cons character more =>
            rw [ended, List.cons_append] at ends
            exact ends

/-- A `<` behind a text does not add an end tag. -/
theorem hasEndTag_of_append {name content : List Char} (tagless : '<' ∉ name)
    (has : HasEndTag name (content ++ ['<'])) : HasEndTag name content := by
  induction content with
  | nil =>
      obtain ⟨behind, suffix, spelled, tail, rfl, -⟩ := has
      have short := suffix.length_le
      simp at short
  | cons first others inductionHypothesis =>
      rw [List.cons_append, hasEndTag_cons] at has
      rw [hasEndTag_cons]
      rcases has with starts | inside
      · have ended := startsEndTag_append (List.cons_ne_nil first others) tagless starts []
        exact .inl (by simpa using ended)
      · exact .inr (inductionHypothesis inside)

/-- A text in which no end tag is ended is cut out whole. -/
theorem rawText_closed {name content : List Char} (small : name.map Char.toLower = name)
    (tagless : '<' ∉ name) (absent : ¬ HasEndTag name (content ++ ['<'])) (rest : List Char) :
    rawText name (content ++ '<' :: '/' :: (name ++ '>' :: rest)) = (content, rest) := by
  induction content with
  | nil =>
      have found := behindEndTag?_append ('>' :: rest) small rfl
      rw [List.nil_append, rawText, found]
      rfl
  | cons first others inductionHypothesis =>
      have notHere : behindEndTag? name (first :: others ++ '<' :: '/' :: (name ++ '>' :: rest)) =
          none := by
        cases found :
            behindEndTag? name (first :: others ++ '<' :: '/' :: (name ++ '>' :: rest)) with
        | none => rfl
        | some after =>
            have starts := startsEndTag_append (by simp) tagless
              (startsEndTag_of_behindEndTag? found) ['<']
            exact (absent ⟨_, List.suffix_rfl, starts⟩).elim
      have behind := inductionHypothesis fun has => absent (hasEndTag_cons.mpr (.inr has))
      rw [List.cons_append] at notHere ⊢
      rw [rawText, notHere, behind]

end Stencil.Markup
