/-! The text of an element whose content is not parsed, which the parser cuts out itself. -/

namespace Stencil.Markup

/-- What ends a name: `>`, `/`, ASCII white space or the end of input. -/
def endsName : List Char → Bool
  | [] => true
  | character :: _ =>
      character = '>' || character = '/' || character = ' ' || character = '\t' ||
        character = '\n' || character = '\x0C' || character = '\r'

/-- What follows the end tag of the given lower-case name, if a source starts with it. -/
def behindEndTag? (name source : List Char) : Option (List Char) :=
  match source with
  | '<' :: '/' :: behind =>
      let tail := behind.drop name.length
      if (behind.take name.length).map Char.toLower = name ∧ endsName tail = true then
        some ((tail.dropWhile (· != '>')).drop 1)
      else none
  | _ => none

/-- The text before the first end tag of a name, and what follows that tag. -/
def rawText (name : List Char) (source : List Char) : List Char × List Char :=
  match source with
  | [] => ([], [])
  | character :: rest =>
      match behindEndTag? name (character :: rest) with
      | some after => ([], after)
      | none => (character :: (rawText name rest).1, (rawText name rest).2)

/-- What follows an end tag is the end of the source. -/
theorem behindEndTag?_suffix {name source after : List Char}
    (found : behindEndTag? name source = some after) : after <:+ source := by
  unfold behindEndTag? at found
  split at found
  · rename_i behind
    simp only at found
    split at found
    · simp only [Option.some.injEq] at found
      subst found
      have first := List.drop_suffix name.length behind
      have second := List.dropWhile_suffix (· != '>') (l := behind.drop name.length)
      have third := List.drop_suffix 1 ((behind.drop name.length).dropWhile (· != '>'))
      exact third.trans (second.trans (first.trans ⟨['<', '/'], rfl⟩))
    · simp at found
  · simp at found

/-- The cut keeps the front and the back of the source. -/
theorem rawText_prefix_suffix (name source : List Char) :
    (rawText name source).1 <+: source ∧ (rawText name source).2 <:+ source := by
  induction source with
  | nil => simp [rawText]
  | cons character rest inductionHypothesis =>
      unfold rawText
      split
      · rename_i after found
        exact ⟨List.nil_prefix, behindEndTag?_suffix found⟩
      · obtain ⟨⟨front, sameFront⟩, ⟨back, sameBack⟩⟩ := inductionHypothesis
        refine ⟨⟨front, ?_⟩, ⟨character :: back, ?_⟩⟩
        · simp [sameFront]
        · simp [sameBack]

end Stencil.Markup
