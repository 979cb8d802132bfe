import Stencil.Markup.Lexeme
import Stencil.Proofs.Markup.EndTag
import Stencil.Text.Letter

/-! The end of a raw text as a search over byte positions, and that it is the cut between
characters. -/

namespace Stencil

namespace Markup

open Text

/-- The bytes at which a raw text and its end tag end, searched for mark by mark. -/
def rawTextEnd? (name source : List Char) (start : Nat) : Option (Nat × Nat) :=
  match _cut : dropBytes? start source with
  | none => none
  | some tail =>
      match _found : upTo? ['<', '/'] tail with
      | none => some (byteLength source, byteLength source)
      | some (before, _) =>
          let tagStart := start + byteLength before
          let nameEnd := tagStart + 2 + byteLength name
          let candidate := slice? (tagStart + 2) nameEnd source
          if candidate.any (·.map Char.toLower = name) then
            match dropBytes? nameEnd source with
            | none => none
            | some behind =>
                if endsName behind then
                  some (tagStart,
                    match upTo? ['>'] behind with
                    | none => byteLength source
                    | some (inner, _) => nameEnd + byteLength inner + 1)
                else rawTextEnd? name source (tagStart + 2)
          else rawTextEnd? name source (tagStart + 2)
termination_by byteLength source - start
decreasing_by
  all_goals
    obtain ⟨front, whole, length⟩ := append_of_dropBytes? _cut
    have lengths := congrArg byteLength whole
    rw [upTo?_eq _found, byteLength_append, byteLength_append, byteLength_append, length]
      at lengths
    have mark : byteLength ['<', '/'] = 2 := rfl
    omega

section

variable {name : List Char}

/-- No end tag starts without its mark. -/
theorem behindEndTag?_of_not_prefix {source : List Char}
    (unmarked : ['<', '/'].isPrefixOf? source = none) : behindEndTag? name source = none := by
  unfold behindEndTag?
  split
  · cases unmarked.symm.trans (isPrefixOf?_append ['<', '/'] _)
  · rfl

/-- A text without `</` is cut out whole. -/
theorem rawText_of_upTo?_none {source : List Char} (absent : upTo? ['<', '/'] source = none) :
    rawText name source = (source, []) := by
  induction source with
  | nil => rfl
  | cons character rest inductionHypothesis =>
      rw [upTo?] at absent
      split at absent
      · cases absent
      · rename_i unmarked
        rw [rawText, behindEndTag?_of_not_prefix unmarked,
          inductionHypothesis (Option.map_eq_none_iff.mp absent)]

/-- The cut passes what stands in front of the first `</`. -/
theorem rawText_of_upTo? {source before after : List Char}
    (found : upTo? ['<', '/'] source = some (before, after)) :
    rawText name source =
      (before ++ (rawText name ('<' :: '/' :: after)).1,
        (rawText name ('<' :: '/' :: after)).2) := by
  induction source generalizing before with
  | nil => cases found
  | cons character rest inductionHypothesis =>
      have whole := upTo?_eq found
      rw [upTo?] at found
      split at found
      · cases found
        rw [whole]
        rfl
      · rename_i unmarked
        obtain ⟨⟨inner, behind⟩, foundRest, same⟩ := Option.map_eq_some_iff.mp found
        cases same
        rw [rawText, behindEndTag?_of_not_prefix unmarked, inductionHypothesis foundRest]
        rfl

/-- Behind a `</` that starts no end tag of the name, the cut goes on. -/
theorem rawText_of_not_endTag {after : List Char}
    (other : behindEndTag? name ('<' :: '/' :: after) = none) :
    rawText name ('<' :: '/' :: after) =
      ('<' :: '/' :: (rawText name after).1, (rawText name after).2) := by
  have slash : behindEndTag? name ('/' :: after) = none :=
    behindEndTag?_of_not_prefix rfl
  rw [rawText, other, rawText, slash]

/-- The name behind `</` is compared over its bytes. -/
theorem any_slice?_iff (front after : List Char) :
    ((slice? (byteLength front) (byteLength front + byteLength name) (front ++ after)).any
        (·.map Char.toLower = name)) = true ↔
      (after.take name.length).map Char.toLower = name := by
  rw [slice?, dropBytes?_byteLength, Option.bind_some, Nat.add_sub_cancel_left]
  constructor
  · intro same
    obtain ⟨candidate, cut, spelled⟩ := (Option.any_eq_true _ _).mp same
    obtain ⟨back, rfl, -⟩ := append_of_takeBytes? cut
    have named : candidate.map Char.toLower = name := of_decide_eq_true spelled
    rw [← named, List.length_map, List.take_left]
  · intro named
    have length : byteLength (after.take name.length) = byteLength name := by
      rw [← byteLength_map_toLower, named]
    have cut := takeBytes?_byteLength (after.take name.length) (after.drop name.length)
    rw [List.take_append_drop, length] at cut
    rw [cut]
    simpa using named

/-- The first `>` is where the characters before it end. -/
theorem dropWhile_eq_upTo? (source : List Char) :
    source.dropWhile (· != '>') =
      match upTo? ['>'] source with
      | none => []
      | some (_, behind) => '>' :: behind := by
  induction source with
  | nil => rfl
  | cons character rest inductionHypothesis =>
      rw [upTo?]
      cases started : ['>'].isPrefixOf? (character :: rest) with
      | some behind =>
          rw [isPrefixOf?_eq started]
          rfl
      | none =>
          have other : character ≠ '>' := by
            rintro rfl
            cases started.symm.trans (isPrefixOf?_append ['>'] rest)
          rw [List.dropWhile_cons_of_pos (by simpa using other), inductionHypothesis]
          cases upTo? ['>'] rest <;> rfl

/-- Behind a name, the end tag ends with the next `>`, or with the source. -/
theorem resume_eq (front spelled behind : List Char) :
    (match upTo? ['>'] behind with
      | none => byteLength (front ++ (spelled ++ behind))
      | some (inner, _) => byteLength front + byteLength spelled + byteLength inner + 1) =
      byteLength (front ++ (spelled ++ behind)) -
        byteLength ((behind.dropWhile (· != '>')).drop 1) := by
  rw [dropWhile_eq_upTo?]
  cases found : upTo? ['>'] behind with
  | none => simp
  | some parts =>
      obtain ⟨inner, after⟩ := parts
      have mark : '>'.utf8Size = 1 := rfl
      rw [upTo?_eq found]
      simp [mark]
      omega

/-- One step of the search passes the next `</`, or ends at it. -/
theorem rawTextEnd?_step {tail before after : List Char}
    (found : upTo? ['<', '/'] tail = some (before, after)) (front : List Char) :
    rawTextEnd? name (front ++ tail) (byteLength front) =
      match behindEndTag? name ('<' :: '/' :: after) with
      | some rest =>
          some (byteLength (front ++ before), byteLength (front ++ tail) - byteLength rest)
      | none =>
          rawTextEnd? name (front ++ before ++ ['<', '/'] ++ after)
            (byteLength (front ++ before ++ ['<', '/'])) := by
  have whole : front ++ tail = front ++ before ++ ['<', '/'] ++ after := by
    rw [upTo?_eq found]
    simp
  have tagStart : byteLength front + byteLength before + 2 =
      byteLength (front ++ before ++ ['<', '/']) := by
    simp only [byteLength_append]
    rfl
  rw [rawTextEnd?]
  split
  · rename_i cut
    rw [dropBytes?_byteLength] at cut
    cases cut
  · rename_i remaining cut
    rw [dropBytes?_byteLength] at cut
    cases cut
    split
    · rename_i absent
      rw [absent] at found
      cases found
    · rename_i first last foundAgain
      rw [found] at foundAgain
      cases foundAgain
      simp only [whole, tagStart, any_slice?_iff, behindEndTag?]
      split
      · rename_i named
        -- The name is spelled with as many bytes as it has itself.
        have length : byteLength (after.take name.length) = byteLength name := by
          rw [← byteLength_map_toLower, named]
        have dropped : dropBytes? (byteLength (front ++ before ++ ['<', '/']) + byteLength name)
            (front ++ before ++ ['<', '/'] ++ after) = some (after.drop name.length) := by
          rw [← length, ← byteLength_append]
          conv => lhs; arg 2; rw [← List.take_append_drop name.length after, ← List.append_assoc]
          exact dropBytes?_byteLength _ _
        have resume := resume_eq (front ++ before ++ ['<', '/']) (after.take name.length)
          (after.drop name.length)
        rw [List.take_append_drop, length] at resume
        simp only [dropped]
        split
        · rename_i ends
          simp only [if_pos (And.intro named ends), resume, byteLength_append front before]
        · rename_i unended
          rw [if_neg fun both => unended both.2]
      · rename_i other
        rw [if_neg fun both => other both.1]

/-- From between two characters, the search finds the end of the cut. -/
theorem rawTextEnd?_append (name front tail : List Char) :
    rawTextEnd? name (front ++ tail) (byteLength front) =
      some (byteLength (front ++ (rawText name tail).1),
        byteLength (front ++ tail) - byteLength (rawText name tail).2) := by
  cases found : upTo? ['<', '/'] tail with
  | none =>
      rw [rawText_of_upTo?_none found, rawTextEnd?]
      split
      · rename_i cut
        rw [dropBytes?_byteLength] at cut
        cases cut
      · rename_i remaining cut
        rw [dropBytes?_byteLength] at cut
        cases cut
        split
        · simp
        · rename_i foundAgain
          rw [found] at foundAgain
          cases foundAgain
  | some parts =>
      obtain ⟨before, after⟩ := parts
      -- The search goes on behind the `</`, on a shorter tail.
      have shorter : after.length < tail.length := by
        rw [upTo?_eq found]
        simp
        omega
      rw [rawTextEnd?_step found, rawText_of_upTo? found]
      cases tag : behindEndTag? name ('<' :: '/' :: after) with
      | some rest =>
          rw [rawText, tag]
          simp
      | none =>
          simp only [rawTextEnd?_append name (front ++ before ++ ['<', '/']) after,
            rawText_of_not_endTag tag, upTo?_eq found]
          simp
termination_by tail.length

end

end Markup

end Stencil
