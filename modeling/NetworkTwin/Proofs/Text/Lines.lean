import Mathlib.Data.List.Forall2
import NetworkTwin.Proofs.Text.Words

/-!
The lines of a text. A line feed cuts a text in two, and the lines of the text are the parts of the
first half and the lines of the second: the parts between line feeds and the lines only differ in that
an empty part at the very end is no line. A carriage return before each line feed goes to the end of
its line, where trimming takes it away.
-/

namespace NetworkTwin.Text

theorem split_at_ne_nil (separator : Char) (text : List Char) : splitAt separator text ≠ [] := by
  cases text with
  | nil => exact List.cons_ne_nil [] []
  | cons c rest =>
      unfold splitAt
      split
      · exact List.cons_ne_nil [] _
      · cases splitAt separator rest <;> simp

theorem split_at_cons_ne {separator c : Char} (different : c ≠ separator) {rest part : List Char}
    {more : List (List Char)} (found : splitAt separator rest = part :: more) :
    splitAt separator (c :: rest) = (c :: part) :: more := by
  rw [splitAt, if_neg different, found]

theorem length_split_at (separator : Char) (text : List Char) :
    (splitAt separator text).length = 1 + text.count separator := by
  induction text with
  | nil => rfl
  | cons c rest induction =>
      by_cases same : c = separator
      · rw [splitAt, if_pos same, List.length_cons, induction, same, List.count_cons_self]
        omega
      · obtain ⟨part, more, found⟩ := List.exists_cons_of_ne_nil (split_at_ne_nil separator rest)
        rw [split_at_cons_ne same found, List.count_cons_of_ne same, ← induction, found]
        rfl

theorem split_at_of_not_mem {separator : Char} {text : List Char} (whole : separator ∉ text) :
    splitAt separator text = [text] := by
  induction text with
  | nil => rfl
  | cons c rest induction =>
      rw [List.mem_cons, not_or] at whole
      exact split_at_cons_ne (Ne.symm whole.1) (induction whole.2)

theorem split_at_append {separator : Char} {front : List Char} (whole : separator ∉ front)
    (rest : List Char) :
    splitAt separator (front ++ separator :: rest) = front :: splitAt separator rest := by
  induction front with
  | nil => rw [List.nil_append, splitAt, if_pos rfl]
  | cons c front induction =>
      rw [List.mem_cons, not_or] at whole
      exact split_at_cons_ne (Ne.symm whole.1) (induction whole.2)

/-- A text is cut in two where its separator occurs once. -/
theorem split_at_eq_pair_iff {separator : Char} {text first last : List Char} :
    splitAt separator text = [first, last] ↔
      text = first ++ separator :: last ∧ separator ∉ first ∧ separator ∉ last := by
  constructor
  · intro cut
    have count : text.count separator = 1 := by
      have parts := length_split_at separator text
      rw [cut, List.length_cons, List.length_singleton] at parts
      omega
    have member : separator ∈ text := List.count_pos_iff.1 (by omega)
    obtain ⟨front, back, whole, notBefore⟩ := List.eq_append_cons_of_mem member
    have notAfter : separator ∉ back := by
      rw [whole, List.count_append, List.count_cons_self, List.count_eq_zero.2 notBefore] at count
      apply List.count_eq_zero.1
      omega
    rw [whole, split_at_append notBefore, split_at_of_not_mem notAfter] at cut
    cases cut
    exact ⟨whole, notBefore, notAfter⟩
  · rintro ⟨whole, notBefore, notAfter⟩
    rw [whole, split_at_append notBefore, split_at_of_not_mem notAfter]

theorem lines_cons_ne {c : Char} (different : c ≠ '\n') {rest line : List Char}
    {more : List (List Char)} (found : lines rest = line :: more) :
    lines (c :: rest) = (c :: line) :: more := by
  rw [lines, if_neg different, found]

theorem lines_append (front rest : List Char) :
    lines (front ++ '\n' :: rest) = splitAt '\n' front ++ lines rest := by
  induction front with
  | nil => rfl
  | cons c front induction =>
      by_cases same : c = '\n'
      · rw [List.cons_append, lines, splitAt, if_pos same, if_pos same, induction,
          List.cons_append]
      · obtain ⟨part, more, found⟩ := List.exists_cons_of_ne_nil (split_at_ne_nil '\n' front)
        rw [found, List.cons_append] at induction
        rw [List.cons_append, lines_cons_ne same induction, split_at_cons_ne same found,
          List.cons_append]

/-- The parts of a text between line feeds are its lines, and perhaps an empty part at the end. -/
theorem split_at_newline (text : List Char) :
    splitAt '\n' text = lines text ∨ splitAt '\n' text = lines text ++ [[]] := by
  induction text with
  | nil => exact Or.inr rfl
  | cons c rest induction =>
      by_cases same : c = '\n'
      · rw [splitAt, lines, if_pos same, if_pos same]
        exact induction.imp (congrArg _) (congrArg _)
      · cases found : lines rest with
        | nil =>
            have empty : splitAt '\n' rest = [[]] := by
              rw [found] at induction
              exact induction.resolve_left (split_at_ne_nil '\n' rest)
            rw [split_at_cons_ne same empty, lines, if_neg same, found]
            exact Or.inl rfl
        | cons line more =>
            rw [found] at induction
            rw [lines_cons_ne same found]
            exact induction.imp (split_at_cons_ne same) (split_at_cons_ne same)

theorem lines_line {line : List Char} (single : '\n' ∉ line) (nonempty : line ≠ []) :
    lines line = [line] := by
  have whole := split_at_newline line
  rw [split_at_of_not_mem single] at whole
  rcases whole with same | blank
  · exact same.symm
  · have ends : [] ++ [line] = lines line ++ [[]] := blank
    obtain ⟨_, empty⟩ := List.append_inj' ends rfl
    exact absurd (List.cons.inj empty).1 nonempty

theorem join_with_cons_cons (separator first second : String) (more : List String) :
    joinWith separator (first :: second :: more) =
      first ++ separator ++ joinWith separator (second :: more) := rfl

theorem lines_join {texts : List String}
    (areLines : ∀ text ∈ texts, '\n' ∉ text.toList ∧ text.toList ≠ []) :
    lines (joinWith "\n" texts).toList = texts.map String.toList := by
  induction texts with
  | nil => rfl
  | cons first more induction =>
      obtain ⟨single, nonempty⟩ := areLines first List.mem_cons_self
      cases more with
      | nil => exact lines_line single nonempty
      | cons second more =>
          have later := induction fun text member => areLines text (List.mem_cons_of_mem _ member)
          have cut := lines_append first.toList (joinWith "\n" (second :: more)).toList
          rw [split_at_of_not_mem single] at cut
          rw [join_with_cons_cons, String.toList_append, String.toList_append, List.append_assoc,
            List.map_cons, ← later]
          exact cut

def withReturns (text : List Char) : List Char :=
  text.flatMap fun c => if c = '\n' then ['\r', '\n'] else [c]

theorem with_returns_newline (rest : List Char) :
    withReturns ('\n' :: rest) = '\r' :: '\n' :: withReturns rest := rfl

theorem with_returns_cons_ne {c : Char} (different : c ≠ '\n') (rest : List Char) :
    withReturns (c :: rest) = c :: withReturns rest := by
  rw [withReturns, List.flatMap_cons, if_neg different]
  rfl

/-- With carriage returns before the line feeds there are as many lines, and each is as before or has
a carriage return at its end. -/
theorem lines_with_returns (text : List Char) :
    List.Forall₂ (fun line ended => ended = line ∨ ended = line ++ ['\r']) (lines text)
      (lines (withReturns text)) := by
  induction text with
  | nil => exact .nil
  | cons c rest induction =>
      by_cases same : c = '\n'
      · rw [same, with_returns_newline]
        exact .cons (Or.inr rfl) induction
      · rw [with_returns_cons_ne same]
        generalize found : lines rest = cut, foundEnded : lines (withReturns rest) = cutEnded
          at induction
        cases induction with
        | nil =>
            rw [lines, lines, if_neg same, if_neg same, found, foundEnded]
            exact .cons (Or.inl rfl) .nil
        | cons first more =>
            rw [lines_cons_ne same found, lines_cons_ne same foundEnded]
            exact .cons (first.imp (congrArg _) (congrArg _)) more

theorem trim_back_append_blank {c : Char} (blank : isBlank c = true) (text : List Char) :
    trimBack (text ++ [c]) = trimBack text := by
  have front : trimFront (c :: text.reverse) = trimFront text.reverse :=
    List.dropWhile_cons_of_pos blank
  rw [trimBack, trimBack, List.reverse_append, List.reverse_singleton, List.singleton_append, front]

theorem trim_append_blank {c : Char} (blank : isBlank c = true) (text : List Char) :
    trim (text ++ [c]) = trim text := by
  have front : trimFront (text ++ [c]) =
      if (trimFront text).isEmpty then trimFront [c] else trimFront text ++ [c] :=
    List.dropWhile_append
  rw [trim, trim, front]
  split
  · rename_i empty
    have nothing : trimFront [c] = [] := List.dropWhile_cons_of_pos blank
    rw [nothing, List.isEmpty_iff.1 empty]
  · exact trim_back_append_blank blank _

end NetworkTwin.Text
