import NetworkTwin.Proofs.Policy.Rendering

/-!
Policy texts line by line. Every line is read by itself: what it says depends neither on the lines
around it nor on its place, which only a line that is set aside tells. So two texts, one under the
other, are read as the one and then the other, with the places of the second counted on from the
first; each line that says anything becomes one rule or is set aside; and how lines end does not
matter.
-/

namespace NetworkTwin

def SkippedLine.movedDown (lines : Nat) (aside : SkippedLine) : SkippedLine :=
  { aside with line := aside.line + lines }

namespace Policy

def Entry.movedDown (lines : Nat) : Entry → Entry
  | .skipped aside => .skipped (aside.movedDown lines)
  | entry => entry

def ofEntries (entries : List Entry) : Policy :=
  ⟨entries.filterMap Entry.rule?, entries.filterMap Entry.skipped?⟩

theorem parse_eq_of_entries (text : String) :
    parse text = ofEntries (entriesFrom 1 (Text.lines text.toList)) := rfl

theorem of_entries_append (entries more : List Entry) :
    ofEntries (entries ++ more) =
      ⟨(ofEntries entries).rules ++ (ofEntries more).rules,
        (ofEntries entries).skipped ++ (ofEntries more).skipped⟩ := by
  simp only [ofEntries, List.filterMap_append]

theorem of_entries_moved_down (lines : Nat) (entries : List Entry) :
    ofEntries (entries.map (Entry.movedDown lines)) =
      ⟨(ofEntries entries).rules, (ofEntries entries).skipped.map (SkippedLine.movedDown lines)⟩ := by
  have rule (entry : Entry) : (entry.movedDown lines).rule? = entry.rule? := by
    cases entry <;> rfl
  have skipped (entry : Entry) :
      (entry.movedDown lines).skipped? = entry.skipped?.map (SkippedLine.movedDown lines) := by
    cases entry <;> rfl
  simp only [ofEntries, List.filterMap_map, List.map_filterMap, Function.comp_def, rule, skipped]

theorem entry_of_add (number lines : Nat) (line : List Char) :
    entryOf (number + lines) line = (entryOf number line).movedDown lines := by
  rw [entry_of_eq, entry_of_eq]
  split
  · rfl
  · split <;> rfl

theorem entries_from_add (number lines : Nat) (texts : List (List Char)) :
    entriesFrom (number + lines) texts = (entriesFrom number texts).map (Entry.movedDown lines) := by
  induction texts generalizing number with
  | nil => rfl
  | cons line rest induction =>
      rw [entriesFrom, entriesFrom, List.map_cons, entry_of_add, Nat.add_right_comm, induction]

theorem entries_from_append (number : Nat) (texts more : List (List Char)) :
    entriesFrom number (texts ++ more) =
      entriesFrom number texts ++ entriesFrom (number + texts.length) more := by
  induction texts generalizing number with
  | nil => rfl
  | cons line rest induction =>
      rw [List.cons_append, entriesFrom, entriesFrom, induction, List.cons_append,
        List.length_cons, Nat.add_assoc, Nat.add_comm 1]

theorem of_entries_split_at (number : Nat) (text : List Char) :
    ofEntries (entriesFrom number (Text.splitAt '\n' text)) =
      ofEntries (entriesFrom number (Text.lines text)) := by
  rcases Text.split_at_newline text with same | blank
  · rw [same]
  · have nothing : ∀ place, ofEntries (entriesFrom place [[]]) = ⟨[], []⟩ := fun _ => rfl
    rw [blank, entries_from_append, of_entries_append, nothing, List.append_nil, List.append_nil]

/-- Of two texts, one under the other, the first is read as if it stood alone, and the second as if
it did but for the numbers of its lines. -/
theorem parse_append (first second : String) :
    parse (first ++ "\n" ++ second) =
      ⟨(parse first).rules ++ (parse second).rules,
        (parse first).skipped ++
          (parse second).skipped.map (SkippedLine.movedDown (1 + first.toList.count '\n'))⟩ := by
  have cut : Text.lines (first ++ "\n" ++ second).toList =
      Text.splitAt '\n' first.toList ++ Text.lines second.toList := by
    rw [String.toList_append, String.toList_append, List.append_assoc]
    exact Text.lines_append first.toList second.toList
  rw [parse_eq_of_entries, cut, entries_from_append, of_entries_append, of_entries_split_at,
    Text.length_split_at, entries_from_add, of_entries_moved_down]
  rfl

/-- A line that says something, trimmed, with its number counted from one. -/
structure Statement where
  number : Nat
  text : String
deriving DecidableEq, Repr

/-- The statement that a line makes, if it says anything. -/
def statementOf? (number : Nat) (line : List Char) : Option Statement :=
  if saysNothing line then none else some ⟨number, String.ofList (Text.trim line)⟩

def statementsFrom (number : Nat) (lines : List (List Char)) : List Statement :=
  (lines.zipIdx number).filterMap fun placed => statementOf? placed.2 placed.1

/-- What a text says: its lines but those that say nothing. -/
def statements (text : String) : List Statement := statementsFrom 1 (Text.lines text.toList)

/-- Whether a policy has one entry for each statement, in their order: the rule that it is, or the
line set aside if it is none. -/
inductive HoldsEach : List Statement → Policy → Prop
  | nil : HoldsEach [] ⟨[], []⟩
  | rule {statement : Statement} {more : List Statement} {rule : Rule} {policy : Policy}
      (parsed : Rule.parse statement.text = .ok rule) (rest : HoldsEach more policy) :
      HoldsEach (statement :: more) ⟨rule :: policy.rules, policy.skipped⟩
  | skipped {statement : Statement} {more : List Statement} {error : PolicyError} {policy : Policy}
      (refused : Rule.parse statement.text = .error error) (rest : HoldsEach more policy) :
      HoldsEach (statement :: more)
        ⟨policy.rules, ⟨statement.number, statement.text⟩ :: policy.skipped⟩

theorem statements_from_cons (number : Nat) (line : List Char) (rest : List (List Char)) :
    statementsFrom number (line :: rest) =
      (statementOf? number line).toList ++ statementsFrom (number + 1) rest := by
  rw [statementsFrom, List.zipIdx_cons, List.filterMap_cons, statementsFrom]
  dsimp only
  cases statementOf? number line <;> rfl

theorem of_entries_rule (rule : Rule) (entries : List Entry) :
    ofEntries (.rule rule :: entries) =
      ⟨rule :: (ofEntries entries).rules, (ofEntries entries).skipped⟩ := rfl

theorem of_entries_skipped (aside : SkippedLine) (entries : List Entry) :
    ofEntries (.skipped aside :: entries) =
      ⟨(ofEntries entries).rules, aside :: (ofEntries entries).skipped⟩ := rfl

theorem holds_each_statement (number : Nat) (lines : List (List Char)) :
    HoldsEach (statementsFrom number lines) (ofEntries (entriesFrom number lines)) := by
  induction lines generalizing number with
  | nil => exact .nil
  | cons line rest induction =>
      have later := induction (number + 1)
      rw [statements_from_cons, entriesFrom, entry_of_eq, statementOf?]
      split
      · exact later
      · rw [Option.toList_some, List.singleton_append]
        cases parsed : Rule.parse (String.ofList (Text.trim line)) with
        | ok rule =>
            dsimp only
            rw [of_entries_rule]
            exact .rule parsed later
        | error error =>
            dsimp only
            rw [of_entries_skipped]
            exact .skipped parsed later

theorem rule_entry_of (number : Nat) (line : List Char) :
    (entryOf number line).rule? = (Rule.parse (String.ofList line)).toOption := by
  cases parsed : Rule.parse (String.ofList line) with
  | ok rule =>
      rw [entry_of_eq_rule_iff.2 parsed]
      rfl
  | error error =>
      rw [entry_of_eq, Rule.parse_trim, parsed]
      split <;> rfl

/-- The rules are what the lines are read as, those that say nothing among them. -/
theorem rules_parse (text : String) :
    (parse text).rules = (Text.lines text.toList).filterMap fun line =>
      (Rule.parse (String.ofList line)).toOption := by
  change (entriesFrom 1 (Text.lines text.toList)).filterMap Entry.rule? = _
  generalize Text.lines text.toList = lines
  generalize 1 = number
  induction lines generalizing number with
  | nil => rfl
  | cons line rest induction =>
      rw [entriesFrom, List.filterMap_cons, List.filterMap_cons, rule_entry_of, induction]

theorem entries_from_congr {lines others : List (List Char)}
    (alike : List.Forall₂ (fun line other => Text.trim other = Text.trim line) lines others)
    (number : Nat) : entriesFrom number others = entriesFrom number lines := by
  induction alike generalizing number with
  | nil => rfl
  | cons same _ induction => rw [entriesFrom, entriesFrom, induction, entryOf, entryOf, same]

theorem parse_with_returns (text : String) :
    parse (String.ofList (Text.withReturns text.toList)) = parse text := by
  have alike : List.Forall₂ (fun line other => Text.trim other = Text.trim line)
      (Text.lines text.toList) (Text.lines (Text.withReturns text.toList)) := by
    refine (Text.lines_with_returns text.toList).imp fun line ended => ?_
    rintro (rfl | rfl)
    · rfl
    · exact Text.trim_append_blank (by decide) line
  rw [parse_eq_of_entries, parse_eq_of_entries, String.toList_ofList, entries_from_congr alike]

/-- Policy texts are read line by line. Two of them, one under the other, are read as the one and
then the other, counting lines on. Each statement of a text is one rule or one line set aside, and no
line that says nothing would have been a rule. Carriage returns before line feeds change nothing. -/
theorem parse_line_by_line :
    (∀ first second : String, parse (first ++ "\n" ++ second) =
      ⟨(parse first).rules ++ (parse second).rules,
        (parse first).skipped ++
          (parse second).skipped.map
            (SkippedLine.movedDown (1 + first.toList.count '\n'))⟩) ∧
    ∀ text : String,
      HoldsEach (statements text) (parse text) ∧
      (parse text).rules = (Text.lines text.toList).filterMap (fun line =>
        (Rule.parse (String.ofList line)).toOption) ∧
      parse (String.ofList (Text.withReturns text.toList)) = parse text :=
  ⟨parse_append, fun text =>
    ⟨holds_each_statement 1 (Text.lines text.toList), rules_parse text, parse_with_returns text⟩⟩

end Policy

end NetworkTwin
