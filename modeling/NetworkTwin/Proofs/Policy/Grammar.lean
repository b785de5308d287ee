import NetworkTwin.Policy.Parser
import NetworkTwin.Proofs.Text.Wordwise

/-!
The grammar of rules. The pattern of a rule is tried character by character, but what it comes to is
a matter of whole words: the words of a rule stand in fixed roles, and whatever may follow them, like
the blanks between them, makes no difference.
-/

namespace NetworkTwin

open Text (Pattern Captures WordReading FromWord FromBreak TakesWord IsWord)

def Text.tokens (text : String) : List String := (Text.words text.toList).map String.ofList

/-- A line that starts like a rule, word by word. -/
structure RuleLine where
  action : Action
  actionWord : String
  protocol : Option String
  fromWord : String
  source : String
  toWord : String
  destination : String
  rest : List String

namespace RuleLine

def words (line : RuleLine) : List String :=
  line.actionWord :: line.protocol.toList ++
    [line.fromWord, line.source, line.toWord, line.destination] ++ line.rest

/-- The keywords of the line are those of a rule. -/
structure WellFormed (line : RuleLine) : Prop where
  action : Text.Spells line.actionWord line.action.name
  protocol : ∀ word, line.protocol = some word →
    ∃ keyword ∈ Rule.protocolKeywords, Text.Spells word keyword
  fromWord : Text.Spells line.fromWord "from"
  toWord : Text.Spells line.toWord "to"

/-- The port token among the words after the destination: the second, if the first is `port`. -/
def portToken? : List String → Option String
  | keyword :: token :: _ => if Text.foldsTo keyword.toList "port" then some token else none
  | _ => none

def rule (line : RuleLine) : Rule :=
  { action := line.action
    protocol := line.protocol.map Text.toLower
    source := line.source
    destination := line.destination
    port := (portToken? line.rest).map PortFilter.ofToken
    comment := none }

def portPart (rest : List String) : Captures RulePart :=
  (portToken? rest).toList.map fun token => (.port, token.toList)

def parts (line : RuleLine) : Captures RulePart :=
  portPart line.rest ++
    [(.destination, line.destination.toList), (.source, line.source.toList)] ++
    line.protocol.toList.map (fun word => (.protocol, word.toList)) ++
    [(.action, line.actionWord.toList)]

end RuleLine

namespace Rule

theorem same_ignoring_case_of_spells {word : String} {action : Action}
    (spells : Text.Spells word action.name) :
    (if Text.sameIgnoringCase word "allow" then Action.allow else .deny) = action := by
  cases action with
  | allow =>
      have lowered := Text.lower_ascii_of_spells spells (by decide)
      rw [Text.sameIgnoringCase, lowered]
      rfl
  | deny =>
      have lowered := Text.lower_ascii_of_spells spells (by decide)
      rw [Text.sameIgnoringCase, lowered]
      rfl

theorem of_parts_eq {line : RuleLine} (wellFormed : line.WellFormed) :
    ofParts line.parts = line.rule := by
  have action := same_ignoring_case_of_spells wellFormed.action
  have lookups : line.parts.lookup .action = some line.actionWord.toList ∧
      line.parts.lookup .protocol = line.protocol.map String.toList ∧
      line.parts.lookup .source = some line.source.toList ∧
      line.parts.lookup .destination = some line.destination.toList ∧
      line.parts.lookup .port = (RuleLine.portToken? line.rest).map String.toList := by
    unfold RuleLine.parts RuleLine.portPart
    cases RuleLine.portToken? line.rest <;> cases line.protocol <;> exact ⟨rfl, rfl, rfl, rfl, rfl⟩
  obtain ⟨actionPart, protocolPart, sourcePart, destinationPart, portPart⟩ := lookups
  unfold ofParts RuleLine.rule
  simp only [actionPart, protocolPart, sourcePart, destinationPart, portPart, Option.map_some,
    Option.getD_some, String.ofList_toList, action]
  cases line.protocol <;> cases RuleLine.portToken? line.rest <;>
    simp [withPort, withProtocol, plain]

def done : WordReading RulePart (Captures RulePart) := fun captures _ => some captures

def expectKeyword (keywords : List String) (next : WordReading RulePart (Captures RulePart)) :
    WordReading RulePart (Captures RulePart) :=
  next.expect (fun word => keywords.any (Text.foldsTo word)) fun _ captures => captures

def expectToken (part : RulePart) (next : WordReading RulePart (Captures RulePart)) :
    WordReading RulePart (Captures RulePart) :=
  next.expect (fun _ => true) fun word captures => (part, word) :: captures

def expectPart (part : RulePart) (keywords : List String)
    (next : WordReading RulePart (Captures RulePart)) : WordReading RulePart (Captures RulePart) :=
  next.expect (fun word => keywords.any (Text.foldsTo word)) fun word captures =>
    (part, word) :: captures

def readPort : WordReading RulePart (Captures RulePart) :=
  (expectKeyword ["port"] (expectToken .port done)).orElse done

def readEnds : WordReading RulePart (Captures RulePart) :=
  expectKeyword ["from"]
    (expectToken .source (expectKeyword ["to"] (expectToken .destination readPort)))

def reading : WordReading RulePart (Captures RulePart) :=
  expectPart .action actionKeywords
    ((expectPart .protocol protocolKeywords readEnds).orElse readEnds)

theorem keywords_solid :
    ∀ keywords ∈ [actionKeywords, protocolKeywords, ["from"], ["to"], ["port"]],
      ∀ keyword ∈ keywords, IsWord keyword.toList := by
  decide

/-- The port is tried from the end of the destination on. It cannot make the whole fail. -/
theorem port_from_break (captures : Captures RulePart) (text : List Char)
    (breaks : Text.breaksWord text = true) :
    Pattern.attempt (fun captures _ => some captures) (.optional portPattern) captures text =
      readPort captures (Text.words text) := by
  have token : FromWord (Pattern.attempt (fun captures _ => some captures) (token .port))
      (expectToken .port done) :=
    Text.last_word_captured RulePart.port (fun _ _ _ => rfl) fun _ _ => rfl
  have keyword := (Text.takes_word_one_of (keywords_solid ["port"] (by simp))).before
    token.after_blanks
  have tried := keyword.after_blanks.atBreak captures text breaks
  rw [Pattern.attempt, portPattern]
  simp only [Pattern.attempt_append]
  rw [blanks, tried]
  rfl

theorem port_succeeds (captures : Captures RulePart) (text : List Char) :
    (Pattern.attempt (fun captures _ => some captures) (.optional portPattern) captures
      text).isSome = true := by
  rw [Pattern.attempt]
  cases portPattern.attempt (fun captures _ => some captures) captures text <;> rfl

theorem ends_from_word :
    FromWord (endsPattern.attempt
      (Pattern.attempt (fun captures _ => some captures) (.optional portPattern))) readEnds := by
  have destination :=
    Text.last_word_captured RulePart.destination port_from_break port_succeeds
  have toWord := (Text.takes_word_one_of (keywords_solid ["to"] (by simp))).before
    destination.after_blanks
  have source := (Text.takes_word_stretch.capture RulePart.source).before toWord.after_blanks
  have fromWord := (Text.takes_word_one_of (keywords_solid ["from"] (by simp))).before
    source.after_blanks
  simp only [endsPattern, Pattern.attempt_append]
  exact fromWord

theorem protocol_from_word :
    FromWord (protocolPattern.attempt (endsPattern.attempt
      (Pattern.attempt (fun captures _ => some captures) (.optional portPattern))))
      (expectPart .protocol protocolKeywords readEnds) := by
  have taken := (Text.takes_word_one_of (keywords_solid protocolKeywords (by simp))).capture
    RulePart.protocol
  rw [protocolPattern, Pattern.attempt_append]
  exact taken.before ends_from_word.after_blanks

/-- No way of trying the pattern of a rule gets anywhere by cutting a word. -/
theorem pattern_from_word :
    FromWord (pattern.attempt fun captures _ => some captures) reading := by
  have taken := (Text.takes_word_one_of (keywords_solid actionKeywords (by simp))).capture
    RulePart.action
  simp only [pattern, Pattern.attempt_append]
  exact taken.before (protocol_from_word.optional ends_from_word).after_blanks

theorem captures_trim (text : List Char) :
    pattern.captures? (Text.trim text) = reading [] (Text.words text) := by
  rw [Pattern.captures?, ← Text.words_trim text]
  cases trimmed : Text.trim text with
  | nil => exact pattern_from_word.atBreak [] [] rfl
  | cons c rest =>
      exact pattern_from_word.atWord [] c rest (Text.trim_starts trimmed)

theorem read_port_eq (rest : List String) (captures : Captures RulePart) :
    readPort captures (rest.map String.toList) = some (RuleLine.portPart rest ++ captures) := by
  unfold RuleLine.portPart RuleLine.portToken? readPort expectKeyword expectToken done
    WordReading.orElse
  rcases rest with _ | ⟨keyword, _ | ⟨token, later⟩⟩
  · rfl
  · cases spelled : Text.foldsTo keyword.toList "port" <;> simp [WordReading.expect, spelled]
  · cases spelled : Text.foldsTo keyword.toList "port" <;> simp [WordReading.expect, spelled]

theorem read_ends_eq_some_iff {tokens : List String} {captures found : Captures RulePart} :
    readEnds captures (tokens.map String.toList) = some found ↔
      ∃ fromWord source toWord destination rest,
        tokens = fromWord :: source :: toWord :: destination :: rest ∧
        Text.Spells fromWord "from" ∧ Text.Spells toWord "to" ∧
        found = RuleLine.portPart rest ++
          (.destination, destination.toList) :: (.source, source.toList) :: captures := by
  simp only [readEnds, expectKeyword, expectToken, WordReading.expect_eq_some_iff, List.any_cons,
    List.any_nil, Bool.or_false]
  constructor
  · rintro ⟨fromWord, _, rfl, spellsFrom, source, _, rfl, _, toWord, _, rfl, spellsTo, destination,
      rest, rfl, _, read⟩
    rw [read_port_eq, Option.some.injEq] at read
    exact ⟨fromWord, source, toWord, destination, rest, rfl, spellsFrom, spellsTo, read.symm⟩
  · rintro ⟨fromWord, source, toWord, destination, rest, rfl, spellsFrom, spellsTo, rfl⟩
    exact ⟨fromWord, _, rfl, spellsFrom, source, _, rfl, trivial, toWord, _, rfl, spellsTo,
      destination, rest, rfl, trivial, read_port_eq rest _⟩

theorem any_keyword_iff {word : String} {keywords : List String} :
    (keywords.any (Text.foldsTo word.toList)) = true ↔
      ∃ keyword ∈ keywords, Text.Spells word keyword :=
  List.any_eq_true

theorem action_keyword_iff {word : String} :
    (∃ keyword ∈ actionKeywords, Text.Spells word keyword) ↔
      ∃ action : Action, Text.Spells word action.name := by
  constructor
  · rintro ⟨keyword, member, spells⟩
    simp only [actionKeywords, List.mem_cons, List.not_mem_nil, or_false] at member
    rcases member with rfl | rfl
    · exact ⟨.allow, spells⟩
    · exact ⟨.deny, spells⟩
  · rintro ⟨action, spells⟩
    refine ⟨action.name, ?_, spells⟩
    cases action <;> decide

theorem protocol_not_read {fromWord : String} (spellsFrom : Text.Spells fromWord "from")
    (next : WordReading RulePart (Captures RulePart)) (captures : Captures RulePart)
    (rest : List String) :
    expectPart .protocol protocolKeywords next captures ((fromWord :: rest).map String.toList) =
      none := by
  cases read : expectPart .protocol protocolKeywords next captures
      ((fromWord :: rest).map String.toList) with
  | none => rfl
  | some found =>
      obtain ⟨word, later, same, accepted, _⟩ := WordReading.expect_eq_some_iff.1 read
      obtain ⟨keyword, member, spells⟩ := any_keyword_iff.1 accepted
      rw [← (List.cons.inj same).1] at spells
      obtain rfl := Text.spells_unique spellsFrom spells
      exact absurd member (by decide)

/-- The pattern captures the parts of a line of a rule, and of no other line. -/
theorem reading_eq_some_iff {tokens : List String} {captures : Captures RulePart} :
    reading [] (tokens.map String.toList) = some captures ↔
      ∃ line : RuleLine, line.WellFormed ∧ line.words = tokens ∧ line.parts = captures := by
  simp only [reading, expectPart, WordReading.expect_eq_some_iff, WordReading.or_else_eq_some_iff,
    any_keyword_iff]
  constructor
  · rintro ⟨actionWord, _, rfl, spells, read⟩
    obtain ⟨action, spellsAction⟩ := action_keyword_iff.1 spells
    rcases read with ⟨protocol, _, rfl, spellsProtocol, read⟩ | ⟨_, read⟩
    · obtain ⟨fromWord, source, toWord, destination, rest, rfl, spellsFrom, spellsTo, rfl⟩ :=
        read_ends_eq_some_iff.1 read
      exact ⟨⟨action, actionWord, some protocol, fromWord, source, toWord, destination, rest⟩,
        ⟨spellsAction, fun word same => Option.some.inj same ▸ spellsProtocol, spellsFrom, spellsTo⟩,
        rfl, by simp [RuleLine.parts]⟩
    · obtain ⟨fromWord, source, toWord, destination, rest, rfl, spellsFrom, spellsTo, rfl⟩ :=
        read_ends_eq_some_iff.1 read
      exact ⟨⟨action, actionWord, none, fromWord, source, toWord, destination, rest⟩,
        ⟨spellsAction, fun _ same => (nomatch same), spellsFrom, spellsTo⟩,
        rfl, by simp [RuleLine.parts]⟩
  · rintro ⟨line, wellFormed, rfl, rfl⟩
    refine ⟨line.actionWord, _, rfl, action_keyword_iff.2 ⟨line.action, wellFormed.action⟩, ?_⟩
    have ends (captures : Captures RulePart) :
        readEnds captures ((line.fromWord :: line.source :: line.toWord :: line.destination ::
          line.rest).map String.toList) = _ :=
      read_ends_eq_some_iff.2 ⟨_, _, _, _, _, rfl, wellFormed.fromWord, wellFormed.toWord, rfl⟩
    unfold RuleLine.parts
    cases present : line.protocol with
    | none =>
        refine Or.inr ⟨protocol_not_read wellFormed.fromWord _ _ _, (ends _).trans ?_⟩
        simp
    | some protocol =>
        have spells := wellFormed.protocol protocol present
        refine Or.inl ⟨protocol, _, rfl, spells, (ends _).trans ?_⟩
        simp

theorem words_eq_tokens (line : String) :
    Text.words line.toList = (Text.tokens line).map String.toList := by
  simp [Text.tokens, Function.comp_def]

theorem parse_eq (line : String) :
    parse line = match reading [] ((Text.tokens line).map String.toList) with
      | some parts => .ok (ofParts parts)
      | none => .error .notARule := by
  have found : pattern.captures? (Text.trim line.toList) =
      reading [] ((Text.tokens line).map String.toList) := by
    rw [captures_trim, words_eq_tokens]
  rw [← found]
  rfl

theorem parse_eq_ok_iff {line : String} {rule : Rule} :
    parse line = .ok rule ↔
      ∃ spelled : RuleLine, spelled.WellFormed ∧ spelled.words = Text.tokens line ∧
        spelled.rule = rule := by
  rw [parse_eq]
  constructor
  · intro parsed
    split at parsed
    · rename_i parts read
      obtain ⟨spelled, wellFormed, words, rfl⟩ := reading_eq_some_iff.1 read
      rw [of_parts_eq wellFormed, Except.ok.injEq] at parsed
      exact ⟨spelled, wellFormed, words, parsed⟩
    · cases parsed
  · rintro ⟨spelled, wellFormed, words, rfl⟩
    rw [reading_eq_some_iff.2 ⟨spelled, wellFormed, words, rfl⟩]
    exact congrArg Except.ok (of_parts_eq wellFormed)

/-- Reading a line goes by its words: it is a rule if they are those of a rule, which is then the
rule they spell, and else it is none. -/
theorem parse_by_words (line : String) :
    (∀ rule, parse line = .ok rule ↔
      ∃ spelled : RuleLine, spelled.WellFormed ∧ spelled.words = Text.tokens line ∧
        spelled.rule = rule) ∧
    (parse line = .error .notARule ↔
      ¬ ∃ spelled : RuleLine, spelled.WellFormed ∧ spelled.words = Text.tokens line) ∧
    ∀ other, Text.tokens other = Text.tokens line → parse other = parse line := by
  refine ⟨fun rule => parse_eq_ok_iff, ?_, fun other same => ?_⟩
  · constructor
    · rintro refused ⟨spelled, wellFormed, words⟩
      rw [parse_eq_ok_iff.2 ⟨spelled, wellFormed, words, rfl⟩] at refused
      cases refused
    · intro unspelled
      rw [parse_eq]
      split
      · rename_i parts read
        obtain ⟨spelled, wellFormed, words, _⟩ := reading_eq_some_iff.1 read
        exact absurd ⟨spelled, wellFormed, words⟩ unspelled
      · rfl
  · rw [parse_eq, parse_eq, same]

-- Words in the place of a reference are references, whatever else they could be.
example : (parse "  DENY from from\tto to port +0443 # and no more").toOption =
    some ((plain .deny "from" "to").withPort (.number 443)) := by
  decide +kernel

end Rule

end NetworkTwin
