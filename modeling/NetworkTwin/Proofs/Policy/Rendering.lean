import NetworkTwin.Policy.Evaluation
import NetworkTwin.Proofs.Policy.Grammar
import NetworkTwin.Proofs.Text.Lines

/-!
Rules that have been read from a text, written down again. Reading puts a rule into a plain form: the
protocol in lower case, port numbers as numbers, references and other port tokens as words. A rule of
that form is written as a line that is read as the same rule, so a policy that has been read is the
same after it is written and read once more, apart from what was set aside.
-/

namespace NetworkTwin

open Text (IsWord)

namespace Text

theorem words_join {tokens : List String} (areWords : ∀ token ∈ tokens, IsWord token.toList) :
    words (joinWith " " tokens).toList = tokens.map String.toList := by
  induction tokens with
  | nil => rfl
  | cons first more induction =>
      have isWord := areWords first List.mem_cons_self
      cases more with
      | nil => exact words_word isWord
      | cons second more =>
          have later := induction fun token member => areWords token (List.mem_cons_of_mem _ member)
          rw [join_with_cons_cons, String.toList_append, String.toList_append, List.append_assoc,
            List.map_cons, ← later]
          exact words_append isWord rfl

theorem newline_not_mem_join {tokens : List String}
    (areWords : ∀ token ∈ tokens, IsWord token.toList) : '\n' ∉ (joinWith " " tokens).toList := by
  induction tokens with
  | nil => simp [joinWith]
  | cons first more induction =>
      have solid : '\n' ∉ first.toList := fun member =>
        absurd ((areWords first List.mem_cons_self).letters '\n' member) (by decide)
      cases more with
      | nil => exact solid
      | cons second more =>
          have later := induction fun token member => areWords token (List.mem_cons_of_mem _ member)
          rw [join_with_cons_cons, String.toList_append, String.toList_append]
          simp [solid, later]

end Text

theorem PortFilter.of_token_render_of_token (token : String) :
    ofToken (ofToken token).render = ofToken token := by
  unfold ofToken
  cases read : port? token.toList with
  | none => simp [render, read]
  | some port =>
      have value : port.toNat < UInt16.size := port.toNat_lt_size
      have again : port? (toString port.toNat).toList = some port := by
        rw [port?, Text.natural_below_of_decimal value]
        simp
      change ofToken (toString port.toNat) = .number port
      rw [ofToken, again]

theorem Text.decimal_is_word (value : Nat) : IsWord (toString value).toList := by
  rw [Nat.toString_eq_ofList_toDigits, String.toList_ofList]
  constructor
  · exact Nat.toDigits_ne_nil
  · intro c member
    have digit : c.isDigit = true := Nat.isDigit_of_mem_toDigits (by decide) (by decide) member
    exact is_blank_of_digit digit

theorem PortFilter.render_of_token_is_word {token : String} (isWord : IsWord token.toList) :
    IsWord (ofToken token).render.toList := by
  unfold ofToken
  cases port? token.toList with
  | none => exact isWord
  | some port => exact Text.decimal_is_word port.toNat

namespace Rule

/-- The form that reading gives to a rule. -/
structure Plain (rule : Rule) : Prop where
  source : IsWord rule.source.toList
  destination : IsWord rule.destination.toList
  protocol : ∀ word, rule.protocol = some word →
    Text.toLower word = word ∧ ∃ keyword ∈ protocolKeywords, Text.Spells word keyword
  port : ∀ filter, rule.port = some filter →
    IsWord filter.render.toList ∧ PortFilter.ofToken filter.render = filter
  comment : rule.comment = none

theorem is_word_of_mem_tokens {line token : String} (member : token ∈ Text.tokens line) :
    IsWord token.toList := by
  obtain ⟨word, inLine, rfl⟩ := List.mem_map.1 member
  rw [String.toList_ofList]
  exact Text.is_word_of_mem_words inLine

theorem mem_of_port_token {rest : List String} {token : String}
    (present : RuleLine.portToken? rest = some token) : token ∈ rest := by
  unfold RuleLine.portToken? at present
  split at present
  · split at present
    · obtain rfl := Option.some.inj present
      simp
    · cases present
  · cases present

theorem keyword_ascii :
    ∀ keyword ∈ protocolKeywords, ∀ letter ∈ keyword.toList, letter.toNat < 128 := by
  have checked : (protocolKeywords.all fun keyword =>
      keyword.toList.all fun letter => decide (letter.toNat < 128)) = true := by
    decide
  intro keyword member letter inKeyword
  exact of_decide_eq_true
    (List.all_eq_true.1 (List.all_eq_true.1 checked keyword member) letter inKeyword)

theorem plain_of_parse {line : String} {rule : Rule} (parsed : parse line = .ok rule) :
    rule.Plain := by
  obtain ⟨spelled, wellFormed, words, rfl⟩ := parse_eq_ok_iff.1 parsed
  have areWords : ∀ token ∈ spelled.words, IsWord token.toList := fun token member =>
    is_word_of_mem_tokens (words ▸ member)
  constructor
  · exact areWords spelled.source (by simp [RuleLine.words])
  · exact areWords spelled.destination (by simp [RuleLine.words])
  · intro word lowered
    obtain ⟨protocol, present, rfl⟩ := Option.map_eq_some_iff.1 lowered
    obtain ⟨keyword, member, spells⟩ := wellFormed.protocol protocol present
    obtain ⟨same, twice⟩ := Text.to_lower_spells spells (keyword_ascii keyword member)
    exact ⟨twice, keyword, member, same⟩
  · intro filter read
    obtain ⟨token, present, rfl⟩ := Option.map_eq_some_iff.1 read
    have isWord := areWords token (by simp [RuleLine.words, mem_of_port_token present])
    exact ⟨PortFilter.render_of_token_is_word isWord, PortFilter.of_token_render_of_token token⟩
  · rfl

end Rule

/-- The line that a rule is written as. -/
def RuleLine.ofRule (rule : Rule) : RuleLine :=
  { action := rule.action
    actionWord := rule.action.name
    protocol := rule.protocol
    fromWord := "from"
    source := rule.source
    toWord := "to"
    destination := rule.destination
    rest := match rule.port with
      | some port => ["port", port.render]
      | none => [] }

namespace Rule

theorem render_eq (rule : Rule) : rule.render = Text.joinWith " " (RuleLine.ofRule rule).words := by
  have fromSpaced : " from " = " " ++ ("from" ++ " ") := rfl
  have toSpaced : " to " = " " ++ ("to" ++ " ") := rfl
  have portSpaced : " port " = " " ++ ("port" ++ " ") := rfl
  unfold render RuleLine.words RuleLine.ofRule
  rw [fromSpaced, toSpaced]
  cases rule.protocol <;> cases rule.port <;>
    simp only [portSpaced, Text.joinWith, Option.toList, List.cons_append, List.nil_append,
      String.append_assoc, String.append_empty]

theorem Plain.well_formed {rule : Rule} (plain : rule.Plain) :
    (RuleLine.ofRule rule).WellFormed := by
  constructor
  · change Text.Spells rule.action.name rule.action.name
    cases rule.action <;> decide
  · exact fun word present => (plain.protocol word present).2
  · change Text.Spells "from" "from"
    decide
  · change Text.Spells "to" "to"
    decide

theorem Plain.rule_eq {rule : Rule} (plain : rule.Plain) : (RuleLine.ofRule rule).rule = rule := by
  have protocol : rule.protocol.map Text.toLower = rule.protocol := by
    cases present : rule.protocol with
    | none => rfl
    | some word => rw [Option.map_some, (plain.protocol word present).1]
  have port :
      (RuleLine.portToken? (RuleLine.ofRule rule).rest).map PortFilter.ofToken = rule.port := by
    unfold RuleLine.ofRule
    cases present : rule.port with
    | none => rfl
    | some filter => exact congrArg some (plain.port filter present).2
  calc (RuleLine.ofRule rule).rule
      = { rule with protocol := rule.protocol, port := rule.port, comment := none } := by
        rw [RuleLine.rule, port]
        exact congrArg (fun word => ({ rule with protocol := word, comment := none } : Rule)) protocol
    _ = rule := by rw [← plain.comment]

theorem Plain.words_are_words {rule : Rule} (plain : rule.Plain) :
    ∀ token ∈ (RuleLine.ofRule rule).words, IsWord token.toList := by
  have action : IsWord rule.action.name.toList := by
    have known : rule.action.name ∈ actionKeywords := by cases rule.action <;> decide
    exact keywords_solid actionKeywords (by simp) rule.action.name known
  have protocol : ∀ word ∈ rule.protocol.toList, IsWord word.toList := by
    intro word member
    obtain ⟨keyword, known, spells⟩ := (plain.protocol word (Option.mem_toList.1 member)).2
    exact Text.is_word_of_spells spells
      (keywords_solid protocolKeywords (by simp) keyword known)
  have port : ∀ token ∈ (RuleLine.ofRule rule).rest, IsWord token.toList := by
    unfold RuleLine.ofRule
    cases present : rule.port with
    | none => simp
    | some filter =>
        have token := (plain.port filter present).1
        have keyword := keywords_solid ["port"] (by simp) "port" (by simp)
        exact List.forall_mem_cons.2 ⟨keyword, List.forall_mem_singleton.2 token⟩
  intro token member
  simp only [RuleLine.words, List.mem_append, List.mem_cons, List.not_mem_nil, or_false] at member
  rcases member with ((rfl | inProtocol) | rfl | rfl | rfl | rfl) | inRest
  · exact action
  · exact protocol token inProtocol
  · exact keywords_solid ["from"] (by simp) "from" (by simp)
  · exact plain.source
  · exact keywords_solid ["to"] (by simp) "to" (by simp)
  · exact plain.destination
  · exact port token inRest

theorem Plain.tokens_render {rule : Rule} (plain : rule.Plain) :
    Text.tokens rule.render = (RuleLine.ofRule rule).words := by
  rw [render_eq, Text.tokens, Text.words_join plain.words_are_words]
  simp [Function.comp_def]

theorem Plain.parse_render {rule : Rule} (plain : rule.Plain) : parse rule.render = .ok rule :=
  parse_eq_ok_iff.2
    ⟨RuleLine.ofRule rule, plain.well_formed, plain.tokens_render.symm, plain.rule_eq⟩

theorem Plain.render_is_line {rule : Rule} (plain : rule.Plain) :
    '\n' ∉ rule.render.toList ∧ rule.render.toList ≠ [] := by
  constructor
  · rw [render_eq]
    exact Text.newline_not_mem_join plain.words_are_words
  · intro empty
    have tokens := plain.tokens_render
    rw [Text.tokens, empty] at tokens
    cases tokens

theorem parse_starts {c : Char} {rest : List Char} {rule : Rule}
    (letter : Text.isBlank c = false) (parsed : parse (String.ofList (c :: rest)) = .ok rule) :
    c ≠ '#' := by
  rintro rfl
  obtain ⟨spelled, wellFormed, words, _⟩ := parse_eq_ok_iff.1 parsed
  rw [Text.tokens, String.toList_ofList, Text.words_eq_first_word letter,
    Text.first_word_cons letter, RuleLine.words] at words
  have spells := wellFormed.action
  rw [(List.cons.inj words).1, Text.spells_iff, String.toList_ofList, List.map_cons] at spells
  cases named : spelled.action <;> rw [named] at spells <;>
    exact absurd (List.cons.inj spells).1 (by decide)

theorem parse_trim (line : List Char) :
    parse (String.ofList (Text.trim line)) = parse (String.ofList line) := by
  have tokens :
      Text.tokens (String.ofList (Text.trim line)) = Text.tokens (String.ofList line) := by
    simp only [Text.tokens, String.toList_ofList, Text.words_trim]
  rw [parse_eq, tokens, ← parse_eq]

end Rule

namespace Policy

/-- Whether a line says nothing: it is blank or a remark. -/
def saysNothing (line : List Char) : Bool :=
  match Text.trim line with
  | [] => true
  | c :: _ => c = '#'

theorem entry_of_eq (number : Nat) (line : List Char) :
    entryOf number line =
      if saysNothing line then .nothing
      else match Rule.parse (String.ofList (Text.trim line)) with
        | .ok rule => .rule rule
        | .error _ => .skipped ⟨number, String.ofList (Text.trim line)⟩ := by
  dsimp only [entryOf]
  split
  · rename_i blank
    rw [saysNothing, blank]
    rfl
  · rename_i rest remark
    rw [saysNothing, remark]
    rfl
  · rename_i notBlank notRemark
    have speaks : saysNothing line = false := by
      unfold saysNothing
      cases trimmed : Text.trim line with
      | nil => exact absurd trimmed notBlank
      | cons c rest =>
          refine decide_eq_false fun remark => notRemark rest ?_
          rw [trimmed, remark]
    rw [speaks]
    rfl

theorem says_nothing_of_parsed {line : List Char} {rule : Rule}
    (parsed : Rule.parse (String.ofList line) = .ok rule) : saysNothing line = false := by
  rw [← Rule.parse_trim] at parsed
  unfold saysNothing
  cases trimmed : Text.trim line with
  | nil =>
      rw [trimmed] at parsed
      cases parsed
  | cons c rest =>
      rw [trimmed] at parsed
      exact decide_eq_false (Rule.parse_starts (Text.trim_starts trimmed) parsed)

theorem entry_of_eq_rule_iff {number : Nat} {line : List Char} {rule : Rule} :
    entryOf number line = .rule rule ↔ Rule.parse (String.ofList line) = .ok rule := by
  rw [entry_of_eq, Rule.parse_trim]
  constructor
  · intro entry
    split at entry
    · cases entry
    · cases parsed : Rule.parse (String.ofList line) with
      | error error =>
          rw [parsed] at entry
          cases entry
      | ok read =>
          rw [parsed] at entry
          cases entry
          rfl
  · intro parsed
    rw [says_nothing_of_parsed parsed, parsed]
    rfl

theorem mem_entries_from {entry : Entry} {number : Nat} {lines : List (List Char)}
    (member : entry ∈ entriesFrom number lines) : ∃ number line, entryOf number line = entry := by
  induction lines generalizing number with
  | nil => cases member
  | cons line rest induction =>
      rcases List.mem_cons.1 member with rfl | later
      · exact ⟨number, line, rfl⟩
      · exact induction later

theorem plain_of_mem_parse {text : String} {rule : Rule} (member : rule ∈ (parse text).rules) :
    rule.Plain := by
  obtain ⟨entry, inText, isRule⟩ := List.mem_filterMap.1 member
  obtain ⟨number, line, read⟩ := mem_entries_from inText
  cases entry with
  | nothing => cases isRule
  | skipped aside => cases isRule
  | rule parsed =>
      obtain rfl := Option.some.inj isRule
      exact Rule.plain_of_parse (entry_of_eq_rule_iff.1 read)

theorem entries_from_render {rules : List Rule} (plain : ∀ rule ∈ rules, rule.Plain)
    (number : Nat) :
    entriesFrom number (rules.map fun rule => rule.render.toList) = rules.map Entry.rule := by
  induction rules generalizing number with
  | nil => rfl
  | cons rule rules induction =>
      have here : Rule.parse (String.ofList rule.render.toList) = .ok rule := by
        rw [String.ofList_toList]
        exact (plain rule List.mem_cons_self).parse_render
      have later := induction (fun other member => plain other (List.mem_cons_of_mem rule member))
        (number + 1)
      rw [List.map_cons, entriesFrom, entry_of_eq_rule_iff.2 here, later, List.map_cons]

/-- Plain rules are read back as they were written, and nothing is set aside. -/
theorem parse_render {policy : Policy} (plain : ∀ rule ∈ policy.rules, rule.Plain) :
    parse policy.render = ⟨policy.rules, []⟩ := by
  have lines : Text.lines policy.render.toList =
      policy.rules.map fun rule => rule.render.toList := by
    rw [render, Text.lines_join, List.map_map]
    · rfl
    · intro text member
      obtain ⟨rule, inPolicy, rfl⟩ := List.mem_map.1 member
      exact (plain rule inPolicy).render_is_line
  unfold parse
  rw [lines, entries_from_render plain]
  simp [List.filterMap_map, Function.comp_def, Entry.rule?, Entry.skipped?]

/-- Writing down what has been read and reading it again gives the same rules and sets nothing
aside, so that every query is decided as before. -/
theorem render_undoes_nothing (text : String) :
    parse (parse text).render = ⟨(parse text).rules, []⟩ ∧
      ∀ tags query,
        (parse (parse text).render).evaluate tags query = (parse text).evaluate tags query := by
  have plain : ∀ rule ∈ (parse text).rules, rule.Plain := fun _ member => plain_of_mem_parse member
  have again := parse_render plain
  refine ⟨again, fun tags query => ?_⟩
  rw [again, evaluate, evaluate]

end Policy

end NetworkTwin
