import NetworkTwin.Proofs.Policy.Matching
import NetworkTwin.Proofs.Policy.Rendering

/-!
The protocols of rules that have been read. However a line spells the keyword of a protocol, the rule
names the protocol by the keyword itself and matches the traffic that goes by it. The one exception
is a keyword that is spelled with the long s: it is read as the keyword, but the long s is a small
letter already and stays as it is. Such a rule names no protocol that there is, and misses all the
traffic that it was written for.
-/

namespace NetworkTwin

namespace Text

theorem lower_ascii_of_fold {c letter : Char} (folded : foldLetter c = letter)
    (other : letter ≠ 's') : c ≠ 'ſ' ∧ lowerAscii c = letter := by
  have different : c ≠ 'ſ' := by
    intro same
    apply other
    rw [← folded, same]
    rfl
  rw [foldLetter, if_neg different] at folded
  exact ⟨different, folded⟩

theorem to_lower_of_spells_plainly {word keyword : String} (spells : Spells word keyword)
    (ascii : ∀ letter ∈ keyword.toList, letter.toNat < 128) (plain : 'ſ' ∉ word.toList) :
    toLower word = keyword := by
  rw [to_lower_of_spells spells ascii, lowerAsciiText, lower_ascii_of_spells_plainly spells plain]
  exact String.ofList_toList

theorem to_lower_of_long_s {word : String} (spells : Spells word "dns")
    (longS : 'ſ' ∈ word.toList) : toLower word = "dnſ" := by
  have folded : word.toList.map foldLetter = ['d', 'n', 's'] := spells_iff.1 spells
  obtain ⟨d, afterD, split, foldsD, folded⟩ := List.map_eq_cons_iff.1 folded
  obtain ⟨n, afterN, rfl, foldsN, folded⟩ := List.map_eq_cons_iff.1 folded
  obtain ⟨s, none, rfl, _, folded⟩ := List.map_eq_cons_iff.1 folded
  obtain rfl := List.map_eq_nil_iff.1 folded
  have plainD := lower_ascii_of_fold foldsD (by decide)
  have plainN := lower_ascii_of_fold foldsN (by decide)
  have last : s = 'ſ' := by
    rw [split] at longS
    simp only [List.mem_cons, List.not_mem_nil, or_false] at longS
    rcases longS with same | same | same
    · exact absurd same.symm plainD.1
    · exact absurd same.symm plainN.1
    · exact same.symm
  have ascii := Rule.keyword_ascii "dns" (by decide)
  rw [to_lower_of_spells spells ascii, lowerAsciiText, split]
  simp only [List.map_cons, List.map_nil, plainD.2, plainN.2, last]
  decide

end Text

namespace Rule

/-- Whether a line is written for a protocol: its second word is the keyword, in any case of its
letters. -/
def WrittenFor (line keyword : String) : Prop :=
  ∃ word ∈ (Text.tokens line)[1]?, Text.Spells word keyword

/-- Whether the long s is used in the second word of a line. -/
def WritesLongS (line : String) : Prop :=
  ∃ word ∈ (Text.tokens line)[1]?, 'ſ' ∈ word.toList

instance (line : String) : Decidable (WritesLongS line) :=
  inferInstanceAs (Decidable (∃ word ∈ (Text.tokens line)[1]?, 'ſ' ∈ word.toList))

/-- Whether a rule matches the traffic that goes by a name as if it were for every protocol. -/
def Serves (rule : Rule) (name : String) : Prop :=
  ∀ tags query, query.GoesBy name →
    rule.matches tags query = ({ rule with protocol := none } : Rule).matches tags query

/-- Whether a rule matches no traffic that goes by a name. -/
def Misses (rule : Rule) (name : String) : Prop :=
  ∀ tags query, query.GoesBy name → rule.matches tags query = false

theorem serves_of_protocol {rule : Rule} {name : String} (named : rule.protocol = some name) :
    rule.Serves name := by
  intro tags query goes
  have covers : rule.coversProtocol query.protocol = true := by
    apply covers_protocol_iff.2
    intro wanted present
    rw [named] at present
    obtain rfl := Option.some.inj present
    exact Or.inr goes
  have coversAny : ({ rule with protocol := none } : Rule).coversProtocol query.protocol = true := rfl
  rw [Rule.matches, Rule.matches, covers, coversAny]
  rfl

theorem misses_of_protocol {rule : Rule} {name other : String} (named : rule.protocol = some other)
    (restricts : isAny other = false)
    (different : Text.lowerAsciiText name ≠ Text.lowerAsciiText other) : rule.Misses name := by
  intro tags query goes
  have notCovered : rule.coversProtocol query.protocol = false := by
    apply Bool.eq_false_iff.2
    intro covers
    rcases covers_protocol_iff.1 covers other named with wildcard | goesOther
    · rw [restricts] at wildcard
      cases wildcard
    · rw [Query.goes_by_iff] at goes goesOther
      exact different (Option.some.inj (goes.symm.trans goesOther))
  rw [Rule.matches, notCovered, Bool.and_false, Bool.false_and]

variable {line : String} {spelled : RuleLine}

/-- The second word of a rule is its protocol, if it has one, and else the keyword after it. -/
theorem second_word_iff (words : spelled.words = Text.tokens line) {holds : String → Prop}
    (notFrom : ¬ holds spelled.fromWord) :
    (∃ word ∈ (Text.tokens line)[1]?, holds word) ↔ ∃ word ∈ spelled.protocol, holds word := by
  have second : (Text.tokens line)[1]? = some (spelled.protocol.getD spelled.fromWord) := by
    rw [← words, RuleLine.words]
    cases spelled.protocol <;> rfl
  rw [second]
  cases spelled.protocol with
  | none => simp [notFrom]
  | some word => simp

theorem written_for_iff (wellFormed : spelled.WellFormed) (words : spelled.words = Text.tokens line)
    {keyword : String} (member : keyword ∈ protocolKeywords) :
    WrittenFor line keyword ↔ ∃ word ∈ spelled.protocol, Text.Spells word keyword := by
  apply second_word_iff words
  intro spells
  have same := Text.spells_unique wellFormed.fromWord spells
  rw [← same] at member
  exact absurd member (by decide)

theorem writes_long_s_iff (wellFormed : spelled.WellFormed)
    (words : spelled.words = Text.tokens line) :
    WritesLongS line ↔ ∃ word ∈ spelled.protocol, 'ſ' ∈ word.toList := by
  apply second_word_iff words
  intro longS
  exact absurd (Text.s_mem_of_long_s wellFormed.fromWord longS) (by decide)

theorem eq_dns_of_s_mem : ∀ keyword ∈ protocolKeywords, 's' ∈ keyword.toList → keyword = "dns" := by
  decide

section Spelled

variable {word keyword : String} (present : spelled.protocol = some word)
  (member : keyword ∈ protocolKeywords) (spells : Text.Spells word keyword)

include present member spells

theorem protocol_spelled_plainly (plainly : 'ſ' ∉ word.toList) :
    spelled.rule.protocol = some keyword := by
  rw [RuleLine.rule, present, Option.map_some,
    Text.to_lower_of_spells_plainly spells (keyword_ascii keyword member) plainly]

theorem protocol_spelled_with_long_s (longS : 'ſ' ∈ word.toList) :
    keyword = "dns" ∧ spelled.rule.protocol = some "dnſ" := by
  have isDns := eq_dns_of_s_mem keyword member (Text.s_mem_of_long_s spells longS)
  subst isDns
  rw [RuleLine.rule, present, Option.map_some, Text.to_lower_of_long_s spells longS]
  exact ⟨rfl, rfl⟩

end Spelled

theorem protocol_eq_some_iff (wellFormed : spelled.WellFormed)
    (words : spelled.words = Text.tokens line) (plain : ¬ WritesLongS line) {name : String} :
    spelled.rule.protocol = some name ↔ name ∈ protocolKeywords ∧ WrittenFor line name := by
  rw [writes_long_s_iff wellFormed words] at plain
  have plainly : ∀ word, spelled.protocol = some word → 'ſ' ∉ word.toList := by
    intro word present longS
    exact plain ⟨word, present, longS⟩
  constructor
  · intro named
    obtain ⟨word, present, _⟩ := Option.map_eq_some_iff.1 named
    obtain ⟨keyword, member, spells⟩ := wellFormed.protocol word present
    rw [protocol_spelled_plainly present member spells (plainly word present)] at named
    obtain rfl := Option.some.inj named
    exact ⟨member, (written_for_iff wellFormed words member).2 ⟨word, present, spells⟩⟩
  · rintro ⟨member, written⟩
    obtain ⟨word, present, spells⟩ := (written_for_iff wellFormed words member).1 written
    exact protocol_spelled_plainly present member spells (plainly word present)

/-- A rule that is read from a line names the protocol that the line is written for by its keyword,
if it is written for one, and matches the traffic of that protocol. But where the keyword is spelled
with the long s, the rule names no protocol and misses the traffic that it is written for. -/
theorem parsed_protocols_canonical_but_for_long_s {rule : Rule} (parsed : parse line = .ok rule) :
    (¬ WritesLongS line →
      (∀ name, rule.protocol = some name ↔ name ∈ protocolKeywords ∧ WrittenFor line name) ∧
      ∀ keyword ∈ protocolKeywords, WrittenFor line keyword → rule.Serves keyword) ∧
    (WritesLongS line →
      WrittenFor line "dns" ∧ rule.protocol = some "dnſ" ∧ "dnſ" ∉ protocolKeywords ∧
        rule.Misses "dns") := by
  obtain ⟨spelled, wellFormed, words, rfl⟩ := parse_eq_ok_iff.1 parsed
  constructor
  · intro plain
    have names {name : String} := @protocol_eq_some_iff line spelled wellFormed words plain name
    refine ⟨fun name => names, ?_⟩
    intro keyword member written
    exact serves_of_protocol (names.2 ⟨member, written⟩)
  · intro writes
    obtain ⟨word, present, longS⟩ := (writes_long_s_iff wellFormed words).1 writes
    obtain ⟨keyword, member, spells⟩ := wellFormed.protocol word present
    obtain ⟨rfl, named⟩ := protocol_spelled_with_long_s present member spells longS
    have written := (written_for_iff wellFormed words member).2 ⟨word, present, spells⟩
    exact ⟨written, named, by decide, misses_of_protocol named (by decide) (by decide)⟩

theorem parsed_protocols_canonical_but_for_long_s_port :
    let rule : Rule :=
      { plain .deny "lan" "web" with protocol := some "dns", port := some (.number 53) }
    parse "Deny DnS from lan to web port 53" = .ok rule ∧
      ¬ WritesLongS "Deny DnS from lan to web port 53" ∧
      "dns" ∈ protocolKeywords ∧ WrittenFor "Deny DnS from lan to web port 53" "dns" ∧
      rule.Serves "dns" := by
  intro rule
  have parsed : parse "Deny DnS from lan to web port 53" = .ok rule := by rfl
  have plainly : ¬ WritesLongS "Deny DnS from lan to web port 53" := by decide +kernel
  obtain ⟨names, serves⟩ := (parsed_protocols_canonical_but_for_long_s parsed).1 plainly
  obtain ⟨member, written⟩ := (names "dns").1 rfl
  exact ⟨parsed, plainly, member, written, serves "dns" member written⟩

/-- A line that is written for a protocol with the long s is read as a rule that names none of the
protocols and does not match the traffic. -/
theorem long_s_rule_misses_its_protocol :
    let rule : Rule := { plain .allow "a" "b" with protocol := some "dnſ" }
    parse "allow dnſ from a to b" = .ok rule ∧ WrittenFor "allow dnſ from a to b" "dns" ∧
      (∀ name ∈ protocolKeywords, rule.protocol ≠ some name) ∧
      rule.matches .empty ⟨"a", "b", some "dns", none⟩ = false := by
  intro rule
  refine ⟨by rfl, ⟨"dnſ", by decide +kernel, by decide⟩, by decide, by decide +kernel⟩

end Rule

end NetworkTwin
