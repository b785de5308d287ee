import NetworkTwin.Document.Json.Printer
import NetworkTwin.Document.Json.Token
import NetworkTwin.Proofs.Wire.Values

/-!
Tokens of written values. A text may be cut into tokens up to a point where the last one is still
open, as the end of a number shows only in what follows it. So a written value is cut into its
tokens, and what follows it has to begin with a character that ends whatever is open.
-/

namespace NetworkTwin.Json

mutual

def tokensOf : Value → List Token
  | .null => [.null]
  | .bool value => [.bool value]
  | .number value => [.number (some value)]
  | .text value => [.text (some value)]
  | .list items => .openList :: (tokensOfItems true items ++ [.closeList])
  | .object entries => .openObject :: (tokensOfEntries true entries ++ [.closeObject])

def tokensOfItems (isFirst : Bool) : List Value → List Token
  | [] => []
  | item :: rest =>
      (if isFirst then [] else [.comma]) ++ (tokensOf item ++ tokensOfItems false rest)

def tokensOfEntries (isFirst : Bool) : List (String × Value) → List Token
  | [] => []
  | (key, value) :: rest =>
      (if isFirst then [] else [.comma]) ++
        (.text (some key) :: .colon :: (tokensOf value ++ tokensOfEntries false rest))

end

def lex? (lexer : Lexer) (text : String) : Option Lexer := text.toList.foldlM Lexer.step? lexer

/-- A text is cut into tokens, the last of which may still be open. -/
def Lexes (text : String) (tokens : List Token) : Prop :=
  ∀ before, ∃ lexer, lex? ⟨before, .between⟩ text = some lexer ∧
    lexer.finish? = some (tokens.reverse ++ before)

/-- A text is cut into tokens, none of which is open at its end. -/
def Closes (text : String) (tokens : List Token) : Prop :=
  ∀ before, lex? ⟨before, .between⟩ text = some ⟨tokens.reverse ++ before, .between⟩

/-- A text whose first character, if any, ends what is open before it. -/
def Delimited (text : String) : Prop :=
  ∀ {c rest}, text.toList = c :: rest → isNumberPart c = false ∧ isWordPart c = false

theorem lex_append (lexer : Lexer) (first second : String) :
    lex? lexer (first ++ second) = (lex? lexer first).bind fun lexer => lex? lexer second := by
  rw [lex?, String.toList_append, List.foldlM_append]
  rfl

theorem step_of_delimiter {lexer : Lexer} {tokens : List Token} {c : Char}
    (finished : lexer.finish? = some tokens) (notNumber : isNumberPart c = false)
    (notWord : isWordPart c = false) : lexer.step? c = Lexer.step? ⟨tokens, .between⟩ c := by
  rcases lexer with ⟨before, mode⟩
  cases mode with
  | between =>
      cases finished
      rfl
  | inNumber lexeme =>
      simp only [Lexer.step?, notNumber, finished, Bool.false_eq_true, if_false, Option.bind_some]
  | inWord letters =>
      simp only [Lexer.step?, notWord, finished, Bool.false_eq_true, if_false, Option.bind_some]
  | inText state | inEscape state | inUnit state digits => cases finished

theorem Closes.lexes {text : String} {tokens : List Token} (closes : Closes text tokens) :
    Lexes text tokens := fun before => ⟨_, closes before, rfl⟩

theorem Closes.empty : Closes "" [] := fun _ => rfl

theorem Closes.append {first second : String} {tokens later : List Token}
    (closes : Closes first tokens) (next : Closes second later) :
    Closes (first ++ second) (tokens ++ later) := by
  intro before
  rw [lex_append, closes before, Option.bind_some, next, List.reverse_append, List.append_assoc]

theorem Closes.append_lexes {first second : String} {tokens later : List Token}
    (closes : Closes first tokens) (next : Lexes second later) :
    Lexes (first ++ second) (tokens ++ later) := by
  intro before
  obtain ⟨lexer, lexed, finished⟩ := next (tokens.reverse ++ before)
  refine ⟨lexer, ?_, ?_⟩
  · rw [lex_append, closes before, Option.bind_some, lexed]
  · rw [finished, List.reverse_append, List.append_assoc]

/-- What begins with a delimiter is cut as if nothing were open before it. -/
theorem Lexes.lex_next {first second : String} {tokens : List Token} (lexes : Lexes first tokens)
    (delimited : Delimited second) (nonempty : second ≠ "") (before : List Token) :
    lex? ⟨before, .between⟩ (first ++ second) =
      lex? ⟨tokens.reverse ++ before, .between⟩ second := by
  obtain ⟨lexer, lexed, finished⟩ := lexes before
  rw [lex_append, lexed, Option.bind_some]
  cases text : second.toList with
  | nil => exact absurd (String.toList_eq_nil_iff.1 text) nonempty
  | cons c rest =>
      obtain ⟨notNumber, notWord⟩ := delimited text
      rw [lex?, lex?, text, List.foldlM_cons, List.foldlM_cons,
        step_of_delimiter finished notNumber notWord]

theorem Lexes.append_closes {first second : String} {tokens later : List Token}
    (lexes : Lexes first tokens) (delimited : Delimited second) (nonempty : second ≠ "")
    (next : Closes second later) : Closes (first ++ second) (tokens ++ later) := by
  intro before
  rw [lexes.lex_next delimited nonempty, next, List.reverse_append, List.append_assoc]

theorem Lexes.append {first second : String} {tokens later : List Token}
    (lexes : Lexes first tokens) (delimited : Delimited second) (next : Lexes second later) :
    Lexes (first ++ second) (tokens ++ later) := by
  intro before
  by_cases empty : second = ""
  · -- Nothing follows, so what is open stays open.
    subst empty
    obtain ⟨lexer, lexed, finished⟩ := next (tokens.reverse ++ before)
    cases lexed
    obtain ⟨lexer, lexed, finished'⟩ := lexes before
    refine ⟨lexer, ?_, ?_⟩
    · rw [String.append_empty, lexed]
    · rw [finished', List.reverse_append, List.append_assoc]
      exact finished
  · obtain ⟨lexer, lexed, finished⟩ := next (tokens.reverse ++ before)
    refine ⟨lexer, ?_, ?_⟩
    · rw [lexes.lex_next delimited empty, lexed]
    · rw [finished, List.reverse_append, List.append_assoc]

/-! Single values -/

theorem Lexes.null : Lexes "null" [.null] := fun _ => ⟨_, rfl, rfl⟩

theorem Lexes.bool (value : Bool) : Lexes (if value then "true" else "false") [.bool value] := by
  cases value <;> exact fun _ => ⟨_, rfl, rfl⟩

/-- Whether the written form of a number is read as the number. -/
def Legible (value : Number) : Prop :=
  ∃ first rest, (number value).toList = first :: rest ∧
    (first = '-' ∨ Text.isDigit first = true) ∧ rest.all isNumberPart = true ∧
    readNumber? (first :: rest) = some (some value)

theorem begin_number (tokens : List Token) {c : Char}
    (begins : c = '-' ∨ Text.isDigit c = true) :
    Lexer.begin? tokens c = some ⟨tokens, .inNumber [c]⟩ := by
  rcases begins with rfl | digit
  · rfl
  · unfold Lexer.begin?
    split
    case h_12 => simp [digit]
    all_goals cases digit

theorem lex_number_parts {parts : List Char} (numeral : parts.all isNumberPart = true)
    (tokens : List Token) (lexeme : List Char) :
    parts.foldlM Lexer.step? ⟨tokens, .inNumber lexeme⟩ =
      some ⟨tokens, .inNumber (parts.reverse ++ lexeme)⟩ := by
  induction parts generalizing lexeme with
  | nil => rfl
  | cons c rest induction =>
      obtain ⟨part, parts⟩ := Bool.and_eq_true_iff.1 (List.all_cons.symm.trans numeral)
      rw [List.foldlM_cons, Lexer.step?]
      simp only [part, if_true]
      rw [List.reverse_cons, List.append_assoc]
      exact induction parts _

theorem Lexes.number {value : Number} (legible : Legible value) :
    Lexes (number value) [.number (some value)] := by
  intro before
  obtain ⟨first, rest, text, begins, parts, read⟩ := legible
  refine ⟨⟨before, .inNumber (rest.reverse ++ [first])⟩, ?_, ?_⟩
  · rw [lex?, text, List.foldlM_cons, Lexer.step?, begin_number before begins]
    exact lex_number_parts parts before [first]
  · rw [Lexer.finish?]
    simp [read]

/-! Texts -/

def TextState.clean (characters : List Char) : TextState := ⟨characters, none, true⟩

theorem digits_of_control {code : Nat} (control : code < 0x20) :
    ∃ digits last, (Text.fixedDigits 16 4 code).toList = digits ++ [last] ∧ digits.length = 3 ∧
      digits.all (fun c => (Text.digitValue? 16 c).isSome) = true ∧
      Text.digits? 16 (digits ++ [last]) = some code := by
  have each : ∀ code : Fin 0x20,
      let digits := (Text.digitsLow 16 4 code).reverse
      digits = digits.dropLast ++ [digits.getLastD '0'] ∧ digits.dropLast.length = 3 ∧
        digits.dropLast.all (fun c => (Text.digitValue? 16 c).isSome) = true ∧
        Text.digits? 16 (digits.dropLast ++ [digits.getLastD '0']) = some code.val := by
    decide
  obtain ⟨cut, three, digits, value⟩ := each ⟨code, control⟩
  exact ⟨_, _, String.toList_ofList.trans cut, three, digits, value⟩

theorem TextState.push_unit_clean (characters : List Char) {code : Nat} (control : code < 0x20) :
    (clean characters).pushUnit code = clean (Char.ofNat code :: characters) := by
  have notLeading : (0xD800 ≤ code && code ≤ 0xDBFF : Bool) = false := by
    rw [Bool.and_eq_false_iff, decide_eq_false_iff_not]
    omega
  have notTrailing : (0xDC00 ≤ code && code ≤ 0xDFFF : Bool) = false := by
    rw [Bool.and_eq_false_iff, decide_eq_false_iff_not]
    omega
  simp only [pushUnit, clean, notLeading, notTrailing, Bool.false_eq_true, if_false]
  rfl

theorem step_text {tokens : List Token} {state : TextState} {c : Char} (notQuote : c ≠ '"')
    (notBackslash : c ≠ '\\') (printable : ¬ c.toNat < 0x20) :
    Lexer.step? ⟨tokens, .inText state⟩ c = some ⟨tokens, .inText (state.push c)⟩ := by
  simp only [Lexer.step?, if_neg notQuote, if_neg notBackslash, if_neg printable]

theorem lex_unit_digits {tokens : List Token} {state : TextState} {digits more : List Char}
    (few : digits.length + more.length ≤ 3)
    (each : more.all (fun c => (Text.digitValue? 16 c).isSome) = true) :
    more.foldlM Lexer.step? ⟨tokens, .inUnit state digits⟩ =
      some ⟨tokens, .inUnit state (more.reverse ++ digits)⟩ := by
  induction more generalizing digits with
  | nil => rfl
  | cons c rest induction =>
      obtain ⟨first, later⟩ := Bool.and_eq_true_iff.1 (List.all_cons.symm.trans each)
      obtain ⟨value, digit⟩ := Option.isSome_iff_exists.1 first
      rw [List.length_cons] at few
      have room : digits.length < 3 := by omega
      rw [List.foldlM_cons, Lexer.step?]
      simp only [if_pos room, digit, Option.map_some]
      rw [List.reverse_cons, List.append_assoc]
      exact induction (by rw [List.length_cons]; omega) later

theorem lex_unit_escape (tokens : List Token) (characters : List Char) {code : Nat}
    (control : code < 0x20) :
    lex? ⟨tokens, .inText (.clean characters)⟩ ("\\u" ++ Text.fixedDigits 16 4 code) =
      some ⟨tokens, .inText (.clean (Char.ofNat code :: characters))⟩ := by
  obtain ⟨digits, last, written, three, each, value⟩ := digits_of_control control
  have full : ¬ (digits.reverse ++ []).length < 3 := by simp [three]
  have all : (last :: (digits.reverse ++ [])).reverse = digits ++ [last] := by simp
  rw [lex_append]
  change lex? ⟨tokens, .inUnit (.clean characters) []⟩ (Text.fixedDigits 16 4 code) = _
  rw [lex?, written, List.foldlM_append, lex_unit_digits (by simp [three]) each]
  change Lexer.step? ⟨tokens, .inUnit (.clean characters) (digits.reverse ++ [])⟩ last >>= pure = _
  rw [bind_pure, Lexer.step?]
  simp only [if_neg full, all, value, Option.map_some, TextState.push_unit_clean _ control]

theorem lex_escape (tokens : List Token) (characters : List Char) (c : Char) :
    lex? ⟨tokens, .inText (.clean characters)⟩ (escape c) =
      some ⟨tokens, .inText (.clean (c :: characters))⟩ := by
  have named : ∀ {code : Nat}, c.toNat = code → c = Char.ofNat code := by
    rintro code rfl
    exact (Char.ofNat_toNat c).symm
  unfold escape
  split
  case h_1 | h_2 | h_3 | h_4 | h_5 => rfl
  case h_6 notQuote notBackslash _ _ _ =>
    split
    · rename_i backspace
      rw [named backspace]
      rfl
    · split
      · rename_i formFeed
        rw [named formFeed]
        rfl
      · split
        · rename_i control
          rw [lex_unit_escape tokens characters control, Char.ofNat_toNat]
        · rename_i printable
          have quote : c ≠ '"' := fun same => notQuote same
          have backslash : c ≠ '\\' := fun same => notBackslash same
          rw [lex?, Char.toString, String.toList_singleton, List.foldlM_cons,
            step_text quote backslash printable]
          rfl

theorem lex_escapes {lexer : Lexer} {tokens : List Token} {characters : List Char}
    {start : String} (text : List Char)
    (lexed : lex? lexer start = some ⟨tokens, .inText (.clean characters)⟩) :
    lex? lexer (text.foldl (fun written c => written ++ escape c) start) =
      some ⟨tokens, .inText (.clean (text.reverse ++ characters))⟩ := by
  induction text generalizing characters start with
  | nil => exact lexed
  | cons c rest induction =>
      have next : lex? lexer (start ++ escape c) =
          some ⟨tokens, .inText (.clean (c :: characters))⟩ := by
        rw [lex_append, lexed, Option.bind_some, lex_escape]
      rw [List.foldl_cons, induction next, List.reverse_cons, List.append_assoc]
      rfl

theorem Closes.quote (text : String) : Closes (quote text) [.text (some text)] := by
  intro before
  have inside : lex? ⟨before, .inText (.clean [])⟩
      (text.foldl (fun written c => written ++ escape c) "") =
        some ⟨before, .inText (.clean (text.toList.reverse ++ []))⟩ := by
    rw [String.foldl_eq_foldl_toList]
    exact lex_escapes text.toList rfl
  have closed : (TextState.clean (text.toList.reverse ++ [])).close = some text := by
    simp [TextState.clean, TextState.close]
  rw [Json.quote, lex_append, lex_append]
  change ((lex? ⟨before, .inText (.clean [])⟩ _).bind _) = _
  rw [inside]
  change some (Lexer.mk (.text (TextState.close _) :: before) .between) = _
  rw [closed]
  rfl

/-! Lines -/

theorem lex_blanks (tokens : List Token) (count : Nat) :
    (List.replicate count ' ').foldlM Lexer.step? ⟨tokens, .between⟩ = some ⟨tokens, .between⟩ := by
  induction count with
  | zero => rfl
  | succ count induction => exact induction

theorem Closes.newLine (depth : Nat) : Closes (newLine depth) [] := by
  intro before
  rw [Json.newLine, lex_append]
  change lex? ⟨before, .between⟩ (String.ofList (List.replicate (2 * depth) ' ')) = _
  rw [lex?, String.toList_ofList, lex_blanks]
  rfl

theorem newLine_ne_empty (depth : Nat) (rest : String) : newLine depth ++ rest ≠ "" := by
  intro empty
  have characters := congrArg String.toList empty
  rw [String.toList_append, newLine, String.toList_append] at characters
  cases characters

theorem Delimited.newLine (depth : Nat) (rest : String) : Delimited (newLine depth ++ rest) := by
  intro c others text
  rw [String.toList_append, Json.newLine, String.toList_append] at text
  cases text
  decide

/-- What stands before an item: a comma unless it is the first, and a new line. -/
def separator (isFirst : Bool) (depth : Nat) : String :=
  (if isFirst then "" else ",") ++ newLine depth

theorem Closes.separator (isFirst : Bool) (depth : Nat) :
    Closes (separator isFirst depth) (if isFirst then [] else [.comma]) := by
  cases isFirst with
  | true => exact Closes.empty.append (Closes.newLine depth)
  | false =>
      have comma : Closes "," [.comma] := fun _ => rfl
      exact comma.append (Closes.newLine depth)

theorem Delimited.separator (isFirst : Bool) (depth : Nat) (rest : String) :
    Delimited (separator isFirst depth ++ rest) := by
  cases isFirst with
  | true =>
      rw [Json.separator, if_pos rfl, String.empty_append]
      exact Delimited.newLine depth rest
  | false =>
      intro c others text
      rw [String.toList_append, Json.separator, String.toList_append] at text
      cases text
      decide

/-! Values -/

theorem pretty_items_cons (depth : Nat) (isFirst : Bool) (item : Value) (rest : List Value) :
    prettyItems depth isFirst (item :: rest) =
      separator isFirst depth ++ (pretty depth item ++ prettyItems depth false rest) := by
  rw [prettyItems, separator, String.append_assoc]

theorem pretty_entries_cons (depth : Nat) (isFirst : Bool) (entry : String × Value)
    (rest : List (String × Value)) :
    prettyEntries depth isFirst (entry :: rest) =
      separator isFirst depth ++ (quote entry.1 ++ (": " ++
        (pretty depth entry.2 ++ prettyEntries depth false rest))) := by
  rw [prettyEntries, separator, String.append_assoc, String.append_assoc, String.append_assoc]

theorem pretty_list_cons (depth : Nat) (item : Value) (rest : List Value) :
    pretty depth (.list (item :: rest)) =
      "[" ++ (prettyItems (depth + 1) true (item :: rest) ++ (newLine depth ++ "]")) := by
  rw [pretty, String.append_assoc, String.append_assoc]
  exact fun empty => nomatch empty

theorem pretty_object_cons (depth : Nat) (entry : String × Value) (rest : List (String × Value)) :
    pretty depth (.object (entry :: rest)) =
      "\x7b" ++ (prettyEntries (depth + 1) true (entry :: rest) ++ (newLine depth ++ "\x7d")) := by
  rw [pretty, String.append_assoc, String.append_assoc]
  exact fun empty => nomatch empty

theorem Delimited.later_items (depth : Nat) (items : List Value) :
    Delimited (prettyItems depth false items) := by
  cases items with
  | nil => exact fun text => nomatch text
  | cons item rest =>
      rw [pretty_items_cons]
      exact Delimited.separator false depth _

theorem Delimited.later_entries (depth : Nat) (entries : List (String × Value)) :
    Delimited (prettyEntries depth false entries) := by
  cases entries with
  | nil => exact fun text => nomatch text
  | cons entry rest =>
      rw [pretty_entries_cons]
      exact Delimited.separator false depth _

theorem Lexes.items {depth : Nat} {items : List Value}
    (each : ∀ item ∈ items, Lexes (pretty depth item) (tokensOf item)) (isFirst : Bool) :
    Lexes (prettyItems depth isFirst items) (tokensOfItems isFirst items) := by
  induction items generalizing isFirst with
  | nil => exact Closes.empty.lexes
  | cons item rest induction =>
      have others := induction
        (fun other member => each other (List.mem_cons_of_mem item member)) false
      have item := (each item List.mem_cons_self).append (Delimited.later_items depth rest) others
      rw [pretty_items_cons, tokensOfItems]
      exact (Closes.separator isFirst depth).append_lexes item

theorem Lexes.entries {depth : Nat} {entries : List (String × Value)}
    (each : ∀ entry ∈ entries, Lexes (pretty depth entry.2) (tokensOf entry.2)) (isFirst : Bool) :
    Lexes (prettyEntries depth isFirst entries) (tokensOfEntries isFirst entries) := by
  induction entries generalizing isFirst with
  | nil => exact Closes.empty.lexes
  | cons entry rest induction =>
      have others := induction
        (fun other member => each other (List.mem_cons_of_mem entry member)) false
      have value := (each entry List.mem_cons_self).append
        (Delimited.later_entries depth rest) others
      have colon : Closes ": " [.colon] := fun _ => rfl
      rw [pretty_entries_cons, tokensOfEntries]
      exact (Closes.separator isFirst depth).append_lexes
        ((Closes.quote entry.1).append_lexes (colon.append_lexes value))

/-- Brackets around what is cut into tokens, the closing one on a line of its own. -/
theorem Lexes.enclosed {opening inside closing : String} {first last : Token}
    {tokens : List Token} (opens : Closes opening [first]) (lexes : Lexes inside tokens)
    (closes : Closes closing [last]) (depth : Nat) :
    Lexes (opening ++ (inside ++ (newLine depth ++ closing))) (first :: (tokens ++ [last])) :=
  (opens.append (lexes.append_closes (Delimited.newLine depth closing)
    (newLine_ne_empty depth closing) ((Closes.newLine depth).append closes))).lexes

theorem Lexes.value {value : Value} (legible : value.EveryNumber Legible) (depth : Nat) :
    Lexes (pretty depth value) (tokensOf value) := by
  induction value using Value.induct generalizing depth with
  | null => exact Lexes.null
  | bool truth => exact Lexes.bool truth
  | number amount => exact Lexes.number legible
  | text text => exact (Closes.quote text).lexes
  | list items induction =>
      rw [Value.every_number_list] at legible
      cases items with
      | nil =>
          have closes : Closes "[]" [.openList, .closeList] := fun _ => rfl
          rw [pretty]
          exact closes.lexes
      | cons item rest =>
          have inside := Lexes.items
            (fun item member => induction item member (legible item member) (depth + 1)) true
          rw [pretty_list_cons, tokensOf]
          exact inside.enclosed (fun _ => rfl) (fun _ => rfl) depth
  | object entries induction =>
      rw [Value.every_number_object] at legible
      cases entries with
      | nil =>
          have closes : Closes "\x7b\x7d" [.openObject, .closeObject] := fun _ => rfl
          rw [pretty]
          exact closes.lexes
      | cons entry rest =>
          have inside := Lexes.entries
            (fun entry member => induction entry member (legible entry member) (depth + 1)) true
          rw [pretty_object_cons, tokensOf]
          exact inside.enclosed (fun _ => rfl) (fun _ => rfl) depth

theorem tokens_render {value : Value} (legible : value.EveryNumber Legible) :
    tokens? (render value).toList = some (tokensOf value) := by
  obtain ⟨lexer, lexed, finished⟩ := Lexes.value legible 0 []
  have lexed : (render value).toList.foldlM Lexer.step? Lexer.start = some lexer := lexed
  rw [tokens?, lexed]
  change lexer.finish?.bind (fun tokens => some tokens.reverse) = _
  rw [finished, List.append_nil, Option.bind_some, List.reverse_reverse]

end NetworkTwin.Json
