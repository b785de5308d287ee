import NetworkTwin.Proofs.Doubles
import NetworkTwin.Proofs.Wire.Values

/-!
Codecs: a reading of trees and a writing into values. A codec is faithful if whatever it reads from
a document it writes as a document that it reads the same from again. Proved here of single values,
of lists and of dictionaries; a list and a dictionary are as faithful as what they hold.
-/

namespace NetworkTwin

variable {α β : Type}

@[simp] theorem bind_eq_ok_iff {first : Decoded α} {next : α → Decoded β} {result : β} :
    (first >>= next) = .ok result ↔ ∃ item, first = .ok item ∧ next item = .ok result := by
  cases first with
  | error mismatch =>
      constructor
      · intro read
        cases read
      · rintro ⟨item, read, _⟩
        cases read
  | ok item =>
      constructor
      · intro read
        exact ⟨item, rfl, read⟩
      · rintro ⟨_, ⟨⟩, read⟩
        exact read

@[simp] theorem pure_eq_ok_iff {item result : α} :
    (pure item : Decoded α) = .ok result ↔ item = result := by
  constructor
  · intro same
    cases same
    rfl
  · rintro rfl
    rfl

theorem exists_of_map_m {decode : α → Decoded β} {sources : List α} {items : List β}
    (read : sources.mapM decode = .ok items) {item : β} (member : item ∈ items) :
    ∃ source ∈ sources, decode source = .ok item := by
  induction sources generalizing items with
  | nil =>
      rw [List.mapM_nil, pure_eq_ok_iff] at read
      exact absurd (read ▸ member) List.not_mem_nil
  | cons first rest induction =>
      rw [List.mapM_cons] at read
      simp only [bind_eq_ok_iff, pure_eq_ok_iff] at read
      obtain ⟨head, readHead, tail, readTail, rfl⟩ := read
      rcases List.mem_cons.1 member with rfl | later
      · exact ⟨first, List.mem_cons_self, readHead⟩
      · obtain ⟨source, given, readSource⟩ := induction readTail later
        exact ⟨source, List.mem_cons_of_mem first given, readSource⟩

theorem map_m_map_of_forall {decode : α → Decoded β} {source : β → α} {items : List β}
    (read : ∀ item ∈ items, decode (source item) = .ok item) :
    (items.map source).mapM decode = .ok items := by
  induction items with
  | nil => rfl
  | cons item rest induction =>
      rw [List.map_cons, List.mapM_cons, read item List.mem_cons_self,
        induction fun other member => read other (List.mem_cons_of_mem item member)]
      rfl

/-- A way to read trees and a way to write what was read. -/
structure Codec (α : Type) where
  decode : Tree → Decoded α
  encode : α → Value

namespace Codec

def text : Codec String := ⟨Tree.asText, .text⟩

def bool : Codec Bool := ⟨Tree.asBool, .bool⟩

def real : Codec Float := ⟨Tree.asReal, Value.real⟩

def natural (bound : Nat) : Codec Nat := ⟨Tree.asNatural bound, Value.natural⟩

/-- The codec that holds what another reads in a type of its own. -/
def through (codec : Codec α) (hold : α → β) (release : β → α) : Codec β :=
  ⟨fun tree => (codec.decode tree).map hold, fun held => codec.encode (release held)⟩

def uint64 : Codec UInt64 := (natural UInt64.size).through UInt64.ofNat UInt64.toNat

def uint16 : Codec UInt16 := (natural UInt16.size).through UInt16.ofNat UInt16.toNat

def choice (ofName? : String → Option α) (name : α → String) : Codec α :=
  ⟨Tree.choiceOf ofName?, fun choice => .text (name choice)⟩

def value : Codec Value := ⟨Tree.asValue, id⟩

def list (codec : Codec α) : Codec (List α) :=
  ⟨Tree.listOf codec.decode, fun items => .list (items.map codec.encode)⟩

def dictionary (codec : Codec α) : Codec (Dictionary α) :=
  ⟨Tree.dictionaryOf codec.decode,
    fun items => .object (items.entries.map fun entry => (entry.1, codec.encode entry.2))⟩

/-- Written down, the item is a document, and read again it is the same item. -/
structure Keeps (codec : Codec α) (item : α) : Prop where
  inRange : (codec.encode item).InRange
  readsBack : codec.decode (codec.encode item).toTree = .ok item

/-- Whatever is read from a document is kept, and only nothing is written as nothing. -/
structure Faithful (codec : Codec α) : Prop where
  keeps : ∀ {value : Value} {item : α}, value.InRange → codec.decode value.toTree = .ok item →
    codec.Keeps item
  null : ∀ {value : Value} {item : α}, value.InRange → codec.decode value.toTree = .ok item →
    codec.encode item = .null → value = .null

/-! Single values -/

theorem Keeps.text (item : String) : text.Keeps item := ⟨trivial, rfl⟩

theorem Keeps.bool (item : Bool) : bool.Keeps item := ⟨trivial, rfl⟩

theorem Keeps.real {item : Float} (finite : item.isFinite = true) : real.Keeps item := by
  have written : Value.real item = .number (.real item) := if_pos finite
  refine ⟨?_, ?_⟩
  · change (Value.real item).InRange
    rw [written]
    exact finite
  · change (Value.real item).toTree.asReal = .ok item
    rw [written]
    rfl

theorem Keeps.natural {bound item : Nat} (below : item < bound)
    (finite : (Number.whole (Int.ofNat item)).toFloat.isFinite = true) :
    (natural bound).Keeps item :=
  ⟨finite, if_pos below⟩

theorem Keeps.uint64 (item : UInt64) : uint64.Keeps item := by
  have finite : (Number.whole (Int.ofNat item.toNat)).toFloat.isFinite = true :=
    is_finite_of_nat item.toNat_lt
  refine ⟨finite, ?_⟩
  have read : (Value.natural item.toNat).toTree.asNatural UInt64.size = .ok item.toNat :=
    (Keeps.natural item.toNat_lt finite).readsBack
  change ((Value.natural item.toNat).toTree.asNatural UInt64.size).map UInt64.ofNat = .ok item
  rw [read]
  exact congrArg Except.ok UInt64.ofNat_toNat

theorem Keeps.choice {ofName? : String → Option α} {name : α → String} {item : α}
    (named : ofName? (name item) = some item) : (choice ofName? name).Keeps item := by
  refine ⟨trivial, bind_eq_ok_iff.2 ⟨name item, rfl, ?_⟩⟩
  rw [named]
  rfl

theorem Keeps.value {item : Value} (inRange : item.InRange) (normal : item.normalize = item) :
    value.Keeps item :=
  ⟨inRange, (Value.as_value_to_tree item).trans (congrArg Except.ok normal)⟩

theorem Faithful.text : text.Faithful where
  keeps _ _ := Keeps.text _
  null _ _ written := nomatch written

theorem Faithful.bool : bool.Faithful where
  keeps _ _ := Keeps.bool _
  null _ _ written := nomatch written

theorem as_real_to_tree {value : Value} {item : Float} (read : value.toTree.asReal = .ok item) :
    ∃ number, value = .number number ∧ number.toFloat = item := by
  cases value with
  | number number => exact ⟨number, rfl, Except.ok.inj read⟩
  | null | bool _ | text _ | list _ | object _ => exact nomatch read

theorem Faithful.real : real.Faithful where
  keeps inRange read := by
    obtain ⟨number, rfl, rfl⟩ := as_real_to_tree read
    exact Keeps.real inRange
  null inRange read written := by
    obtain ⟨number, rfl, rfl⟩ := as_real_to_tree read
    have finite : number.toFloat.isFinite = true := inRange
    have written : Value.real number.toFloat = .null := written
    rw [Value.real, if_pos finite] at written
    cases written

theorem as_natural_to_tree {bound item : Nat} {value : Value}
    (read : value.toTree.asNatural bound = .ok item) :
    value = .natural item ∧ item < bound := by
  cases value with
  | number number =>
      rcases number with (number | number) | number
      · by_cases below : number < bound
        · rw [Value.toTree, Tree.asNatural, if_pos below] at read
          cases read
          exact ⟨rfl, below⟩
        · rw [Value.toTree, Tree.asNatural, if_neg below] at read
          cases read
      · cases read
      · cases read
  | null | bool _ | text _ | list _ | object _ => cases read

theorem Faithful.natural (bound : Nat) : (natural bound).Faithful where
  keeps inRange read := by
    obtain ⟨rfl, below⟩ := as_natural_to_tree read
    exact Keeps.natural below inRange
  null _ _ written := nomatch written

theorem Faithful.through {codec : Codec α} {hold : α → β} {release : β → α}
    (faithful : codec.Faithful)
    (released : ∀ {value item}, codec.decode (Value.toTree value) = .ok item →
      release (hold item) = item) : (codec.through hold release).Faithful := by
  have source : ∀ {value : Value} {held : β}, (codec.decode value.toTree).map hold = .ok held →
      ∃ item, codec.decode value.toTree = .ok item ∧ hold item = held := by
    intro value held read
    cases decoded : codec.decode value.toTree with
    | error mismatch =>
        rw [decoded] at read
        cases read
    | ok item =>
        rw [decoded] at read
        exact ⟨item, rfl, Except.ok.inj read⟩
  constructor
  · intro value held inRange read
    obtain ⟨item, decoded, rfl⟩ := source read
    have kept := faithful.keeps inRange decoded
    constructor
    · change (codec.encode (release (hold item))).InRange
      rw [released decoded]
      exact kept.inRange
    · change (codec.decode (codec.encode (release (hold item))).toTree).map hold = .ok (hold item)
      rw [released decoded, kept.readsBack]
      rfl
  · intro value held inRange read written
    obtain ⟨item, decoded, rfl⟩ := source read
    have written : codec.encode (release (hold item)) = .null := written
    rw [released decoded] at written
    exact faithful.null inRange decoded written

theorem Faithful.uint64 : uint64.Faithful :=
  Faithful.through (Faithful.natural UInt64.size) fun read =>
    UInt64.toNat_ofNat_of_lt (as_natural_to_tree read).2

theorem Faithful.uint16 : uint16.Faithful :=
  Faithful.through (Faithful.natural UInt16.size) fun read =>
    UInt16.toNat_ofNat_of_lt (as_natural_to_tree read).2

theorem Faithful.choice {ofName? : String → Option α} {name : α → String}
    (named : ∀ item, ofName? (name item) = some item) : (choice ofName? name).Faithful where
  keeps _ _ := Keeps.choice (named _)
  null _ _ written := nomatch written

theorem Faithful.value : value.Faithful where
  keeps {value item} inRange read := by
    have read : value.toTree.asValue = .ok item := read
    rw [Value.as_value_to_tree] at read
    cases read
    exact Keeps.value (Value.in_range_normalize inRange) (Value.normalize_normalize value)
  null {value item} _ read written := by
    have read : value.toTree.asValue = .ok item := read
    rw [Value.as_value_to_tree] at read
    cases read
    exact Value.normalize_eq_null written

/-! Lists and dictionaries -/

theorem as_list_to_tree {value : Value} {trees : List Tree}
    (read : value.toTree.asList = .ok trees) :
    ∃ values, value = .list values ∧ values.map Value.toTree = trees := by
  cases value with
  | list values =>
      exact ⟨values, rfl, (Value.to_trees_eq_map values).symm.trans (Except.ok.inj read)⟩
  | null | bool _ | text _ | number _ | object _ => exact nomatch read

theorem as_object_to_tree {value : Value} {trees : List (String × Tree)}
    (read : value.toTree.asObject = .ok trees) :
    ∃ values, value = .object values ∧
      (values.map fun entry => (entry.1, entry.2.toTree)) = trees := by
  cases value with
  | object values =>
      exact ⟨values, rfl, (Value.to_tree_entries_eq_map values).symm.trans (Except.ok.inj read)⟩
  | null | bool _ | text _ | number _ | list _ => exact nomatch read

theorem Keeps.list {codec : Codec α} {items : List α} (kept : ∀ item ∈ items, codec.Keeps item) :
    codec.list.Keeps items := by
  constructor
  · apply Value.in_range_list.2
    intro value member
    obtain ⟨item, given, rfl⟩ := List.mem_map.1 member
    exact (kept item given).inRange
  · change Tree.listOf codec.decode (Value.list (items.map codec.encode)).toTree = .ok items
    rw [Value.to_tree_list, List.map_map]
    exact map_m_map_of_forall fun item member => (kept item member).readsBack

theorem Keeps.nil {codec : Codec α} : codec.list.Keeps [] :=
  Keeps.list fun _ member => nomatch member

theorem Faithful.list {codec : Codec α} (faithful : codec.Faithful) : codec.list.Faithful where
  keeps inRange read := by
    obtain ⟨trees, listed, mapped⟩ := bind_eq_ok_iff.1 read
    obtain ⟨values, rfl, rfl⟩ := as_list_to_tree listed
    apply Keeps.list
    intro item member
    obtain ⟨tree, given, decoded⟩ := exists_of_map_m mapped member
    obtain ⟨value, held, rfl⟩ := List.mem_map.1 given
    exact faithful.keeps (Value.in_range_list.1 inRange value held) decoded
  null _ _ written := nomatch written

theorem Keeps.dictionary {codec : Codec α} {items : Dictionary α}
    (kept : ∀ entry ∈ items.entries, codec.Keeps entry.2) : codec.dictionary.Keeps items := by
  constructor
  · apply Value.in_range_object.2
    intro entry member
    obtain ⟨source, given, rfl⟩ := List.mem_map.1 member
    exact (kept source given).inRange
  · change Tree.dictionaryOf codec.decode (Value.object
      (items.entries.map fun entry => (entry.1, codec.encode entry.2))).toTree = .ok items
    rw [Value.to_tree_object, List.map_map]
    refine bind_eq_ok_iff.2 ⟨_, rfl, bind_eq_ok_iff.2 ⟨items.entries, ?_, ?_⟩⟩
    · apply map_m_map_of_forall
      intro entry member
      exact bind_eq_ok_iff.2 ⟨entry.2, (kept entry member).readsBack, rfl⟩
    · rw [Dictionary.of_list_entries]
      rfl

theorem Faithful.dictionary {codec : Codec α} (faithful : codec.Faithful) :
    codec.dictionary.Faithful where
  keeps inRange read := by
    obtain ⟨trees, opened, read⟩ := bind_eq_ok_iff.1 read
    obtain ⟨values, rfl, rfl⟩ := as_object_to_tree opened
    obtain ⟨entries, mapped, read⟩ := bind_eq_ok_iff.1 read
    cases read
    apply Keeps.dictionary
    intro entry member
    obtain ⟨tree, given, read⟩ := exists_of_map_m mapped (Dictionary.mem_of_mem_of_list member)
    obtain ⟨value, held, rfl⟩ := List.mem_map.1 given
    obtain ⟨item, decoded, same⟩ := bind_eq_ok_iff.1 read
    cases same
    exact faithful.keeps (Value.in_range_object.1 inRange value held) decoded
  null _ _ written := nomatch written

end Codec

end NetworkTwin
