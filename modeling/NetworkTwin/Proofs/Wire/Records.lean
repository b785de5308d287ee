import NetworkTwin.Proofs.Wire.Faithful
import Mathlib.Data.List.Basic
import Mathlib.Tactic.Simproc.ExistsAndEq

/-!
Records as documents. A record is laid out in slots, one for each field: the name of the field, how
the field is written, if it is, and when what is read for it is what the record holds. A record
whose slots are faithful is faithful. There are four kinds of slots: required ones, ones with a
default, optional ones, and lists that are left out when they are empty.
-/

namespace NetworkTwin

variable {α ρ : Type}

/-- What stands in the fields comes from a document. -/
def Fields.Drawn (fields : Fields) : Prop :=
  ∀ {name tree}, fields.written.lookup name = some tree →
    ∃ value : Value, value.InRange ∧ value.toTree = tree

theorem drawn_of_as_record {names : List String} {value : Value} {fields : Fields}
    (inRange : value.InRange) (read : value.toTree.asRecord names = .ok fields) :
    fields.Drawn := by
  intro name tree found
  have member := Entries.mem_of_lookup found
  cases value with
  | object entries =>
      rw [Value.to_tree_object, Tree.asRecord] at read
      split at read
      · cases read
      · cases read
        obtain ⟨given, _⟩ := List.mem_filter.1 member
        obtain ⟨entry, held, same⟩ := List.mem_map.1 given
        cases same
        exact ⟨entry.2, Value.in_range_object.1 inRange entry held, rfl⟩
  | list items =>
      rw [Value.to_tree_list, Tree.asRecord] at read
      split at read
      · cases read
        obtain ⟨item, held, same⟩ := List.mem_map.1 (List.of_mem_zip member).2
        exact ⟨item, Value.in_range_list.1 inRange item held, same⟩
      · cases read
  | null | bool _ | text _ | number _ => exact nomatch read

theorem repeated_eq_none {entries : List (String × Tree)}
    (distinct : (entries.map (·.1)).Nodup) : Tree.repeated? entries = none := by
  induction entries with
  | nil => rfl
  | cons first rest induction =>
      obtain ⟨notLater, distinctRest⟩ := List.nodup_cons.1 distinct
      have single : rest.any (·.1 == first.1) = false := by
        rw [List.any_eq_false]
        intro other member same
        exact notLater (List.mem_map.2 ⟨other, member, eq_of_beq same⟩)
      rw [Tree.repeated?, single]
      exact induction distinctRest

def writtenFields (fields : List (String × Option Value)) : List (String × Value) :=
  fields.filterMap fun field => field.2.map fun value => (field.1, value)

theorem written_names_sublist (fields : List (String × Option Value)) :
    ((writtenFields fields).map (·.1)).Sublist (fields.map (·.1)) := by
  induction fields with
  | nil => exact List.Sublist.slnil
  | cons field rest induction =>
      rcases field with ⟨name, _ | value⟩
      · exact induction.cons name
      · exact induction.cons_cons name

theorem lookup_written_fields {fields : List (String × Option Value)}
    (distinct : (fields.map (·.1)).Nodup) {field : String × Option Value}
    (member : field ∈ fields) : (writtenFields fields).lookup field.1 = field.2 := by
  induction fields with
  | nil => cases member
  | cons first rest induction =>
      obtain ⟨notLater, distinctRest⟩ := List.nodup_cons.1 distinct
      rcases List.mem_cons.1 member with rfl | later
      · rcases field with ⟨name, _ | value⟩
        · have notWritten : name ∉ (writtenFields rest).map (·.1) := fun written =>
            notLater ((written_names_sublist rest).subset written)
          rw [Entries.mem_keys_iff_lookup, Option.not_isSome_iff_eq_none] at notWritten
          exact notWritten
        · exact List.lookup_cons_self
      · have differs : field.1 ≠ first.1 := fun same =>
          notLater (List.mem_map.2 ⟨field, later, same⟩)
        rcases first with ⟨name, _ | value⟩
        · exact induction distinctRest later
        · refine (Entries.lookup_cons_eq _ _ _).trans ?_
          rw [if_neg differs]
          exact induction distinctRest later

theorem lookup_map_values {β γ : Type} (change : β → γ) (entries : List (String × β))
    (name : String) :
    (entries.map fun entry => (entry.1, change entry.2)).lookup name =
      (entries.lookup name).map change := by
  induction entries with
  | nil => rfl
  | cons first rest induction =>
      rw [List.map_cons, Entries.lookup_cons_eq, Entries.lookup_cons_eq, induction]
      split <;> rfl

theorem as_record_record {fields : List (String × Option Value)}
    (distinct : (fields.map (·.1)).Nodup) :
    ∃ read : Fields, (Value.record fields).toTree.asRecord (fields.map (·.1)) = .ok read ∧
      ∀ field ∈ fields, read.written.lookup field.1 = field.2.map Value.toTree := by
  have names : ((writtenFields fields).map fun entry => (entry.1, entry.2.toTree)).map (·.1) =
      (writtenFields fields).map (·.1) := by
    rw [List.map_map]
    rfl
  have known : ∀ entry ∈ (writtenFields fields).map fun entry => (entry.1, entry.2.toTree),
      (fields.map (·.1)).contains entry.1 = true := by
    intro entry member
    rw [List.contains_iff_mem]
    apply (written_names_sublist fields).subset
    rw [← names]
    exact List.mem_map_of_mem member
  have single : Tree.repeated?
      ((writtenFields fields).map fun entry => (entry.1, entry.2.toTree)) = none := by
    apply repeated_eq_none
    rw [names]
    exact distinct.sublist (written_names_sublist fields)
  refine ⟨⟨(writtenFields fields).map fun entry => (entry.1, entry.2.toTree)⟩, ?_, ?_⟩
  · rw [Value.record, ← writtenFields, Value.to_tree_object, Tree.asRecord,
      List.filter_eq_self.2 known, single]
  · intro field member
    rw [lookup_map_values, lookup_written_fields distinct member]

/-- One field of a record: its name, how it is written, and when it reads as the record has it. -/
structure Slot (ρ : Type) where
  name : String
  written : ρ → Option Value
  Reads : Fields → ρ → Prop

namespace Slot

def required (name : String) (codec : Codec α) (get : ρ → α) : Slot ρ where
  name := name
  written record := some (codec.encode (get record))
  Reads fields record := fields.required name codec.decode = .ok (get record)

def withDefault (name : String) (codec : Codec α) (fallback : α) (get : ρ → α) : Slot ρ where
  name := name
  written record := some (codec.encode (get record))
  Reads fields record := fields.withDefault name fallback codec.decode = .ok (get record)

def optional (name : String) (codec : Codec α) (get : ρ → Option α) : Slot ρ where
  name := name
  written record := (get record).map codec.encode
  Reads fields record := fields.optional name codec.decode = .ok (get record)

/-- A list that is written only if there is something in it. -/
def unlessEmpty (name : String) (codec : Codec α) (get : ρ → List α) : Slot ρ where
  name := name
  written record :=
    if (get record).isEmpty then none else some (codec.list.encode (get record))
  Reads fields record := fields.withDefault name [] codec.list.decode = .ok (get record)

/-- What the slot writes is a document, and wherever it stands under the name of the slot, it reads
as the record has it. -/
structure Keeps (slot : Slot ρ) (record : ρ) : Prop where
  inRange : ∀ value ∈ slot.written record, value.InRange
  readsBack : ∀ {fields : Fields},
    fields.written.lookup slot.name = (slot.written record).map Value.toTree →
      slot.Reads fields record

/-- If the slot reads from a document what the record has, then it keeps it. -/
structure FaithfulAt (slot : Slot ρ) (record : ρ) : Prop where
  keeps : ∀ {fields : Fields}, fields.Drawn → slot.Reads fields record → slot.Keeps record

variable {name : String} {codec : Codec α} {record : ρ}

theorem Keeps.required {get : ρ → α} (kept : codec.Keeps (get record)) :
    (required name codec get).Keeps record := by
  constructor
  · rintro value ⟨⟩
    exact kept.inRange
  · intro fields found
    have found : fields.written.lookup name = some (codec.encode (get record)).toTree := found
    change fields.required name codec.decode = .ok (get record)
    rw [Fields.required, found]
    exact kept.readsBack

theorem Keeps.withDefault {fallback : α} {get : ρ → α} (kept : codec.Keeps (get record)) :
    (withDefault name codec fallback get).Keeps record := by
  constructor
  · rintro value ⟨⟩
    exact kept.inRange
  · intro fields found
    have found : fields.written.lookup name = some (codec.encode (get record)).toTree := found
    change fields.withDefault name fallback codec.decode = .ok (get record)
    rw [Fields.withDefault, found]
    exact kept.readsBack

theorem option_of_present {decode : Tree → Decoded α} {value : Value} (present : value ≠ .null) :
    value.toTree.optionOf decode = (decode value.toTree).map some := by
  cases value with
  | null => exact absurd rfl present
  | bool _ | number _ | text _ | list _ | object _ => rfl

theorem Keeps.optional {get : ρ → Option α}
    (kept : ∀ item ∈ get record, codec.Keeps item ∧ codec.encode item ≠ .null) :
    (optional name codec get).Keeps record := by
  constructor
  · intro value written
    obtain ⟨item, held, rfl⟩ := Option.map_eq_some_iff.1 written
    exact (kept item held).1.inRange
  · intro fields found
    have found : fields.written.lookup name =
        ((get record).map codec.encode).map Value.toTree := found
    change fields.optional name codec.decode = .ok (get record)
    rw [Fields.optional, found]
    cases held : get record with
    | none => rfl
    | some item =>
        obtain ⟨keptItem, present⟩ := kept item held
        exact (option_of_present present).trans (by rw [keptItem.readsBack]; rfl)

theorem Keeps.unlessEmpty {get : ρ → List α} (kept : codec.list.Keeps (get record)) :
    (unlessEmpty name codec get).Keeps record := by
  constructor
  · intro value written
    have written : (if (get record).isEmpty then none
        else some (codec.list.encode (get record))) = some value := written
    split at written
    · cases written
    · exact Option.some.inj written ▸ kept.inRange
  · intro fields found
    have found : fields.written.lookup name = (if (get record).isEmpty then none
        else some (codec.list.encode (get record))).map Value.toTree := found
    change fields.withDefault name [] codec.list.decode = .ok (get record)
    rw [Fields.withDefault, found]
    cases empty : (get record).isEmpty with
    | true => exact congrArg Except.ok (List.isEmpty_iff.1 empty).symm
    | false => exact kept.readsBack

theorem FaithfulAt.required {get : ρ → α} (faithful : codec.Faithful) :
    (required name codec get).FaithfulAt record := by
  constructor
  intro fields drawn read
  have read : fields.required name codec.decode = .ok (get record) := read
  apply Keeps.required
  rw [Fields.required] at read
  split at read
  · rename_i tree found
    obtain ⟨value, inRange, rfl⟩ := drawn found
    exact faithful.keeps inRange read
  · cases read

theorem keeps_of_withDefault {fields : Fields} {fallback item : α} (drawn : fields.Drawn)
    (faithful : codec.Faithful) (kept : codec.Keeps fallback)
    (read : fields.withDefault name fallback codec.decode = .ok item) : codec.Keeps item := by
  rw [Fields.withDefault] at read
  split at read
  · rename_i tree found
    obtain ⟨value, inRange, rfl⟩ := drawn found
    exact faithful.keeps inRange read
  · exact Except.ok.inj read ▸ kept

theorem FaithfulAt.withDefault {fallback : α} {get : ρ → α} (faithful : codec.Faithful)
    (kept : codec.Keeps fallback) : (withDefault name codec fallback get).FaithfulAt record :=
  ⟨fun drawn read => Keeps.withDefault (keeps_of_withDefault drawn faithful kept read)⟩

theorem FaithfulAt.unlessEmpty {get : ρ → List α} (faithful : codec.Faithful) :
    (unlessEmpty name codec get).FaithfulAt record :=
  ⟨fun drawn read =>
    Keeps.unlessEmpty (keeps_of_withDefault drawn faithful.list Codec.Keeps.nil read)⟩

theorem FaithfulAt.optional {get : ρ → Option α} (faithful : codec.Faithful) :
    (optional name codec get).FaithfulAt record := by
  constructor
  intro fields drawn read
  apply Keeps.optional
  intro item held
  have read : fields.optional name codec.decode = .ok (some item) := read.trans (held ▸ rfl)
  rw [Fields.optional] at read
  split at read
  · rename_i tree found
    obtain ⟨value, inRange, rfl⟩ := drawn found
    by_cases absent : value = .null
    · subst absent
      cases read
    · -- What is there is read as something, and a faithful codec does not write it as nothing.
      rw [option_of_present absent] at read
      cases decoded : codec.decode value.toTree with
      | error mismatch =>
          rw [decoded] at read
          cases read
      | ok other =>
          rw [decoded] at read
          cases read
          refine ⟨faithful.keeps inRange decoded, fun null => absent ?_⟩
          exact faithful.null inRange decoded null
  · cases read

end Slot

/-- A record is written and read by its slots. -/
structure LaidOut (codec : Codec ρ) (layout : List (Slot ρ)) : Prop where
  distinct : (layout.map Slot.name).Nodup
  written : ∀ record,
    codec.encode record = Value.record (layout.map fun slot => (slot.name, slot.written record))
  read : ∀ {tree record}, codec.decode tree = .ok record ↔
    ∃ fields, tree.asRecord (layout.map Slot.name) = .ok fields ∧
      layout.Forall fun slot => slot.Reads fields record

namespace LaidOut

variable {codec : Codec ρ} {layout : List (Slot ρ)}

theorem keeps (laidOut : LaidOut codec layout) {record : ρ}
    (each : layout.Forall fun slot => slot.Keeps record) : codec.Keeps record := by
  have each := List.forall_iff_forall_mem.1 each
  have names : (layout.map fun slot => (slot.name, slot.written record)).map (·.1) =
      layout.map Slot.name := by
    rw [List.map_map]
    rfl
  constructor
  · rw [laidOut.written, Value.record, Value.in_range_object]
    intro entry member
    obtain ⟨field, given, present⟩ := List.mem_filterMap.1 member
    obtain ⟨slot, placed, rfl⟩ := List.mem_map.1 given
    obtain ⟨value, written, rfl⟩ := Option.map_eq_some_iff.1 present
    exact (each slot placed).inRange value written
  · obtain ⟨fields, read, found⟩ := as_record_record (names ▸ laidOut.distinct)
    rw [laidOut.read, laidOut.written]
    refine ⟨fields, names ▸ read, List.forall_iff_forall_mem.2 fun slot placed => ?_⟩
    exact (each slot placed).readsBack (found _ (List.mem_map_of_mem placed))

theorem keeps_of_read (laidOut : LaidOut codec layout) {value : Value} {record : ρ}
    (inRange : value.InRange) (read : codec.decode value.toTree = .ok record)
    (each : layout.Forall fun slot => slot.FaithfulAt record) : codec.Keeps record := by
  obtain ⟨fields, opened, reads⟩ := laidOut.read.1 read
  apply laidOut.keeps
  rw [List.forall_iff_forall_mem] at each reads ⊢
  intro slot placed
  exact (each slot placed).keeps (drawn_of_as_record inRange opened) (reads slot placed)

theorem faithful (laidOut : LaidOut codec layout)
    (each : ∀ record, layout.Forall fun slot => slot.FaithfulAt record) : codec.Faithful where
  keeps inRange read := laidOut.keeps_of_read inRange read (each _)
  null _ _ written := by
    rw [laidOut.written] at written
    cases written

end LaidOut

end NetworkTwin
