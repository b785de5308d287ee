import NetworkTwin.Document.Decode
import Mathlib.Data.List.Basic

/-!
Free-form data as documents. A value reads back as its normal form, in which the entries of every
object are in order, and a normal form is its own. Dictionaries are the objects in order.
-/

namespace NetworkTwin

namespace Entries

variable {β : Type}

theorem put_last {key : String} {value : β} {entries : List (String × β)}
    (last : ∀ entry ∈ entries, entry.1 < key) :
    put key value entries = entries ++ [(key, value)] := by
  induction entries with
  | nil => rfl
  | cons first rest induction =>
      have before : first.1 < key := last first List.mem_cons_self
      have notBefore : ¬ key < first.1 := String.lt_asymm before
      have different : key ≠ first.1 := fun same => String.lt_irrefl key (same ▸ before)
      rw [put, if_neg notBefore, if_neg different,
        induction fun entry member => last entry (List.mem_cons_of_mem first member)]
      rfl

theorem Ordered.before {written rest : List (String × β)} {entry : String × β}
    (ordered : Ordered (written ++ entry :: rest)) : ∀ other ∈ written, other.1 < entry.1 := by
  intro other member
  exact (List.pairwise_append.1 ordered).2.2 other member entry List.mem_cons_self

end Entries

namespace Dictionary

variable {β : Type}

private theorem entries_foldl_insert {entries : List (String × β)} {dictionary : Dictionary β}
    (ordered : Entries.Ordered (dictionary.entries ++ entries)) :
    (entries.foldl (fun dictionary entry => dictionary.insert entry.1 entry.2)
      dictionary).entries = dictionary.entries ++ entries := by
  induction entries generalizing dictionary with
  | nil => rw [List.foldl_nil, List.append_nil]
  | cons entry rest induction =>
      have appended : (dictionary.insert entry.1 entry.2).entries = dictionary.entries ++ [entry] :=
        Entries.put_last ordered.before
      have regrouped : (dictionary.insert entry.1 entry.2).entries ++ rest =
          dictionary.entries ++ entry :: rest := by
        rw [appended, List.append_assoc, List.singleton_append]
      rw [List.foldl_cons, induction (regrouped ▸ ordered), regrouped]

@[simp] theorem of_list_entries (dictionary : Dictionary β) :
    ofList dictionary.entries = dictionary := by
  apply Dictionary.ext
  exact entries_foldl_insert (by simpa [empty] using dictionary.ordered)

private theorem mem_foldl_insert {entries : List (String × β)} {dictionary : Dictionary β}
    {entry : String × β}
    (member : entry ∈ (entries.foldl (fun dictionary entry => dictionary.insert entry.1 entry.2)
      dictionary).entries) : entry ∈ dictionary.entries ∨ entry ∈ entries := by
  induction entries generalizing dictionary with
  | nil => exact Or.inl member
  | cons first rest induction =>
      rcases induction member with written | later
      · rcases Entries.mem_put written with new | old
        · exact Or.inr (new ▸ List.mem_cons_self)
        · exact Or.inl old
      · exact Or.inr (List.mem_cons_of_mem first later)

theorem mem_of_mem_of_list {entries : List (String × β)} {entry : String × β}
    (member : entry ∈ (ofList entries).entries) : entry ∈ entries := by
  rcases mem_foldl_insert member with none | given
  · cases none
  · exact given

end Dictionary

namespace Value

/-- What holds of all leaves, of a list when it holds of its items, and of an object when it holds
of its values, holds of all values. -/
@[elab_as_elim]
theorem induct {holds : Value → Prop} (null : holds .null) (bool : ∀ value, holds (.bool value))
    (number : ∀ value, holds (.number value)) (text : ∀ value, holds (.text value))
    (list : ∀ items, (∀ item ∈ items, holds item) → holds (.list items))
    (object : ∀ entries, (∀ entry ∈ entries, holds entry.2) → holds (.object entries)) :
    ∀ value, holds value
  | .null => null
  | .bool value => bool value
  | .number value => number value
  | .text value => text value
  | .list items => list items fun item _ => induct null bool number text list object item
  | .object entries =>
      object entries fun entry _ => induct null bool number text list object entry.2
termination_by value => sizeOf value
decreasing_by
  all_goals simp_wf
  · have := List.sizeOf_lt_of_mem ‹item ∈ items›
    omega
  · have := List.sizeOf_lt_of_mem ‹entry ∈ entries›
    have : sizeOf entry = 1 + sizeOf entry.1 + sizeOf entry.2 := by cases entry; rfl
    omega

mutual

/-- Whether every number of a value is of a kind. -/
def EveryNumber (holds : Number → Prop) : Value → Prop
  | .number amount => holds amount
  | .list items => EveryNumberOfItems holds items
  | .object entries => EveryNumberOfEntries holds entries
  | _ => True

def EveryNumberOfItems (holds : Number → Prop) : List Value → Prop
  | [] => True
  | item :: rest => item.EveryNumber holds ∧ EveryNumberOfItems holds rest

def EveryNumberOfEntries (holds : Number → Prop) : List (String × Value) → Prop
  | [] => True
  | (_, value) :: rest => value.EveryNumber holds ∧ EveryNumberOfEntries holds rest

end

theorem every_number_list {holds : Number → Prop} {items : List Value} :
    (Value.list items).EveryNumber holds ↔ ∀ item ∈ items, item.EveryNumber holds := by
  rw [EveryNumber]
  induction items with
  | nil => simp [EveryNumberOfItems]
  | cons item rest induction => rw [EveryNumberOfItems, induction, List.forall_mem_cons]

theorem every_number_object {holds : Number → Prop} {entries : List (String × Value)} :
    (Value.object entries).EveryNumber holds ↔ ∀ entry ∈ entries, entry.2.EveryNumber holds := by
  rw [EveryNumber]
  induction entries with
  | nil => simp [EveryNumberOfEntries]
  | cons entry rest induction => rw [EveryNumberOfEntries, induction, List.forall_mem_cons]

/-- Whether every number of a value lies in the range of doubles. Documents hold no others. -/
def InRange (value : Value) : Prop := value.EveryNumber fun number => number.toFloat.isFinite = true

theorem in_range_list {items : List Value} :
    (Value.list items).InRange ↔ ∀ item ∈ items, item.InRange :=
  every_number_list

theorem in_range_object {entries : List (String × Value)} :
    (Value.object entries).InRange ↔ ∀ entry ∈ entries, entry.2.InRange :=
  every_number_object

theorem to_trees_eq_map (items : List Value) : toTrees items = items.map toTree := by
  induction items with
  | nil => rfl
  | cons item rest induction => rw [toTrees, induction, List.map_cons]

theorem to_tree_entries_eq_map (entries : List (String × Value)) :
    toTreeEntries entries = entries.map fun entry => (entry.1, entry.2.toTree) := by
  induction entries with
  | nil => rfl
  | cons entry rest induction => rw [toTreeEntries, induction, List.map_cons]

theorem to_tree_list (items : List Value) :
    (Value.list items).toTree = .list (items.map toTree) := by
  rw [toTree, to_trees_eq_map]

theorem to_tree_object (entries : List (String × Value)) :
    (Value.object entries).toTree =
      .object (entries.map fun entry => (entry.1, entry.2.toTree)) := by
  rw [toTree, to_tree_entries_eq_map]

theorem normalize_list_eq_map (items : List Value) :
    normalizeList items = items.map normalize := by
  induction items with
  | nil => rfl
  | cons item rest induction => rw [normalizeList, induction, List.map_cons]

theorem mem_normalize_entries {written entries : List (String × Value)} {entry : String × Value}
    (member : entry ∈ normalizeEntries written entries) :
    entry ∈ written ∨ ∃ source ∈ entries, entry = (source.1, source.2.normalize) := by
  induction entries generalizing written with
  | nil => exact Or.inl member
  | cons first rest induction =>
      rcases induction member with put | ⟨source, later, same⟩
      · rcases Entries.mem_put put with new | old
        · exact Or.inr ⟨first, List.mem_cons_self, new⟩
        · exact Or.inl old
      · exact Or.inr ⟨source, List.mem_cons_of_mem first later, same⟩

theorem ordered_normalize_entries {written : List (String × Value)}
    (ordered : Entries.Ordered written) (entries : List (String × Value)) :
    Entries.Ordered (normalizeEntries written entries) := by
  induction entries generalizing written with
  | nil => exact ordered
  | cons first rest induction => exact induction (Entries.ordered_put ordered)

theorem normalize_entries_of_ordered {written entries : List (String × Value)}
    (normal : ∀ entry ∈ entries, entry.2.normalize = entry.2)
    (ordered : Entries.Ordered (written ++ entries)) :
    normalizeEntries written entries = written ++ entries := by
  induction entries generalizing written with
  | nil => rw [normalizeEntries, List.append_nil]
  | cons first rest induction =>
      have appended : Entries.put first.1 first.2.normalize written = written ++ [first] := by
        rw [normal first List.mem_cons_self, Entries.put_last ordered.before]
      have regrouped : written ++ [first] ++ rest = written ++ first :: rest := by
        rw [List.append_assoc, List.singleton_append]
      rw [normalizeEntries, appended,
        induction (fun entry member => normal entry (List.mem_cons_of_mem first member))
          (regrouped ▸ ordered), regrouped]

theorem normalize_normalize (value : Value) : value.normalize.normalize = value.normalize := by
  induction value using induct with
  | null => rfl
  | bool value => rfl
  | number value => rfl
  | text value => rfl
  | list items induction =>
      have normal : items.map (normalize ∘ normalize) = items.map normalize :=
        List.map_congr_left induction
      rw [normalize, normalize_list_eq_map, normalize, normalize_list_eq_map, List.map_map, normal]
  | object entries induction =>
      rw [normalize, normalize, normalize_entries_of_ordered _
        (ordered_normalize_entries List.Pairwise.nil entries)]
      · rfl
      · intro entry member
        rcases mem_normalize_entries member with none | ⟨source, given, rfl⟩
        · cases none
        · exact induction source given

theorem in_range_normalize {value : Value} (inRange : value.InRange) :
    value.normalize.InRange := by
  induction value using induct with
  | null => exact inRange
  | bool value => exact inRange
  | number value => exact inRange
  | text value => exact inRange
  | list items induction =>
      rw [normalize, normalize_list_eq_map, in_range_list]
      intro item member
      obtain ⟨source, given, rfl⟩ := List.mem_map.1 member
      exact induction source given (in_range_list.1 inRange source given)
  | object entries induction =>
      rw [normalize, in_range_object]
      intro entry member
      rcases mem_normalize_entries member with none | ⟨source, given, rfl⟩
      · cases none
      · exact induction source given (in_range_object.1 inRange source given)

theorem normalize_eq_null {value : Value} (null : value.normalize = .null) : value = .null := by
  cases value <;> first | rfl | cases null

end Value

theorem Tree.as_values_to_trees {items : List Value}
    (read : ∀ item ∈ items, item.toTree.asValue = .ok item.normalize) :
    Tree.asValues (items.map Value.toTree) = .ok (items.map Value.normalize) := by
  induction items with
  | nil => rfl
  | cons item rest induction =>
      rw [List.map_cons, Tree.asValues, read item List.mem_cons_self,
        induction fun other member => read other (List.mem_cons_of_mem item member)]
      rfl

theorem Tree.as_value_entries_to_tree {entries : List (String × Value)}
    (read : ∀ entry ∈ entries, entry.2.toTree.asValue = .ok entry.2.normalize)
    (written : List (String × Value)) :
    Tree.asValueEntries written (entries.map fun entry => (entry.1, entry.2.toTree)) =
      .ok (Value.normalizeEntries written entries) := by
  induction entries generalizing written with
  | nil => rfl
  | cons entry rest induction =>
      rw [List.map_cons, Tree.asValueEntries, read entry List.mem_cons_self]
      exact induction (fun other member => read other (List.mem_cons_of_mem entry member)) _

theorem Value.as_value_to_tree (value : Value) : value.toTree.asValue = .ok value.normalize := by
  induction value using induct with
  | null => rfl
  | bool value => rfl
  | number value => rfl
  | text value => rfl
  | list items induction =>
      rw [to_tree_list, Tree.asValue, Tree.as_values_to_trees induction, normalize,
        normalize_list_eq_map]
      rfl
  | object entries induction =>
      rw [to_tree_object, Tree.asValue, Tree.as_value_entries_to_tree induction, normalize]
      rfl

end NetworkTwin
