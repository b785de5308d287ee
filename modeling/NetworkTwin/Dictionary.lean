/-!
Dictionaries with text keys: finite maps whose entries are listed once each, in the order of their
keys. Two dictionaries with the same entries are equal.
-/

namespace NetworkTwin

namespace Entries

variable {β : Type}

/-- Writes an entry into an ordered list of entries, over an entry with the same key. -/
def put (key : String) (value : β) : List (String × β) → List (String × β)
  | [] => [(key, value)]
  | entry :: rest =>
      if key < entry.1 then (key, value) :: entry :: rest
      else if key = entry.1 then (key, value) :: rest
      else entry :: put key value rest

def Ordered (entries : List (String × β)) : Prop :=
  entries.Pairwise fun earlier later => earlier.1 < later.1

theorem mem_put {key : String} {value : β} {entries : List (String × β)} {entry : String × β}
    (member : entry ∈ put key value entries) : entry = (key, value) ∨ entry ∈ entries := by
  induction entries with
  | nil => simpa [put] using member
  | cons first rest induction =>
      unfold put at member
      split at member
      · simpa using member
      · split at member
        · rcases List.mem_cons.1 member with same | later
          · exact Or.inl same
          · exact Or.inr (List.mem_cons_of_mem _ later)
        · rcases List.mem_cons.1 member with same | later
          · exact Or.inr (by rw [same]; exact List.mem_cons_self)
          · exact (induction later).imp id (List.mem_cons_of_mem _)

private theorem lt_of_not_lt_of_ne {left right : String} (notLess : ¬ left < right)
    (different : left ≠ right) : right < left := by
  rcases String.not_lt.1 notLess with atMost
  exact Decidable.byContradiction fun notGreater =>
    different (String.le_antisymm (String.not_lt.1 notGreater) atMost)

theorem ordered_put {key : String} {value : β} {entries : List (String × β)}
    (ordered : Ordered entries) : Ordered (put key value entries) := by
  induction entries with
  | nil => exact List.pairwise_singleton _ _
  | cons first rest induction =>
      obtain ⟨before, orderedRest⟩ := List.pairwise_cons.1 ordered
      unfold put
      split
      · rename_i less
        refine List.pairwise_cons.2 ⟨fun entry member => ?_, ordered⟩
        rcases List.mem_cons.1 member with same | later
        · rw [same]; exact less
        · exact String.lt_trans less (before entry later)
      · rename_i notLess
        split
        · rename_i same
          exact List.pairwise_cons.2 ⟨fun entry member => same ▸ before entry member, orderedRest⟩
        · rename_i different
          refine List.pairwise_cons.2 ⟨fun entry member => ?_, induction orderedRest⟩
          rcases mem_put member with same | old
          · rw [same]; exact lt_of_not_lt_of_ne notLess different
          · exact before entry old

theorem lookup_cons_eq (key : String) (first : String × β) (rest : List (String × β)) :
    (first :: rest).lookup key = if key = first.1 then some first.2 else rest.lookup key := by
  rcases first with ⟨firstKey, value⟩
  rw [List.lookup_cons]
  by_cases same : key = firstKey
  · simp [same]
  · have unequal : (key == firstKey) = false := by simpa using same
    rw [unequal, if_neg same]

theorem lookup_put (key other : String) (value : β) (entries : List (String × β)) :
    (put key value entries).lookup other =
      if other = key then some value else entries.lookup other := by
  induction entries with
  | nil => rw [put, lookup_cons_eq]
  | cons first rest induction =>
      unfold put
      split
      · rw [lookup_cons_eq]
      · split
        · rename_i sameKey
          rw [lookup_cons_eq, lookup_cons_eq, ← sameKey]
          split <;> rfl
        · rename_i different
          rw [lookup_cons_eq, lookup_cons_eq, induction]
          by_cases atKey : other = key
          · rw [if_pos atKey, if_pos atKey, if_neg (atKey ▸ different)]
          · rw [if_neg atKey, if_neg atKey]

theorem mem_keys_iff_lookup (key : String) (entries : List (String × β)) :
    key ∈ entries.map (·.1) ↔ (entries.lookup key).isSome = true := by
  induction entries with
  | nil => simp
  | cons first rest induction =>
      rw [lookup_cons_eq, List.map_cons, List.mem_cons, induction]
      by_cases atFirst : key = first.1 <;> simp [atFirst]

theorem mem_of_lookup {key : String} {value : β} {entries : List (String × β)}
    (found : entries.lookup key = some value) : (key, value) ∈ entries := by
  induction entries with
  | nil => cases found
  | cons first rest induction =>
      rw [lookup_cons_eq] at found
      split at found
      · rename_i same
        obtain rfl := Option.some.inj found
        exact same ▸ List.mem_cons_self
      · exact List.mem_cons_of_mem first (induction found)

theorem Ordered.lookup_of_mem {entries : List (String × β)} (ordered : Ordered entries)
    {entry : String × β} (member : entry ∈ entries) :
    entries.lookup entry.1 = some entry.2 := by
  induction entries with
  | nil => cases member
  | cons first rest induction =>
      obtain ⟨before, orderedRest⟩ := List.pairwise_cons.1 ordered
      rw [lookup_cons_eq]
      rcases List.mem_cons.1 member with rfl | later
      · rw [if_pos rfl]
      · have different : entry.1 ≠ first.1 := fun same =>
          String.lt_irrefl _ (same ▸ before entry later)
        rw [if_neg different, induction orderedRest later]

theorem Ordered.ext {first second : List (String × β)} (ordered : Ordered first)
    (ordered' : Ordered second) (same : ∀ key, first.lookup key = second.lookup key) :
    first = second := by
  have distinct {entries : List (String × β)} (ordered : Ordered entries) : entries.Nodup := by
    refine List.Pairwise.imp ?_ ordered
    rintro left _ less rfl
    exact String.lt_irrefl left.1 less
  have perm : first.Perm second := by
    refine (List.perm_ext_iff_of_nodup (distinct ordered) (distinct ordered')).2 fun entry => ?_
    constructor
    · intro member
      exact mem_of_lookup ((same entry.1).symm.trans (ordered.lookup_of_mem member))
    · intro member
      exact mem_of_lookup ((same entry.1).trans (ordered'.lookup_of_mem member))
  refine perm.eq_of_pairwise (fun left right _ _ less greater => ?_) ordered ordered'
  exact absurd greater (String.lt_asymm less)

end Entries

/-- A finite map from texts, its entries in the order of the keys. -/
@[ext] structure Dictionary (β : Type) where
  entries : List (String × β)
  ordered : Entries.Ordered entries

namespace Dictionary

variable {β : Type}

def empty : Dictionary β := ⟨[], List.Pairwise.nil⟩

instance : Inhabited (Dictionary β) := ⟨empty⟩

def insert (dictionary : Dictionary β) (key : String) (value : β) : Dictionary β :=
  ⟨Entries.put key value dictionary.entries, Entries.ordered_put dictionary.ordered⟩

/-- The dictionary of a list of entries; of two with one key the later counts. -/
def ofList (entries : List (String × β)) : Dictionary β :=
  entries.foldl (fun dictionary entry => dictionary.insert entry.1 entry.2) empty

def get? (dictionary : Dictionary β) (key : String) : Option β := dictionary.entries.lookup key

def contains (dictionary : Dictionary β) (key : String) : Bool := (dictionary.get? key).isSome

def keys (dictionary : Dictionary β) : List String := dictionary.entries.map (·.1)

def values (dictionary : Dictionary β) : List β := dictionary.entries.map (·.2)

@[simp] theorem get?_empty (key : String) : (empty : Dictionary β).get? key = none := rfl

theorem get?_insert (dictionary : Dictionary β) (key other : String) (value : β) :
    (dictionary.insert key value).get? other =
      if other = key then some value else dictionary.get? other :=
  Entries.lookup_put key other value dictionary.entries

theorem mem_keys_iff {dictionary : Dictionary β} {key : String} :
    key ∈ dictionary.keys ↔ (dictionary.get? key).isSome = true :=
  Entries.mem_keys_iff_lookup key dictionary.entries

theorem mem_values_iff {dictionary : Dictionary β} {value : β} :
    value ∈ dictionary.values ↔ ∃ key, dictionary.get? key = some value := by
  constructor
  · intro member
    obtain ⟨entry, inside, rfl⟩ := List.mem_map.1 member
    exact ⟨entry.1, dictionary.ordered.lookup_of_mem inside⟩
  · rintro ⟨key, found⟩
    exact List.mem_map_of_mem (Entries.mem_of_lookup found)

private theorem get?_foldl_insert (value : String → β) (keys : List String)
    (dictionary : Dictionary β) (key : String) :
    ((keys.map fun key => (key, value key)).foldl
        (fun dictionary entry => dictionary.insert entry.1 entry.2) dictionary).get? key =
      if key ∈ keys then some (value key) else dictionary.get? key := by
  induction keys generalizing dictionary with
  | nil => simp
  | cons first rest induction =>
      rw [List.map_cons, List.foldl_cons, induction, get?_insert]
      by_cases later : key ∈ rest <;> by_cases atFirst : key = first <;> simp [later, atFirst]

/-- If the values depend on the keys alone, repeated keys do not matter. -/
theorem get?_ofList_map (value : String → β) (keys : List String) (key : String) :
    (ofList (keys.map fun key => (key, value key))).get? key =
      if key ∈ keys then some (value key) else none :=
  get?_foldl_insert value keys empty key

theorem ext_get? {first second : Dictionary β}
    (same : ∀ key, first.get? key = second.get? key) : first = second :=
  Dictionary.ext (first.ordered.ext second.ordered same)

/-- If the values depend on the keys alone, neither does the order of the keys. -/
theorem ofList_map_congr {value : String → β} {keys others : List String}
    (same : ∀ key, key ∈ keys ↔ key ∈ others) :
    ofList (keys.map fun key => (key, value key)) =
      ofList (others.map fun key => (key, value key)) := by
  apply ext_get?
  intro key
  simp only [get?_ofList_map, same]

end Dictionary

end NetworkTwin
