import Mathlib.Data.List.Basic
import Mathlib.Data.List.Induction
import NetworkTwin.Topology.Schema
import NetworkTwin.Topology.Structure

/-!
Texts that occur several times in a list. The first occurrence of a text gives it its place among
the different texts of the list, so there is one list of them. All later occurrences are repetitions,
and there are as many of them as the list is longer than that of the different texts.
-/

namespace NetworkTwin

/-- The list of those of the texts that are wanted, each once, in the order in which they first
occur. -/
structure ListedOnce (texts : List String) (wanted : String → Prop) (listed : List String) :
    Prop where
  mem_iff : ∀ text, text ∈ listed ↔ text ∈ texts ∧ wanted text
  order : listed.Pairwise fun earlier later => texts.idxOf earlier < texts.idxOf later

/-- Dropping repetitions from the end of a list on, the last text is kept if it is new. -/
theorem erase_dups_concat (texts : List String) (text : String) :
    (texts ++ [text]).eraseDups =
      texts.eraseDups ++ if texts.contains text then [] else [text] := by
  rw [List.eraseDups_append]
  by_cases old : text ∈ texts <;> simp [List.removeAll, List.eraseDups_cons, old]

namespace ListedOnce

variable {texts listed : List String} {wanted : String → Prop}

theorem nodup (lists : ListedOnce texts wanted listed) : listed.Nodup := by
  refine lists.order.imp ?_
  rintro earlier _ before rfl
  exact Nat.lt_irrefl _ before

theorem unique {other : List String} (lists : ListedOnce texts wanted listed)
    (listsToo : ListedOnce texts wanted other) : listed = other := by
  have perm : listed.Perm other := by
    rw [List.perm_ext_iff_of_nodup lists.nodup listsToo.nodup]
    intro text
    rw [lists.mem_iff, listsToo.mem_iff]
  refine perm.eq_of_pairwise ?_ lists.order listsToo.order
  intro earlier later _ _ before after
  exact absurd before (Nat.lt_asymm after)

theorem erase_dups (texts : List String) :
    ListedOnce texts (fun _ => True) texts.eraseDups where
  mem_iff text := by rw [List.mem_eraseDups, and_true]
  order := by
    induction texts using List.reverseRecOn with
    | nil => exact List.Pairwise.nil
    | append_singleton front last induction =>
        rw [erase_dups_concat, List.pairwise_append]
        -- What has occurred before the last text keeps its place.
        have place {text : String} (before : text ∈ front.eraseDups) :
            (front ++ [last]).idxOf text = front.idxOf text :=
          List.idxOf_append_of_mem (List.mem_eraseDups.1 before)
        refine ⟨?_, ?_, ?_⟩
        · refine induction.imp_of_mem ?_
          intro earlier later earlierMember laterMember before
          rwa [place earlierMember, place laterMember]
        · split
          · exact List.Pairwise.nil
          · exact List.pairwise_singleton _ _
        · intro earlier earlierMember later laterMember
          split at laterMember
          · cases laterMember
          · rename_i new
            obtain rfl := List.mem_singleton.1 laterMember
            have absent : later ∉ front := fun old => new (List.contains_iff_mem.2 old)
            rw [place earlierMember, List.idxOf_append_of_notMem absent]
            have within := List.idxOf_lt_length_iff.2 (List.mem_eraseDups.1 earlierMember)
            omega

theorem filter (lists : ListedOnce texts wanted listed) (test : String → Bool) :
    ListedOnce texts (fun text => wanted text ∧ test text = true) (listed.filter test) where
  mem_iff text := by rw [List.mem_filter, lists.mem_iff, and_assoc]
  order := lists.order.filter test

theorem tail {first : String} {rest : List String}
    (lists : ListedOnce (first :: texts) (fun _ => True) (first :: rest)) :
    ListedOnce texts (· ≠ first) rest := by
  obtain ⟨notLater, order⟩ := List.pairwise_cons.1 lists.order
  have different {text : String} (member : text ∈ rest) : first ≠ text := by
    rintro rfl
    exact Nat.lt_irrefl _ (notLater first member)
  constructor
  · intro text
    have listed := lists.mem_iff text
    rw [List.mem_cons, List.mem_cons, and_true] at listed
    constructor
    · intro member
      have other := (different member).symm
      exact ⟨(listed.1 (Or.inr member)).resolve_left other, other⟩
    · rintro ⟨member, other⟩
      exact (listed.2 (Or.inr member)).resolve_left other
  · refine order.imp_of_mem ?_
    intro earlier later earlierMember laterMember before
    rw [List.idxOf_cons_ne _ (different earlierMember),
      List.idxOf_cons_ne _ (different laterMember)] at before
    exact Nat.lt_of_succ_lt_succ before

end ListedOnce

/-- The items whose key an earlier item has. -/
def repeatedBy {α : Type} (key : α → String) (items : List α) : List α :=
  (items.zipIdx.filter fun entry => key entry.1 ∈ (items.map key).take entry.2).map (·.1)

section Repetitions

theorem repeats_eq_nil_iff (seen texts : List String) :
    repeats seen texts = [] ↔ texts.Nodup ∧ ∀ text ∈ texts, text ∉ seen := by
  induction texts generalizing seen with
  | nil => simp [repeats]
  | cons text rest induction =>
      unfold repeats
      by_cases before : text ∈ seen
      · simp [before]
      · rw [if_neg (by simpa using before), induction, List.nodup_cons, List.forall_mem_cons]
        constructor
        · rintro ⟨distinct, unseen⟩
          have notLater : text ∉ rest := fun later => unseen text later List.mem_cons_self
          exact ⟨⟨notLater, distinct⟩, before,
            fun other later old => unseen other later (List.mem_cons_of_mem text old)⟩
        · rintro ⟨⟨notLater, distinct⟩, _, unseen⟩
          refine ⟨distinct, fun other later old => ?_⟩
          rcases List.mem_cons.1 old with rfl | older
          · exact notLater later
          · exact unseen other later older

theorem repeats_eq_filter {seen front : List String} (same : ∀ text, text ∈ seen ↔ text ∈ front)
    (texts : List String) :
    repeats seen texts = ((texts.zipIdx front.length).filter fun entry =>
      entry.1 ∈ (front ++ texts).take entry.2).map (·.1) := by
  induction texts generalizing seen front with
  | nil => rfl
  | cons text rest induction =>
      have further : front ++ text :: rest = (front ++ [text]) ++ rest := by simp
      have later : (front ++ [text]).length = front.length + 1 := List.length_append
      rw [List.zipIdx_cons, repeats]
      by_cases old : text ∈ seen
      · have noted : ∀ other, other ∈ seen ↔ other ∈ front ++ [text] := by
          intro other
          rw [List.mem_append, List.mem_singleton, ← same]
          exact ⟨Or.inl, fun either => either.elim id fun equal => equal ▸ old⟩
        rw [if_pos (List.contains_iff_mem.2 old), List.filter_cons_of_pos (by simp [← same, old]),
          List.map_cons, induction noted, later, further]
      · have noted : ∀ other, other ∈ text :: seen ↔ other ∈ front ++ [text] := by
          intro other
          rw [List.mem_cons, List.mem_append, List.mem_singleton, same, or_comm]
        rw [if_neg (by simpa using old), List.filter_cons_of_neg (by simp [← same, old]),
          induction noted, later, further]

theorem length_repeats (seen texts : List String) :
    (repeats seen texts).length +
      (texts.filter fun text => !seen.contains text).eraseDups.length = texts.length := by
  induction texts generalizing seen with
  | nil => rfl
  | cons text rest induction =>
      unfold repeats
      by_cases old : seen.contains text = true
      · rw [if_pos old, List.filter_cons_of_neg (by simpa using old), List.length_cons,
          List.length_cons]
        have := induction seen
        omega
      · have unseen : (rest.filter fun other => !seen.contains other).filter
              (fun other => !other == text) =
            rest.filter fun other => !(text :: seen).contains other := by
          rw [List.filter_filter]
          refine List.filter_congr fun other _ => ?_
          rw [List.contains_cons, Bool.not_or]
        have := induction (text :: seen)
        rw [if_neg old, List.filter_cons_of_pos (by simpa using old), List.eraseDups_cons, unseen,
          List.length_cons, List.length_cons]
        omega

theorem first_repeated_eq_head (seen texts : List String) :
    firstRepeated? seen texts = (repeats seen texts).head? := by
  induction texts generalizing seen with
  | nil => rfl
  | cons text rest induction =>
      unfold firstRepeated? repeats
      split
      · rfl
      · exact induction (text :: seen)

variable {α : Type} {key : α → String} {items : List α}

theorem map_repeated_by : (repeatedBy key items).map key = repeats [] (items.map key) := by
  rw [@repeats_eq_filter [] [] fun _ => Iff.rfl, List.zipIdx_map, List.filter_map, List.map_map,
    repeatedBy, List.map_map]
  rfl

theorem repeated_by_eq_nil_iff : repeatedBy key items = [] ↔ (items.map key).Nodup := by
  rw [← List.map_eq_nil_iff (f := key), map_repeated_by, repeats_eq_nil_iff]
  simp

theorem length_repeated_by :
    (repeatedBy key items).length + (items.map key).eraseDups.length = items.length := by
  have unseen : ((items.map key).filter fun text => !([] : List String).contains text) =
      items.map key :=
    List.filter_eq_self.2 fun _ _ => rfl
  have lengths := length_repeats [] (items.map key)
  rwa [unseen, ← map_repeated_by, List.length_map, List.length_map] at lengths

end Repetitions

end NetworkTwin
