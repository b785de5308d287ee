import NetworkTwin.Document.Json.Reader
import NetworkTwin.Proofs.Json.Lexing

/-!
Reading undoes writing: a value whose numbers are legible is read back, as a tree, from its written
form. The tokens of a value are read from any open frames and delivered there as one tree.
-/

namespace NetworkTwin.Json

theorem step_value_or_close {frames : List Frame} {token : Token}
    (notClose : token ≠ .closeList) :
    Reader.step? ⟨frames, .valueOrClose⟩ token = Reader.step? ⟨frames, .value⟩ token := by
  cases token <;> first | rfl | exact absurd rfl notClose

theorem foldl_m_value_or_close (value : Value) (frames : List Frame) (later : List Token) :
    (tokensOf value ++ later).foldlM Reader.step? ⟨frames, .valueOrClose⟩ =
      (tokensOf value ++ later).foldlM Reader.step? ⟨frames, .value⟩ := by
  cases value <;>
    simp only [tokensOf, List.cons_append, List.foldlM_cons, step_value_or_close, ne_eq,
      reduceCtorEq, not_false_eq_true]

/-- The tokens of the value are read as its tree, whatever frames are open. -/
def Delivers (value : Value) : Prop :=
  ∀ frames, (tokensOf value).foldlM Reader.step? ⟨frames, .value⟩ =
    some (deliver value.toTree frames)

theorem foldl_m_deliver {value : Value} (delivered : Delivers value) (frames : List Frame)
    (later : List Token) :
    (tokensOf value ++ later).foldlM Reader.step? ⟨frames, .value⟩ =
      later.foldlM Reader.step? (deliver value.toTree frames) := by
  rw [List.foldlM_append, delivered]
  rfl

/-- The further items of an open list are read after those it holds, and then it is closed. -/
theorem foldl_m_items {items : List Value} (each : ∀ item ∈ items, Delivers item)
    (held : List Tree) (frames : List Frame) :
    (tokensOfItems false items ++ [Token.closeList]).foldlM Reader.step?
        ⟨.list held :: frames, .separator⟩ =
      some (deliver (.list (held.reverse ++ items.map Value.toTree)) frames) := by
  induction items generalizing held with
  | nil =>
      rw [List.map_nil, List.append_nil]
      rfl
  | cons item rest induction =>
      have others := induction
        (fun other member => each other (List.mem_cons_of_mem item member)) (item.toTree :: held)
      rw [tokensOfItems]
      change (tokensOf item ++ tokensOfItems false rest ++ [Token.closeList]).foldlM Reader.step?
        ⟨.list held :: frames, .value⟩ = _
      rw [List.append_assoc, foldl_m_deliver (each item List.mem_cons_self), deliver, others,
        List.reverse_cons, List.append_assoc, List.map_cons, List.singleton_append]

theorem foldl_m_entries {entries : List (String × Value)}
    (each : ∀ entry ∈ entries, Delivers entry.2) (held : List (String × Tree)) (last : String)
    (frames : List Frame) :
    (tokensOfEntries false entries ++ [Token.closeObject]).foldlM Reader.step?
        ⟨.object held true last :: frames, .separator⟩ =
      some (deliver (.object (held.reverse ++
        entries.map fun entry => (entry.1, entry.2.toTree))) frames) := by
  induction entries generalizing held last with
  | nil =>
      rw [List.map_nil, List.append_nil]
      rfl
  | cons entry rest induction =>
      have others := induction
        (fun other member => each other (List.mem_cons_of_mem entry member))
        ((entry.1, entry.2.toTree) :: held) entry.1
      rw [tokensOfEntries]
      change (tokensOf entry.2 ++ tokensOfEntries false rest ++ [Token.closeObject]).foldlM
        Reader.step? ⟨.object held true entry.1 :: frames, .value⟩ = _
      rw [List.append_assoc, foldl_m_deliver (each entry List.mem_cons_self), deliver, others,
        List.reverse_cons, List.append_assoc, List.map_cons, List.singleton_append]

theorem delivers (value : Value) : Delivers value := by
  induction value using Value.induct with
  | null => exact fun _ => rfl
  | bool truth => exact fun _ => rfl
  | number amount => exact fun _ => rfl
  | text text => exact fun _ => rfl
  | list items induction =>
      intro frames
      rw [Value.to_tree_list]
      cases items with
      | nil => rfl
      | cons item rest =>
          have others := foldl_m_items
            (fun other member => induction other (List.mem_cons_of_mem item member))
            [item.toTree] frames
          rw [tokensOf, tokensOfItems]
          change (tokensOf item ++ tokensOfItems false rest ++ [Token.closeList]).foldlM
            Reader.step? ⟨.list [] :: frames, .valueOrClose⟩ = _
          rw [List.append_assoc, foldl_m_value_or_close,
            foldl_m_deliver (induction item List.mem_cons_self), deliver, others]
          rfl
  | object entries induction =>
      intro frames
      rw [Value.to_tree_object]
      cases entries with
      | nil => rfl
      | cons entry rest =>
          have others := foldl_m_entries
            (fun other member => induction other (List.mem_cons_of_mem entry member))
            [(entry.1, entry.2.toTree)] entry.1 frames
          rw [tokensOf, tokensOfEntries]
          change (tokensOf entry.2 ++ tokensOfEntries false rest ++ [Token.closeObject]).foldlM
            Reader.step? ⟨.object [] true entry.1 :: frames, .value⟩ = _
          rw [List.append_assoc, foldl_m_deliver (induction entry List.mem_cons_self), deliver,
            others]
          rfl

/-- Reading undoes writing. -/
theorem read_render {value : Value} (legible : value.EveryNumber Legible) :
    read? (render value) = some value.toTree := by
  have read : (tokensOf value).foldlM Reader.step? Reader.start =
      some ⟨[], .nothing value.toTree⟩ := delivers value []
  rw [read?, tokens_render legible, Option.bind_eq_bind, Option.bind_some, read]
  rfl

end NetworkTwin.Json
