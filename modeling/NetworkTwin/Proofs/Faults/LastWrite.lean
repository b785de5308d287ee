import NetworkTwin.Proofs.Faults.Strike

/-!
What faults leave of every link, field by field. A link has failed if it had failed before or if one
of the faults fails it; its latency and its loss are what the last degradation sets them to. Each
field has a history of its own, and so has each link: a fault of links is heard by the first link
with the id only, a fault of nodes by all. Nothing else changes.
-/

namespace NetworkTwin

/-- Whether no link before a place has the id of this link. -/
def Link.isFirstIn (link : Link) (links : List Link) (place : Nat) : Bool :=
  (links.take place).all fun earlier => earlier.id ≠ link.id

theorem Link.is_first_in_iff (link : Link) {links : List Link} {place : Nat} :
    link.isFirstIn links place = true ↔ ∀ earlier ∈ links.take place, earlier.id ≠ link.id := by
  simp [isFirstIn]

def Fault.fails (first : Bool) (link : Link) (fault : Fault) : Bool :=
  match fault.kind with
  | .linkDown => first && link.id = fault.target
  | .linkDegraded => false
  | .nodeDown => link.touches fault.target

namespace Link

/-- What the last of the degradations that a link hears of sets a field to. -/
def lastHeard? (link : Link) (field : FaultParams → Option Float) (first : Bool)
    (faults : List Fault) : Option Float :=
  if first then lastSet? field faults link.id else none

def settle (link : Link) (first : Bool) (faults : List Fault) : Link :=
  { link with
    failed := link.failed || faults.any (Fault.fails first link)
    latency := (link.lastHeard? (·.latency) first faults).getD link.latency
    loss := (link.lastHeard? (·.loss) first faults).getD link.loss }

end Link

theorem last_set_append (field : FaultParams → Option Float) (faults more : List Fault)
    (id : String) :
    lastSet? field (faults ++ more) id =
      (lastSet? field more id).or (lastSet? field faults id) := by
  unfold lastSet?
  rw [List.filterMap_append, List.getLast?_append]

theorem last_set_singleton (field : FaultParams → Option Float) (fault : Fault) (id : String) :
    lastSet? field [fault] id = fault.sets? field id := by
  unfold lastSet?
  rw [List.filterMap_cons, List.filterMap_nil]
  cases fault.sets? field id <;> rfl

theorem last_set_eq_none_iff {field : FaultParams → Option Float} {faults : List Fault}
    {id : String} :
    lastSet? field faults id = none ↔ ∀ fault ∈ faults, fault.sets? field id = none := by
  rw [lastSet?, List.getLast?_eq_none_iff, List.filterMap_eq_nil_iff]

theorem last_set_eq_some_iff {field : FaultParams → Option Float} {faults : List Fault}
    {id : String} {value : Float} :
    lastSet? field faults id = some value ↔
      ∃ earlier fault later, faults = earlier ++ fault :: later ∧
        fault.sets? field id = some value ∧ ∀ other ∈ later, other.sets? field id = none := by
  rw [lastSet?, List.getLast?_eq_some_iff]
  constructor
  · rintro ⟨before, sets⟩
    obtain ⟨earlier, rest, rfl, _, last⟩ := List.filterMap_eq_append_iff.1 sets
    obtain ⟨silent, fault, later, rfl, _, value, none⟩ := List.filterMap_eq_cons_iff.1 last
    refine ⟨earlier ++ silent, fault, later, by rw [List.append_assoc], value, ?_⟩
    exact List.filterMap_eq_nil_iff.1 none
  · rintro ⟨earlier, fault, later, rfl, value, silent⟩
    refine ⟨earlier.filterMap fun fault => fault.sets? field id, ?_⟩
    rw [List.filterMap_append, List.filterMap_cons, value, List.filterMap_eq_nil_iff.2 silent]

namespace Link

variable (link : Link) (first : Bool)

theorem last_heard_append (field : FaultParams → Option Float) (faults more : List Fault) :
    link.lastHeard? field first (faults ++ more) =
      (link.lastHeard? field first more).or (link.lastHeard? field first faults) := by
  unfold lastHeard?
  cases first with
  | false => rfl
  | true => exact last_set_append field faults more link.id

theorem settle_nil : link.settle first [] = link := by
  cases first <;> simp [settle, lastHeard?, lastSet?]

theorem settle_append (faults more : List Fault) :
    link.settle first (faults ++ more) = (link.settle first faults).settle first more := by
  have value (field : FaultParams → Option Float) (before : Float) :
      (link.lastHeard? field first (faults ++ more)).getD before =
        (link.lastHeard? field first more).getD
          ((link.lastHeard? field first faults).getD before) := by
    rw [last_heard_append]
    cases link.lastHeard? field first more <;> rfl
  unfold settle
  rw [List.any_append, ← Bool.or_assoc, value, value]
  rfl

theorem last_heard_singleton (field : FaultParams → Option Float) (fault : Fault) :
    link.lastHeard? field true [fault] = fault.sets? field link.id := by
  rw [lastHeard?, if_pos rfl, last_set_singleton]

theorem suffer_eq_settle (fault : Fault) : link.suffer fault = link.settle true [fault] := by
  rw [settle, last_heard_singleton, last_heard_singleton, List.any_cons, List.any_nil,
    Bool.or_false, suffer, Fault.sets?, Fault.sets?, Fault.fails]
  cases kind : fault.kind with
  | linkDown =>
      by_cases hit : link.id = fault.target
      · simp [hit, fail]
      · simp [hit]
  | linkDegraded =>
      by_cases hit : link.id = fault.target
      · cases fault.params <;> simp [hit, degrade]
      · simp [hit, Ne.symm hit]
  | nodeDown =>
      by_cases hit : link.touches fault.target = true
      · simp [hit, fail]
      · simp [hit]

theorem latency_suffer (fault : Fault) :
    (link.suffer fault).latency = (fault.sets? (·.latency) link.id).getD link.latency := by
  rw [suffer_eq_settle, settle, last_heard_singleton]

/-- A link that comes first hears of all faults, and they leave it as its history says. -/
theorem suffer_all_eq_settle (faults : List Fault) :
    faults.foldl suffer link = link.settle true faults := by
  induction faults generalizing link with
  | nil => rw [List.foldl_nil, settle_nil]
  | cons fault rest induction =>
      rw [List.foldl_cons, induction, suffer_eq_settle, ← settle_append, List.singleton_append]

/-- What a link before this one takes for itself is lost on this one if they share their id, just as
if this one did not come first, and else it would not have been heard anyway. -/
theorem settle_not_taken (faults : List Fault) (taker : String) :
    link.settle first (faults.filter fun fault => !fault.takenBy taker) =
      link.settle (taker ≠ link.id && first) faults := by
  have heard (field : FaultParams → Option Float) :
      link.lastHeard? field first (faults.filter fun fault => !fault.takenBy taker) =
        link.lastHeard? field (taker ≠ link.id && first) faults := by
    unfold lastHeard?
    rw [last_set_not_taken]
    by_cases same : taker = link.id <;> cases first <;> simp [same]
  have failed : (faults.filter fun fault => !fault.takenBy taker).any (Fault.fails first link) =
      faults.any (Fault.fails (taker ≠ link.id && first) link) := by
    rw [List.any_filter]
    congr 1
    funext fault
    unfold Fault.takenBy Fault.fails
    cases kind : fault.kind with
    | linkDown =>
        by_cases hit : link.id = fault.target
        · by_cases own : taker = fault.target
          · simp [hit, own]
          · have others : (fault.target == taker) = false := beq_false_of_ne (Ne.symm own)
            simp [hit, own, others]
        · simp [hit]
    | linkDegraded => simp
    | nodeDown => simp
  unfold settle
  rw [failed, heard, heard]

end Link

/-- Every link is left as its own history says, whatever becomes of the others. -/
theorem strike_all_eq_map_idx (faults : List Fault) (links : List Link) :
    strikeAll faults links =
      links.mapIdx fun place link => link.settle (link.isFirstIn links place) faults := by
  induction links generalizing faults with
  | nil => exact strike_all_nil faults
  | cons link rest induction =>
      rw [strike_all_cons, Link.suffer_all_eq_settle, induction, List.mapIdx_cons]
      simp only [Link.settle_not_taken]
      rfl

/-- What faults leave in a field of a link. They count only where the link hears of them. -/
inductive FieldLeft (field : FaultParams → Option Float) (faults : List Fault) (id : String)
    (heard : Prop) (before : Float) : Float → Prop
  | written {earlier later : List Fault} {fault : Fault} {value : Float} (hears : heard)
      (split : faults = earlier ++ fault :: later) (sets : fault.sets? field id = some value)
      (silent : ∀ other ∈ later, other.sets? field id = none) :
      FieldLeft field faults id heard before value
  | kept (silent : heard → ∀ fault ∈ faults, fault.sets? field id = none) :
      FieldLeft field faults id heard before before

/-- What faults leave of a link, which may be the first with its id or not. It has failed if it had
failed before, if it is the first and is taken down, or if one of its ends goes down; the last values
that are set stay if it is the first; and nothing else has changed. -/
structure Link.LeftAs (link : Link) (first : Prop) (faults : List Fault) (left : Link) : Prop where
  failed : left.failed = true ↔ link.failed = true ∨
    (first ∧ ∃ fault ∈ faults, fault.kind = .linkDown ∧ fault.target = link.id) ∨
    ∃ fault ∈ faults, fault.kind = .nodeDown ∧ fault.target ∈ link.ends
  latency : FieldLeft (·.latency) faults link.id first link.latency left.latency
  loss : FieldLeft (·.loss) faults link.id first link.loss left.loss
  rest : left = { link with failed := left.failed, latency := left.latency, loss := left.loss }

namespace Link

variable (link : Link) (first : Bool) (faults : List Fault)

theorem field_left_last_heard (field : FaultParams → Option Float) (before : Float) :
    FieldLeft field faults link.id first before
      ((link.lastHeard? field first faults).getD before) := by
  cases heard : link.lastHeard? field first faults with
  | none =>
      refine .kept fun hears => ?_
      rw [lastHeard?, if_pos hears] at heard
      exact last_set_eq_none_iff.1 heard
  | some value =>
      rw [lastHeard?] at heard
      split at heard
      · rename_i hears
        obtain ⟨earlier, fault, later, split, sets, silent⟩ := last_set_eq_some_iff.1 heard
        exact .written hears split sets silent
      · cases heard

theorem fails_iff {fault : Fault} :
    fault.fails first link = true ↔
      (first ∧ fault.kind = .linkDown ∧ fault.target = link.id) ∨
        fault.kind = .nodeDown ∧ fault.target ∈ link.ends := by
  unfold Fault.fails
  rw [← touches_iff]
  cases fault.kind <;> simp [@eq_comm _ link.id]

theorem left_as_settle : link.LeftAs first faults (link.settle first faults) := by
  refine ⟨?_, field_left_last_heard .., field_left_last_heard .., rfl⟩
  change (link.failed || faults.any (Fault.fails first link)) = true ↔ _
  rw [Bool.or_eq_true, List.any_eq_true]
  simp only [fails_iff]
  refine or_congr_right ⟨?_, ?_⟩
  · rintro ⟨fault, member, ⟨comesFirst, down⟩ | down⟩
    · exact Or.inl ⟨comesFirst, fault, member, down⟩
    · exact Or.inr ⟨fault, member, down⟩
  · rintro (⟨comesFirst, fault, member, down⟩ | ⟨fault, member, down⟩)
    · exact ⟨fault, member, Or.inl ⟨comesFirst, down⟩⟩
    · exact ⟨fault, member, Or.inr down⟩

end Link

namespace Graph

theorem link_inject_all (graph : Graph) (faults : List Fault) (place : Nat) :
    (graph.injectAll faults).links[place]? =
      (graph.links[place]?).map fun link =>
        link.settle (link.isFirstIn graph.links place) faults := by
  rw [links_inject_all, strike_all_eq_map_idx, List.getElem?_mapIdx]

theorem forall_links_inject_all_iff {holds : Link → Prop} {graph : Graph} {faults : List Fault} :
    (∀ left ∈ (graph.injectAll faults).links, holds left) ↔
      ∀ (place : Nat) (link : Link), graph.links[place]? = some link →
        holds (link.settle (link.isFirstIn graph.links place) faults) := by
  constructor
  · intro all place link found
    have settled := graph.link_inject_all faults place
    rw [found, Option.map_some] at settled
    exact all _ (List.mem_of_getElem? settled)
  · intro all left member
    obtain ⟨place, settled⟩ := List.getElem?_of_mem member
    rw [link_inject_all] at settled
    obtain ⟨link, found, rfl⟩ := Option.map_eq_some_iff.1 settled
    exact all place link found

/-- Faults leave the nodes, the metadata and the sequence of the links as they are, and of each link
what the history of each of its fields says. -/
theorem last_write_wins (graph : Graph) (faults : List Fault) :
    (graph.injectAll faults).nodes = graph.nodes ∧
      (graph.injectAll faults).metadata = graph.metadata ∧
      (graph.injectAll faults).links.length = graph.links.length ∧
      ∀ (place : Nat) (link : Link), graph.links[place]? = some link →
        ∃ left, (graph.injectAll faults).links[place]? = some left ∧
          link.LeftAs (∀ earlier ∈ graph.links.take place, earlier.id ≠ link.id) faults left := by
  have sequence : (graph.injectAll faults).links.length = graph.links.length := by
    rw [links_inject_all, strike_all_eq_map_idx, List.length_mapIdx]
  refine ⟨nodes_inject_all .., by rw [inject_all_eq], sequence, fun place link found => ?_⟩
  refine ⟨link.settle (link.isFirstIn graph.links place) faults, ?_, ?_⟩
  · rw [link_inject_all, found, Option.map_some]
  · rw [← link.is_first_in_iff]
    exact link.left_as_settle _ faults

/-- Two links between two nodes, with one id. -/
def twins : Graph :=
  Graph.empty
    |>.addNode (.plain "a" .router "A")
    |>.addNode (.plain "b" .server "B")
    |>.addLink (.plain "x" "a" "b")
    |>.addLink ((Link.plain "x" "b" "a").withLatency 7.0)

/-- The first of the twins is slowed down, cut, and slowed down again. -/
def mishaps : List Fault :=
  [{ Fault.plain "slow" .linkDegraded "x" with params := some ⟨some 5.0, none⟩ },
    .plain "cut" .linkDown "x",
    { Fault.plain "slower" .linkDegraded "x" with params := some ⟨some 9.0, none⟩ },
    .plain "still" .linkDegraded "x"]

theorem last_write_wins_twins :
    twins.links[0]? = some (.plain "x" "a" "b") ∧
      ∃ left, (twins.injectAll mishaps).links[0]? = some left ∧
        (Link.plain "x" "a" "b").LeftAs (∀ earlier ∈ twins.links.take 0, earlier.id ≠ "x")
          mishaps left := by
  have found : twins.links[0]? = some (.plain "x" "a" "b") := rfl
  exact ⟨found, (last_write_wins twins mishaps).2.2.2 0 _ found⟩

-- The second of the twins hears of none of this.
example : (twins.injectAll mishaps).links.map (fun link => (link.failed, link.latency)) =
    [(true, 9.0), (false, 7.0)] := by
  decide +kernel

end Graph

end NetworkTwin
