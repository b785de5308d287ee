import NetworkTwin.Scenario.Injection

/-!
What faults do to links. A fault of a link is taken by the first link with the id, and no link after
it hears of the fault; a fault of a node goes to every link. So each link suffers its own share of
the faults, in their order, whatever becomes of the others.
-/

namespace NetworkTwin

/-- The link after a fault that has come as far as this link. -/
def Link.suffer (link : Link) (fault : Fault) : Link :=
  match fault.kind with
  | .linkDown => if link.id = fault.target then link.fail else link
  | .linkDegraded =>
      if link.id = fault.target then link.degrade (fault.params.getD ⟨none, none⟩) else link
  | .nodeDown => if link.touches fault.target then link.fail else link

/-- Whether a link with the id keeps the fault from the links after it. -/
def Fault.takenBy (fault : Fault) (id : String) : Bool :=
  fault.kind != .nodeDown && fault.target == id

def Fault.strike (fault : Fault) : List Link → List Link
  | [] => []
  | link :: rest =>
      link.suffer fault :: if fault.takenBy link.id then rest else fault.strike rest

def strikeAll (faults : List Fault) (links : List Link) : List Link :=
  faults.foldl (fun links fault => fault.strike links) links

namespace Fault

variable {fault : Fault}

theorem strike_eq_self (spares : ∀ link : Link, link.suffer fault = link) (links : List Link) :
    fault.strike links = links := by
  induction links with
  | nil => rfl
  | cons link rest induction =>
      rw [strike, spares link, induction, ite_self]

theorem update_first_eq_strike {change : Link → Link} (ofLink : fault.kind ≠ .nodeDown)
    (changes : ∀ link : Link,
      link.suffer fault = if link.id = fault.target then change link else link)
    (links : List Link) :
    updateFirst (·.id == fault.target) change links = fault.strike links := by
  induction links with
  | nil => rfl
  | cons link rest induction =>
      rw [updateFirst, strike, changes link, induction]
      by_cases hit : link.id = fault.target
      · have taken : fault.takenBy link.id = true := by simp [takenBy, ofLink, hit]
        rw [if_pos hit, if_pos taken, if_pos (beq_iff_eq.2 hit)]
      · have passed : ¬ fault.takenBy link.id = true := by simp [takenBy, Ne.symm hit]
        rw [if_neg hit, if_neg passed, if_neg (by simpa using hit)]

theorem map_suffer_eq_strike (ofNode : fault.kind = .nodeDown) (links : List Link) :
    links.map (fun link => link.suffer fault) = fault.strike links := by
  induction links with
  | nil => rfl
  | cons link rest induction =>
      have passed : ¬ fault.takenBy link.id = true := by simp [takenBy, ofNode]
      rw [List.map_cons, strike, if_neg passed, induction]

end Fault

namespace Graph

theorem inject_eq (graph : Graph) (fault : Fault) :
    graph.inject fault = { graph with links := fault.strike graph.links } := by
  have relinked {links : List Link} (struck : links = fault.strike graph.links) :
      { graph with links := links } = { graph with links := fault.strike graph.links } := by
    rw [struck]
  unfold inject
  cases kind : fault.kind with
  | linkDown =>
      refine relinked (Fault.update_first_eq_strike (by simp [kind]) (fun link => ?_) graph.links)
      rw [Link.suffer, kind]
  | linkDegraded =>
      cases given : fault.params with
      | none =>
          -- A degradation that sets nothing leaves even the link that it hits as it is.
          refine relinked (Fault.strike_eq_self (fun link => ?_) graph.links).symm
          rw [Link.suffer, kind, given]
          exact ite_self link
      | some params =>
          refine relinked (Fault.update_first_eq_strike (by simp [kind]) (fun link => ?_) graph.links)
          rw [Link.suffer, kind, given]
          rfl
  | nodeDown =>
      refine relinked ?_
      rw [← Fault.map_suffer_eq_strike kind]
      refine List.map_congr_left fun link _ => ?_
      rw [Link.suffer, kind]

theorem nodes_inject (graph : Graph) (fault : Fault) :
    (graph.inject fault).nodes = graph.nodes := by
  rw [inject_eq]

theorem links_inject (graph : Graph) (fault : Fault) :
    (graph.inject fault).links = fault.strike graph.links := by
  rw [inject_eq]

theorem inject_all_eq (graph : Graph) (faults : List Fault) :
    graph.injectAll faults = { graph with links := strikeAll faults graph.links } := by
  unfold injectAll strikeAll
  induction faults generalizing graph with
  | nil => rfl
  | cons fault rest induction => rw [List.foldl_cons, List.foldl_cons, induction, inject_eq]

theorem nodes_inject_all (graph : Graph) (faults : List Fault) :
    (graph.injectAll faults).nodes = graph.nodes := by
  rw [inject_all_eq]

theorem links_inject_all (graph : Graph) (faults : List Fault) :
    (graph.injectAll faults).links = strikeAll faults graph.links := by
  rw [inject_all_eq]

theorem inject_all_append (graph : Graph) (faults extra : List Fault) :
    graph.injectAll (faults ++ extra) = (graph.injectAll faults).injectAll extra :=
  List.foldl_append

end Graph

theorem Link.suffer_cases (link : Link) (fault : Fault) :
    link.suffer fault = link ∨ link.suffer fault = link.fail ∨
      link.suffer fault = link.degrade (fault.params.getD ⟨none, none⟩) := by
  unfold suffer
  cases fault.kind with
  | linkDown => dsimp only; split <;> simp
  | linkDegraded => dsimp only; split <;> simp
  | nodeDown => dsimp only; split <;> simp

@[simp] theorem Link.id_suffer (link : Link) (fault : Fault) :
    (link.suffer fault).id = link.id := by
  rcases link.suffer_cases fault with same | failed | degraded
  · rw [same]
  · rw [failed, fail]
  · rw [degraded, degrade]

@[simp] theorem Link.ends_suffer (link : Link) (fault : Fault) :
    (link.suffer fault).ends = link.ends := by
  rcases link.suffer_cases fault with same | failed | degraded
  · rw [same]
  · rw [failed]
    rfl
  · rw [degraded]
    rfl

theorem Link.touches_iff {link : Link} {node : String} :
    link.touches node = true ↔ node ∈ link.ends := by
  simp [touches, ends, @eq_comm _ node]

@[simp] theorem Link.touches_suffer (link : Link) (fault : Fault) (node : String) :
    (link.suffer fault).touches node = link.touches node := by
  rw [Bool.eq_iff_iff, touches_iff, touches_iff, ends_suffer]

/-- What a fault breaks on no link holds of all links afterwards. -/
theorem Fault.forall_mem_strike {holds : Link → Prop} {fault : Fault} {links : List Link}
    (kept : ∀ link : Link, holds link → holds (link.suffer fault))
    (before : ∀ link ∈ links, holds link) : ∀ link ∈ fault.strike links, holds link := by
  induction links with
  | nil => exact before
  | cons first rest induction =>
      obtain ⟨holdsOfFirst, holdsOfRest⟩ := List.forall_mem_cons.1 before
      rw [strike, List.forall_mem_cons]
      refine ⟨kept first holdsOfFirst, ?_⟩
      split
      · exact holdsOfRest
      · exact induction holdsOfRest

theorem Graph.forall_mem_inject_all {holds : Link → Prop} {graph : Graph} {faults : List Fault}
    (kept : ∀ fault ∈ faults, ∀ link : Link, holds link → holds (link.suffer fault))
    (before : ∀ link ∈ graph.links, holds link) :
    ∀ link ∈ (graph.injectAll faults).links, holds link := by
  unfold injectAll
  induction faults generalizing graph with
  | nil => exact before
  | cons fault rest induction =>
      refine induction (fun later member => kept later (List.mem_cons_of_mem _ member)) ?_
      rw [links_inject]
      exact Fault.forall_mem_strike (kept fault List.mem_cons_self) before

theorem strike_all_nil (faults : List Fault) : strikeAll faults [] = [] := by
  induction faults with
  | nil => rfl
  | cons fault rest induction => exact induction

/-- The first link suffers all faults; those that it takes for itself never come to the others. -/
theorem strike_all_cons (faults : List Fault) (link : Link) (links : List Link) :
    strikeAll faults (link :: links) =
      faults.foldl Link.suffer link ::
        strikeAll (faults.filter fun fault => !fault.takenBy link.id) links := by
  induction faults generalizing link links with
  | nil => rfl
  | cons fault rest induction =>
      change strikeAll rest (fault.strike (link :: links)) = _
      rw [Fault.strike, induction, Link.id_suffer, List.foldl_cons, List.filter_cons]
      cases fault.takenBy link.id <;> rfl

/-- What a fault sets on the first link with the id, in one of the fields that degradations have. -/
def Fault.sets? (field : FaultParams → Option Float) (fault : Fault) (id : String) :
    Option Float :=
  if fault.kind = .linkDegraded ∧ fault.target = id then fault.params.bind field else none

/-- What the last fault that sets the field on the first link with the id sets it to. -/
def lastSet? (field : FaultParams → Option Float) (faults : List Fault) (id : String) :
    Option Float :=
  (faults.filterMap fun fault => fault.sets? field id).getLast?

/-- The faults that a link takes for itself set nothing on a link with another id, and only they set
anything on a link with its own id. -/
theorem last_set_not_taken (field : FaultParams → Option Float) (faults : List Fault)
    (taker id : String) :
    lastSet? field (faults.filter fun fault => !fault.takenBy taker) id =
      if taker = id then none else lastSet? field faults id := by
  have left (fault : Fault) : (if !fault.takenBy taker then fault.sets? field id else none) =
      if taker = id then none else fault.sets? field id := by
    unfold Fault.sets? Fault.takenBy
    by_cases degrades : fault.kind = .linkDegraded ∧ fault.target = id
    · obtain ⟨kind, rfl⟩ := degrades
      by_cases own : taker = fault.target
      · simp [kind, own]
      · simp [kind, own, Ne.symm own]
    · simp [degrades]
  unfold lastSet?
  rw [List.filterMap_filter]
  simp only [left]
  split
  · rw [List.filterMap_eq_nil_iff.2 fun _ _ => rfl]
    rfl
  · rfl

end NetworkTwin
