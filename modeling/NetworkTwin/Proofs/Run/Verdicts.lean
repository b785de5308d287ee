import NetworkTwin.Proofs.Routing.Closed
import NetworkTwin.Proofs.Run.Attacks

/-!
What a verdict tells. An attack on a target meets one of three things: no route, a first firewall,
or neither. The verdict tells the first two apart by one text, which is the id of the firewall or a
word that stands for isolation. Nothing keeps a firewall from having that word as its id, and then,
and only then, a verdict tells that the target is isolated while there is a route to it.
-/

namespace NetworkTwin

namespace Graph

/-- The firewall that an attack runs into: there is a route, and it is the first firewall on it. -/
def Guards (graph : Graph) (source target : String) (firewall : Node) : Prop :=
  ∃ route, graph.findPath source target = some route ∧ graph.FirstFirewall route.path firewall

/-- The verdict that is due to an attack, for each of the three things that it can meet. -/
inductive Warrants (graph : Graph) (source target : String) : Verdict → Prop
  | isolated (noRoute : graph.findPath source target = none) :
      Warrants graph source target (.stoppedBy Verdict.isolation)
  | stopped {firewall : Node} (guards : graph.Guards source target firewall) :
      Warrants graph source target (.stoppedBy firewall.id)
  | passed {route : Route} (found : graph.findPath source target = some route)
      (free : ∀ node ∈ graph.nodes, node.isFirewall = true → node.id ∉ route.path) :
      Warrants graph source target .succeeded

variable {graph : Graph} {source target : String} {attack : AttackEvent}

theorem resolve_attack_warranted (aimed : attack.target = some target) :
    graph.Warrants attack.source target (graph.resolveAttack attack) := by
  cases found : graph.findPath attack.source target with
  | none =>
      rw [resolve_attack_of_no_route aimed found]
      exact .isolated found
  | some route =>
      cases guarded : graph.firewallOn? route.path with
      | none =>
          rw [resolve_attack_of_free aimed found guarded]
          exact .passed found (firewall_on_eq_none_iff.1 guarded)
      | some firewall =>
          rw [resolve_attack_of_guarded aimed found guarded]
          exact .stopped ⟨route, found, first_of_firewall_on guarded⟩

theorem warrants_iff (aimed : attack.target = some target) {verdict : Verdict} :
    graph.Warrants attack.source target verdict ↔ graph.resolveAttack attack = verdict := by
  constructor
  · intro warrants
    cases warrants with
    | isolated noRoute => exact resolve_attack_of_no_route aimed noRoute
    | stopped guards =>
        obtain ⟨route, found, first⟩ := guards
        exact resolve_attack_of_guarded aimed found (firewall_on_eq_some_iff.2 first)
    | passed found free =>
        exact resolve_attack_of_free aimed found (firewall_on_eq_none_iff.2 free)
  · rintro rfl
    exact resolve_attack_warranted aimed

theorem blocked_by_iff (aimed : attack.target = some target) {obstacle : String} :
    (graph.resolveAttack attack).blockedBy = some obstacle ↔
      (graph.findPath attack.source target = none ∧ obstacle = Verdict.isolation) ∨
        ∃ firewall, graph.Guards attack.source target firewall ∧ firewall.id = obstacle := by
  constructor
  · intro named
    cases verdict : graph.resolveAttack attack
    rw [verdict] at named
    cases (warrants_iff aimed).2 verdict with
    | isolated noRoute => exact Or.inl ⟨noRoute, (Option.some.inj named).symm⟩
    | stopped guards => exact Or.inr ⟨_, guards, Option.some.inj named⟩
    | passed => cases named
  · rintro (⟨noRoute, rfl⟩ | ⟨firewall, guards, rfl⟩)
    · rw [(warrants_iff aimed).1 (.isolated noRoute)]
      rfl
    · rw [(warrants_iff aimed).1 (.stopped guards)]
      rfl

/-- A verdict tells why an attack on a target is stopped. It names isolation if and only if there is
no route, or the first firewall on the route goes by that name. Any other obstacle is the first
firewall on the route. On a valid topology there is no route if and only if no walk over live links
leads to the target. -/
theorem verdict_gives_cause_but_for_namesakes (valid : graph.validate.valid = true)
    (aimed : attack.target = some target) :
    ((graph.resolveAttack attack).blockedBy = some Verdict.isolation ↔
        graph.findPath attack.source target = none ∨
          ∃ firewall, graph.Guards attack.source target firewall ∧
            firewall.id = Verdict.isolation) ∧
      (∀ obstacle, (graph.resolveAttack attack).blockedBy = some obstacle →
        obstacle ≠ Verdict.isolation →
          ∃ firewall, graph.Guards attack.source target firewall ∧ firewall.id = obstacle) ∧
      (graph.findPath attack.source target = none ↔
        ∀ route places, graph.Walk attack.source route places → ¬ route.EndsAt target) := by
  refine ⟨?_, ?_, (closed_of_valid valid).find_path_eq_none_iff⟩
  · rw [blocked_by_iff aimed]
    simp only [and_true]
  · intro obstacle named other
    rcases (blocked_by_iff aimed).1 named with ⟨_, isolation⟩ | guarded
    · exact absurd isolation other
    · exact guarded

/-- The scan of the database at the office is stopped at the perimeter. -/
theorem verdict_gives_cause_but_for_namesakes_office :
    let scan := (AttackEvent.plain "recon" .reconScan "isp").withTarget "db1"
    Sample.office.validate.valid = true ∧ scan.target = some "db1" ∧
      ∃ firewall, Sample.office.Guards "isp" "db1" firewall ∧ firewall.id = "fw1" := by
  intro scan
  have valid : Sample.office.validate.valid = true := by decide +kernel
  have stopped : (Sample.office.resolveAttack scan).blockedBy = some "fw1" := by decide +kernel
  have aimed : scan.target = some "db1" := rfl
  have cause := verdict_gives_cause_but_for_namesakes valid aimed
  exact ⟨valid, aimed, cause.2.1 "fw1" stopped (by decide)⟩

/-- A row of four, with a firewall that has the word for isolation as its id. -/
def misnamed : Graph :=
  Graph.empty
    |>.addNode (.plain "a" .workstation "A")
    |>.addNode (.plain Verdict.isolation .firewall "Outer Firewall")
    |>.addNode (.plain "fw1" .firewall "Inner Firewall")
    |>.addNode (.plain "b" .server "B")
    |>.addLink (.plain "l1" "a" Verdict.isolation)
    |>.addLink (.plain "l2" Verdict.isolation "fw1")
    |>.addLink (.plain "l3" "fw1" "b")

/-- The topology is valid and there is a route, but the verdict is that the target is isolated. -/
theorem firewall_passes_for_isolation :
    let scan := (AttackEvent.plain "scan" .reconScan "a").withTarget "b"
    misnamed.validate.valid = true ∧ scan.target = some "b" ∧
      ¬ ((misnamed.resolveAttack scan).blockedBy = some Verdict.isolation ↔
        misnamed.findPath scan.source "b" = none) := by
  intro scan
  have isolated : (misnamed.resolveAttack scan).blockedBy = some Verdict.isolation := by
    decide +kernel
  have route : misnamed.findPath scan.source "b" =
      some ⟨["a", Verdict.isolation, "fw1", "b"], ["l1", "l2", "l3"]⟩ := by decide +kernel
  refine ⟨by decide +kernel, rfl, fun claimed => ?_⟩
  have none := claimed.1 isolated
  rw [route] at none
  cases none

end Graph

end NetworkTwin
