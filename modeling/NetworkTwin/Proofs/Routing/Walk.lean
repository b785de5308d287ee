import Mathlib.Data.List.Shortlex
import NetworkTwin.Topology.Routing

/-!
Walks over the links that have not failed. Ids need not tell links apart, so a walk carries the
places of its links among the declared ones beside the route that it takes. Walks are ordered by
their places, shorter ones first and those of one length lexicographically. The walk that comes
first is the only one of its kind, and its route is the one that the search is later shown to find.
-/

namespace NetworkTwin

/-- The order of walks: fewer links first, then the places of the links from the first on. -/
def PlacesLE (first second : List Nat) : Prop :=
  first = second ∨ List.Shortlex (· < ·) first second

namespace PlacesLE

theorem of_length_lt {first second : List Nat} (shorter : first.length < second.length) :
    PlacesLE first second :=
  Or.inr (List.Shortlex.of_length_lt shorter)

theorem refl (places : List Nat) : PlacesLE places places := Or.inl rfl

theorem nil (places : List Nat) : PlacesLE [] places :=
  (List.shortlex_nil_or_eq_nil places).elim Or.inr fun empty => Or.inl empty.symm

private theorem shortlex_trans {first second third : List Nat}
    (earlier : List.Shortlex (· < ·) first second) (later : List.Shortlex (· < ·) second third) :
    List.Shortlex (· < ·) first third := by
  rw [List.shortlex_def] at earlier later ⊢
  rcases earlier with shorter | ⟨sameLength, before⟩
  · left
    omega
  · rcases later with shorter | ⟨sameLength', before'⟩
    · left
      omega
    · right
      exact ⟨sameLength.trans sameLength', List.lex_trans Nat.lt_trans before before'⟩

theorem trans {first second third : List Nat} (earlier : PlacesLE first second)
    (later : PlacesLE second third) : PlacesLE first third := by
  rcases earlier with rfl | earlier
  · exact later
  · rcases later with rfl | later
    · exact Or.inr earlier
    · exact Or.inr (shortlex_trans earlier later)

theorem antisymm {first second : List Nat} (left : PlacesLE first second)
    (right : PlacesLE second first) : first = second := by
  rcases left with same | before
  · exact same
  · rcases right with same | after
    · exact same.symm
    · exact absurd after (Std.Asymm.asymm _ _ before)

theorem length_le {first second : List Nat} (order : PlacesLE first second) :
    first.length ≤ second.length := by
  rcases order with rfl | before
  · exact Nat.le_refl _
  · rcases List.shortlex_def.1 before with shorter | ⟨sameLength, _⟩ <;> omega

theorem lex_of_length_eq {first second : List Nat} (order : PlacesLE first second)
    (sameLength : first.length = second.length) : first = second ∨ List.Lex (· < ·) first second :=
  order.imp_right (List.shortlex_iff_lex sameLength).1

theorem append_right (places : List Nat) (place : Nat) : PlacesLE places (places ++ [place]) :=
  of_length_lt (by simp)

private theorem lex_append {first second : List Nat} (left right : List Nat)
    (before : List.Lex (· < ·) first second) (sameLength : first.length = second.length) :
    List.Lex (· < ·) (first ++ left) (second ++ right) := by
  induction before with
  | nil => simp at sameLength
  | rel less => exact List.Lex.rel less
  | cons _ induction => exact List.Lex.cons (induction (by simpa using sameLength))

/-- A walk that comes first still does so after one more link, unless both were one walk. -/
theorem append_of_ne {first second : List Nat} (order : PlacesLE first second)
    (different : first ≠ second) (left right : Nat) :
    PlacesLE (first ++ [left]) (second ++ [right]) := by
  rcases order with same | before
  · exact absurd same different
  · right
    rcases List.shortlex_def.1 before with shorter | ⟨sameLength, lexBefore⟩
    · exact List.Shortlex.of_length_lt (by simpa using shorter)
    · exact List.Shortlex.of_lex (by simp [sameLength]) (lex_append _ _ lexBefore sameLength)

/-- One walk with two last links: the link that is declared first decides. -/
theorem append_last (places : List Nat) {left right : Nat} (order : left ≤ right) :
    PlacesLE (places ++ [left]) (places ++ [right]) := by
  rcases Nat.eq_or_lt_of_le order with rfl | less
  · exact refl _
  · have before := (List.shortlex_singleton_iff left right).2 less
    exact Or.inr (List.Shortlex.append_left before places)

theorem append_same {first second : List Nat} (order : PlacesLE first second) (place : Nat) :
    PlacesLE (first ++ [place]) (second ++ [place]) := by
  by_cases same : first = second
  · rw [same]
    exact refl _
  · exact append_of_ne order same place place

end PlacesLE

/-- Whether a link leads from one node to another, in either direction. -/
def Link.Joins (link : Link) (first second : String) : Prop :=
  (link.source = first ∧ link.target = second) ∨ (link.source = second ∧ link.target = first)

namespace Link

variable {link : Link} {first second : String}

theorem joins_right_unique {third : String} (joins : link.Joins first second)
    (joins' : link.Joins first third) : second = third := by
  rcases joins with ⟨rfl, rfl⟩ | ⟨rfl, rfl⟩ <;> rcases joins' with ⟨same, rfl⟩ | ⟨rfl, same⟩ <;>
    simp_all

theorem Joins.symm (joins : link.Joins first second) : link.Joins second first := Or.symm joins

theorem mem_hops_from {node : String} {hop : Hop} :
    hop ∈ link.hopsFrom node ↔ hop.link = link.id ∧ link.Joins node hop.node := by
  rcases hop with ⟨next, id⟩
  simp only [hopsFrom, Joins, List.mem_append]
  constructor
  · rintro (member | member)
    · split at member <;> simp_all
    · split at member <;> simp_all
  · rintro ⟨rfl, ⟨sameSource, sameTarget⟩ | ⟨sameSource, sameTarget⟩⟩
    · left
      simp [sameSource, sameTarget]
    · right
      simp [sameSource, sameTarget]

end Link

namespace Route

def extend (route : Route) (node link : String) : Route :=
  ⟨route.path ++ [node], route.links ++ [link]⟩

@[simp] theorem hops_extend (route : Route) (node link : String) :
    (route.extend node link).hops = route.hops + 1 := by
  simp [hops, extend]

def EndsAt (route : Route) (node : String) : Prop := route.path.getLast? = some node

@[simp] theorem stay_ends_at {source node : String} :
    (stay source).EndsAt node ↔ source = node := by
  simp [stay, EndsAt]

@[simp] theorem extend_ends_at {route : Route} {next link node : String} :
    (route.extend next link).EndsAt node ↔ next = node := by
  simp [extend, EndsAt]

theorem ends_at_unique {route : Route} {first second : String} (left : route.EndsAt first)
    (right : route.EndsAt second) : first = second :=
  Option.some.inj (left.symm.trans right)

theorem EndsAt.mem {route : Route} {node : String} (ends : route.EndsAt node) : node ∈ route.path :=
  List.mem_of_getLast? ends

theorem EndsAt.path_eq {route : Route} {node : String} (ends : route.EndsAt node) :
    route.path = route.path.dropLast ++ [node] :=
  (List.dropLast_append_getLast? node ends).symm

end Route

namespace Graph

/-- A walk from a node on over links that have not failed: its route and the places of its links. -/
inductive Walk (graph : Graph) (source : String) : Route → List Nat → Prop
  | stay : Walk graph source (Route.stay source) []
  | extend {route : Route} {places : List Nat} {node next : String} {place : Nat} {link : Link}
      (walk : Walk graph source route places) (ends : route.EndsAt node)
      (found : graph.links[place]? = some link) (live : link.failed = false)
      (joins : link.Joins node next) :
      Walk graph source (route.extend next link.id) (places ++ [place])

/-- A walk from one node to another that leaves declared nodes only. Its last node may be any. -/
structure Leads (graph : Graph) (source target : String) (route : Route) (places : List Nat) :
    Prop where
  walk : graph.Walk source route places
  ends : route.EndsAt target
  departs : ∀ node ∈ route.path.dropLast, graph.declares node = true

/-- A walk from one node to another all of whose nodes are declared. -/
structure Connects (graph : Graph) (source target : String) (route : Route) (places : List Nat) :
    Prop where
  walk : graph.Walk source route places
  ends : route.EndsAt target
  declared : ∀ node ∈ route.path, graph.declares node = true

/-- The first of the walks from one node to another. -/
structure LeadsFirst (graph : Graph) (source target : String) (route : Route) (places : List Nat) :
    Prop extends graph.Leads source target route places where
  first : ∀ other otherPlaces, graph.Leads source target other otherPlaces →
    PlacesLE places otherPlaces

end Graph

namespace Graph.Walk

variable {graph : Graph} {source : String} {route : Route} {places : List Nat}

theorem path_length (walk : graph.Walk source route places) :
    route.path.length = places.length + 1 := by
  induction walk with
  | stay => rfl
  | extend _ _ _ _ _ induction => simp [Route.extend, induction]

theorem links_length (walk : graph.Walk source route places) :
    route.links.length = places.length := by
  induction walk with
  | stay => rfl
  | extend _ _ _ _ _ induction => simp [Route.extend, induction]

theorem path_head (walk : graph.Walk source route places) : route.path.head? = some source := by
  induction walk with
  | stay => rfl
  | extend _ ends _ _ _ induction =>
      simp only [Route.extend, List.head?_append, induction, Option.some_or]

theorem of_nil (walk : graph.Walk source route []) : route = Route.stay source := by
  generalize same : ([] : List Nat) = all at walk
  cases walk with
  | stay => rfl
  | extend => simp at same

theorem of_append {place : Nat} (walk : graph.Walk source route (places ++ [place])) :
    ∃ before node next link, graph.Walk source before places ∧ before.EndsAt node ∧
      graph.links[place]? = some link ∧ link.failed = false ∧ link.Joins node next ∧
      route = before.extend next link.id := by
  generalize same : places ++ [place] = all at walk
  cases walk with
  | stay => simp at same
  | extend walk ends found live joins =>
      obtain ⟨samePlaces, samePlace⟩ := List.append_inj' same rfl
      subst samePlaces
      obtain rfl : place = _ := List.singleton_inj.1 samePlace
      exact ⟨_, _, _, _, walk, ends, found, live, joins, rfl⟩

/-- The places determine the walk, because a link and one of its ends determine the other end. -/
theorem route_unique {other : Route} (walk : graph.Walk source route places)
    (walk' : graph.Walk source other places) : route = other := by
  induction walk generalizing other with
  | stay => exact walk'.of_nil.symm
  | extend _ ends found _ joins induction =>
      obtain ⟨before, node, next, link, shorter, ends', found', _, joins', rfl⟩ := walk'.of_append
      obtain rfl := induction shorter
      obtain rfl := Option.some.inj (found.symm.trans found')
      obtain rfl := Route.ends_at_unique ends ends'
      rw [Link.joins_right_unique joins joins']

theorem joins_along (walk : graph.Walk source route places) (index : Nat) {place : Nat}
    (here : places[index]? = some place) :
    ∃ link first second, graph.links[place]? = some link ∧ link.failed = false ∧
      link.Joins first second ∧ route.links[index]? = some link.id ∧
      route.path[index]? = some first ∧ route.path[index + 1]? = some second := by
  induction walk with
  | stay => simp at here
  | @extend route places node next last link walk ends found live joins induction =>
      have pathLength := walk.path_length
      have linksLength := walk.links_length
      rcases Nat.lt_trichotomy index places.length with before | atEnd | beyond
      · rw [List.getElem?_append_left before] at here
        obtain ⟨link, first, second, found, live, joins, id, left, right⟩ := induction here
        refine ⟨link, first, second, found, live, joins, ?_, ?_, ?_⟩
        · exact (List.getElem?_append_left (by omega)).trans id
        · exact (List.getElem?_append_left (by omega)).trans left
        · exact (List.getElem?_append_left (by omega)).trans right
      · subst atEnd
        obtain rfl : last = place := by simpa using here
        refine ⟨link, node, next, found, live, joins, ?_, ?_, ?_⟩
        · simp [Route.extend, ← linksLength]
        · rw [Route.extend, List.getElem?_append_left (by omega), ← ends, List.getLast?_eq_getElem?,
            pathLength]
          rfl
        · simp [Route.extend, ← pathLength]
      · rw [List.getElem?_eq_none (by simp; omega)] at here
        simp at here

end Graph.Walk

namespace Graph

variable {graph : Graph} {source target : String} {route : Route} {places : List Nat}

theorem LeadsFirst.unique {other : Route} {otherPlaces : List Nat}
    (leads : graph.LeadsFirst source target route places)
    (leads' : graph.LeadsFirst source target other otherPlaces) :
    route = other ∧ places = otherPlaces := by
  have same : places = otherPlaces :=
    PlacesLE.antisymm (leads.first _ _ leads'.toLeads) (leads'.first _ _ leads.toLeads)
  subst same
  exact ⟨leads.walk.route_unique leads'.walk, rfl⟩

theorem LeadsFirst.hops_le {other : Route} {otherPlaces : List Nat}
    (leads : graph.LeadsFirst source target route places)
    (leads' : graph.Leads source target other otherPlaces) : route.hops ≤ other.hops := by
  rw [Route.hops, Route.hops, leads.walk.links_length, leads'.walk.links_length]
  exact (leads.first other otherPlaces leads').length_le

theorem leads_first_stay (graph : Graph) (source : String) :
    graph.LeadsFirst source source (Route.stay source) [] where
  walk := .stay
  ends := Route.stay_ends_at.2 rfl
  departs := by simp [Route.stay]
  first _ _ _ := PlacesLE.nil _

/-- To a declared node, the walks that leave declared nodes only are those among declared nodes. -/
theorem leads_iff_connects (declared : graph.declares target = true) :
    graph.Leads source target route places ↔ graph.Connects source target route places := by
  constructor
  · rintro ⟨walk, ends, departs⟩
    refine ⟨walk, ends, fun node member => ?_⟩
    rw [ends.path_eq] at member
    rcases List.mem_append.1 member with left | last
    · exact departs node left
    · rw [List.mem_singleton.1 last]
      exact declared
  · rintro ⟨walk, ends, declares⟩
    exact ⟨walk, ends, fun node member => declares node (List.dropLast_subset _ member)⟩

theorem Leads.source_declared (leads : graph.Leads source target route places)
    (different : source ≠ target) : graph.declares source = true := by
  have head := leads.walk.path_head
  rw [leads.ends.path_eq] at head
  cases departures : route.path.dropLast with
  | nil =>
      rw [departures] at head
      exact absurd (by simpa using head.symm) different
  | cons first rest =>
      rw [departures] at head
      obtain rfl : first = source := by simpa using head
      exact leads.departs first (departures ▸ List.mem_cons_self)

end Graph

end NetworkTwin
