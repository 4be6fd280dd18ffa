import RequestRouting.Predicate

/-!
# Routers

Routes are asked in order and the first one that takes the request answers; later ones are not
asked. Without such a route the fallback answers, if there is one. What is remembered belongs to
the predicates, and several routes may hold one predicate.
-/

namespace RequestRouting

/-- A route holds one of `n` predicates, named by its place among them. -/
structure Route (n : Nat) (α : Type) where
  place : Fin n
  action : α
  deriving DecidableEq, Repr

structure Router (α : Type) where
  {count : Nat}
  predicates : Vector Predicate count
  routes : List (Route count α)
  fallback : Option α

structure Answer (α : Type) where
  action : α
  «variables» : Variables := []
  deriving DecidableEq, Repr

structure Lookup (n : Nat) (α : Type) where
  answer : Option (Answer α)
  events : List Event
  predicates : Vector Predicate n

structure Outcome (α : Type) where
  answer : Option (Answer α)
  events : List Event
  router : Router α

namespace Route

variable {n : Nat} {α : Type}

def held (predicates : Vector Predicate n) (route : Route n α) : Predicate :=
  predicates[route.place]

def replace (predicates : Vector Predicate n) (route : Route n α) (p : Predicate) :
    Vector Predicate n :=
  predicates.set route.place p

theorem held_of_place_eq {route other : Route n α} (h : other.place = route.place)
    (predicates : Vector Predicate n) : other.held predicates = route.held predicates := by
  simp only [held, h]

theorem held_mem (predicates : Vector Predicate n) (route : Route n α) :
    route.held predicates ∈ predicates :=
  Vector.getElem_mem _

theorem held_map (f : Predicate → Predicate) (predicates : Vector Predicate n)
    (route : Route n α) : route.held (predicates.map f) = f (route.held predicates) :=
  Vector.getElem_map _ _

theorem held_replace (predicates : Vector Predicate n) (route other : Route n α) (p : Predicate) :
    other.held (route.replace predicates p) =
      if other.place = route.place then p else other.held predicates := by
  simp only [held, replace, Fin.getElem_fin, Vector.getElem_set, Fin.ext_iff, eq_comm]

theorem map_replace {β : Type} {f : Predicate → β} {predicates : Vector Predicate n}
    {route : Route n α} {p : Predicate} (h : f p = f (route.held predicates)) :
    (route.replace predicates p).map f = predicates.map f := by
  ext i hi
  rw [Vector.getElem_map, Vector.getElem_map, replace, Vector.getElem_set]
  split
  · next heq =>
    subst heq
    exact h
  · rfl

theorem mem_replace {predicates : Vector Predicate n} {route : Route n α} {p q : Predicate}
    (h : q ∈ route.replace predicates p) : q ∈ predicates ∨ q = p :=
  Vector.mem_or_eq_of_mem_set h

def pair (predicates : Vector Predicate n) (route : Route n α) : Predicate × α :=
  (route.held predicates, route.action)

/-- The answer of the first route that takes the request. -/
def lookup (r : Request) (predicates : Vector Predicate n) : List (Route n α) → Lookup n α
  | [] => ⟨none, [], predicates⟩
  | route :: rest =>
    let tested := (route.held predicates).test r
    if tested.result then
      let extracted := (route.held predicates).extract r
      ⟨some ⟨route.action, extracted.variables.getD []⟩, tested.events ++ extracted.events,
        route.replace predicates extracted.predicate⟩
    else
      let later := lookup r predicates rest
      ⟨later.answer, tested.events ++ later.events, later.predicates⟩

end Route

namespace Router

variable {α : Type}

/-- A router in which every route has a predicate of its own. -/
def ofPairs (pairs : List (Predicate × α)) (fallback : Option α) : Router α where
  predicates := .ofFn fun i : Fin pairs.length => pairs[i].1
  routes := .ofFn fun i : Fin pairs.length => ⟨i, pairs[i].2⟩
  fallback := fallback

def pairs (router : Router α) : List (Predicate × α) :=
  router.routes.map (·.pair router.predicates)

theorem pairs_ofPairs (pairs : List (Predicate × α)) (fallback : Option α) :
    (ofPairs pairs fallback).pairs = pairs := by
  have hpair : ∀ i : Fin pairs.length,
      Route.pair (.ofFn fun i : Fin pairs.length => pairs[i].1) ⟨i, pairs[i].2⟩ = pairs[i] := by
    intro i
    simp [Route.pair, Route.held]
  rw [Router.pairs, ofPairs, List.map_ofFn]
  exact (congrArg List.ofFn (funext hpair)).trans List.ofFn_getElem

/-- Answers a request. Only the predicate of the route that took it may remember more afterwards. -/
def handle (router : Router α) (r : Request) : Outcome α :=
  let found := Route.lookup r router.predicates router.routes
  ⟨found.answer.orElse fun _ => router.fallback.map (⟨·, []⟩), found.events,
    { router with predicates := found.predicates }⟩

def size (router : Router α) : Nat := router.routes.length

def memoSizes (router : Router α) : List (Option Nat) := router.pairs.map (·.1.memoSize?)

end Router

end RequestRouting
