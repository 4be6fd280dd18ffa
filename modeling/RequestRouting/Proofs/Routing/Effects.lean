import Mathlib.Data.List.FinRange
import RequestRouting.Proofs.Routing.Conditions
import RequestRouting.Proofs.Routing.FirstMatch

/-!
# What answering a request changes

Only the predicate of the first route that takes a request may remember more afterwards, and it does
so for a path that it was not asked for before. This shows in each route that holds the predicate.
Nothing is reported unless the URI of the request is refused, and then each test that needs the path
says so, and the extraction once more.
-/

namespace RequestRouting

namespace PathCriteria

/-- The test of such a predicate needs the path of the request: its method is GET and it has a
template, and the clauses before that one hold. -/
def readsPath (p : PathCriteria) (r : Request) : Bool :=
  p.isGet && p.template.isSome && p.protocol.all (fun text => r.protocol == some text) &&
    r.method == some getMethod

theorem events_evaluate_template (p : PathCriteria) (r : Request) :
    (Condition.evaluateAll r (p.template.map fun t =>
      .clause (if p.isGet then .path else .uri) (.template t.compiled)).toList).events =
      if p.isGet && p.template.isSome then r.path.2 else [] := by
  cases p.template with
  | none => simp [Condition.evaluateAll]
  | some t =>
    rw [Option.map_some, Option.toList_some, Condition.evaluateAll_singleton, Condition.evaluate,
      Condition.evaluateClause]
    cases p.isGet <;> rfl

theorem events_evaluate (p : PathCriteria) (r : Request) :
    (p.condition.evaluate r).events = if p.readsPath r then r.path.2 else [] := by
  have hprotocol := Condition.evaluateAll_exactly r .protocol rfl p.protocol
  have hmethod := Condition.evaluateAll_exactly r .method rfl p.method
  have htemplate := events_evaluate_template p r
  have hget : p.isGet = true → p.method = some getMethod := fun h => eq_of_beq h
  rw [condition, Condition.evaluate_join, clauses, Condition.evaluateAll_append,
    Condition.evaluateAll_append, hprotocol, hmethod, readsPath]
  cases hp : p.protocol.all fun text => r.protocol == some text with
  | false => simp
  | true =>
    cases hm : p.method.all fun text => r.method == some text with
    | false =>
      cases hg : p.isGet with
      | false => simp [Evaluation.andThen]
      | true =>
        rw [hget hg, Option.all_some] at hm
        simp [Evaluation.andThen, hm]
    | true =>
      simp only [Evaluation.andThen, if_true, List.nil_append, htemplate, Bool.and_true]
      cases hg : p.isGet with
      | false => simp
      | true =>
        rw [hget hg, Option.all_some] at hm
        simp [hm]

end PathCriteria

namespace Predicate

def isGet : Predicate → Bool
  | path criteria => criteria.isGet
  | start _ => false

def readsPath (p : Predicate) (r : Request) : Bool :=
  match p with
  | path criteria => criteria.readsPath r
  | start _ => false

theorem events_test (p : Predicate) (r : Request) :
    (p.test r).events =
      match Uri.split r.uri with
      | .ok _ => []
      | .error fault => if p.readsPath r then [.pathUnavailable r.uri fault.message] else [] := by
  cases p with
  | path criteria =>
    rw [test, condition, PathCriteria.events_evaluate, Request.path, readsPath]
    cases Uri.split r.uri <;> simp
  | start criteria =>
    have hmethod := Condition.evaluateAll_exactly r .method rfl criteria.method
    have hevents : (criteria.condition.evaluate r).events = [] := by
      rw [StartCriteria.condition, Condition.evaluate_join, StartCriteria.clauses,
        Condition.evaluateAll_append, hmethod, Condition.evaluateAll_singleton]
      split <;> rfl
    rw [test, condition, hevents, readsPath]
    cases Uri.split r.uri <;> rfl

end Predicate

variable {α : Type}

theorem Route.held_answered {n : Nat} (predicates : Vector Predicate n) (r : Request)
    (route other : Route n α) :
    other.held (route.answered predicates r) =
      if other.place = route.place then ((other.held predicates).extract r).predicate
      else other.held predicates := by
  rw [answered, held_replace]
  split
  · next h => rw [held_of_place_eq h]
  · rfl

namespace Router

def first? (router : Router α) (r : Request) : Option Nat := router.pairs.findIdx? (·.1.takes r)

def tested (router : Router α) (r : Request) : List (Predicate × α) :=
  match router.first? r with
  | some i => router.pairs.take (i + 1)
  | none => router.pairs

def place? (router : Router α) (i : Nat) : Option (Fin router.count) :=
  (router.routes.map (·.place))[i]?

def predicate? (router : Router α) (i : Nat) : Option Predicate := router.pairs[i]?.map (·.1)

/-- The route at a position holds the predicate of the route that answers a request: it is that
route, or shares the predicate with it. -/
def HoldsAnswering (router : Router α) (i : Nat) (r : Request) : Prop :=
  ∃ first, router.first? r = some first ∧ router.place? i = router.place? first

/-- A request asks the template of this predicate for the variables of a path. -/
def Asks (router : Router α) (i : Nat) (r : Request) (path : String) : Prop :=
  router.HoldsAnswering i r ∧ ∃ p, router.predicate? i = some p ∧ p.asksFor? r = some path

def Remembers (router : Router α) (i : Nat) (path : String) : Prop :=
  ∃ p, router.predicate? i = some p ∧ p.Remembers path

def after (router : Router α) (requests : List Request) : Router α :=
  requests.foldl (fun router r => (router.handle r).router) router

theorem fresh_after (router : Router α) (requests : List Request) :
    (router.after requests).fresh = router.fresh := by
  induction requests generalizing router with
  | nil => rfl
  | cons r requests ih => exact (ih (router.handle r).router).trans (fresh_handle router r)

section Fresh

variable (router : Router α) (r : Request)

theorem pairs_fresh : router.fresh.pairs = router.pairs.map fun pair => (pair.1.fresh, pair.2) := by
  rw [pairs, pairs, List.map_map]
  apply List.map_congr_left
  intro route _
  exact congrArg (·, route.action) (Route.held_map _ _ _)

theorem first?_fresh : router.fresh.first? r = router.first? r := by
  rw [first?, first?, pairs_fresh, List.findIdx?_map]
  congr 1
  funext pair
  exact pair.1.takes_fresh r

theorem predicate?_fresh (i : Nat) :
    router.fresh.predicate? i = (router.predicate? i).map (·.fresh) := by
  rw [predicate?, predicate?, pairs_fresh]
  simp [Function.comp_def]

theorem holdsAnswering_fresh {i : Nat} :
    router.fresh.HoldsAnswering i r ↔ router.HoldsAnswering i r := by
  rw [HoldsAnswering, HoldsAnswering, first?_fresh]
  exact Iff.rfl

theorem asks_fresh {i : Nat} {path : String} :
    router.fresh.Asks i r path ↔ router.Asks i r path := by
  rw [Asks, Asks, holdsAnswering_fresh, predicate?_fresh]
  simp [Predicate.asksFor?_fresh]

end Fresh

theorem asks_after {router : Router α} {i : Nat} {r : Request} {path : String}
    (earlier : List Request) : (router.after earlier).Asks i r path ↔ router.Asks i r path := by
  rw [← asks_fresh, fresh_after, asks_fresh]

section Step

variable {router : Router α} {r : Request} {before : List (Route router.count α)}
  {route : Route router.count α}

theorem Answers.first? (h : router.Answers r before route) :
    router.first? r = some before.length := by
  obtain ⟨⟨later, hroutes⟩, hbefore, htakes⟩ := h
  have hskipped : (before.map (·.pair router.predicates)).findIdx? (·.1.takes r) = none :=
    List.findIdx?_eq_none_iff.2 (List.forall_mem_map.2 hbefore)
  have hfound : (route.pair router.predicates).1.takes r = true := htakes
  rw [Router.first?, pairs, hroutes, List.map_append, List.findIdx?_append, hskipped,
    List.map_cons, List.findIdx?_cons, hfound]
  simp

theorem Answers.tested (h : router.Answers r before route) :
    router.tested r = (before ++ [route]).map (·.pair router.predicates) := by
  obtain ⟨later, hroutes⟩ := h.split
  rw [Router.tested, h.first?, pairs, hroutes]
  dsimp only
  rw [← List.map_take, List.take_length_add_append 1]
  rfl

theorem Answers.find? (h : router.Answers r before route) :
    router.pairs.find? (·.1.takes r) = some (route.pair router.predicates) := by
  obtain ⟨⟨later, hroutes⟩, hbefore, htakes⟩ := h
  have hskipped : (before.map (·.pair router.predicates)).find? (·.1.takes r) = none :=
    List.find?_eq_none.2 (List.forall_mem_map.2 fun other hother =>
      ne_true_of_eq_false (hbefore other hother))
  have hfound : (route.pair router.predicates).1.takes r = true := htakes
  rw [pairs, hroutes, List.map_append, List.find?_append, hskipped, List.map_cons,
    List.find?_cons, hfound, Option.none_or]

theorem NoneAnswers.find? (h : router.NoneAnswers r) :
    router.pairs.find? (·.1.takes r) = none :=
  List.find?_eq_none.2 (List.forall_mem_map.2 fun route hroute =>
    ne_true_of_eq_false (h route hroute))

theorem NoneAnswers.first? (h : router.NoneAnswers r) : router.first? r = none :=
  List.findIdx?_eq_none_iff.2 (List.forall_mem_map.2 h)

theorem Answers.holdsAnswering_iff (h : router.Answers r before route) {i : Nat} :
    router.HoldsAnswering i r ↔
      ∃ other, router.routes[i]? = some other ∧ other.place = route.place := by
  obtain ⟨later, hroutes⟩ := h.split
  have hplace : router.place? before.length = some route.place := by simp [place?, hroutes]
  simp only [HoldsAnswering, h.first?, Option.some.injEq, exists_eq_left', hplace]
  simp [place?]

theorem predicate?_eq (router : Router α) (i : Nat) :
    router.predicate? i = router.routes[i]?.map (·.held router.predicates) := by
  simp [predicate?, pairs, Route.pair, Function.comp_def]

theorem Answers.predicate?_handle (h : router.Answers r before route) (i : Nat) :
    (router.handle r).router.predicate? i =
      router.routes[i]?.map (·.held (route.answered router.predicates r)) := by
  rw [h.handle, predicate?_eq]

/-- A request touches the predicate of the route that answers it. -/
theorem predicate?_handle_of_holds {i : Nat} (h : router.HoldsAnswering i r) :
    (router.handle r).router.predicate? i =
      (router.predicate? i).map fun p => (p.extract r).predicate := by
  rcases exists_answers_or_noneAnswers router r with ⟨before, route, ha⟩ | hn
  · obtain ⟨other, hother, hplace⟩ := ha.holdsAnswering_iff.1 h
    rw [ha.predicate?_handle, predicate?_eq, hother, Option.map_some,
      Route.held_answered, if_pos hplace]
    rfl
  · obtain ⟨first, hfirst, -⟩ := h
    cases hn.first?.symm.trans hfirst

theorem predicate?_handle_of_not_holds {i : Nat} (h : ¬ router.HoldsAnswering i r) :
    (router.handle r).router.predicate? i = router.predicate? i := by
  rcases exists_answers_or_noneAnswers router r with ⟨before, route, ha⟩ | hn
  · rw [ha.predicate?_handle, predicate?_eq]
    cases hi : router.routes[i]? with
    | none => rfl
    | some other =>
      have hplace : other.place ≠ route.place :=
        fun he => h (ha.holdsAnswering_iff.2 ⟨other, hi, he⟩)
      rw [Option.map_some, Route.held_answered, if_neg hplace]
      rfl
  · rw [hn.handle]

theorem remembers_handle {i : Nat} {path : String} :
    (router.handle r).router.Remembers i path ↔ router.Remembers i path ∨ router.Asks i r path := by
  rw [Remembers, Remembers, Asks]
  by_cases h : router.HoldsAnswering i r
  · rw [predicate?_handle_of_holds h]
    cases hi : router.predicate? i with
    | none => simp
    | some p => simp [h, Predicate.remembers_extract]
  · rw [predicate?_handle_of_not_holds h]
    simp [h]

end Step

/-- What is remembered was there at the outset or has been asked for since. -/
theorem remembers_after {router : Router α} {i : Nat} {path : String} (earlier : List Request) :
    (router.after earlier).Remembers i path ↔
      router.Remembers i path ∨ ∃ e ∈ earlier, router.Asks i e path := by
  induction earlier generalizing router with
  | nil => simp [after]
  | cons r earlier ih =>
    have hasks : ∀ e, (router.handle r).router.Asks i e path ↔ router.Asks i e path :=
      fun e => asks_after [r]
    rw [after, List.foldl_cons, ← after, ih, remembers_handle]
    simp only [hasks, List.exists_mem_cons_iff, or_assoc]

end Router

end RequestRouting
