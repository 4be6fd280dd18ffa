import RequestRouting.Proofs.Routing.Memory
import RequestRouting.Proofs.Template.Compilation
import RequestRouting.Router

/-!
# The first route that takes a request

Looking a request up ends at the first route that takes it, and only the predicate of this route
is changed. Over a run of requests the predicates only remember more, so every request gets the
answer that a newly built router gives it.
-/

namespace RequestRouting

section Grammatical

open Template (Token Grammatical names)

variable {tokens : List Token}

def PathTemplate.ofTokens (h : Grammatical tokens) (hd : (names tokens).Nodup) : PathTemplate :=
  ⟨Template.source tokens, Template.compiledChoice [tokens], Template.compile_grammatical h hd, []⟩

def Predicate.ofTokens (h : Grammatical tokens) (hd : (names tokens).Nodup)
    (protocol method : Option String) : Predicate :=
  .path ⟨some (.ofTokens h hd), protocol, method⟩

theorem Predicate.ofTemplate?_source (h : Grammatical tokens) (hd : (names tokens).Nodup)
    (protocol method : Option String) :
    Predicate.ofTemplate? (some (Template.source tokens)) protocol method =
      .ok (.ofTokens h hd protocol method) :=
  Predicate.rebuild?_eq_fresh (.ofTokens h hd protocol method)

end Grammatical

def Predicate.takes (p : Predicate) (r : Request) : Bool := (p.test r).result

theorem Predicate.takes_fresh (p : Predicate) (r : Request) : p.fresh.takes r = p.takes r := by
  rw [takes, takes, test_fresh]

variable {n : Nat} {α : Type}

def testEvents (r : Request) (pairs : List (Predicate × α)) : List Event :=
  pairs.flatMap fun pair => (pair.1.test r).events

namespace Route

variable {predicates : Vector Predicate n} {r : Request}

def answered (predicates : Vector Predicate n) (r : Request) (route : Route n α) :
    Vector Predicate n :=
  route.replace predicates ((route.held predicates).extract r).predicate

theorem fresh_answered (predicates : Vector Predicate n) (r : Request) (route : Route n α) :
    (route.answered predicates r).map (·.fresh) = predicates.map (·.fresh) :=
  map_replace (Predicate.fresh_extract _ r)

theorem lookup_of_skipped {routes : List (Route n α)}
    (h : ∀ route ∈ routes, (route.held predicates).takes r = false) :
    lookup r predicates routes =
      ⟨none, testEvents r (routes.map (·.pair predicates)), predicates⟩ := by
  induction routes with
  | nil => rfl
  | cons route routes ih =>
    obtain ⟨hroute, hroutes⟩ := List.forall_mem_cons.1 h
    rw [Predicate.takes] at hroute
    rw [lookup, hroute, ih hroutes]
    rfl

theorem lookup_of_taken {before : List (Route n α)} {route : Route n α}
    (hbefore : ∀ other ∈ before, (other.held predicates).takes r = false)
    (hroute : (route.held predicates).takes r = true) (later : List (Route n α)) :
    lookup r predicates (before ++ route :: later) =
      ⟨some ⟨route.action, ((route.held predicates).extract r).variables.getD []⟩,
        testEvents r ((before ++ [route]).map (·.pair predicates)) ++
          ((route.held predicates).extract r).events,
        route.answered predicates r⟩ := by
  induction before with
  | nil =>
    rw [Predicate.takes] at hroute
    rw [List.nil_append, lookup, hroute]
    simp [testEvents, pair, answered]
  | cons other before ih =>
    obtain ⟨hother, hbefore⟩ := List.forall_mem_cons.1 hbefore
    rw [Predicate.takes] at hother
    rw [List.cons_append, lookup, hother, ih hbefore]
    simp [testEvents, pair]

theorem answer_lookup_fresh (h : ∀ p ∈ predicates, p.Faithful) (r : Request)
    (routes : List (Route n α)) :
    (lookup r (predicates.map (·.fresh)) routes).answer = (lookup r predicates routes).answer := by
  induction routes with
  | nil => rfl
  | cons route routes ih =>
    have hroute : (route.held predicates).Faithful := h _ (held_mem predicates route)
    rw [lookup, lookup, held_map, Predicate.test_fresh]
    by_cases htakes : ((route.held predicates).test r).result = true
    · rw [if_pos htakes, if_pos htakes]
      dsimp only
      rw [Predicate.variables_extract_fresh hroute]
    · rw [if_neg htakes, if_neg htakes]
      exact ih

end Route

namespace Router

def fresh (router : Router α) : Router α :=
  { router with predicates := router.predicates.map (·.fresh) }

def rebuild? (router : Router α) : Except BuildError (Router α) := do
  let predicates ← router.predicates.mapM (·.rebuild?)
  return { router with predicates }

theorem rebuild?_eq_fresh (router : Router α) : router.rebuild? = .ok router.fresh := by
  have hbuild : Predicate.rebuild? = fun p => pure p.fresh := funext Predicate.rebuild?_eq_fresh
  rw [rebuild?, hbuild, Vector.mapM_pure]
  rfl

/-- A router in use: all its predicates are. -/
def Reachable (router : Router α) : Prop := ∀ p ∈ router.predicates, p.Reachable

section Handle

variable {router : Router α} {r : Request}

/-- Some route is the first that takes a request. -/
structure Answers (router : Router α) (r : Request) (before : List (Route router.count α))
    (route : Route router.count α) : Prop where
  split : ∃ later, router.routes = before ++ route :: later
  skipped : ∀ other ∈ before, (other.held router.predicates).takes r = false
  takes : (route.held router.predicates).takes r = true

def NoneAnswers (router : Router α) (r : Request) : Prop :=
  ∀ route ∈ router.routes, (route.held router.predicates).takes r = false

variable {before : List (Route router.count α)} {route : Route router.count α}

theorem exists_answers_or_noneAnswers (router : Router α) (r : Request) :
    (∃ before route, router.Answers r before route) ∨ router.NoneAnswers r := by
  cases h : router.routes.find? fun route => (route.held router.predicates).takes r with
  | none => exact .inr (by simpa [NoneAnswers] using h)
  | some route =>
    obtain ⟨htakes, before, later, hroutes, hbefore⟩ := List.find?_eq_some_iff_append.1 h
    exact .inl ⟨before, route, ⟨later, hroutes⟩, by simpa using hbefore, htakes⟩

theorem Answers.handle (h : router.Answers r before route) :
    router.handle r =
      ⟨some ⟨route.action, ((route.held router.predicates).extract r).variables.getD []⟩,
        testEvents r ((before ++ [route]).map (·.pair router.predicates)) ++
          ((route.held router.predicates).extract r).events,
        { router with predicates := route.answered router.predicates r }⟩ := by
  obtain ⟨⟨later, hroutes⟩, hbefore, htakes⟩ := h
  rw [Router.handle, hroutes, Route.lookup_of_taken hbefore htakes, ← hroutes]
  rfl

theorem NoneAnswers.handle (h : router.NoneAnswers r) :
    router.handle r =
      ⟨router.fallback.map (⟨·, []⟩), testEvents r router.pairs, router⟩ := by
  rw [Router.handle, Route.lookup_of_skipped h]
  rfl

/-- Only the predicate of the first route that takes a request is touched. -/
theorem router_handle (router : Router α) (r : Request) :
    (router.handle r).router = router ∨ ∃ route : Route router.count α,
      (router.handle r).router =
        { router with predicates := route.answered router.predicates r } := by
  rcases exists_answers_or_noneAnswers router r with ⟨before, route, h⟩ | h
  · exact .inr ⟨route, by rw [h.handle]⟩
  · exact .inl (by rw [h.handle])

theorem fresh_handle (router : Router α) (r : Request) :
    (router.handle r).router.fresh = router.fresh := by
  rcases router_handle router r with h | ⟨route, h⟩
  · rw [h]
  · rw [h, fresh, fresh]
    simp only [Route.fresh_answered]

theorem Reachable.handle (h : router.Reachable) (r : Request) :
    (router.handle r).router.Reachable := by
  rcases router_handle router r with he | ⟨route, he⟩
  · rwa [he]
  · rw [he]
    intro p hp
    rcases Route.mem_replace hp with hp | rfl
    · exact h p hp
    · exact (h _ (Route.held_mem _ route)).extract r

theorem answer_fresh (h : router.Reachable) (r : Request) :
    (router.fresh.handle r).answer = (router.handle r).answer := by
  have hanswer := Route.answer_lookup_fresh (fun p hp => (h p hp).faithful) r router.routes
  rw [handle, handle]
  dsimp only [fresh]
  rw [hanswer]

end Handle

def answers (router : Router α) : List Request → List (Option (Answer α))
  | [] => []
  | r :: requests => (router.handle r).answer :: (router.handle r).router.answers requests

theorem answers_eq_map_fresh {router : Router α} (h : router.Reachable) (requests : List Request) :
    router.answers requests = requests.map fun r => (router.fresh.handle r).answer := by
  induction requests generalizing router with
  | nil => rfl
  | cons r requests ih =>
    rw [answers, ih (h.handle r), fresh_handle, List.map_cons, answer_fresh h]

/-- Every request of a run is answered as a newly built router answers it: by the first route that
takes it, with the variables which its predicate extracts, else by the fallback. -/
theorem answers_first_match {router : Router α} (h : router.Reachable) :
    ∃ built, router.rebuild? = .ok built ∧
      (∀ requests, router.answers requests = requests.map fun r => (built.handle r).answer) ∧
      ∀ r, (∀ before pair later, built.pairs = before ++ pair :: later →
          (∀ other ∈ before, (other.1.test r).result = false) →
          (pair.1.test r).result = true →
          (built.handle r).answer =
            some ⟨pair.2, (pair.1.extract r).variables.getD []⟩) ∧
        ((∀ pair ∈ built.pairs, (pair.1.test r).result = false) →
          (built.handle r).answer = router.fallback.map (⟨·, []⟩)) := by
  refine ⟨router.fresh, rebuild?_eq_fresh router, answers_eq_map_fresh h, fun r => ⟨?_, ?_⟩⟩
  · intro before pair later hpairs hbefore hpair
    obtain ⟨front, rest, hroutes, rfl, hrest⟩ := List.map_eq_append_iff.1 hpairs
    obtain ⟨route, back, rfl, rfl, -⟩ := List.map_eq_cons_iff.1 hrest
    have ha : router.fresh.Answers r front route :=
      ⟨⟨back, hroutes⟩, List.forall_mem_map.1 hbefore, hpair⟩
    rw [ha.handle]
    rfl
  · intro hskipped
    have hn : router.fresh.NoneAnswers r := List.forall_mem_map.1 hskipped
    rw [hn.handle]
    rfl

theorem answers_first_match_repeated :
    ∃ p, Predicate.get? (some "/\x7bid\x7d") = .ok p ∧
      Router.answers ⟨#v[p, .start ⟨"/a", none⟩], [⟨0, 1⟩, ⟨1, 2⟩], some 0⟩
          [⟨"/a", some "GET", none⟩, ⟨"/a", some "PUT", none⟩, ⟨"b", some "PUT", none⟩,
            ⟨"/a", some "GET", none⟩] =
        [some ⟨1, [("id", some "a")]⟩, some ⟨2, []⟩, some ⟨0, []⟩,
          some ⟨1, [("id", some "a")]⟩] := by
  let tokens : List Template.Token := [.literal '/', .segment "id"]
  let p : Predicate :=
    @Predicate.ofTokens tokens (by decide +kernel) (by decide +kernel) none (some "GET")
  have hsource : Template.source tokens = "/\x7bid\x7d" := by decide +kernel
  have hp : Predicate.get? (some "/\x7bid\x7d") = .ok p :=
    hsource ▸ Predicate.ofTemplate?_source _ _ none (some "GET")
  let router : Router Nat := ⟨#v[p, .start ⟨"/a", none⟩], [⟨0, 1⟩, ⟨1, 2⟩], some 0⟩
  have hreachable : router.Reachable := by
    simp only [Reachable, router, Vector.mem_mk, List.mem_toArray, List.forall_mem_cons]
    exact ⟨.built hp, .start _, by simp⟩
  obtain ⟨built, hbuilt, hanswers, -⟩ := answers_first_match hreachable
  rw [rebuild?_eq_fresh] at hbuilt
  cases hbuilt
  refine ⟨p, hp, (hanswers _).trans ?_⟩
  decide +kernel

end Router

end RequestRouting
