import RequestRouting.Predicate
import RequestRouting.Proofs.Template.Memo

/-!
# What predicates remember

A predicate in use differs from the one that was built only in what its template remembers. Tests
do not look at that. Extraction does, but what it finds there is what it would compute, so the
variables are those of the predicate as it was built.
-/

namespace RequestRouting

namespace PathCriteria

def fresh (p : PathCriteria) : PathCriteria := { p with template := p.template.map (·.fresh) }

/-- The path that extraction asks the template for: the path of the URI if the method is GET, the
URI cannot be refused and no query takes its place, and the whole URI for any other method. -/
def asksFor? (p : PathCriteria) (r : Request) : Option String :=
  if p.isGet then
    match Uri.split r.uri with
    | .error _ => none
    | .ok parts => if parts.query.any (· ≠ "") then none else some parts.path
  else some r.uri

theorem extract_of_asksFor {p : PathCriteria} {r : Request} {path : String}
    (h : p.asksFor? r = some path) : p.extract r = p.extractFrom path := by
  rw [asksFor?] at h
  rw [extract]
  by_cases hget : p.isGet = true
  · rw [if_pos hget] at h ⊢
    cases hsplit : Uri.split r.uri with
    | error fault =>
      rw [hsplit] at h
      cases h
    | ok parts =>
      rw [hsplit] at h
      by_cases hquery : parts.query.any (· ≠ "") = true
      · cases (if_pos hquery).symm.trans h
      · cases (if_neg hquery).symm.trans h
        exact if_neg hquery
  · rw [if_neg hget] at h ⊢
    cases h
    rfl

theorem extract_of_asksFor_none {p : PathCriteria} {r : Request} (h : p.asksFor? r = none) :
    (p.extract r).predicate = .path p ∧
      (p.fresh.extract r).variables = (p.extract r).variables := by
  rw [asksFor?] at h
  by_cases hget : p.isGet = true
  · have hfresh : p.fresh.isGet = true := hget
    rw [if_pos hget] at h
    rw [extract, extract, if_pos hget, if_pos hfresh]
    cases hsplit : Uri.split r.uri with
    | error fault => exact ⟨rfl, rfl⟩
    | ok parts =>
      rw [hsplit] at h
      by_cases hquery : parts.query.any (· ≠ "") = true
      · simp only [if_pos hquery, and_self]
      · cases (if_neg hquery).symm.trans h
  · rw [if_neg hget] at h
    cases h

theorem extractFrom_predicate (p : PathCriteria) (path : String) :
    (p.extractFrom path).predicate =
      .path { p with template := p.template.map fun t => (t.extract path).2 } := by
  unfold extractFrom
  split
  · next h => rw [h, Option.map_none, ← h]
  · next t h => rw [h]; rfl

theorem extractFrom_variables {p : PathCriteria} {t : PathTemplate} (h : p.template = some t)
    (path : String) :
    (p.extractFrom path).variables =
      if (t.extract path).1.isEmpty then none else some (t.extract path).1 := by
  rw [extractFrom, h]

end PathCriteria

namespace Predicate

def fresh : Predicate → Predicate
  | path criteria => path criteria.fresh
  | start criteria => start criteria

def rebuild? : Predicate → Except BuildError Predicate
  | path criteria => ofTemplate? criteria.uri criteria.protocol criteria.method
  | start criteria => .ok (.start criteria)

theorem rebuild?_eq_fresh (p : Predicate) : p.rebuild? = .ok p.fresh := by
  cases p with
  | start criteria => rfl
  | path criteria =>
    obtain ⟨template, protocol, method⟩ := criteria
    cases template with
    | none => rfl
    | some t =>
      simp only [rebuild?, ofTemplate?, PathCriteria.ofUri?, PathCriteria.uri, Option.map_some,
        PathTemplate.ofSource?_source]
      rfl

/-- A predicate in use: one that was built, or that was asked for variables since. -/
inductive Reachable : Predicate → Prop where
  | built {uri protocol method : Option String} {p : Predicate} :
      ofTemplate? uri protocol method = .ok p → Reachable p
  | start (criteria : StartCriteria) : Reachable (.start criteria)
  | asked {criteria : PathCriteria} {t : PathTemplate} (path : String) :
      Reachable (.path criteria) → criteria.template = some t →
      Reachable (.path { criteria with template := some (t.extract path).2 })

/-- What the template remembers of a path is what extraction computes for it. -/
def Faithful (p : Predicate) : Prop := ∀ t, p.template? = some t → t.Faithful

theorem memo_of_ofTemplate? {uri protocol method : Option String} {p : Predicate}
    {t : PathTemplate} (h : ofTemplate? uri protocol method = .ok p) (ht : p.template? = some t) :
    t.memo = [] := by
  cases uri with
  | none =>
    cases h
    cases ht
  | some source =>
    cases hs : PathTemplate.ofSource? source with
    | error e =>
      simp [ofTemplate?, PathCriteria.ofUri?, hs, Except.map] at h
    | ok found =>
      simp only [ofTemplate?, PathCriteria.ofUri?, hs, Except.map, Except.ok.injEq] at h
      subst h
      cases ht
      exact PathTemplate.memo_of_ofSource? hs

theorem Reachable.faithful {p : Predicate} (h : p.Reachable) : p.Faithful := by
  induction h with
  | built hp =>
    intro t ht
    exact PathTemplate.faithful_of_memo_eq_nil (memo_of_ofTemplate? hp ht)
  | start criteria =>
    intro t ht
    cases ht
  | asked path _ hcriteria ih =>
    intro t ht
    cases ht
    exact (ih _ hcriteria).extract path

theorem condition_fresh (p : Predicate) : p.fresh.condition = p.condition := by
  cases p with
  | start criteria => rfl
  | path criteria =>
    obtain ⟨template, protocol, method⟩ := criteria
    cases template <;> rfl

theorem test_fresh (p : Predicate) (r : Request) : p.fresh.test r = p.test r := by
  rw [test, test, condition_fresh]

def asksFor? (p : Predicate) (r : Request) : Option String :=
  match p with
  | path criteria => if criteria.template.isSome then criteria.asksFor? r else none
  | start _ => none

theorem asksFor?_fresh (p : Predicate) (r : Request) : p.fresh.asksFor? r = p.asksFor? r := by
  cases p with
  | start criteria => rfl
  | path criteria =>
    obtain ⟨template, protocol, method⟩ := criteria
    cases template <;> rfl

theorem extract_of_asksFor {p : Predicate} {r : Request} {path : String}
    (h : p.asksFor? r = some path) :
    ∃ criteria t, p = .path criteria ∧ criteria.template = some t ∧
      p.extract r = criteria.extractFrom path ∧
      (p.extract r).predicate = .path { criteria with template := some (t.extract path).2 } := by
  cases p with
  | start criteria => cases h
  | path criteria =>
    obtain ⟨template, protocol, method⟩ := criteria
    cases template with
    | none => cases h
    | some t =>
      have hextract := PathCriteria.extract_of_asksFor (p := ⟨some t, protocol, method⟩) h
      refine ⟨_, t, rfl, rfl, hextract, ?_⟩
      rw [extract, hextract, PathCriteria.extractFrom_predicate]
      rfl

theorem extract_predicate_of_asksFor_none {p : Predicate} {r : Request}
    (h : p.asksFor? r = none) : (p.extract r).predicate = p := by
  cases p with
  | start criteria => rfl
  | path criteria =>
    cases ht : criteria.template with
    | some t =>
      rw [asksFor?, ht] at h
      exact (PathCriteria.extract_of_asksFor_none h).1
    | none =>
      cases hasks : criteria.asksFor? r with
      | none => exact (PathCriteria.extract_of_asksFor_none hasks).1
      | some path =>
        rw [extract, PathCriteria.extract_of_asksFor hasks, PathCriteria.extractFrom, ht]

theorem Reachable.extract {p : Predicate} (h : p.Reachable) (r : Request) :
    (p.extract r).predicate.Reachable := by
  cases hasks : p.asksFor? r with
  | none => rwa [extract_predicate_of_asksFor_none hasks]
  | some path =>
    obtain ⟨criteria, t, rfl, ht, -, hp⟩ := extract_of_asksFor hasks
    rw [hp]
    exact .asked path h ht

theorem fresh_extract (p : Predicate) (r : Request) : (p.extract r).predicate.fresh = p.fresh := by
  cases hasks : p.asksFor? r with
  | none => rw [extract_predicate_of_asksFor_none hasks]
  | some path =>
    obtain ⟨criteria, t, rfl, ht, -, hp⟩ := extract_of_asksFor hasks
    rw [hp, fresh, fresh, PathCriteria.fresh, PathCriteria.fresh, ht, Option.map_some,
      Option.map_some, PathTemplate.fresh_extract]

theorem variables_extract_fresh {p : Predicate} (h : p.Faithful) (r : Request) :
    (p.fresh.extract r).variables = (p.extract r).variables := by
  cases p with
  | start criteria => rfl
  | path criteria =>
    cases hasks : criteria.asksFor? r with
    | none => exact (PathCriteria.extract_of_asksFor_none hasks).2
    | some path =>
      have hfresh : criteria.fresh.asksFor? r = some path := hasks
      rw [fresh, extract, extract, PathCriteria.extract_of_asksFor hasks,
        PathCriteria.extract_of_asksFor hfresh]
      cases ht : criteria.template with
      | none => rw [PathCriteria.extractFrom, PathCriteria.extractFrom, PathCriteria.fresh, ht]; rfl
      | some t =>
        have htfresh : criteria.fresh.template = some t.fresh := by
          rw [PathCriteria.fresh, ht, Option.map_some]
        rw [PathCriteria.extractFrom_variables ht, PathCriteria.extractFrom_variables htfresh,
          PathTemplate.extract_fst (h t ht), PathTemplate.extract_fst t.faithful_fresh]
        rfl

def Remembers (p : Predicate) (path : String) : Prop :=
  ∃ t, p.template? = some t ∧ t.Remembers path

theorem extract_of_remembers {p : Predicate} {r : Request}
    (h : ∀ path, p.asksFor? r = some path → p.Remembers path) : (p.extract r).predicate = p := by
  cases hasks : p.asksFor? r with
  | none => exact extract_predicate_of_asksFor_none hasks
  | some path =>
    obtain ⟨criteria, t, rfl, ht, -, hp⟩ := extract_of_asksFor hasks
    obtain ⟨t', ht', hremembers⟩ := h path hasks
    cases ht.symm.trans ht'
    rw [hp, PathTemplate.extract_of_remembers hremembers, ← ht]

theorem remembers_extract {p : Predicate} {r : Request} {path : String} :
    (p.extract r).predicate.Remembers path ↔ p.Remembers path ∨ p.asksFor? r = some path := by
  cases hasks : p.asksFor? r with
  | none => simp [extract_predicate_of_asksFor_none hasks]
  | some asked =>
    obtain ⟨criteria, t, rfl, ht, -, hp⟩ := extract_of_asksFor hasks
    rw [hp]
    simp [Remembers, template?, ht, PathTemplate.remembers_extract, eq_comm]

end Predicate

end RequestRouting
