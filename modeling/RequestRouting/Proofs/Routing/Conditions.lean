import RequestRouting.Predicate

/-!
# Evaluating conditions in a row

A conjunction evaluates its conditions from left to right until one fails. A row of conditions can
be cut anywhere: the second part is evaluated if the first one holds. So the test of a predicate is
true if each of its clauses is.
-/

namespace RequestRouting

namespace Condition

theorem andThen_empty {e : Evaluation} (h : e.result = true) : e.andThen ⟨true, [], []⟩ = e := by
  obtain ⟨result, reads, events⟩ := e
  cases h
  simp [Evaluation.andThen]

theorem evaluateAll_singleton (r : Request) (c : Condition) : evaluateAll r [c] = evaluate r c := by
  rw [evaluateAll]
  split
  · next h => exact andThen_empty h
  · rfl

theorem evaluate_join (r : Request) (conditions : List Condition) :
    evaluate r (join conditions) = evaluateAll r conditions := by
  unfold join
  split
  · next c => exact (evaluateAll_singleton r c).symm
  · rw [evaluate]

theorem evaluateAll_append (r : Request) (conditions more : List Condition) :
    evaluateAll r (conditions ++ more) =
      if (evaluateAll r conditions).result then
        (evaluateAll r conditions).andThen (evaluateAll r more)
      else evaluateAll r conditions := by
  induction conditions with
  | nil => simp [evaluateAll, Evaluation.andThen]
  | cons c conditions ih =>
    rw [List.cons_append, evaluateAll, evaluateAll, ih]
    by_cases hc : (evaluate r c).result = true
    · rw [if_pos hc, if_pos hc]
      by_cases hrest : (evaluateAll r conditions).result = true
      · simp [hrest, Evaluation.andThen]
      · simp [hrest, Evaluation.andThen]
    · rw [if_neg hc, if_neg hc, if_neg hc]

theorem evaluateAll_exactly (r : Request) (field : Field) {value : Option String}
    (h : r.read field = (value, [])) (wanted : Option String) :
    evaluateAll r (wanted.map fun text => .clause field (.exactly text)).toList =
      ⟨wanted.all fun text => value == some text, wanted.toList.map fun _ => field, []⟩ := by
  cases wanted with
  | none => rfl
  | some text =>
    rw [Option.map_some, Option.toList_some, evaluateAll_singleton, evaluate, evaluateClause, h]
    cases value <;> rfl

theorem result_evaluateAll_append (r : Request) (conditions more : List Condition) :
    (evaluateAll r (conditions ++ more)).result =
      ((evaluateAll r conditions).result && (evaluateAll r more).result) := by
  rw [evaluateAll_append]
  cases h : (evaluateAll r conditions).result <;> simp [h, Evaluation.andThen]

theorem evaluateAll_congr {r r' : Request} {conditions : List Condition}
    (h : ∀ c ∈ conditions, evaluate r c = evaluate r' c) :
    evaluateAll r conditions = evaluateAll r' conditions := by
  induction conditions with
  | nil => rfl
  | cons c conditions ih =>
    obtain ⟨hc, hconditions⟩ := List.forall_mem_cons.1 h
    rw [evaluateAll, evaluateAll, hc, ih hconditions]

theorem evaluate_clause_congr {r r' : Request} {field : Field} (h : r.read field = r'.read field)
    (matcher : Matcher) :
    evaluate r (.clause field matcher) = evaluate r' (.clause field matcher) := by
  rw [evaluate, evaluate, evaluateClause, evaluateClause, h]

end Condition

namespace PathCriteria

def testedField (p : PathCriteria) : Field := if p.isGet then .path else .uri

/-- The path of a request as the template sees it: the path of the URI if the method is GET and the
URI has one, else all of the URI. -/
def target (p : PathCriteria) (r : Request) : String := if p.isGet then r.path.1 else r.uri

theorem read_testedField (p : PathCriteria) (r : Request) :
    (r.read p.testedField).1 = some (p.target r) := by
  rw [testedField, target]
  cases p.isGet <;> rfl

theorem mem_clauses {p : PathCriteria} {t : PathTemplate} (h : p.template = some t) :
    .clause p.testedField (.template t.compiled) ∈ p.clauses := by
  rw [clauses, h]
  exact List.mem_append_right _ (List.mem_singleton_self _)

theorem result_templateClause (p : PathCriteria) (t : PathTemplate) (r : Request) :
    (Condition.evaluateClause r p.testedField (.template t.compiled)).result =
      t.accepts (p.target r) := by
  have hread := read_testedField p r
  rw [Condition.evaluateClause]
  dsimp only
  rw [hread]
  rfl

theorem result_test (p : PathCriteria) (r : Request) :
    ((Predicate.path p).test r).result =
      ((p.protocol.all fun text => r.protocol == some text) &&
        (p.method.all fun text => r.method == some text) &&
        p.template.all fun t => t.accepts (p.target r)) := by
  have htemplate : (Condition.evaluateAll r (p.template.map fun t =>
      .clause p.testedField (.template t.compiled)).toList).result =
      p.template.all fun t => t.accepts (p.target r) := by
    cases p.template with
    | none => rfl
    | some t =>
      rw [Option.map_some, Option.toList_some, Condition.evaluateAll_singleton, Condition.evaluate]
      exact result_templateClause p t r
  rw [Predicate.test, Predicate.condition, condition, Condition.evaluate_join, clauses,
    Condition.result_evaluateAll_append, Condition.result_evaluateAll_append,
    Condition.evaluateAll_exactly r .protocol rfl, Condition.evaluateAll_exactly r .method rfl]
  exact congrArg _ htemplate

/-- A test reads the protocol, the method and what the template is held against, and no more. -/
theorem test_congr {p : PathCriteria} {r r' : Request} (hprotocol : r.protocol = r'.protocol)
    (hmethod : r.method = r'.method) (htested : r.read p.testedField = r'.read p.testedField) :
    (Predicate.path p).test r = (Predicate.path p).test r' := by
  rw [Predicate.test, Predicate.test, Predicate.condition, condition, Condition.evaluate_join,
    Condition.evaluate_join]
  apply Condition.evaluateAll_congr
  intro c hc
  simp only [clauses, List.mem_append, Option.mem_toList, Option.map_eq_some_iff] at hc
  rcases hc with (⟨text, -, rfl⟩ | ⟨text, -, rfl⟩) | ⟨t, -, rfl⟩
  · exact Condition.evaluate_clause_congr (by rw [Request.read, Request.read, hprotocol]) _
  · exact Condition.evaluate_clause_congr (by rw [Request.read, Request.read, hmethod]) _
  · exact Condition.evaluate_clause_congr htested _

end PathCriteria

namespace Predicate

theorem eq_path_of_ofTemplate? {uri protocol method : Option String} {p : Predicate}
    (h : ofTemplate? uri protocol method = .ok p) :
    ∃ template, p = .path ⟨template, protocol, method⟩ := by
  cases uri with
  | none => exact ⟨none, (Except.ok.inj h).symm⟩
  | some source =>
    rw [ofTemplate?, PathCriteria.ofUri?] at h
    cases hs : PathTemplate.ofSource? source with
    | error e =>
      rw [hs] at h
      cases h
    | ok t =>
      rw [hs] at h
      exact ⟨some t, (Except.ok.inj h).symm⟩

/-- A predicate for one method takes no request of another one. Its template sees the path if the
method is GET and the whole URI otherwise. -/
theorem result_test_of_forMethod? {method : String} {uri : Option String} {p : Predicate}
    (h : forMethod? method uri = .ok p) (r : Request) :
    (p.test r).result =
      (r.method == some method &&
        p.template?.all fun t => t.accepts (if method = getMethod then r.path.1 else r.uri)) := by
  obtain ⟨template, rfl⟩ := eq_path_of_ofTemplate? h
  rw [PathCriteria.result_test, PathCriteria.target, PathCriteria.isGet]
  simp [template?]

end Predicate

theorem StartCriteria.result_test (p : StartCriteria) (r : Request) :
    ((Predicate.start p).test r).result =
      ((p.method.all fun text => r.method == some text) &&
        p.start.toList.isPrefixOf r.uri.toList) := by
  rw [Predicate.test, Predicate.condition, condition, Condition.evaluate_join, clauses,
    Condition.result_evaluateAll_append, Condition.evaluateAll_exactly r .method rfl,
    Condition.evaluateAll_singleton, Condition.evaluate]
  rfl

end RequestRouting
