import RequestRouting.Proofs.Query.Parameters
import RequestRouting.Proofs.Routing.Conditions
import RequestRouting.Proofs.Routing.FirstMatch

/-!
# Tests and extractions agree

The test of a predicate holds the template against one field of the request. Extraction works that
path out in another way and may answer from memory, but it is the same path: what it binds are the
captures of the match that made the test true. A query takes the place of the path, and only a
query of nothing but ampersands yields an empty mapping.
-/

namespace RequestRouting

namespace PathCriteria

variable {p : PathCriteria} {r : Request}

def Refuses (p : PathCriteria) (r : Request) : Prop :=
  p.isGet = true ∧ ∃ fault, Uri.split r.uri = .error fault

def ReadsQuery (p : PathCriteria) (r : Request) (query : String) : Prop :=
  p.isGet = true ∧ query ≠ "" ∧ ∃ path, Uri.split r.uri = .ok ⟨path, some query⟩

theorem extract_of_refuses (h : p.Refuses r) : (p.extract r).variables = none := by
  obtain ⟨hget, fault, hsplit⟩ := h
  rw [extract, if_pos hget, hsplit]

theorem extract_of_readsQuery {query : String} (h : p.ReadsQuery r query) :
    (p.extract r).variables = Query.parameters? (some query) := by
  obtain ⟨hget, hquery, path, hsplit⟩ := h
  have hany : (some query).any (· ≠ "") = true := by simpa using hquery
  rw [extract, if_pos hget, hsplit]
  exact congrArg Extraction.variables (if_pos hany)

/-- If neither happens, extraction asks for the path that the template is held against. -/
theorem asksFor?_eq_target (hrefuses : ¬ p.Refuses r) (hquery : ∀ query, ¬ p.ReadsQuery r query) :
    p.asksFor? r = some (p.target r) := by
  rw [asksFor?, target]
  by_cases hget : p.isGet = true
  · rw [if_pos hget, if_pos hget, Request.path]
    cases hsplit : Uri.split r.uri with
    | error fault => exact absurd ⟨hget, fault, hsplit⟩ hrefuses
    | ok parts =>
      obtain ⟨path, query⟩ := parts
      refine if_neg ?_
      intro hany
      obtain ⟨text, rfl, htext⟩ := (Option.any_eq_true _ _).1 hany
      exact hquery text ⟨hget, by simpa using htext, path, hsplit⟩
  · rw [if_neg hget, if_neg hget]

theorem variables_extract {t : PathTemplate} (h : (Predicate.path p).Faithful)
    (ht : p.template = some t) (hrefuses : ¬ p.Refuses r)
    (hquery : ∀ query, ¬ p.ReadsQuery r query) :
    (p.extract r).variables = if (t.compiled.extract (p.target r)).isEmpty then none
      else some (t.compiled.extract (p.target r)) := by
  rw [extract_of_asksFor (asksFor?_eq_target hrefuses hquery), extractFrom_variables ht,
    PathTemplate.extract_fst (h t ht)]

theorem variables_extract_eq_some_nil_iff :
    (p.extract r).variables = some [] ↔
      ∃ query, p.ReadsQuery r query ∧ ∀ c ∈ query.toList, c = '&' := by
  by_cases hquery : ∃ query, p.ReadsQuery r query
  · obtain ⟨query, hquery⟩ := hquery
    rw [extract_of_readsQuery hquery, Query.parameters?_eq_some_nil_iff]
    constructor
    · rintro ⟨-, hamp⟩
      exact ⟨query, hquery, hamp⟩
    · rintro ⟨other, hother, hamp⟩
      obtain ⟨-, hne, path, hsplit⟩ := hquery
      obtain ⟨-, -, path', hsplit'⟩ := hother
      cases hsplit.symm.trans hsplit'
      exact ⟨hne, hamp⟩
  · have hnone : (p.extract r).variables ≠ some [] := by
      by_cases hrefuses : p.Refuses r
      · simp [extract_of_refuses hrefuses]
      · rw [extract_of_asksFor (asksFor?_eq_target hrefuses (not_exists.1 hquery)), extractFrom]
        cases p.template with
        | none => simp
        | some t => split <;> simp_all
    constructor
    · intro h
      exact absurd h hnone
    · rintro ⟨query, hread, -⟩
      exact absurd ⟨query, hread⟩ hquery

theorem variables_extract_of_accepts {t : PathTemplate} (h : (Predicate.path p).Faithful)
    (ht : p.template = some t) (haccepts : t.accepts (p.target r) = true)
    (hvariables : t.variables ≠ []) (hrefuses : ¬ p.Refuses r)
    (hquery : ∀ query, ¬ p.ReadsQuery r query) :
    ∃ m, t.compiled.search? (p.target r) = some m ∧
      (p.extract r).variables = some ((t.variables.zipIdx 1).map fun (name, i) =>
        (name, (m.group? (p.target r).toList i).map String.ofList)) := by
  obtain ⟨m, hm⟩ := Option.isSome_iff_exists.1 haccepts
  have hnonempty := Template.Compiled.extract_ne_nil_iff.2 ⟨haccepts, hvariables⟩
  refine ⟨m, hm, ?_⟩
  rw [variables_extract h ht hrefuses hquery, if_neg (by simpa using hnonempty),
    Template.Compiled.extract_of_search? hm]
  rfl

theorem variables_extract_of_not_accepts {t : PathTemplate} (h : (Predicate.path p).Faithful)
    (ht : p.template = some t) (haccepts : t.accepts (p.target r) = false)
    (hquery : ∀ query, ¬ p.ReadsQuery r query) : (p.extract r).variables = none := by
  by_cases hrefuses : p.Refuses r
  · exact extract_of_refuses hrefuses
  · have hnil : t.compiled.extract (p.target r) = [] := by
      by_contra hne
      have hmatch := (Template.Compiled.extract_ne_nil_iff.1 hne).1
      rw [PathTemplate.accepts, hmatch] at haccepts
      cases haccepts
    rw [variables_extract h ht hrefuses hquery, hnil]
    rfl

/-- Whatever a predicate was asked before, extraction binds the captures of the match that makes the
test true, and nothing where the template fails. A query that is not empty takes the place of the
path, and one of ampersands only is the one source of an empty mapping. -/
theorem test_extract_agree (h : (Predicate.path p).Reachable) (r : Request) :
    (∀ t, p.template = some t → ((Predicate.path p).test r).result = true → t.variables ≠ [] →
      ¬ p.Refuses r → (∀ query, ¬ p.ReadsQuery r query) →
      ∃ path m vars, .clause p.testedField (.template t.compiled) ∈ p.clauses ∧
        (r.read p.testedField).1 = some path ∧ t.compiled.search? path = some m ∧
        ((Predicate.path p).extract r).variables = some vars ∧
        vars.names = t.variables ∧ t.variables.Nodup ∧
        vars = (t.variables.zipIdx 1).map fun (name, i) =>
          (name, (m.group? path.toList i).map String.ofList)) ∧
    (∀ t, p.template = some t →
      (Condition.evaluateClause r p.testedField (.template t.compiled)).result = false →
      (∀ query, p.ReadsQuery r query →
        ((Predicate.path p).extract r).variables = Query.parameters? (some query)) ∧
      ((∀ query, ¬ p.ReadsQuery r query) →
        ((Predicate.path p).extract r).variables = none)) ∧
    (((Predicate.path p).extract r).variables = some [] ↔
      ∃ query, p.ReadsQuery r query ∧ ∀ c ∈ query.toList, c = '&') := by
  refine ⟨?_, ?_, variables_extract_eq_some_nil_iff⟩
  · intro t ht htest hvariables hrefuses hquery
    have haccepts : t.accepts (p.target r) = true := by
      rw [result_test, ht, Option.all_some, Bool.and_eq_true] at htest
      exact htest.2
    obtain ⟨m, hm, hvars⟩ :=
      variables_extract_of_accepts h.faithful ht haccepts hvariables hrefuses hquery
    refine ⟨p.target r, m, _, mem_clauses ht, read_testedField p r, hm, hvars, ?_,
      (Template.compiles_of_compile t.compile_source).nodup_variables, rfl⟩
    rw [Variables.names, List.map_map]
    exact List.zipIdx_map_fst 1 t.variables
  · intro t ht hclause
    rw [result_templateClause] at hclause
    constructor
    · intro query hquery
      exact extract_of_readsQuery hquery
    · intro hquery
      exact variables_extract_of_not_accepts h.faithful ht hclause hquery

/-- A predicate that has been asked before: for a path with an empty query, for a path that the
template does not match, and for one with a query of ampersands. -/
theorem test_extract_agree_asked :
    ∃ p t, (Predicate.path p).Reachable ∧ p.template = some t ∧ t.memoSize = 1 ∧
      (∃ vars, ((Predicate.path p).extract ⟨"/a?", some "GET", none⟩).variables = some vars ∧
        vars.names = ["id"]) ∧
      ((Predicate.path p).extract ⟨"/a/b", some "GET", none⟩).variables = none ∧
      ((Predicate.path p).extract ⟨"/a?&&", some "GET", none⟩).variables = some [] := by
  let tokens : List Template.Token := [.literal '/', .segment "id"]
  let t : PathTemplate := @PathTemplate.ofTokens tokens (by decide +kernel) (by decide +kernel)
  let used : PathTemplate := (t.extract "/b").2
  let p : PathCriteria := ⟨some used, none, some "GET"⟩
  have hbuilt : (Predicate.path ⟨some t, none, some "GET"⟩).Reachable :=
    .built (Predicate.ofTemplate?_source _ _ none (some "GET"))
  have hreachable : (Predicate.path p).Reachable := .asked "/b" hbuilt rfl
  have hget : p.isGet = true := rfl
  have hempty : Uri.split "/a?" = .ok ⟨"/a", some ""⟩ := by decide +kernel
  have hbare : Uri.split "/a/b" = .ok ⟨"/a/b", none⟩ := by decide +kernel
  have hamps : Uri.split "/a?&&" = .ok ⟨"/a", some "&&"⟩ := by decide +kernel
  refine ⟨p, used, hreachable, rfl, by decide +kernel, ?_, ?_, ?_⟩
  · obtain ⟨-, -, vars, -, -, -, hvars, hnames, -⟩ :=
      (test_extract_agree hreachable ⟨"/a?", some "GET", none⟩).1 used rfl (by decide +kernel)
        (by decide +kernel) (by rintro ⟨-, fault, hfault⟩; cases hempty.symm.trans hfault)
        (by rintro query ⟨-, hne, path, hpath⟩; cases hempty.symm.trans hpath; exact hne rfl)
    exact ⟨vars, hvars, hnames⟩
  · apply ((test_extract_agree hreachable ⟨"/a/b", some "GET", none⟩).2.1 used rfl
      (by decide +kernel)).2
    rintro query ⟨-, -, path, hpath⟩
    cases hbare.symm.trans hpath
  · apply (test_extract_agree hreachable ⟨"/a?&&", some "GET", none⟩).2.2.2
    exact ⟨"&&", ⟨hget, by decide, "/a", hamps⟩, by simp⟩

end PathCriteria

end RequestRouting
