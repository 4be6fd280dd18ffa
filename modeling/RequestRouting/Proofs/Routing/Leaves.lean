import RequestRouting.Proofs.Routing.Conditions

/-!
# Leaves of conditions

However deeply conditions are nested, evaluating them is evaluating their clauses from left to right
until one fails. The nesting shows neither in the result nor in what is read and reported.
-/

namespace RequestRouting.Condition

mutual

def leaves : Condition → List (Field × Matcher)
  | clause field matcher => [(field, matcher)]
  | all conditions => leavesAll conditions

def leavesAll : List Condition → List (Field × Matcher)
  | [] => []
  | c :: conditions => leaves c ++ leavesAll conditions

end

def clauses (leaves : List (Field × Matcher)) : List Condition :=
  leaves.map fun leaf => clause leaf.1 leaf.2

/-- The field of the clause is there and has a value that the clause accepts. -/
def Holds (r : Request) (leaf : Field × Matcher) : Prop :=
  ∃ value, (r.read leaf.1).1 = some value ∧ leaf.2.accepts (some value) = true

theorem accepts_iff_holds {r : Request} {leaf : Field × Matcher} :
    leaf.2.accepts (r.read leaf.1).1 = true ↔ Holds r leaf := by
  rw [Holds]
  cases (r.read leaf.1).1 with
  | none => simp [Matcher.accepts]
  | some value => simp

instance (r : Request) (leaf : Field × Matcher) : Decidable (Holds r leaf) :=
  decidable_of_iff _ accepts_iff_holds

/-- The leaves up to and including the first one that does not hold. -/
def tried (r : Request) (leaves : List (Field × Matcher)) : List (Field × Matcher) :=
  leaves.take (leaves.findIdx (fun leaf => ¬ Holds r leaf) + 1)

section Nesting

mutual

theorem evaluateAll_leaves (r : Request) :
    ∀ c : Condition, evaluateAll r (clauses c.leaves) = evaluate r c
  | clause field matcher => by
    rw [leaves]
    exact evaluateAll_singleton r _
  | all conditions => by
    rw [leaves, evaluate]
    exact evaluateAll_leavesAll r conditions

theorem evaluateAll_leavesAll (r : Request) :
    ∀ conditions : List Condition,
      evaluateAll r (clauses (leavesAll conditions)) = evaluateAll r conditions
  | [] => by rw [leavesAll, clauses, List.map_nil]
  | c :: conditions => by
    rw [leavesAll, clauses, List.map_append, ← clauses, ← clauses, evaluateAll_append,
      evaluateAll_leaves r c, evaluateAll_leavesAll r conditions, evaluateAll]

end

theorem leavesAll_eq (conditions : List Condition) :
    leavesAll conditions = conditions.flatMap leaves := by
  induction conditions with
  | nil => rfl
  | cons c conditions ih => rw [leavesAll, ih, List.flatMap_cons]

theorem leaves_join (conditions : List Condition) :
    (join conditions).leaves = conditions.flatMap leaves := by
  unfold join
  split
  · simp
  · rw [leaves, leavesAll_eq]

end Nesting

section Turn

variable {r : Request} {leaf : Field × Matcher}

theorem evaluateAll_cons_of_holds (h : Holds r leaf) (leaves : List (Field × Matcher)) :
    evaluateAll r (clauses (leaf :: leaves)) =
      ⟨(evaluateAll r (clauses leaves)).result, leaf.1 :: (evaluateAll r (clauses leaves)).reads,
        (r.read leaf.1).2 ++ (evaluateAll r (clauses leaves)).events⟩ := by
  rw [clauses, List.map_cons, ← clauses, evaluateAll, evaluate, evaluateClause]
  dsimp only
  rw [if_pos (accepts_iff_holds.2 h)]
  rfl

theorem evaluateAll_cons_of_not_holds (h : ¬ Holds r leaf) (leaves : List (Field × Matcher)) :
    evaluateAll r (clauses (leaf :: leaves)) = ⟨false, [leaf.1], (r.read leaf.1).2⟩ := by
  rw [clauses, List.map_cons, ← clauses, evaluateAll, evaluate, evaluateClause]
  dsimp only
  have hfails := mt accepts_iff_holds.1 h
  rw [if_neg hfails, Bool.eq_false_iff.2 hfails]

theorem tried_cons_of_holds (h : Holds r leaf) (leaves : List (Field × Matcher)) :
    tried r (leaf :: leaves) = leaf :: tried r leaves := by
  simp [tried, List.findIdx_cons, h]

theorem tried_cons_of_not_holds (h : ¬ Holds r leaf) (leaves : List (Field × Matcher)) :
    tried r (leaf :: leaves) = [leaf] := by
  simp [tried, List.findIdx_cons, h]

theorem result_evaluateAll_clauses (r : Request) (leaves : List (Field × Matcher)) :
    (evaluateAll r (clauses leaves)).result = true ↔ ∀ leaf ∈ leaves, Holds r leaf := by
  induction leaves with
  | nil => simp [clauses, evaluateAll]
  | cons leaf leaves ih =>
    rw [List.forall_mem_cons]
    by_cases h : Holds r leaf
    · rw [evaluateAll_cons_of_holds h, ih, and_iff_right h]
    · rw [evaluateAll_cons_of_not_holds h]
      simp [h]

theorem reads_evaluateAll_clauses (r : Request) (leaves : List (Field × Matcher)) :
    (evaluateAll r (clauses leaves)).reads = (tried r leaves).map (·.1) := by
  induction leaves with
  | nil => rfl
  | cons leaf leaves ih =>
    by_cases h : Holds r leaf
    · rw [evaluateAll_cons_of_holds h, tried_cons_of_holds h, List.map_cons, ih]
    · rw [evaluateAll_cons_of_not_holds h, tried_cons_of_not_holds h]
      rfl

theorem events_evaluateAll_clauses (r : Request) (leaves : List (Field × Matcher)) :
    (evaluateAll r (clauses leaves)).events =
      (evaluateAll r (clauses leaves)).reads.flatMap fun field => (r.read field).2 := by
  induction leaves with
  | nil => rfl
  | cons leaf leaves ih =>
    by_cases h : Holds r leaf
    · rw [evaluateAll_cons_of_holds h, List.flatMap_cons, ih]
    · rw [evaluateAll_cons_of_not_holds h, List.flatMap_singleton]

theorem events_evaluate (r : Request) (c : Condition) :
    (evaluate r c).events = (evaluate r c).reads.flatMap fun field => (r.read field).2 := by
  rw [← evaluateAll_leaves, events_evaluateAll_clauses]

end Turn

theorem flatMap_events_read (r : Request) (fields : List Field) :
    (fields.flatMap fun field => (r.read field).2) =
      match Uri.split r.uri with
      | .ok _ => []
      | .error fault =>
        List.replicate (fields.count .path) (.pathUnavailable r.uri fault.message) := by
  induction fields with
  | nil => cases Uri.split r.uri <;> rfl
  | cons field fields ih =>
    rw [List.flatMap_cons, ih]
    cases hsplit : Uri.split r.uri with
    | ok parts => cases field <;> simp [Request.read, Request.path, hsplit]
    | error fault =>
      cases field <;> simp [Request.read, Request.path, hsplit, List.replicate_succ]

/-- A condition holds if all its clauses do. Its clauses are read in turn up to the first that
fails, every path that is read from a refused URI is reported, and the conjunction of the clauses
without any nesting evaluates alike. Joining conditions adds no clause and takes none away. -/
theorem evaluate_leaves_in_turn (r : Request) :
    (∀ c : Condition,
      ((evaluate r c).result = true ↔ ∀ leaf ∈ c.leaves, Holds r leaf) ∧
      (evaluate r c).reads = (tried r c.leaves).map (·.1) ∧
      ((evaluate r c).events =
        match Uri.split r.uri with
        | .ok _ => []
        | .error fault => List.replicate ((evaluate r c).reads.count .path)
            (.pathUnavailable r.uri fault.message)) ∧
      evaluate r (all (clauses c.leaves)) = evaluate r c) ∧
    ∀ conditions : List Condition,
      (all conditions).leaves = conditions.flatMap leaves ∧
      (join conditions).leaves = conditions.flatMap leaves ∧
      evaluate r (join conditions) = evaluate r (all conditions) := by
  constructor
  · intro c
    refine ⟨?_, ?_, ?_, ?_⟩
    · rw [← evaluateAll_leaves, result_evaluateAll_clauses]
    · rw [← evaluateAll_leaves, reads_evaluateAll_clauses]
    · rw [events_evaluate, flatMap_events_read]
    · rw [evaluate, evaluateAll_leaves]
  · intro conditions
    refine ⟨?_, leaves_join conditions, ?_⟩
    · rw [leaves, leavesAll_eq]
    · rw [evaluate_join, evaluate]

/-- Nothing behind the failing clause is read, neither inside its conjunction nor outside of it. -/
example : evaluate ⟨"/%", some "GET", none⟩
    (.all [.clause .path (.startingWith "/"),
      .all [.all [], .clause .path (.exactly "/"), .clause .path (.exactly "/%")],
      .clause .absent (.startingWith "")]) =
    ⟨false, [.path, .path], [.pathUnavailable "/%" "malformed percent-escape",
      .pathUnavailable "/%" "malformed percent-escape"]⟩ := by decide +kernel

end RequestRouting.Condition
