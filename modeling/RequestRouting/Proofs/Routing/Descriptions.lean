import RequestRouting.Proofs.Routing.FirstMatch
import RequestRouting.Proofs.Text.Quoted

/-!
# Equal predicates and what they print

A predicate prints what was asked for, each part quoted. Quoted texts show where they end, so the
parts can be told from the print whatever characters they hold, and two predicates print alike
exactly when they are equal. What a template remembers is neither compared nor printed.
-/

namespace RequestRouting

open Text (quote quote? quote_append_inj quote?_append_inj)

theorem PathTemplate.fresh_eq_iff {t u : PathTemplate} :
    t.fresh = u.fresh ↔ t.source = u.source := by
  constructor
  · intro h
    have hsource : t.fresh.source = u.fresh.source := by rw [h]
    exact hsource
  · intro h
    have hbuilt := u.ofSource?_source
    rw [← h, t.ofSource?_source] at hbuilt
    exact Except.ok.inj hbuilt

namespace PathCriteria

variable {p q : PathCriteria}

theorem toList_describe (p : PathCriteria) :
    p.describe.toList = "HttpPredicate(uri=".toList ++ ((quote? p.uri).toList ++
      (", protocol=".toList ++ ((quote? p.protocol).toList ++
        (", method=".toList ++ ((quote? p.method).toList ++ ")".toList))))) := by
  -- as it is defined: finding its equation would evaluate the literals
  delta describe
  simp only [String.toList_append, List.append_assoc]

theorem describe_eq_iff :
    p.describe = q.describe ↔ p.uri = q.uri ∧ p.protocol = q.protocol ∧ p.method = q.method := by
  rw [← String.toList_inj, toList_describe, toList_describe, List.append_cancel_left_eq,
    quote?_append_inj, List.append_cancel_left_eq, quote?_append_inj, List.append_cancel_left_eq,
    quote?_append_inj, eq_self, and_true]

theorem fresh_eq_iff :
    p.fresh = q.fresh ↔ p.uri = q.uri ∧ p.protocol = q.protocol ∧ p.method = q.method := by
  obtain ⟨template, protocol, method⟩ := p
  obtain ⟨other, _, _⟩ := q
  cases template <;> cases other <;> simp [fresh, uri, PathTemplate.fresh_eq_iff]

end PathCriteria

namespace StartCriteria

theorem toList_describe (p : StartCriteria) :
    p.describe.toList = "HttpPrefixPredicate(prefix=".toList ++ ((quote p.start).toList ++
      (", method=".toList ++ ((quote? p.method).toList ++ ")".toList))) := by
  delta describe
  simp only [String.toList_append, List.append_assoc]

theorem describe_eq_iff {p q : StartCriteria} :
    p.describe = q.describe ↔ p.start = q.start ∧ p.method = q.method := by
  rw [← String.toList_inj, toList_describe, toList_describe, List.append_cancel_left_eq,
    quote_append_inj, List.append_cancel_left_eq, quote?_append_inj, eq_self, and_true]

theorem describe_ne (p : StartCriteria) (q : PathCriteria) : p.describe ≠ q.describe := by
  rw [ne_eq, ← String.toList_inj, toList_describe, PathCriteria.toList_describe]
  simp

end StartCriteria

namespace Predicate

theorem describe_eq_iff {p q : Predicate} : p.describe = q.describe ↔ p.fresh = q.fresh := by
  cases p with
  | path p =>
    cases q with
    | path q =>
      rw [fresh, fresh, path.injEq, PathCriteria.fresh_eq_iff]
      exact PathCriteria.describe_eq_iff
    | start q => exact iff_of_false (q.describe_ne p).symm Predicate.noConfusion
  | start p =>
    cases q with
    | path q => exact iff_of_false (p.describe_ne q) Predicate.noConfusion
    | start q =>
      rw [fresh, fresh, start.injEq, StartCriteria.mk.injEq]
      exact StartCriteria.describe_eq_iff

/-- Only what was asked for is compared, and what is built follows from that. -/
theorem beq_iff_fresh {p q : Predicate} : (p == q) = true ↔ p.fresh = q.fresh := by
  cases p with
  | path p =>
    cases q with
    | path q =>
      rw [fresh, fresh, path.injEq, PathCriteria.fresh_eq_iff]
      show (p.uri == q.uri && p.protocol == q.protocol && p.method == q.method) = true ↔ _
      simp [and_assoc]
    | start q => exact iff_of_false Bool.false_ne_true Predicate.noConfusion
  | start p =>
    cases q with
    | path q => exact iff_of_false Bool.false_ne_true Predicate.noConfusion
    | start q =>
      rw [fresh, fresh, start.injEq, StartCriteria.mk.injEq]
      show (p.start == q.start && p.method == q.method) = true ↔ _
      simp

def after (p : Predicate) (requests : List Request) : Predicate :=
  requests.foldl (fun p r => (p.extract r).predicate) p

theorem fresh_after (p : Predicate) (requests : List Request) :
    (p.after requests).fresh = p.fresh := by
  induction requests generalizing p with
  | nil => rfl
  | cons r requests ih => exact (ih (p.extract r).predicate).trans (fresh_extract p r)

theorem describe_after (p : Predicate) (requests : List Request) :
    (p.after requests).describe = p.describe :=
  describe_eq_iff.2 (fresh_after p requests)

theorem beq_after (p q : Predicate) (requests others : List Request) :
    (p.after requests == q.after others) = (p == q) := by
  rw [Bool.eq_iff_iff, beq_iff_fresh, beq_iff_fresh, fresh_after, fresh_after]

/-- Two predicates are equal exactly when they print alike. Then they were built alike, compiled
templates included, and test by the same clauses. However often either was asked for variables, it
is equal to the same predicates as before and prints the same. -/
theorem beq_iff_describe_eq (p q : Predicate) :
    ((p == q) = true ↔ p.describe = q.describe) ∧
    ((p == q) = true ↔ p.fresh = q.fresh) ∧
    ((p == q) = true → p.condition = q.condition) ∧
    ∀ requests others, (p.after requests == q.after others) = (p == q) ∧
      (p.after requests).describe = p.describe := by
  refine ⟨beq_iff_fresh.trans describe_eq_iff.symm, beq_iff_fresh, ?_, ?_⟩
  · intro h
    rw [← p.condition_fresh, beq_iff_fresh.1 h, q.condition_fresh]
  · intro requests others
    exact ⟨p.beq_after q requests others, p.describe_after requests⟩

theorem beq_iff_describe_eq_asked :
    (∃ asked built : Predicate, asked.memoSize? = some 1 ∧ built.memoSize? = some 0 ∧
      (asked == built) = true ∧ asked.describe = built.describe ∧
      asked.condition = built.condition) ∧
    (start ⟨"/a", some "b"⟩).describe ≠ (start ⟨"/a\x27, method=\x27b", none⟩).describe := by
  let tokens : List Template.Token := [.literal '/', .segment "id"]
  let t : PathTemplate := @PathTemplate.ofTokens tokens (by decide +kernel) (by decide +kernel)
  let built : Predicate := .path ⟨some t, some "\x27\x22", some "GET"⟩
  let asked : Predicate := (built.extract ⟨"/b", some "GET", none⟩).predicate
  have hequal : (asked == built) = true := by decide +kernel
  have hlaw := beq_iff_describe_eq asked built
  refine ⟨⟨asked, built, by decide +kernel, rfl, hequal, hlaw.1.1 hequal, hlaw.2.2.1 hequal⟩, ?_⟩
  rw [ne_eq, ← (beq_iff_describe_eq _ _).1]
  decide

end Predicate

end RequestRouting
