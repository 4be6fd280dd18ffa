import RequestRouting.Request
import RequestRouting.Template.Basic

/-!
# Conditions

A condition is a clause on one field of a request, or the conjunction of other conditions.
Evaluation goes from left to right and stops at the first clause that fails; it reports what it
read on the way.
-/

namespace RequestRouting

inductive Matcher where
  | exactly (text : String)
  | startingWith (text : String)
  | template (t : Template.Compiled)
  deriving DecidableEq, Repr

def Matcher.accepts : Matcher → Option String → Bool
  | _, none => false
  | exactly text, some value => value == text
  | startingWith text, some value => text.toList.isPrefixOf value.toList
  | template t, some value => t.accepts value

inductive Condition where
  | clause (field : Field) (matcher : Matcher)
  | all (conditions : List Condition)
  deriving Repr

/-- The result of a condition, the fields read in order, and what was reported. -/
structure Evaluation where
  result : Bool
  reads : List Field
  events : List Event
  deriving DecidableEq, Repr

def Evaluation.andThen (e next : Evaluation) : Evaluation :=
  ⟨next.result, e.reads ++ next.reads, e.events ++ next.events⟩

namespace Condition

/-- The conjunction of some conditions; a lone one stands for itself. -/
def join : List Condition → Condition
  | [c] => c
  | conditions => all conditions

def evaluateClause (r : Request) (field : Field) (matcher : Matcher) : Evaluation :=
  let (value, events) := r.read field
  ⟨matcher.accepts value, [field], events⟩

mutual

def evaluate (r : Request) : Condition → Evaluation
  | clause field matcher => evaluateClause r field matcher
  | all conditions => evaluateAll r conditions

def evaluateAll (r : Request) : List Condition → Evaluation
  | [] => ⟨true, [], []⟩
  | c :: conditions =>
    let e := evaluate r c
    if e.result then e.andThen (evaluateAll r conditions) else e

end

end Condition

end RequestRouting
