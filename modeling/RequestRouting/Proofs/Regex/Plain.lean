import Mathlib.Data.List.Basic
import RequestRouting.Regex.Search

/-!
# Plain expressions

Plain expressions repeat nothing but single sets of characters. Their meaning is backtracking
without memory: the first way to match, in the order of the alternatives, that the rest of the
expression can complete. A search plan for a plain expression is ready for a place when each of
its sets holds the way on from there.
-/

namespace RequestRouting.Regex

/-- The way on from a place, given the character before the place and the text after it. -/
abbrev Onward := Option Char → List Char → Option Trace

def Onward.mark (index : Nat) (isOpening : Bool) (k : Onward) : Onward := fun before text =>
  (k before text).map (Trace.mark ⟨index, isOpening, text.length⟩)

def Onward.finish : Onward := fun _ text => some ⟨[], text.length⟩

def Place.at (before : Option Char) (text : List Char) : Place :=
  ⟨before, text.head?, false, text.length⟩

inductive Plain where
  | empty
  | chars (set : CharSet)
  | many (greedy : Bool) (set : CharSet)
  | anchor (a : Anchor)
  | seq (p q : Plain)
  | alt (p q : Plain)
  | group (index : Nat) (name : Option String) (p : Plain)
  deriving DecidableEq, Repr

def prefer (isFirst : Bool) (v w : Option Trace) : Option Trace :=
  if isFirst then v.or w else w.or v

namespace Plain

def toRegex : Plain → Regex
  | empty => .empty
  | chars set => .chars set
  | many greedy set => .repeated .zeroOrMore greedy (.chars set)
  | anchor a => .anchor a
  | seq p q => .seq p.toRegex q.toRegex
  | alt p q => .alt p.toRegex q.toRegex
  | group index name p => .group index name p.toRegex

def readOne (set : CharSet) (k : Onward) : Onward
  | _, [] => none
  | _, c :: rest => if set.has c then k (some c) rest else none

def readMany (greedy : Bool) (set : CharSet) (k : Onward) : Onward
  | before, [] => k before []
  | before, c :: rest =>
    prefer greedy (if set.has c then readMany greedy set k (some c) rest else none)
      (k before (c :: rest))

/-- The first way through the expression that `k` completes. -/
def way : Plain → Onward → Onward
  | empty, k => k
  | chars set, k => readOne set k
  | many greedy set, k => readMany greedy set k
  | anchor a, k => fun before text => if (Place.at before text).meets a then k before text else none
  | seq p q, k => p.way (q.way k)
  | alt p q, k => fun before text => (p.way k before text).or (q.way k before text)
  | group index _ p, k => .mark index true (p.way (k.mark index false))

section Equations

variable (k : Onward) (before : Option Char) (text : List Char)

theorem way_many (greedy : Bool) (set : CharSet) :
    (many greedy set).way k before text = readMany greedy set k before text := rfl

theorem way_anchor (a : Anchor) :
    (anchor a).way k before text =
      if (Place.at before text).meets a then k before text else none := rfl

theorem way_alt (p q : Plain) :
    (alt p q).way k before text = (p.way k before text).or (q.way k before text) := rfl

end Equations

def points : Plain → Nat
  | empty | chars _ | anchor _ => 0
  | many _ _ => 1
  | seq p q => p.points + q.points
  | alt p q => 1 + p.points + q.points
  | group _ _ p => p.points

/-- The plan with decision points from `n` on, in which each set holds `value k` for the way `k`
that leads on from behind it. -/
def ready (value : Onward → Option Trace) : Plain → Nat → Onward → Plan
  | empty, _, _ => .empty
  | chars set, _, k => .chars set (value k)
  | many greedy set, n, k => .zeroOrMore n greedy (.chars set (value (readMany greedy set k)))
  | anchor a, _, _ => .anchor a
  | seq p q, n, k => .seq (p.ready value n (q.way k)) (q.ready value (n + p.points) k)
  | alt p q, n, k => .alt n (p.ready value (n + 1) k) (q.ready value (n + 1 + p.points) k)
  | group index _ p, n, k => .group index (p.ready value n (k.mark index false))

theorem plan_toRegex (p : Plain) (n : Nat) (k : Onward) :
    plan p.toRegex n = (p.ready (fun _ => none) n k, n + p.points) := by
  induction p generalizing n k with
  | empty | chars | anchor => rfl
  | many => rfl
  | seq p q ihp ihq =>
    rw [toRegex, plan, ihp n (q.way k)]
    simp only [ihq (n + p.points) k, ready, points]
    rw [← Nat.add_assoc]
  | alt p q ihp ihq =>
    rw [toRegex, plan, ihp (n + 1) k]
    simp only [ihq (n + 1 + p.points) k, ready, points]
    rw [← Nat.add_assoc, ← Nat.add_assoc]
  | group index name p ih =>
    rw [toRegex, plan, ih n (k.mark index false)]
    rfl

def anchored (p : Plain) : Plain := seq (anchor .beginText) p

def sequence : List Plain → Plain
  | [] => empty
  | p :: ps => seq p (sequence ps)

def alternatives : List Plain → Plain
  | [] => empty
  | [p] => p
  | p :: ps => alt p (alternatives ps)

theorem toRegex_sequence (ps : List Plain) :
    (sequence ps).toRegex = Regex.sequence (ps.map toRegex) := by
  induction ps with
  | nil => rfl
  | cons p ps ih => exact congrArg (Regex.seq p.toRegex) ih

theorem groupNames_sequence (ps : List Plain) :
    (sequence ps).toRegex.groupNames = ps.flatMap fun p => p.toRegex.groupNames := by
  induction ps with
  | nil => rfl
  | cons p ps ih => exact congrArg (p.toRegex.groupNames ++ ·) ih

theorem toRegex_alternatives (ps : List Plain) :
    (alternatives ps).toRegex = Regex.alternatives (ps.map toRegex) := by
  induction ps with
  | nil => rfl
  | cons p ps ih =>
    cases ps with
    | nil => rfl
    | cons q ps => exact congrArg (Regex.alt p.toRegex) ih

theorem way_alternatives {ps : List Plain} (h : ps ≠ []) (k : Onward) (before : Option Char)
    (text : List Char) :
    (alternatives ps).way k before text = ps.findSome? fun p => p.way k before text := by
  induction ps with
  | nil => exact absurd rfl h
  | cons p ps ih =>
    cases ps with
    | nil => simp [alternatives]
    | cons q ps =>
      rw [List.findSome?_cons, ← ih (by simp), alternatives, way_alt]
      · cases p.way k before text <;> rfl
      · simp

end Plain

end RequestRouting.Regex
