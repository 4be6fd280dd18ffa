import RequestRouting.Regex.Plan

/-!
# Walking a plan at one place

A walk follows a plan from one place in a text without reading: it ends at the sets that can read
the next character, and takes from them how to go on. An earlier alternative comes before a later
one, and a greedy repetition goes on before it stops. A way that comes back to a decision point, or
that reaches one from which the walk has already failed, is given up.
-/

namespace RequestRouting.Regex

/-- A place in a text: the characters around it and the number of characters left. Inside the
encoding of a character, that character stands on both sides and does not count as left. -/
structure Place where
  before : Option Char
  after : Option Char
  isInside : Bool
  left : Nat
  deriving DecidableEq, Repr

namespace Place

def isWordEdge (p : Place) : Bool :=
  p.before.any Character.isWordChar != p.after.any Character.isWordChar

def meets (p : Place) : Anchor → Bool
  | .beginText => p.before.isNone
  | .endText => p.after.isNone
  | .beginLine => p.before.all (· == '\n')
  | .endLine => p.after.all (· == '\n')
  | .wordBoundary => p.isWordEdge
  | .notWordBoundary => !p.isWordEdge

def reads (p : Place) (set : CharSet) : Bool := !p.isInside && p.after.any set.has

end Place

/-- A search that may pass decision points, given those it has passed; it returns the best way it
finds together with all points it has passed. -/
abbrev Walk := List Nat → Option Trace × List Nat

namespace Walk

def fail : Walk := fun passed => (none, passed)

def finish (left : Nat) : Walk := fun passed => (some ⟨[], left⟩, passed)

def orElse (w v : Walk) : Walk := fun passed =>
  match w passed with
  | (some t, passed) => (some t, passed)
  | (none, passed) => v passed

def first (greedy : Bool) (w v : Walk) : Walk := if greedy then w.orElse v else v.orElse w

def pass (point : Nat) (w : Walk) : Walk := fun passed =>
  if passed.contains point then (none, passed) else w (point :: passed)

def mark (m : Mark) (w : Walk) : Walk := fun passed =>
  match w passed with
  | (t, passed) => (t.map (Trace.mark m), passed)

end Walk

namespace Plan

/-- Follows the plan from a place, and then `next` from wherever it ends without having read. -/
def walk (place : Place) : Plan → Walk → Walk
  | empty, next => next
  | chars set onward, _ => fun passed => (if place.reads set then onward else none, passed)
  | anyByte onward, _ => fun passed => (if place.after.isSome then onward else none, passed)
  | anchor a, next => if place.meets a then next else Walk.fail
  | seq p q, next => p.walk place (q.walk place next)
  | alt point p q, next => .pass point (.orElse (p.walk place next) (q.walk place next))
  | optional point greedy p, next => .pass point (.first greedy (p.walk place next) next)
  | zeroOrMore point greedy p, next => .pass point (.first greedy (p.walk place .fail) next)
  | oneOrMore point greedy p, next =>
    p.walk place (.pass point (.first greedy (p.walk place .fail) next))
  | group index p, next =>
    .mark ⟨index, true, place.left⟩ (p.walk place (.mark ⟨index, false, place.left⟩ next))

/-- The plan for the place one step further left: each set now holds what follows it here. Inside
the encoding of a character no set of characters can have ended, so those keep what they hold. -/
def advance (place : Place) : Plan → Walk → Plan
  | empty, _ => empty
  | chars set onward, next => chars set (if place.isInside then onward else (next []).1)
  | anyByte _, next => anyByte (next []).1
  | anchor a, _ => anchor a
  | seq p q, next => seq (p.advance place (q.walk place next)) (q.advance place next)
  | alt point p q, next => alt point (p.advance place next) (q.advance place next)
  | optional point greedy p, next => optional point greedy (p.advance place next)
  | zeroOrMore point greedy p, next =>
    zeroOrMore point greedy
      (p.advance place (.pass point (.first greedy (p.walk place .fail) next)))
  | oneOrMore point greedy p, next =>
    oneOrMore point greedy
      (p.advance place (.pass point (.first greedy (p.walk place .fail) next)))
  | group index p, next =>
    group index (p.advance place (.mark ⟨index, false, place.left⟩ next))

end Plan

end RequestRouting.Regex
