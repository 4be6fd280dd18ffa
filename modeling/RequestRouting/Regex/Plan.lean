import RequestRouting.Regex.Basic

/-!
# Search plans

An expression prepared for a search. Its decision points are numbered, and each of its character
sets has room for the way in which the search went on from behind a character read there.
-/

namespace RequestRouting.Regex

/-- A group was opened or closed with so many characters left to read. -/
structure Mark where
  group : Nat
  isOpening : Bool
  left : Nat
  deriving DecidableEq, Repr

/-- A way to match: the marks it passes in order, and the characters left at its end. -/
structure Trace where
  marks : List Mark
  left : Nat
  deriving DecidableEq, Repr

def Trace.mark (m : Mark) (t : Trace) : Trace := { t with marks := m :: t.marks }

/-- An expression with numbered decision points. Each set of characters holds the best way to go on
after one of them was read; a set of bytes holds that for the next byte. -/
inductive Plan where
  | empty
  | chars (set : CharSet) (onward : Option Trace)
  | anyByte (onward : Option Trace)
  | anchor (a : Anchor)
  | seq (p q : Plan)
  | alt (point : Nat) (p q : Plan)
  | optional (point : Nat) (greedy : Bool) (p : Plan)
  | zeroOrMore (point : Nat) (greedy : Bool) (p : Plan)
  | oneOrMore (point : Nat) (greedy : Bool) (p : Plan)
  | group (index : Nat) (p : Plan)
  deriving DecidableEq, Repr

/-- Numbers the decision points from `n` on and returns the next free number. A repetition whose
body can match without reading becomes an option to repeat at least once: entering it and coming
back to it are then different points. -/
def plan : Regex → Nat → Plan × Nat
  | .empty, n => (.empty, n)
  | .chars set, n => (.chars set none, n)
  | .anyByte, n => (.anyByte none, n)
  | .anchor a, n => (.anchor a, n)
  | .seq r s, n =>
    let (p, n) := plan r n
    let (q, n) := plan s n
    (.seq p q, n)
  | .alt r s, n =>
    let (p, m) := plan r (n + 1)
    let (q, m) := plan s m
    (.alt n p q, m)
  | .repeated kind greedy r, n =>
    match kind with
    | .optional =>
      let (p, m) := plan r (n + 1)
      (.optional n greedy p, m)
    | .oneOrMore =>
      let (p, m) := plan r (n + 1)
      (.oneOrMore n greedy p, m)
    | .zeroOrMore =>
      if r.nullable then
        let (p, m) := plan r (n + 2)
        (.optional n greedy (.oneOrMore (n + 1) greedy p), m)
      else
        let (p, m) := plan r (n + 1)
        (.zeroOrMore n greedy p, m)
  | .group index _ r, n =>
    let (p, n) := plan r n
    (.group index p, n)

end RequestRouting.Regex
