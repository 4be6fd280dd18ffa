import RequestRouting.Regex.Walk

/-!
# Leftmost search

A text is searched from its end. The plan for a place decides for each of its sets what follows a
character that the set reads just before this place, so the plan one step further left needs
nothing else of the text behind it, and no place is visited twice. Among the ways to match that
start furthest left the first in priority wins.
-/

namespace RequestRouting.Regex

structure Match where
  left : Nat
  trace : Trace
  deriving DecidableEq, Repr

structure Progress where
  plan : Plan
  found : Option Match
  left : Nat
  deriving DecidableEq, Repr

namespace Progress

/-- Tries to match at a place. A match here replaces those that start further right. -/
def visit (place : Place) (s : Progress) : Progress :=
  let next := Walk.finish place.left
  { plan := s.plan.advance place next
    found := match (s.plan.walk place next []).1 with
      | some trace => some ⟨place.left, trace⟩
      | none => s.found
    left := place.left }

def visitChar (before : Option Char) (c : Char) (s : Progress) : Progress :=
  let left := s.left
  visit ⟨before, some c, false, left + 1⟩
    (Nat.repeat (visit ⟨some c, some c, true, left⟩) (c.utf8Size - 1) s)

def ofText (p : Plan) (before : Option Char) : List Char → Progress
  | [] => visit ⟨before, none, false, 0⟩ ⟨p, none, 0⟩
  | c :: rest => visitChar before c (ofText p (some c) rest)

end Progress

def search? (r : Regex) (text : List Char) : Option Match :=
  (Progress.ofText (plan r 0).1 none text).found

namespace Match

def lastMark? (m : Match) (index : Nat) (isOpening : Bool) : Option Nat :=
  (m.trace.marks.reverse.find? fun k => k.group == index && k.isOpening == isOpening).map (·.left)

/-- The text that a group took part with, by its last opening and closing. -/
def group? (m : Match) (text : List Char) (index : Nat) : Option (List Char) :=
  match m.lastMark? index true, m.lastMark? index false with
  | some first, some last => some ((text.drop (text.length - first)).take (first - last))
  | _, _ => none

def start (m : Match) (text : List Char) : Nat := text.length - m.left

def stop (m : Match) (text : List Char) : Nat := text.length - m.trace.left

end Match

end RequestRouting.Regex
