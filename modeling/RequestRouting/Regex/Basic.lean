import RequestRouting.Regex.CharSet

/-!
# Regular expressions

Regular expressions with groups, anchors and greedy or lazy repetition. Groups carry the number of
their opening parenthesis, counted from one, and a name if they have one.
-/

namespace RequestRouting.Regex

inductive Anchor where
  | beginText
  | endText
  | beginLine
  | endLine
  | wordBoundary
  | notWordBoundary
  deriving DecidableEq, Repr

inductive Repetition where
  | zeroOrMore
  | oneOrMore
  | optional
  deriving DecidableEq, Repr

end RequestRouting.Regex

namespace RequestRouting

open Regex

inductive Regex where
  | empty
  | chars (set : CharSet)
  | anyByte
  | anchor (a : Anchor)
  | seq (r s : Regex)
  | alt (r s : Regex)
  | repeated (kind : Repetition) (greedy : Bool) (r : Regex)
  | group (index : Nat) (name : Option String) (r : Regex)
  deriving DecidableEq, Repr

namespace Regex

def char (c : Char) : Regex := chars (.single c)

def sequence : List Regex → Regex
  | [] => empty
  | r :: rs => seq r (sequence rs)

/-- The alternatives in order; a lone one stands for itself. -/
def alternatives : List Regex → Regex
  | [] => empty
  | [r] => r
  | r :: rs => alt r (alternatives rs)

/-- Whether the expression can match without reading a character, anchors counted as met. -/
def nullable : Regex → Bool
  | empty => true
  | chars _ => false
  | anyByte => false
  | anchor _ => true
  | seq r s => r.nullable && s.nullable
  | alt r s => r.nullable || s.nullable
  | repeated .oneOrMore _ r => r.nullable
  | repeated _ _ _ => true
  | group _ _ r => r.nullable

def groupNames : Regex → List (Option String)
  | empty | chars _ | anyByte | anchor _ => []
  | seq r s => r.groupNames ++ s.groupNames
  | alt r s => r.groupNames ++ s.groupNames
  | repeated _ _ r => r.groupNames
  | group _ name r => name :: r.groupNames

end RequestRouting.Regex
