import RequestRouting.Character.CategoryTables

/-!
# Classes of characters

Classes of characters: the major general categories, the characters that may stand in a group name,
and the ASCII word characters that word boundaries are about.
-/

namespace RequestRouting.Character

inductive Category where
  | letter
  | mark
  | number
  | punctuation
  | symbol
  | separator
  | other
  deriving DecidableEq, Repr

def Category.ofLetter? : Char → Option Category
  | 'L' => some .letter
  | 'M' => some .mark
  | 'N' => some .number
  | 'P' => some .punctuation
  | 'S' => some .symbol
  | 'Z' => some .separator
  | 'C' => some .other
  | _ => none

def Category.ranges : Category → Ranges
  | .letter => letterRanges
  | .mark => markRanges
  | .number => numberRanges
  | .punctuation => punctuationRanges
  | .symbol => symbolRanges
  | .separator => separatorRanges
  | .other => otherRanges

def Category.has (g : Category) (c : Char) : Bool := g.ranges.has c.toNat

def isWordChar (c : Char) : Bool := c.isAlphanum || c == '_'

/-- Letters, marks other than enclosing ones, decimal digits, letter numbers and connectors. The
ASCII ones are asked first so that they are decided without a table. -/
def isNameChar (c : Char) : Bool :=
  isWordChar c || letterRanges.has c.toNat ||
    (markRanges.has c.toNat && !enclosingMarkRanges.has c.toNat) ||
    numeralRanges.has c.toNat || connectorRanges.has c.toNat

theorem isNameChar_of_isWordChar {c : Char} (h : isWordChar c = true) : isNameChar c = true := by
  simp [isNameChar, h]

def isHexDigit (c : Char) : Bool :=
  c.isDigit || ('a' ≤ c && c ≤ 'f') || ('A' ≤ c && c ≤ 'F')

def hexValue (c : Char) : Nat :=
  if c.isDigit then c.toNat - '0'.toNat
  else if 'a' ≤ c && c ≤ 'f' then c.toNat - 'a'.toNat + 10
  else if 'A' ≤ c && c ≤ 'F' then c.toNat - 'A'.toNat + 10
  else 0

def isOctalDigit (c : Char) : Bool := '0' ≤ c && c ≤ '7'

end RequestRouting.Character
