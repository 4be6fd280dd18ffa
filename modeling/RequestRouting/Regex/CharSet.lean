import RequestRouting.Character.Category
import RequestRouting.Character.Folding

/-!
# Character sets

Sets of characters as patterns write them, and what belongs to them. A caseless set holds a
character as soon as the set it is made from holds one of its case variants.
-/

namespace RequestRouting.Regex

open RequestRouting.Character (Category caseVariants)

inductive CharSet where
  | none
  | range (first last : Char)
  | category (g : Category)
  | union (s t : CharSet)
  | complement (s : CharSet)
  | caseless (s : CharSet)
  deriving DecidableEq, Repr

namespace CharSet

def has : CharSet → Char → Bool
  | none, _ => false
  | range first last, c => first ≤ c && c ≤ last
  | category g, c => g.has c
  | union s t, c => s.has c || t.has c
  | complement s, c => !s.has c
  | caseless s, c => (caseVariants c).any s.has

def single (c : Char) : CharSet := range c c

def any : CharSet := complement none

def except (c : Char) : CharSet := complement (single c)

@[simp] theorem has_single (c d : Char) : (single c).has d = decide (d = c) := by
  rw [Bool.eq_iff_iff]
  simp only [single, has, Bool.and_eq_true, decide_eq_true_eq]
  exact ⟨fun ⟨h, h'⟩ => Char.le_antisymm h' h, fun h => h ▸ ⟨Char.le_refl _, Char.le_refl _⟩⟩

@[simp] theorem has_except (c d : Char) : (except c).has d = !decide (d = c) := by
  simp [except, has]

def ofList : List CharSet → CharSet
  | [] => none
  | s :: sets => union s (ofList sets)

def digit : CharSet := range '0' '9'
def lower : CharSet := range 'a' 'z'
def upper : CharSet := range 'A' 'Z'
def alpha : CharSet := union upper lower
def alnum : CharSet := union digit alpha
def word : CharSet := union alnum (single '_')

/-- White space without the vertical tab. -/
def space : CharSet := ofList [range '\t' '\n', range '\x0c' '\x0d', single ' ']

/-- The set that a letter after a backslash stands for; an upper-case letter negates. -/
def ofEscape? : Char → Option (CharSet × Bool)
  | 'd' => some (digit, true)
  | 'D' => some (digit, false)
  | 's' => some (space, true)
  | 'S' => some (space, false)
  | 'w' => some (word, true)
  | 'W' => some (word, false)
  | _ => Option.none

def ofName? : String → Option CharSet
  | "alnum" => some alnum
  | "alpha" => some alpha
  | "ascii" => some (range '\x00' '\x7f')
  | "blank" => some (union (single '\t') (single ' '))
  | "cntrl" => some (union (range '\x00' '\x1f') (single '\x7f'))
  | "digit" => some digit
  | "graph" => some (range '!' '~')
  | "lower" => some lower
  | "print" => some (range ' ' '~')
  | "punct" => some (ofList [range '!' '/', range ':' '@', range '[' '\x60', range '\x7b' '~'])
  | "space" => some (union (range '\t' '\x0d') (single ' '))
  | "upper" => some upper
  | "word" => some word
  | "xdigit" => some (ofList [digit, range 'A' 'F', range 'a' 'f'])
  | _ => Option.none

end CharSet

end RequestRouting.Regex
