/-!
# Ranges of code points

Sets of code points written as sorted inclusive ranges. A lookup stops at the first range that
starts beyond the code point, which is right because the ranges increase.
-/

namespace RequestRouting.Character

abbrev Ranges := List (Nat × Nat)

def Ranges.has : Ranges → Nat → Bool
  | [], _ => false
  | (first, last) :: rest, n => if n < first then false else n ≤ last || Ranges.has rest n

end RequestRouting.Character
