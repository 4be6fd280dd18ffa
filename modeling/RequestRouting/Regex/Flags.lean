import RequestRouting.Regex.Basic

/-!
# Flags

The switches a pattern can turn on and off for its own text: letters of either case, a dot that
takes line feeds, anchors at every line, and repetition that is lazy unless marked.
-/

namespace RequestRouting.Regex

structure Flags where
  caseless : Bool := false
  dotAll : Bool := false
  multiline : Bool := false
  lazyFirst : Bool := false
  deriving DecidableEq, Repr

namespace Flags

def set? (flags : Flags) (on : Bool) : Char → Option Flags
  | 'i' => some { flags with caseless := on }
  | 's' => some { flags with dotAll := on }
  | 'm' => some { flags with multiline := on }
  | 'U' => some { flags with lazyFirst := on }
  | _ => none

/-- What a set or its complement stands for. Case variants are added before the complement is
taken, so that a caseless complement leaves out every variant. -/
def resolve (flags : Flags) (set : CharSet) (positive : Bool) : CharSet :=
  let set := if flags.caseless then .caseless set else set
  if positive then set else .complement set

def literal (flags : Flags) (c : Char) : Regex := .chars (flags.resolve (.single c) true)

def dot (flags : Flags) : Regex := .chars (if flags.dotAll then .any else .except '\n')

def caret (flags : Flags) : Regex := .anchor (if flags.multiline then .beginLine else .beginText)

def dollar (flags : Flags) : Regex := .anchor (if flags.multiline then .endLine else .endText)

end Flags

end RequestRouting.Regex
