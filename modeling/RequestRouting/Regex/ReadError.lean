/-!
# Faults of patterns

Why a pattern cannot be read. Each cause carries the part of the pattern that its message shows.
-/

namespace RequestRouting.Regex

inductive ReadError where
  | missingParenthesis (pattern : List Char)
  | unexpectedParenthesis (pattern : List Char)
  | missingBracket (text : List Char)
  | badRange (text : List Char)
  | badEscape (text : List Char)
  | trailingBackslash
  | missingOperand (operator : List Char)
  | stackedRepetition (operators : List Char)
  | badGroupName (text : List Char)
  | badGroupSyntax (text : List Char)
  deriving DecidableEq, Repr

namespace ReadError

def description : ReadError → String
  | missingParenthesis _ => "missing )"
  | unexpectedParenthesis _ => "unexpected )"
  | missingBracket _ => "missing ]"
  | badRange _ => "invalid character class range"
  | badEscape _ => "invalid escape sequence"
  | trailingBackslash => "trailing \\"
  | missingOperand _ => "no argument for repetition operator"
  | stackedRepetition _ => "bad repetition operator"
  | badGroupName _ => "invalid named capture group"
  | badGroupSyntax _ => "invalid perl operator"

def subject : ReadError → List Char
  | missingParenthesis text | unexpectedParenthesis text | missingBracket text | badRange text
  | badEscape text | missingOperand text | stackedRepetition text | badGroupName text
  | badGroupSyntax text => text
  | trailingBackslash => []

def message (e : ReadError) : String :=
  if e.subject = [] then e.description
  else e.description ++ ": " ++ String.ofList e.subject

end ReadError

end RequestRouting.Regex
