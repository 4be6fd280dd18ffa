import RequestRouting.Text.Split
import RequestRouting.Variables

/-!
# Query strings

A query is read as tokens between ampersands, each a key with an optional value after its first
equal sign. Trailing empty tokens are dropped, other empty tokens are the empty key. Nothing is
decoded.
-/

namespace RequestRouting.Query

open RequestRouting.Text (cut)

def dropTrailingEmpty (tokens : List (List Char)) : List (List Char) :=
  (tokens.reverse.dropWhile List.isEmpty).reverse

def tokens (query : List Char) : List (List Char) := dropTrailingEmpty (query.splitOn '&')

def readToken (token : List Char) : String × Option String :=
  match cut '=' token with
  | some (key, value) => (String.ofList key, some (String.ofList value))
  | none => (String.ofList token, none)

def pairs (query : String) : Variables := (tokens query.toList).map readToken

/-- The parameters of a query; nothing for a missing or an empty one. -/
def parameters? : Option String → Option Variables
  | none => none
  | some query => if query = "" then none else some (Variables.update [] (pairs query))

end RequestRouting.Query
