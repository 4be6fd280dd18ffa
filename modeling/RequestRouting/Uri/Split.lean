import RequestRouting.Uri.Authority

/-!
# Splitting a request URI

A URI is refused for an illegal character, for a percent sign without two hexadecimal digits, and
for a faulty authority, in this order. Otherwise its scheme, authority and fragment are left out
and the rest is cut at the first question mark into a path and a query.
-/

namespace RequestRouting.Uri

open RequestRouting.Character (isHexDigit)
open RequestRouting.Text (cut quote upTo)

inductive Fault where
  | illegalCharacter (c : Char) (index : Nat)
  | malformedEscape
  | authority (fault : AuthorityFault)
  deriving DecidableEq, Repr

def Fault.message : Fault → String
  | illegalCharacter c index =>
    "illegal character " ++ quote (String.ofList [c]) ++ " at index " ++ toString index
  | malformedEscape => "malformed percent-escape"
  | authority fault => fault.message

def refusal (uri : String) (fault : Fault) : String :=
  "malformed uri " ++ quote uri ++ ": " ++ fault.message

structure Parts where
  path : String
  query : Option String
  deriving DecidableEq, Repr

def isIllegal (c : Char) : Bool :=
  c ≤ ' ' || c = '\x7f' || ['<', '>', '\x22', '\x7b', '\x7d', '|', '\\', '^', '\x60'].contains c

def findIllegal? (index : Nat) : List Char → Option (Char × Nat)
  | [] => none
  | c :: rest => if isIllegal c then some (c, index) else findIllegal? (index + 1) rest

/-- What is left of a text without its escapes, each a percent sign and two hexadecimal digits. -/
def eraseEscapes : List Char → List Char
  | [] => []
  | '%' :: a :: b :: rest =>
    if isHexDigit a && isHexDigit b then eraseEscapes rest else '%' :: eraseEscapes (a :: b :: rest)
  | c :: rest => c :: eraseEscapes rest

def isSchemeChar (c : Char) : Bool := c.isAlphanum || c = '+' || c = '-' || c = '.'

/-- What follows a scheme and its colon, or the whole text if it does not start with a scheme. -/
def dropScheme (uri : List Char) : List Char :=
  match cut ':' uri with
  | some (scheme, rest) =>
    if scheme.head?.any Char.isAlpha && scheme.all isSchemeChar then rest else uri
  | none => uri

def endsAuthority (c : Char) : Bool := c = '/' || c = '?' || c = '#'

def cutAuthority (text : List Char) : List Char × List Char :=
  match ['/', '/'].isPrefixOf? text with
  | some rest => (rest.takeWhile (!endsAuthority ·), rest.dropWhile (!endsAuthority ·))
  | none => ([], text)

def fault? (uri : List Char) : Option Fault :=
  match findIllegal? 0 uri with
  | some (c, index) => some (.illegalCharacter c index)
  | none =>
    if (eraseEscapes uri).contains '%' then some .malformedEscape
    else (Authority.fault? (cutAuthority (dropScheme uri)).1).map .authority

/-- Path and query of a URI without looking for faults. The query is there if a question mark stands
in front of the fragment, and may be empty. -/
def parts (uri : List Char) : Parts :=
  let body := upTo '#' (cutAuthority (dropScheme uri)).2
  let (path, query) := (cut '?' body).getD (body, [])
  ⟨String.ofList path, if (upTo '#' uri).contains '?' then some (String.ofList query) else none⟩

def split (uri : String) : Except Fault Parts :=
  match fault? uri.toList with
  | some fault => .error fault
  | none => .ok (parts uri.toList)

end RequestRouting.Uri
