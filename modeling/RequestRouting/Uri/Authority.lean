import RequestRouting.Text.Quoted
import RequestRouting.Uri.Address

/-!
# Authorities

The part of a URI between two slashes and the path. Brackets may only enclose the whole host, which
then is an IPv6 address or a versioned address of a future kind. No character may turn into a
delimiter when the authority is brought to its compatibility form.
-/

namespace RequestRouting.Uri

open RequestRouting.Text (afterLast cut quote upTo)

inductive AuthorityFault where
  | misplacedBracket
  | badFutureAddress
  | notAnAddress (host : String)
  | bracketedIPv4
  | hiddenDelimiter (authority : String)
  deriving DecidableEq, Repr

namespace AuthorityFault

def message : AuthorityFault → String
  | misplacedBracket => "Invalid IPv6 URL"
  | badFutureAddress => "IPvFuture address is invalid"
  | notAnAddress host => quote host ++ " does not appear to be an IPv4 or IPv6 address"
  | bracketedIPv4 => "An IPv4 address cannot be in brackets"
  | hiddenDelimiter authority =>
    "netloc '" ++ authority ++ "' contains invalid characters under NFKC normalization"

end AuthorityFault

namespace Authority

/-- The characters whose compatibility decomposition holds a slash, a question mark, a number sign,
an at sign or a colon. No such mark is taken up by a composition, so these are all that can bring
one into a normalized text. -/
def disguisedDelimiters : List Char :=
  ['\u2047', '\u2048', '\u2049', '\u2100', '\u2101', '\u2105', '\u2106', '\u2a74', '\ufe13',
    '\ufe16', '\ufe55', '\ufe56', '\ufe5f', '\ufe6b', '\uff03', '\uff0f', '\uff1a', '\uff1f',
    '\uff20']

def isFutureAddress : List Char → Bool
  | 'v' :: rest =>
    match cut '.' rest with
    | some (version, address) =>
      !version.isEmpty && version.all Character.isHexDigit && !address.isEmpty
    | none => false
  | _ => false

def hostFault? (host : List Char) : Option AuthorityFault :=
  if host.head? = some 'v' then if isFutureAddress host then none else some .badFutureAddress
  else if Address.isIPv4 host then some .bracketedIPv4
  else if Address.isIPv6 host then none
  else some (.notAnAddress (String.ofList host))

/-- What is wrong with an authority that has brackets. Only what follows the last at sign is looked
at. -/
def bracketFault? (authority : List Char) : Option AuthorityFault :=
  let hostAndPort := afterLast '@' authority
  match cut '[' hostAndPort with
  | none => hostFault? (upTo ':' hostAndPort)
  | some (before, bracketed) =>
    if !before.isEmpty then some .misplacedBracket
    else match cut ']' bracketed with
      | none => hostFault? bracketed
      | some (host, rest) =>
        if rest.isEmpty || rest.head? = some ':' then hostFault? host
        else some .misplacedBracket

def fault? (authority : List Char) : Option AuthorityFault :=
  let brackets :=
    if authority.contains '[' != authority.contains ']' then some .misplacedBracket
    else if authority.contains '[' then bracketFault? authority
    else none
  match brackets with
  | some fault => some fault
  | none =>
    if authority.any disguisedDelimiters.contains then
      some (.hiddenDelimiter (String.ofList authority))
    else none

end Authority

end RequestRouting.Uri
