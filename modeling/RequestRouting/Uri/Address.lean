import RequestRouting.Character.Category
import RequestRouting.Text.Split

/-!
# Numeric addresses

The textual forms of IPv4 and IPv6 addresses. An IPv6 address has eight groups, or fewer when one
double colon stands for at least one group of zeros. Its last group may be an IPv4 address, which
counts as two. A scope may follow a percent sign.
-/

namespace RequestRouting.Uri.Address

open RequestRouting.Character (isHexDigit)
open RequestRouting.Text (cut)

def decimalValue (digits : List Char) : Nat :=
  digits.foldl (fun n c => 10 * n + (c.toNat - '0'.toNat)) 0

def isOctet (text : List Char) : Bool :=
  !text.isEmpty && text.all Char.isDigit && text.length ≤ 3 &&
    (text == ['0'] || text.head? != some '0') && decimalValue text ≤ 255

def isIPv4 (text : List Char) : Bool :=
  let octets := text.splitOn '.'
  octets.length == 4 && octets.all isOctet

def isGroup (text : List Char) : Bool :=
  !text.isEmpty && text.length ≤ 4 && text.all isHexDigit

/-- The number of groups that a list of parts makes up, if all are groups. Only the last part of the
whole address may be an IPv4 address. -/
def groupCount? (lastMayBeIPv4 : Bool) : List (List Char) → Option Nat
  | [] => some 0
  | [part] =>
    if isGroup part then some 1
    else if lastMayBeIPv4 && isIPv4 part then some 2
    else none
  | part :: parts => if isGroup part then (groupCount? lastMayBeIPv4 parts).map (· + 1) else none

def cutElision : List Char → Option (List Char × List Char)
  | [] => none
  | c :: rest =>
    match [':', ':'].isPrefixOf? (c :: rest) with
    | some after => some ([], after)
    | none => (cutElision rest).map fun p => (c :: p.1, p.2)

def parts (text : List Char) : List (List Char) := if text.isEmpty then [] else text.splitOn ':'

def isUnscopedIPv6 (text : List Char) : Bool :=
  match cutElision text with
  | none => groupCount? true (parts text) == some 8
  | some (high, low) =>
    match groupCount? false (parts high), groupCount? true (parts low) with
    | some m, some n => m + n ≤ 7
    | _, _ => false

def isIPv6 (text : List Char) : Bool :=
  match cut '%' text with
  | none => isUnscopedIPv6 text
  | some (address, scope) => !scope.isEmpty && !scope.contains '%' && isUnscopedIPv6 address

end RequestRouting.Uri.Address
