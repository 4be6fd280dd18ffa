import RequestRouting.Character.Category
import RequestRouting.Regex.CharSet
import RequestRouting.Regex.ReadError
import RequestRouting.Text.Split

/-!
# Escapes

Escapes that stand for one character, and escapes that stand for a general category. Each reader
takes the text from the backslash on as well, since a refusal shows all that was read of the
escape.
-/

namespace RequestRouting.Regex.Escape

open RequestRouting.Character (Category isHexDigit hexValue isOctalDigit)
open RequestRouting.Text (between cut)

abbrev Reading (α : Type) := Except ReadError (α × List Char)

def refuse {α : Type} (start rest : List Char) : Reading α :=
  .error (.badEscape (between start rest))

def octalDigits : Nat → Nat → List Char → Nat × List Char
  | n + 1, value, d :: rest =>
    if isOctalDigit d then octalDigits n (8 * value + hexValue d) rest else (value, d :: rest)
  | _, value, text => (value, text)

/-- Hexadecimal digits up to a closing brace, at least one, for a code point that exists. -/
def bracedDigits (start : List Char) (value : Nat) (digitSeen : Bool) : List Char → Reading Char
  | [] => refuse start []
  | c :: rest =>
    if isHexDigit c then
      let value := 16 * value + hexValue c
      if value > 0x10ffff then refuse start rest else bracedDigits start value true rest
    else if c = '\x7d' && digitSeen then .ok (Char.ofNat value, rest)
    else refuse start rest

def hexDigits (start : List Char) : List Char → Reading Char
  | '\x7b' :: rest => bracedDigits start 0 false rest
  | c :: d :: rest =>
    if isHexDigit c && isHexDigit d then .ok (Char.ofNat (16 * hexValue c + hexValue d), rest)
    else refuse start rest
  | text => refuse start (text.drop 1)

/-- A digit other than zero needs a second one, because alone it would refer to a group. -/
def octal (start : List Char) (d : Char) (rest : List Char) : Reading Char :=
  if d = '0' || (rest.head?.any isOctalDigit) then
    let (value, rest) := octalDigits 2 (hexValue d) rest
    .ok (Char.ofNat value, rest)
  else refuse start rest

def ofLetter? : Char → Option Char
  | 'n' => some '\n'
  | 'r' => some '\r'
  | 't' => some '\t'
  | 'a' => some '\x07'
  | 'f' => some '\x0c'
  | 'v' => some '\x0b'
  | _ => none

/-- Reads what follows a backslash as one character. ASCII characters other than letters and digits
stand for themselves. -/
def character (start : List Char) : List Char → Reading Char
  | [] => .error .trailingBackslash
  | c :: rest =>
    if c = 'x' then hexDigits start rest
    else if isOctalDigit c then octal start c rest
    else match ofLetter? c with
      | some d => .ok (d, rest)
      | none => if c.toNat < 0x80 && !c.isAlphanum then .ok (c, rest) else refuse start rest

/-- The category of a name and whether it is asked for or excluded; a leading `^` turns that. -/
def categoryOf? (positive : Bool) : List Char → Option (Category × Bool)
  | '^' :: name => (categoryOf? positive name).map fun p => (p.1, !p.2)
  | [c] => (Category.ofLetter? c).map fun g => (g, positive)
  | _ => none

def category (start : List Char) (positive : Bool) : List Char → Reading (Category × Bool)
  | [] => refuse start []
  | '\x7b' :: rest =>
    match cut '\x7d' rest with
    | none => .error (.badRange start)
    | some (name, rest) => named name rest
  | c :: rest => named [c] rest
where
  named (name rest : List Char) : Reading (Category × Bool) :=
    match categoryOf? positive name with
    | some g => .ok (g, rest)
    | none => .error (.badRange (between start rest))

end RequestRouting.Regex.Escape
