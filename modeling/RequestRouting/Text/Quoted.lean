import RequestRouting.Character.Printable

/-!
# Quoted texts

Texts in quotation marks, as messages show them. The quote is single unless the text holds a single
quote and no double one. Backslashes, the quote and characters that do not print are escaped.
-/

namespace RequestRouting.Text

def hexDigits : (width n : Nat) → List Char
  | 0, _ => []
  | width + 1, n => hexDigits width (n / 16) ++ [Nat.digitChar (n % 16)]

def quoteFor (text : List Char) : Char :=
  if '\x27' ∈ text ∧ '\x22' ∉ text then '\x22' else '\x27'

theorem quoteFor_eq (text : List Char) : quoteFor text = '\x22' ∨ quoteFor text = '\x27' := by
  rw [quoteFor]
  split
  · exact .inl rfl
  · exact .inr rfl

def numericEscape (n : Nat) : List Char :=
  if n < 0x100 then '\\' :: 'x' :: hexDigits 2 n
  else if n < 0x10000 then '\\' :: 'u' :: hexDigits 4 n
  else '\\' :: 'U' :: hexDigits 8 n

/-- The escapes that do not depend on the kind of text. -/
def commonEscape? (quote c : Char) : Option (List Char) :=
  if c = '\\' ∨ c = quote then some ['\\', c]
  else match c with
    | '\n' => some ['\\', 'n']
    | '\r' => some ['\\', 'r']
    | '\t' => some ['\\', 't']
    | _ => none

def escapeChar (quote c : Char) : List Char :=
  match commonEscape? quote c with
  | some text => text
  | none =>
    if ' ' ≤ c ∧ c < '\x7f' then [c]
    else if 0x80 ≤ c.toNat && Character.isPrintable c then [c]
    else numericEscape c.toNat

def quoted (text : List Char) : List Char :=
  let quote := quoteFor text
  quote :: text.flatMap (escapeChar quote) ++ [quote]

def quote (s : String) : String := String.ofList (quoted s.toList)

theorem head?_quote (s : String) : (quote s).toList.head? = some (quoteFor s.toList) := by
  simp [quote, quoted]

def quote? : Option String → String
  | some s => quote s
  | none => "None"

def quoteList (texts : List String) : String :=
  "[" ++ ", ".intercalate (texts.map quote) ++ "]"

def escapeByte (quote : Char) (b : UInt8) : List Char :=
  let c := Char.ofNat b.toNat
  match commonEscape? quote c with
  | some text => text
  | none => if ' ' ≤ c ∧ c < '\x7f' then [c] else '\\' :: 'x' :: hexDigits 2 b.toNat

/-- Quotes the UTF-8 bytes of a text, with a `b` in front. Bytes beyond ASCII are escaped. -/
def quoteBytes (s : String) : String :=
  let quote := quoteFor s.toList
  let body := (s.toList.flatMap String.utf8EncodeChar).flatMap (escapeByte quote)
  String.ofList ('b' :: quote :: body ++ [quote])

end RequestRouting.Text
