import RequestRouting.Character.Category
import RequestRouting.Regex.Flags
import RequestRouting.Regex.ReadError
import RequestRouting.Text.Split

/-!
# Group syntax

What may follow an opening parenthesis and a question mark: a name for the group, or switches,
which either hold for the rest of the enclosing group or open a group of their own without a
number.
-/

namespace RequestRouting.Regex

open RequestRouting.Character (isNameChar)
open RequestRouting.Text (between cut)

inductive GroupSyntax where
  | named (name : String)
  | unnumbered (flags : Flags)
  | switches (flags : Flags)
  deriving DecidableEq, Repr

namespace GroupSyntax

def isName (name : List Char) : Bool := !name.isEmpty && name.all isNameChar

def readName (start text : List Char) : Except ReadError (GroupSyntax × List Char) :=
  match cut '>' text with
  | none => .error (.badGroupName start)
  | some (name, rest) =>
    if isName name then .ok (.named (String.ofList name), rest)
    else .error (.badGroupName (between start rest))

/-- Reads switches. A hyphen may stand once, and a switch has to follow it. -/
def readSwitches (start : List Char) (flags : Flags) (on seen : Bool) :
    List Char → Except ReadError (GroupSyntax × List Char)
  | [] => .error (.badGroupSyntax start)
  | c :: rest =>
    match flags.set? on c with
    | some flags => readSwitches start flags on true rest
    | none =>
      if c = '-' && on then readSwitches start flags false false rest
      else if c = ':' && (on || seen) then .ok (.unnumbered flags, rest)
      else if c = ')' && (on || seen) then .ok (.switches flags, rest)
      else .error (.badGroupSyntax (between start rest))

/-- Reads what follows `(?`. Assertions about the text around are refused at once. -/
def read (flags : Flags) (start text : List Char) : Except ReadError (GroupSyntax × List Char) :=
  match text with
  | '=' :: rest | '!' :: rest | '<' :: '=' :: rest | '<' :: '!' :: rest =>
    .error (.badGroupSyntax (between start rest))
  | 'P' :: '<' :: rest | '<' :: rest => readName start rest
  | text => readSwitches start flags true false text

end GroupSyntax

end RequestRouting.Regex
