import RequestRouting.Regex.Escape
import RequestRouting.Regex.Flags

/-!
# Bracketed sets

Sets in square brackets. A closing bracket in first place is a member, a hyphen joins two
characters to a range unless it comes last, and named classes, letter escapes and categories are
members too.
-/

namespace RequestRouting.Regex.Bracket

open RequestRouting.Text (between)

def character (whole : List Char) : List Char → Except ReadError (Char × List Char)
  | [] => .error (.missingBracket whole)
  | '\\' :: rest => Escape.character ('\\' :: rest) rest
  | c :: rest => .ok (c, rest)

def range (flags : Flags) (whole text : List Char) : Except ReadError (CharSet × List Char) := do
  let (first, rest) ← character whole text
  match rest with
  | '-' :: next :: more =>
    if next = ']' then return (flags.resolve (.single first) true, rest)
    let (last, rest) ← character whole (next :: more)
    if last < first then .error (.badRange (between text rest))
    else return (flags.resolve (.range first last) true, rest)
  | _ => return (flags.resolve (.single first) true, rest)

def upToColonBracket? : List Char → Option (List Char × List Char)
  | [] => none
  | c :: rest =>
    match [':', ']'].isPrefixOf? (c :: rest) with
    | some after => some ([], after)
    | none => (upToColonBracket? rest).map fun p => (c :: p.1, p.2)

def ofClassName? (flags : Flags) : List Char → Option CharSet
  | '^' :: name => (CharSet.ofName? (String.ofList name)).map (flags.resolve · false)
  | name => (CharSet.ofName? (String.ofList name)).map (flags.resolve · true)

def member (flags : Flags) (whole text : List Char) : Except ReadError (CharSet × List Char) :=
  match text with
  | '[' :: ':' :: rest =>
    match upToColonBracket? rest with
    | none => range flags whole text
    | some (name, after) =>
      match ofClassName? flags name with
      | some set => .ok (set, after)
      | none => .error (.badRange (between text after))
  | '\\' :: c :: rest =>
    if (c = 'p' || c = 'P') && !rest.isEmpty then
      (Escape.category text (c = 'p') rest).map fun (g, rest) =>
        (flags.resolve (.category g.1) g.2, rest)
    else match CharSet.ofEscape? c with
      | some (set, positive) => .ok (flags.resolve set positive, rest)
      | none => range flags whole text
  | _ => range flags whole text

def members (flags : Flags) (whole : List Char) :
    Nat → (isFirst : Bool) → List Char → Except ReadError (List CharSet × List Char)
  | 0, _, _ => .error (.missingBracket whole)
  | n + 1, isFirst, text =>
    match text with
    | [] => .error (.missingBracket whole)
    | c :: rest =>
      if c = ']' && !isFirst then .ok ([], rest)
      else do
        let (set, rest) ← member flags whole text
        let (sets, rest) ← members flags whole n false rest
        return (set :: sets, rest)

/-- Reads a set; `whole` starts with the opening bracket and `text` follows it. -/
def read (flags : Flags) (whole text : List Char) : Except ReadError (CharSet × List Char) :=
  match text with
  | '^' :: rest => do
    let (sets, rest) ← members flags whole text.length true rest
    return (.complement (.ofList sets), rest)
  | _ => do
    let (sets, rest) ← members flags whole text.length true text
    return (.ofList sets, rest)

end RequestRouting.Regex.Bracket
