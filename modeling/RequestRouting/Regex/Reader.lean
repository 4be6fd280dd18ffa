import RequestRouting.Regex.Bracket
import RequestRouting.Regex.GroupSyntax

/-!
# Reading patterns

Reading a pattern from left to right. The first fault decides the refusal; an open parenthesis is
noticed at the end only. An opening brace is an ordinary character: there is no counted repetition.
-/

namespace RequestRouting.Regex


/-- What stands inside one pair of parentheses: the finished alternatives and the items of the
current one, newest first. -/
structure Branches where
  finished : List Regex := []
  items : List Regex := []
  deriving Repr

namespace Branches

def push (b : Branches) (r : Regex) : Branches := { b with items := r :: b.items }

def nextAlternative (b : Branches) : Branches :=
  ⟨sequence b.items.reverse :: b.finished, []⟩

def toRegex (b : Branches) : Regex := alternatives b.nextAlternative.finished.reverse

end Branches

/-- A parenthesis that is still open: its number and name if it captures, the flags that hold again
after it closes, and what was read around it. -/
structure OpenGroup where
  capture : Option (Nat × Option String)
  flags : Flags
  outer : Branches
  deriving Repr

structure Reader where
  branches : Branches := {}
  openGroups : List OpenGroup := []
  groupCount : Nat := 0
  flags : Flags := {}
  /-- The repetition operator that was just read, if one was. -/
  repetition : List Char := []
  deriving Repr

namespace Reader

def push (s : Reader) (r : Regex) : Reader :=
  { s with branches := s.branches.push r, repetition := [] }

def pushLiterals (s : Reader) (text : List Char) : Reader :=
  text.foldl (fun s c => s.push (s.flags.literal c)) { s with repetition := [] }

def nextAlternative (s : Reader) : Reader :=
  { s with branches := s.branches.nextAlternative, repetition := [] }

def openGroup (s : Reader) (capture : Option (Nat × Option String)) : Reader :=
  { s with
    branches := {}
    openGroups := ⟨capture, s.flags, s.branches⟩ :: s.openGroups
    groupCount := if capture.isSome then s.groupCount + 1 else s.groupCount
    repetition := [] }

def openCapture (s : Reader) (name : Option String) : Reader :=
  s.openGroup (some (s.groupCount + 1, name))

def openSyntax (s : Reader) : GroupSyntax → Reader
  | .named name => s.openCapture (some name)
  | .unnumbered flags => { s.openGroup none with flags := flags }
  | .switches flags => { s with flags := flags, repetition := [] }

def closeGroup? (s : Reader) : Option Reader :=
  match s.openGroups with
  | [] => none
  | g :: openGroups =>
    let inner := s.branches.toRegex
    let closed := match g.capture with
      | some (index, name) => group index name inner
      | none => inner
    some { s with branches := g.outer.push closed, openGroups, flags := g.flags, repetition := [] }

/-- Repeats the last item. An operator may not follow another one. -/
def repeatLast (s : Reader) (kind : Repetition) (isMarked : Bool) (operator : List Char) :
    Except ReadError Reader :=
  if s.repetition ≠ [] then .error (.stackedRepetition (s.repetition ++ operator))
  else match s.branches.items with
    | [] => .error (.missingOperand operator)
    | r :: items =>
      let greedy := isMarked == s.flags.lazyFirst
      .ok { s with
        branches := { s.branches with items := repeated kind greedy r :: items }
        repetition := operator }

def repetitionOf? : Char → Option Repetition
  | '*' => some .zeroOrMore
  | '+' => some .oneOrMore
  | '?' => some .optional
  | _ => none

/-- The text up to `\E` and what follows; without `\E` all of it. -/
def quotedPart : List Char → List Char × List Char
  | [] => ([], [])
  | '\\' :: 'E' :: rest => ([], rest)
  | c :: rest => (c :: (quotedPart rest).1, (quotedPart rest).2)

def escape (s : Reader) (text : List Char) : Except ReadError (Reader × List Char) :=
  let start := '\\' :: text
  match text with
  | 'b' :: rest => .ok (s.push (.anchor .wordBoundary), rest)
  | 'B' :: rest => .ok (s.push (.anchor .notWordBoundary), rest)
  | 'A' :: rest => .ok (s.push (.anchor .beginText), rest)
  | 'z' :: rest => .ok (s.push (.anchor .endText), rest)
  | 'C' :: rest => .ok (s.push .anyByte, rest)
  | 'Q' :: rest => .ok (s.pushLiterals (quotedPart rest).1, (quotedPart rest).2)
  | 'p' :: rest => category start true rest
  | 'P' :: rest => category start false rest
  | text =>
    match text.head?.bind CharSet.ofEscape? with
    | some (set, positive) => .ok (s.push (.chars (s.flags.resolve set positive)), text.drop 1)
    | none => (Escape.character start text).map fun (c, rest) => (s.push (s.flags.literal c), rest)
where
  category (start : List Char) (positive : Bool) (rest : List Char) :
      Except ReadError (Reader × List Char) :=
    (Escape.category start positive rest).map fun (g, rest) =>
      (s.push (.chars (s.flags.resolve (.category g.1) g.2)), rest)

/-- Reads the character `c` and what belongs to it; `rest` follows `c` in the pattern. -/
def step (pattern : List Char) (s : Reader) (c : Char) (rest : List Char) :
    Except ReadError (Reader × List Char) :=
  match c with
  | '(' =>
    match ['?'].isPrefixOf? rest with
    | some text => (GroupSyntax.read s.flags (c :: rest) text).map fun (g, rest) =>
        (s.openSyntax g, rest)
    | none => .ok (s.openCapture none, rest)
  | ')' =>
    match s.closeGroup? with
    | some s => .ok (s, rest)
    | none => .error (.unexpectedParenthesis pattern)
  | '|' => .ok (s.nextAlternative, rest)
  | '^' => .ok (s.push s.flags.caret, rest)
  | '$' => .ok (s.push s.flags.dollar, rest)
  | '.' => .ok (s.push s.flags.dot, rest)
  | '[' => (Bracket.read s.flags (c :: rest) rest).map fun (set, rest) =>
      (s.push (.chars set), rest)
  | '\\' => s.escape rest
  | c =>
    match repetitionOf? c with
    | none => .ok (s.push (s.flags.literal c), rest)
    | some kind =>
      match ['?'].isPrefixOf? rest with
      | some rest => (s.repeatLast kind true [c, '?']).map (·, rest)
      | none => (s.repeatLast kind false [c]).map (·, rest)

def steps (pattern : List Char) : Nat → Reader → List Char → Except ReadError Reader
  | _, s, [] => .ok s
  | 0, s, _ => .ok s
  | n + 1, s, c :: rest =>
    match s.step pattern c rest with
    | .error e => .error e
    | .ok (s, rest) => steps pattern n s rest

end Reader

/-- Reads a whole pattern. Every step takes at least one character, so the length bounds them. -/
def read (pattern : List Char) : Except ReadError Regex :=
  match Reader.steps pattern pattern.length {} pattern with
  | .error e => .error e
  | .ok s =>
    if s.openGroups = [] then .ok s.branches.toRegex else .error (.missingParenthesis pattern)

end RequestRouting.Regex
