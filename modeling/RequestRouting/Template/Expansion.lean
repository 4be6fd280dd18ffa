import RequestRouting.Text.Split

/-!
# Expanding templates

From the text of a template to the text of a pattern, in three passes: variables for the rest of a
path, variables for one segment, and the bare splat. Each pass replaces the leftmost occurrence of
its construct and looks again from the start, so that it also sees what a replacement joined. A
pass ends because a replacement keeps one brace, or one star, fewer than it took.
-/

namespace RequestRouting.Template


structure Occurrence (α : Type) where
  before : List Char
  item : α
  after : List Char
  deriving DecidableEq, Repr

def Occurrence.shift {α : Type} (c : Char) (o : Occurrence α) : Occurrence α :=
  { o with before := c :: o.before }

/-- The shortest name, of one character at least and without a slash, that `closing` follows. -/
def nameBefore? (closing : List Char) : List Char → Option (List Char × List Char)
  | [] => none
  | c :: rest =>
    if c = '/' then none
    else match closing.isPrefixOf? rest with
      | some after => some ([c], after)
      | none => (nameBefore? closing rest).map fun p => (c :: p.1, p.2)

/-- The leftmost opening brace that a name and `closing` follow. -/
def findVariable? (closing : List Char) : List Char → Option (Occurrence (List Char))
  | [] => none
  | c :: rest =>
    match (if c = '\x7b' then nameBefore? closing rest else none) with
    | some (name, after) => some ⟨[], name, after⟩
    | none => (findVariable? closing rest).map (Occurrence.shift c)

def findSplat? : List Char → Option (Occurrence Unit)
  | [] => none
  | c :: rest =>
    match ['*', '*'].isPrefixOf? (c :: rest) with
    | some after => some ⟨[], (), after⟩
    | none => (findSplat? rest).map (Occurrence.shift c)

/-- Replaces the leftmost occurrence again and again, at most `n` times, and lists what it found. -/
def replaceAll {α : Type} (find? : List Char → Option (Occurrence α)) (write : α → List Char) :
    Nat → List Char → List Char × List α
  | 0, text => (text, [])
  | n + 1, text =>
    match find? text with
    | none => (text, [])
    | some o =>
      let (text, items) := replaceAll find? write n (o.before ++ write o.item ++ o.after)
      (text, o.item :: items)

def groupStart (name : List Char) : List Char := ['(', '?', 'P', '<'] ++ name ++ ['>']

def splatGroup (name : List Char) : List Char := groupStart name ++ ['.', '*', ')']

def segmentGroup (name : List Char) : List Char := groupStart name ++ ['[', '^', '/', ']', '*', ')']

def splatText : List Char := ['.', '*']

def splatVariables (text : List Char) : List Char × List (List Char) :=
  replaceAll (findVariable? ['\x7d', '*', '*']) splatGroup (text.count '\x7b') text

def segmentVariables (text : List Char) : List Char × List (List Char) :=
  replaceAll (findVariable? ['\x7d']) segmentGroup (text.count '\x7b') text

def bareSplats (text : List Char) : List Char × List Unit :=
  replaceAll findSplat? (fun _ => splatText) (text.count '*') text

/-- The pattern text between the anchors, and the names in the order in which they were found. -/
def expand (text : List Char) : List Char × List (List Char) :=
  let (text, splats) := splatVariables text
  let (text, segments) := segmentVariables text
  ((bareSplats text).1, splats ++ segments)

def anchored (body : List Char) : List Char := ['^', '(', '?', ':'] ++ body ++ [')', '$']

end RequestRouting.Template
