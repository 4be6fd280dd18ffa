import RequestRouting.Regex.Reader
import RequestRouting.Template.Expansion
import RequestRouting.Text.Quoted
import RequestRouting.Text.Sorted

/-!
# Compiling templates

Compiling a template: the expanded text is read as a pattern, its variables are put in the order
in which their groups open, and the pattern may have no groups besides. The faults are looked for
in a fixed order: repeated names, a name whose group a later pass has broken, a pattern that
cannot be read, and extra groups.
-/

namespace RequestRouting.Template

open RequestRouting.Text (indexOf? quote quoteBytes quoteList sortedSet)

inductive Reason where
  | repeatedNames (names : List String)
  | unreadable (error : Regex.ReadError)
  | extraGroups (pattern : String) (groups expected : Nat)
  deriving DecidableEq, Repr

inductive CompileError where
  | invalid (source : String) (reason : Reason)
  | lostName
  deriving DecidableEq, Repr

def Reason.message : Reason → String
  | repeatedNames names => "duplicate variable names " ++ quoteList names
  | unreadable error => quoteBytes error.message
  | extraGroups pattern groups expected =>
    "pattern " ++ quote pattern ++ " has " ++ toString groups ++ " groups for " ++
      toString expected ++ " variables"

def CompileError.message : CompileError → String
  | invalid source reason => "invalid uri template " ++ quote source ++ ": " ++ reason.message
  | lostName => "substring not found"

/-- A compiled template: the pattern text, the expression it reads as, and the variables in the
order of their groups. -/
structure Compiled where
  pattern : String
  regex : Regex
  «variables» : List String
  deriving DecidableEq, Repr

def Compiled.groupCount (c : Compiled) : Nat := c.regex.groupNames.length

def repeatedNames (names : List String) : List String :=
  sortedSet (names.filter fun name => names.count name > 1)

/-- The names in the order in which the text first opens a group of that name. -/
def inTextOrder? (text : List Char) (names : List String) : Option (List String) :=
  (names.mapM fun name => (indexOf? (groupStart name.toList) text).map fun i => (i, name)).map
    fun keyed => (keyed.mergeSort fun a b => a.1 ≤ b.1).map (·.2)

def compile (source : String) : Except CompileError Compiled :=
  let (body, found) := expand source.toList
  let text := anchored body
  let names := found.map String.ofList
  if repeatedNames names ≠ [] then .error (.invalid source (.repeatedNames (repeatedNames names)))
  else match inTextOrder? text names with
    | none => .error .lostName
    | some ordered =>
      match Regex.read text with
      | .error e => .error (.invalid source (.unreadable e))
      | .ok regex =>
        let groups := regex.groupNames.length
        if groups = ordered.length then .ok ⟨String.ofList text, regex, ordered⟩
        else .error
          (.invalid source (.extraGroups (String.ofList text) groups ordered.length))

end RequestRouting.Template
