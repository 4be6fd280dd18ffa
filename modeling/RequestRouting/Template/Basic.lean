import RequestRouting.Regex.Search
import RequestRouting.Template.Compile
import RequestRouting.Variables

/-!
# Path templates

A path template decides which paths it matches and extracts its variables from them. Extraction
remembers its result for every path, so that asking again gives the same answer without a search.
-/

namespace RequestRouting

namespace Template.Compiled

def search? (c : Compiled) (path : String) : Option Regex.Match :=
  Regex.search? c.regex path.toList

def accepts (c : Compiled) (path : String) : Bool := (c.search? path).isSome

/-- The variables that a path binds, none if it does not match. The groups are numbered in the order
of the variables, and a variable whose group took no part has no value. -/
def extract (c : Compiled) (path : String) : Variables :=
  match c.search? path with
  | none => []
  | some m => c.variables.zipIdx.map fun (name, i) =>
      (name, (m.group? path.toList (i + 1)).map String.ofList)

theorem names_extract {c : Compiled} {path : String} (h : c.accepts path = true) :
    (c.extract path).names = c.variables := by
  obtain ⟨m, hm⟩ := Option.isSome_iff_exists.1 h
  rw [extract, hm, Variables.names, List.map_map]
  exact List.zipIdx_map_fst 0 c.variables

theorem extract_eq_nil {c : Compiled} (h : c.variables = []) (path : String) :
    c.extract path = [] := by
  rw [extract, h]
  split <;> rfl

theorem extract_ne_nil_iff {c : Compiled} {path : String} :
    c.extract path ≠ [] ↔ c.accepts path = true ∧ c.variables ≠ [] := by
  constructor
  · intro h
    constructor
    · rw [accepts, Option.isSome_iff_ne_none]
      intro hnone
      exact h (by rw [extract, hnone])
    · intro hvariables
      exact h (extract_eq_nil hvariables path)
  · rintro ⟨haccepts, hvariables⟩ hnil
    have hnames := names_extract haccepts
    rw [hnil] at hnames
    exact hvariables hnames.symm

theorem extract_of_search? {c : Compiled} {path : String} {m : Regex.Match}
    (h : c.search? path = some m) :
    c.extract path = (c.variables.zipIdx 1).map fun (name, i) =>
      (name, (m.group? path.toList i).map String.ofList) := by
  rw [extract, h, List.zipIdx_succ, List.map_map]
  rfl

end Template.Compiled

structure PathTemplate where
  source : String
  compiled : Template.Compiled
  compile_source : Template.compile source = .ok compiled
  /-- The extracted variables of every path asked for, in the order of first asking. -/
  memo : List (String × Variables) := []

namespace PathTemplate

def ofSource? (source : String) : Except Template.CompileError PathTemplate :=
  match h : Template.compile source with
  | .ok compiled => .ok ⟨source, compiled, h, []⟩
  | .error e => .error e

def «variables» (t : PathTemplate) : List String := t.compiled.variables

def pattern (t : PathTemplate) : String := t.compiled.pattern

def describe (t : PathTemplate) : String := "UriPathTemplate(" ++ Text.quote t.source ++ ")"

def accepts (t : PathTemplate) (path : String) : Bool := t.compiled.accepts path

/-- The variables of a path, and the template that remembers them. -/
def extract (t : PathTemplate) (path : String) : Variables × PathTemplate :=
  match List.lookup path t.memo with
  | some vars => (vars, t)
  | none =>
    let vars := t.compiled.extract path
    (vars, { t with memo := t.memo ++ [(path, vars)] })

def memoSize (t : PathTemplate) : Nat := t.memo.length

end PathTemplate

end RequestRouting
