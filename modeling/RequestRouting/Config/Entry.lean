import RequestRouting.Config.Value
import RequestRouting.Predicate
import RequestRouting.Text.Sorted

/-!
# Route entries

An entry of a configuration names a route and gives a template or the start of a URI for it. Of an
entry the unknown fields are looked at first, then its name, then the rest; the first fault counts.
-/

namespace RequestRouting.Config

open RequestRouting.Text (quote quoteList sortedSet)

inductive Entry where
  | template (name : String) (template method protocol : Option String)
  | start (name : String) (start : String) (method : Option String)
  deriving DecidableEq, Repr

def Entry.name : Entry → String
  | template name _ _ _ => name
  | start name _ _ => name

inductive EntryFault where
  | notARecord (kind : String)
  | unknownFields (names : List String)
  | notAText (field kind : String)
  | missingName
  | templateAndStart (name : String)
  | nullStart (name : String)
  | protocolOfStart (name : String)
  deriving DecidableEq, Repr

def EntryFault.message (index : Nat) : EntryFault → String
  | notARecord kind => "route " ++ toString index ++ " must be a dict, got " ++ kind
  | unknownFields names =>
    "route " ++ toString index ++ " has unknown fields: " ++ quoteList names
  | notAText field kind =>
    "route " ++ toString index ++ ": '" ++ field ++ "' must be a string, got " ++ kind
  | missingName => "route " ++ toString index ++ " missing required field 'name'"
  | templateAndStart name =>
    "route " ++ quote name ++ ": exactly one of 'template' or 'prefix' may be set, got both"
  | nullStart name => "route " ++ quote name ++ ": 'prefix' must not be null"
  | protocolOfStart name =>
    "route " ++ quote name ++ ": prefix routes do not support 'protocol'"

def entryFields : List String := ["name", "template", "prefix", "method", "protocol"]

def unknownFields (fields : Fields) : List String :=
  sortedSet ((fields.map (·.1)).filter fun name => !entryFields.contains name)

def readText (fields : Fields) (name : String) : Except EntryFault (Option String) :=
  match textField? fields name with
  | .ok text => .ok text
  | .error kind => .error (.notAText name kind)

/-- Reads an entry with the start of a URI. Without a method field it listens for GET. -/
def readStart (name : String) (fields : Fields) : Except EntryFault Entry := do
  match ← readText fields "prefix" with
  | none => .error (.nullStart name)
  | some start =>
    if hasField fields "protocol" then .error (.protocolOfStart name)
    else if hasField fields "method" then return .start name start (← readText fields "method")
    else return .start name start (some getMethod)

def readTemplate (name : String) (fields : Fields) : Except EntryFault Entry := do
  let template ← readText fields "template"
  let method ← readText fields "method"
  let protocol ← readText fields "protocol"
  return .template name template method protocol

def readEntry : Value → Except EntryFault Entry
  | .record fields =>
    if unknownFields fields ≠ [] then .error (.unknownFields (unknownFields fields))
    else do
      match ← readText fields "name" with
      | none => .error .missingName
      | some name =>
        if !hasField fields "prefix" then readTemplate name fields
        else if hasField fields "template" then .error (.templateAndStart name)
        else readStart name fields
  | value => .error (.notARecord value.kind)

end RequestRouting.Config
