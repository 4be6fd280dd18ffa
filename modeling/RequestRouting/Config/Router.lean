import RequestRouting.Config.Entry
import RequestRouting.Router

/-!
# Router configurations

A configuration lists the entries of a router in order and may name a fallback. Reading one stops
at the first faulty entry. Building the routes stops at the first template that does not compile.
-/

namespace RequestRouting

namespace Config

inductive ConfigError where
  | notARecord (kind : String)
  | missingRoutes
  | routesNotAList (kind : String)
  | entry (index : Nat) (fault : EntryFault)
  | fallbackNotAText (kind : String)
  deriving DecidableEq, Repr

def ConfigError.message : ConfigError → String
  | notARecord kind => "expected dict, got " ++ kind
  | missingRoutes => "missing required field 'routes'"
  | routesNotAList kind => "'routes' must be a list, got " ++ kind
  | entry index fault => fault.message index
  | fallbackNotAText kind => "'on_no_match' must be a string, got " ++ kind

def readEntries (index : Nat) : List Value → Except ConfigError (List Entry)
  | [] => .ok []
  | value :: rest =>
    match readEntry value with
    | .error fault => .error (.entry index fault)
    | .ok entry => (readEntries (index + 1) rest).map (entry :: ·)

end Config

open Config

structure RouterConfig where
  entries : List Entry
  fallback : Option String
  deriving DecidableEq, Repr

namespace RouterConfig

def ofValue? : Value → Except ConfigError RouterConfig
  | .record fields =>
    match fieldOf fields "routes" with
    | .null => .error .missingRoutes
    | .list items =>
      match readEntries 0 items with
      | .error e => .error e
      | .ok entries =>
        match textField? fields "on_no_match" with
        | .error kind => .error (.fallbackNotAText kind)
        | .ok fallback => .ok ⟨entries, fallback⟩
    | value => .error (.routesNotAList value.kind)
  | value => .error (.notARecord value.kind)

def buildPair? : Entry → Except BuildError (Predicate × String)
  | .template name template method protocol =>
    (Predicate.ofTemplate? template protocol method).map (·, name)
  | .start name start method => (Predicate.ofStart? (some start) method).map (·, name)

/-- Builds predicates in order up to the first that cannot be built, and lists what that reports. -/
def buildPairs : List Entry → List Event × Except BuildError (List (Predicate × String))
  | [] => ([], .ok [])
  | entry :: rest =>
    match buildPair? entry with
    | .error e => ([], .error e)
    | .ok pair =>
      let (events, pairs) := buildPairs rest
      (pair.1.announcement ++ events, pairs.map (pair :: ·))

/-- Builds the router of a configuration: each entry has a route with a predicate of its own, which
answers with the name of the entry. What the entries before a faulty one report is listed also when
loading fails. -/
def load (config : RouterConfig) : List Event × Except BuildError (Router String) :=
  let (events, pairs) := buildPairs config.entries
  (events, pairs.map (Router.ofPairs · config.fallback))

end RouterConfig

end RequestRouting
