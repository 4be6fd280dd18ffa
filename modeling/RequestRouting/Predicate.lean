import RequestRouting.Condition
import RequestRouting.Query

/-!
# Predicates

A predicate decides whether a route takes a request. One kind asks for a protocol, a method and a
path template, each of them optional, and extracts variables; the other asks for a method and for
the start of the URI. Where the method is GET the template sees the path of the URI, otherwise all
of it.
-/

namespace RequestRouting

open RequestRouting.Text (quote quote?)

def getMethod : String := "GET"
def postMethod : String := "POST"
def putMethod : String := "PUT"
def deleteMethod : String := "DELETE"

structure PathCriteria where
  template : Option PathTemplate := none
  protocol : Option String := none
  method : Option String := none

structure StartCriteria where
  start : String
  method : Option String := none
  deriving DecidableEq, Repr

inductive Predicate where
  | path (criteria : PathCriteria)
  | start (criteria : StartCriteria)

inductive BuildError where
  | template (error : Template.CompileError)
  | missingStart
  deriving DecidableEq, Repr

def BuildError.message : BuildError → String
  | template error => error.message
  | missingStart => "Prefix must be provided"

structure Extraction where
  «variables» : Option Variables
  events : List Event
  predicate : Predicate

namespace PathCriteria

def uri (p : PathCriteria) : Option String := p.template.map (·.source)

def ofUri? (uri protocol method : Option String) : Except BuildError PathCriteria :=
  match uri with
  | none => .ok ⟨none, protocol, method⟩
  | some source =>
    match PathTemplate.ofSource? source with
    | .ok template => .ok ⟨some template, protocol, method⟩
    | .error e => .error (.template e)

def isGet (p : PathCriteria) : Bool := p.method == some getMethod

def clauses (p : PathCriteria) : List Condition :=
  (p.protocol.map fun text => .clause .protocol (.exactly text)).toList ++
  (p.method.map fun text => .clause .method (.exactly text)).toList ++
  (p.template.map fun t =>
    .clause (if p.isGet then .path else .uri) (.template t.compiled)).toList

def condition (p : PathCriteria) : Condition := .join p.clauses

def extractFrom (p : PathCriteria) (path : String) : Extraction :=
  match p.template with
  | none => ⟨none, [], .path p⟩
  | some t =>
    let (vars, t) := t.extract path
    ⟨if vars.isEmpty then none else some vars, [], .path { p with template := some t }⟩

/-- The parameters of the query if the method is GET and there is one, else the variables of the
path. A refused URI yields nothing and is reported. -/
def extract (p : PathCriteria) (r : Request) : Extraction :=
  if p.isGet then
    match Uri.split r.uri with
    | .error fault => ⟨none, [.variablesUnavailable r.uri fault.message], .path p⟩
    | .ok parts =>
      if parts.query.any (· ≠ "") then ⟨Query.parameters? parts.query, [], .path p⟩
      else p.extractFrom parts.path
  else p.extractFrom r.uri

def describe (p : PathCriteria) : String :=
  "HttpPredicate(uri=" ++ quote? p.uri ++ ", protocol=" ++ quote? p.protocol ++ ", method=" ++
    quote? p.method ++ ")"

end PathCriteria

namespace StartCriteria

def rooted (start : String) (method : Option String) : StartCriteria :=
  ⟨if start.toList.head? = some '/' then start else "/" ++ start, method⟩

def clauses (p : StartCriteria) : List Condition :=
  (p.method.map fun text => .clause .method (.exactly text)).toList ++
  [.clause .uri (.startingWith p.start)]

def condition (p : StartCriteria) : Condition := .join p.clauses

def describe (p : StartCriteria) : String :=
  "HttpPrefixPredicate(prefix=" ++ quote p.start ++ ", method=" ++ quote? p.method ++ ")"

end StartCriteria

namespace Predicate

def ofTemplate? (uri protocol method : Option String := none) : Except BuildError Predicate :=
  (PathCriteria.ofUri? uri protocol method).map .path

def forMethod? (method : String) (uri : Option String) : Except BuildError Predicate :=
  ofTemplate? uri none (some method)

def get? : Option String → Except BuildError Predicate := forMethod? getMethod
def post? : Option String → Except BuildError Predicate := forMethod? postMethod
def put? : Option String → Except BuildError Predicate := forMethod? putMethod
def delete? : Option String → Except BuildError Predicate := forMethod? deleteMethod

def listen? (uri : Option String) (protocol method : Option String := none) :
    Except BuildError (Option Predicate) :=
  match uri with
  | none => .ok none
  | some source => (ofTemplate? (some source) protocol method).map some

/-- A predicate for the start of a URI, of requests for GET unless another method is asked for. -/
def ofStart? (start : Option String) (method : Option String := some getMethod) :
    Except BuildError Predicate :=
  match start with
  | none => .error .missingStart
  | some start => .ok (.start (.rooted start method))

def condition : Predicate → Condition
  | path criteria => criteria.condition
  | start criteria => criteria.condition

def test (p : Predicate) (r : Request) : Evaluation := p.condition.evaluate r

def extract (p : Predicate) (r : Request) : Extraction :=
  match p with
  | path criteria => criteria.extract r
  | start _ => ⟨none, [], p⟩

def template? : Predicate → Option PathTemplate
  | path criteria => criteria.template
  | start _ => none

def memoSize? (p : Predicate) : Option Nat := p.template?.map (·.memoSize)

/-- What building the predicate reports. -/
def announcement (p : Predicate) : List Event :=
  (p.template?.map fun t => .templateCompiled t.source t.pattern).toList

def describe : Predicate → String
  | path criteria => criteria.describe
  | start criteria => criteria.describe

/-- Equality of what was asked for; what a template remembers does not matter. -/
instance : BEq Predicate where
  beq
    | path a, path b => a.uri == b.uri && a.protocol == b.protocol && a.method == b.method
    | start a, start b => a.start == b.start && a.method == b.method
    | _, _ => false

end Predicate

end RequestRouting
