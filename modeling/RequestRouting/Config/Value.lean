/-!
# Configuration values

Plain data as a configuration file holds it. A record keeps its fields in order; of fields with the
same name the first one counts.
-/

namespace RequestRouting.Config

inductive Value where
  | null
  | bool (b : Bool)
  | integer (n : Int)
  | decimal (digits : Int) (places : Nat)
  | text (s : String)
  | list (items : List Value)
  | record (fields : List (String × Value))
  deriving Repr

namespace Value

def kind : Value → String
  | null => "NoneType"
  | bool _ => "bool"
  | integer _ => "int"
  | decimal _ _ => "float"
  | text _ => "str"
  | list _ => "list"
  | record _ => "dict"

end Value

abbrev Fields := List (String × Value)

def hasField (fields : Fields) (name : String) : Bool := fields.any (·.1 == name)

/-- The value of a field; a missing field counts as null. -/
def fieldOf (fields : Fields) (name : String) : Value := (List.lookup name fields).getD .null

def textField? (fields : Fields) (name : String) : Except String (Option String) :=
  match fieldOf fields name with
  | .null => .ok none
  | .text s => .ok (some s)
  | value => .error value.kind

end RequestRouting.Config
