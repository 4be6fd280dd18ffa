import RequestRouting.Text.Quoted

/-!
# Events

What building templates and evaluating requests reports besides its result.
-/

namespace RequestRouting

open RequestRouting.Text (quote)

inductive Event where
  | templateCompiled (source pattern : String)
  | pathUnavailable (uri reason : String)
  | variablesUnavailable (uri reason : String)
  deriving DecidableEq, Repr

def Event.message : Event → String
  | templateCompiled source pattern =>
    "compiled uri template " ++ quote source ++ " -> " ++ quote pattern
  | pathUnavailable uri reason => "uri " ++ quote uri ++ ": cannot extract path: " ++ reason
  | variablesUnavailable uri reason =>
    "uri " ++ quote uri ++ ": cannot extract variables: " ++ reason

end RequestRouting
