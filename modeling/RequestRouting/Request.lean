import RequestRouting.Event
import RequestRouting.Uri.Split

/-!
# Requests

A request as routing sees it, and the fields that conditions read from it. A path that cannot be
cut out of the URI is reported, and the whole URI stands for it.
-/

namespace RequestRouting

structure Request where
  uri : String := "/"
  method : Option String := some "GET"
  protocol : Option String := some "HTTP/1.1"
  deriving DecidableEq, Repr

/-- A field of a request. The field `absent` is one that no request has. -/
inductive Field where
  | protocol
  | method
  | uri
  | path
  | absent
  deriving DecidableEq, Repr

namespace Request

def path (r : Request) : String × List Event :=
  match Uri.split r.uri with
  | .ok parts => (parts.path, [])
  | .error fault => (r.uri, [.pathUnavailable r.uri fault.message])

def read (r : Request) : Field → Option String × List Event
  | .protocol => (r.protocol, [])
  | .method => (r.method, [])
  | .uri => (some r.uri, [])
  | .path => (some r.path.1, r.path.2)
  | .absent => (none, [])

end Request

end RequestRouting
