import PosixRegistry.Http.Address
import PosixRegistry.Http.Mime
import PosixRegistry.Json.Value
/-!
# Requests and responses

A request is a method, the path and query string of its target, header fields, a body and
the address of the peer, when known. A response is a status, header fields and a
body that is empty, JSON or plain text.

Header names are case-insensitive and kept in lowercase; a name may occur more than once, and
reading a header takes its first occurrence. A method name and a header name are tokens; a
header value holds no control character but tab.
-/

namespace PosixRegistry.Http

open Json

/-- Request methods; other tokens are kept by name. Names are case-sensitive. -/
inductive Method where
  | get
  | head
  | post
  | put
  | delete
  | options
  | patch
  | other (name : String)
  deriving DecidableEq, Repr

namespace Method

/-- The method with a name. -/
def ofName : String → Method
  | "GET" => .get
  | "HEAD" => .head
  | "POST" => .post
  | "PUT" => .put
  | "DELETE" => .delete
  | "OPTIONS" => .options
  | "PATCH" => .patch
  | n => .other n

/-- Whether a text can name a method: a non-empty token. -/
def isName (n : String) : Bool := !n.isEmpty && n.toList.all isTokenChar

/-- The name of a method. -/
def name : Method → String
  | .get => "GET"
  | .head => "HEAD"
  | .post => "POST"
  | .put => "PUT"
  | .delete => "DELETE"
  | .options => "OPTIONS"
  | .patch => "PATCH"
  | .other n => n

end Method

/-- Whether a text can name a header: a non-empty token. -/
def isHeaderName (n : String) : Bool := !n.isEmpty && n.toList.all isTokenChar

/-- Whether a text is a valid header value: no control character but tab, no DEL. -/
def isHeaderValue (s : String) : Bool :=
  s.toUTF8.toList.all fun b => (32 ≤ b && b != 127) || b == 9

/-- Header fields in order, names in lowercase. -/
abbrev Headers := List (String × String)

namespace Headers

/-- The first value of a header. -/
def get? (h : Headers) (name : String) : Option String := (h.find? (·.1 == name)).map (·.2)

/-- Whether a header is present. -/
def has (h : Headers) (name : String) : Bool := h.any (·.1 == name)

/-- Removes every value of a header. -/
def erase (h : Headers) (name : String) : Headers := h.filter (·.1 != name)

/-- Sets a header to one value, replacing any it had. -/
def put (h : Headers) (name value : String) : Headers := h.erase name ++ [(name, value)]

/-- Sets several headers, each replacing any values it had. -/
def putAll (h : Headers) (more : Headers) : Headers := more.foldl (fun h (n, v) => h.put n v) h

end Headers

/-- A request as the server receives it. -/
structure Request where
  method : Method
  path : String
  query : String := ""
  headers : Headers := []
  body : String := ""
  peer : Option SocketAddr := none
  deriving Repr

/-- The body of a response. -/
inductive Body where
  | empty
  | json (v : Value)
  | text (s : String)

/-- A response as the server sends it. -/
structure Response where
  status : Nat
  headers : Headers := []
  body : Body := .empty

namespace Response

/-- A JSON response. -/
def ofJson (status : Nat) (v : Value) : Response :=
  ⟨status, [("content-type", "application/json")], .json v⟩

/-- An empty response. -/
def bare (status : Nat) : Response := ⟨status, [], .empty⟩

/-- The response without its body; its headers stay. -/
def stripBody (r : Response) : Response := { r with body := .empty }

end Response

end PosixRegistry.Http
