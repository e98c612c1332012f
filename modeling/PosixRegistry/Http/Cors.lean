import PosixRegistry.Http.Message
/-!
# Cross-origin headers

The API answers browsers' cross-origin checks. Every `OPTIONS` request is a preflight: it is
answered at once with status 200 and the allowed methods and headers, without reaching the
endpoint. Every other request reaches the endpoint, and its response gains the headers that
expose the request id and the rate-limit headers to scripts. Both carry `Vary` and, when the
origin is allowed, `Access-Control-Allow-Origin`.

Which origins are allowed: in production, or whenever origins are configured, exactly the
configured origins that are valid header values, the request's origin echoed back; otherwise
any origin, answered with `*`.
-/

namespace PosixRegistry.Http

/-- Which origins may read the API's responses. -/
inductive OriginPolicy where
  | any
  | only (origins : List String)
  deriving DecidableEq, Repr

/-- The origin policy of a configuration. -/
def OriginPolicy.ofConfig (production : Bool) (origins : List String) : OriginPolicy :=
  if production || !origins.isEmpty then .only (origins.filter isHeaderValue) else .any

/-- The allow-origin header for a request's origin, if any. -/
def OriginPolicy.allowHeader (p : OriginPolicy) (origin : Option String) : Headers :=
  match p with
  | .any => [("access-control-allow-origin", "*")]
  | .only os =>
    match origin with
    | some o => if os.contains o then [("access-control-allow-origin", o)] else []
    | none => []

/-- The request headers a response varies with. -/
def varyValue : String := "origin, access-control-request-method, access-control-request-headers"

/-- The methods a preflight allows. -/
def allowedMethods : String := "GET,POST,PUT,DELETE,OPTIONS"

/-- The request headers a preflight allows. -/
def allowedHeaders : String := "authorization,content-type,accept,x-request-id"

/-- The response headers scripts may read. -/
def exposedHeaders : String := "x-request-id,x-ratelimit-limit,x-ratelimit-remaining,x-ratelimit-reset"

/-- Answers a request through the cross-origin layer: a preflight at once, leaving the state
as it was, anything else by the endpoint, with the cross-origin headers added. -/
def withCors {σ : Type} (p : OriginPolicy) (req : Request) (unchanged : σ)
    (endpoint : Request → Response × σ) : Response × σ :=
  let allow := p.allowHeader (req.headers.get? "origin")
  if req.method = .options then
    (⟨200, [("vary", varyValue), ("access-control-allow-methods", allowedMethods),
      ("access-control-allow-headers", allowedHeaders)] ++ allow, .empty⟩, unchanged)
  else
    let (r, x) := endpoint req
    let added : Headers := [("access-control-expose-headers", exposedHeaders)] ++ allow
    ({ r with headers := Headers.putAll (r.headers ++ [("vary", varyValue)]) added }, x)

end PosixRegistry.Http
