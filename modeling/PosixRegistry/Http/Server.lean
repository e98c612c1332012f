import PosixRegistry.Clock
import PosixRegistry.Config.Settings
import PosixRegistry.Http.Cors
import PosixRegistry.Http.Endpoints
import PosixRegistry.Http.Limiter
/-!
# The server

How a request travels. The route is found first, then the method picks the route's endpoint;
a method the route does not answer goes to the route's refusal (405), which is wrapped in the
same layers as the endpoints, and whose response then gains an `Allow` header listing the
route's methods unless it has one. A `HEAD` request is answered by the `GET` endpoint without
the body. A path no route matches gets 404.

The health probes, the 404 and the health routes' refusals sit behind the request-id layer
only. The API routes sit behind, from the outside in: the rate limiter, the request-id layer,
and the cross-origin layer. So a request refused by the limiter has no request id, and a
preflight (`OPTIONS`) is answered by the cross-origin layer after the limiter has counted it.

The request-id layer gives a request without an `X-Request-Id` a fresh one, and puts the
request's id on the response unless the response has one.
-/

namespace PosixRegistry.Http

/-- The server: its settings, the range policy, the token codec, and the rate limiter when it is
on. -/
structure Server where
  config : AppConfig
  policy : RangePolicy
  codec : JwtCodec
  limiter : Option Limiter

namespace Server

/-- A server made at a time; its rate limiter starts then. -/
def create (config : AppConfig) (policy : RangePolicy) (codec : JwtCodec) (now : Instant) :
    Server :=
  { config, policy, codec,
    limiter := (Quota.ofConfig config.requestsPerSecond config.burst).map fun q => ⟨q, now.monoNanos, none⟩ }

/-- The token checker of the settings. -/
def tokens (s : Server) : TokenService := ⟨s.config.jwtSecret, s.config.leewaySecs⟩

/-- The origin policy of the settings. -/
def origins (s : Server) : OriginPolicy :=
  OriginPolicy.ofConfig s.config.isProduction s.config.allowedOrigins

end Server

/-- The request-id layer: gives the request an id unless it has one, and puts the request's
id on the response unless the response has one. -/
def withRequestId {σ : Type} (freshId : String) (req : Request) (inner : Request → Response × σ) :
    Response × σ :=
  let req := if req.headers.has "x-request-id" then req
    else { req with headers := req.headers ++ [("x-request-id", freshId)] }
  let (r, x) := inner req
  match req.headers.get? "x-request-id" with
  | some id =>
    if r.headers.has "x-request-id" then (r, x) else ({ r with headers := r.headers.put "x-request-id" id }, x)
  | none => (r, x)

/-- The `Allow` header added to a refusal of a method, unless it has one. -/
def withAllow (allow : String) (r : Response) : Response :=
  if r.headers.has "allow" then r else { r with headers := r.headers ++ [("allow", allow)] }

/-- Answers a request at a time, with a fresh request id at hand: the response, the server
(its limiter moved on) and the registry (changed by the endpoint). -/
def Server.serve (s : Server) (reg : Registry) (now : Instant) (freshId : String) (req : Request) :
    Response × Server × Registry :=
  match findRoute req.path with
  | none =>
    let (r, reg) := withRequestId freshId req fun _ => (Response.bare 404, reg)
    (r, s, reg)
  | some (route, stack, params) =>
    let ctx : Context := ⟨s.policy, s.tokens, s.codec, now.unixSecs⟩
    let endpoint := route.endpointFor req.method
    let inner (req : Request) : Response × Registry :=
      match endpoint with
      | some e => Api.respond reg (handle ctx req params e)
      | none => (Response.bare 405, reg)
    let (r, s, reg) : Response × Server × Registry :=
      match stack with
      | .health =>
        let (r, reg) := withRequestId freshId req inner
        (r, s, reg)
      | .api =>
        let layered : Response × Registry :=
          withRequestId freshId req fun req => withCors s.origins req reg inner
        match s.limiter with
        | none => (layered.1, s, layered.2)
        | some l =>
          match l.check now.monoNanos with
          | .error wait => (tooManyRequests wait, s, reg)
          | .ok l => (layered.1, { s with limiter := some l }, layered.2)
    match endpoint with
    | some _ => (if req.method = .head then r.stripBody else r, s, reg)
    | none => (withAllow route.allow r, s, reg)

end PosixRegistry.Http
