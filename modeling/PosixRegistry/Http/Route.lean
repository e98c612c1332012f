import PosixRegistry.Http.Message
/-!
# Routes

The API's endpoints live under `/api/v1`, the health probes at `/health` and `/health/ready`.
A route pattern is a list of segments, each a fixed word or a named parameter; a parameter
matches one non-empty segment. When several patterns match a path, the one with a fixed word
at the first place where they differ wins, so `/accounts/next-uid` is not read as an account
id. Paths are matched as sent, before percent-decoding; a trailing slash is a different path.

Each route answers some methods; a `GET` endpoint also answers `HEAD`, without its body. The
methods a route answers are listed, in the order they were given, in the `Allow` header of a
refusal of any other method.
-/

namespace PosixRegistry.Http

/-- The endpoints of the service. -/
inductive Endpoint where
  | health
  | ready
  | listAccounts
  | createAccount
  | getAccount
  | updateAccount
  | deleteAccount
  | accountByUid
  | accountByName
  | accountGroups
  | nextUid
  | uidCheck
  | uidValidate
  | listGroups
  | createGroup
  | getGroup
  | updateGroup
  | deleteGroup
  | groupByGid
  | groupByName
  | groupMembers
  | nextGid
  | gidCheck
  | gidValidate
  | assign
  | remove
  | auditList
  | auditGet
  deriving DecidableEq, Repr

/-- A segment of a route pattern. -/
inductive Segment where
  | word (w : String)
  | param (name : String)
  deriving DecidableEq, Repr

/-- A route: its pattern and its endpoints by method. -/
structure Route where
  pattern : List Segment
  methods : List (Method × Endpoint)
  deriving DecidableEq, Repr

/-- Which stack of layers a route sits behind. -/
inductive Stack where
  | health
  | api
  deriving DecidableEq, Repr

/-- The pattern of a path written with `:name` for parameters. -/
def patternOf (s : String) : List Segment :=
  ((s.splitOn "/").drop 1).map fun w =>
    match w.toList with
    | ':' :: name => .param (String.ofList name)
    | _ => .word w

/-- The health routes. -/
def healthRoutes : List Route :=
  [⟨patternOf "/health", [(.get, .health)]⟩,
   ⟨patternOf "/health/ready", [(.get, .ready)]⟩]

/-- The API routes. -/
def apiRoutes : List Route :=
  let r (p : String) (ms : List (Method × Endpoint)) : Route := ⟨patternOf ("/api/v1" ++ p), ms⟩
  [r "/accounts" [(.get, .listAccounts), (.post, .createAccount)],
   r "/accounts/next-uid" [(.get, .nextUid)],
   r "/accounts/uid-check" [(.get, .uidCheck)],
   r "/accounts/uid-validate" [(.get, .uidValidate)],
   r "/accounts/by-uid/:uid" [(.get, .accountByUid)],
   r "/accounts/by-name/:username" [(.get, .accountByName)],
   r "/accounts/:id" [(.get, .getAccount), (.put, .updateAccount), (.delete, .deleteAccount)],
   r "/accounts/:id/groups" [(.get, .accountGroups)],
   r "/groups" [(.get, .listGroups), (.post, .createGroup)],
   r "/groups/next-gid" [(.get, .nextGid)],
   r "/groups/gid-check" [(.get, .gidCheck)],
   r "/groups/gid-validate" [(.get, .gidValidate)],
   r "/groups/by-gid/:gid" [(.get, .groupByGid)],
   r "/groups/by-name/:groupname" [(.get, .groupByName)],
   r "/groups/:id" [(.get, .getGroup), (.put, .updateGroup), (.delete, .deleteGroup)],
   r "/groups/:id/members" [(.get, .groupMembers)],
   r "/memberships" [(.post, .assign), (.delete, .remove)],
   r "/audit" [(.get, .auditList)],
   r "/audit/:id" [(.get, .auditGet)]]

/-- Every route with its stack. -/
def routes : List (Route × Stack) :=
  healthRoutes.map (·, .health) ++ apiRoutes.map (·, .api)

/-- Matches path segments against a pattern: the raw parameters, by name. -/
def matchPattern : List Segment → List String → Option (List (String × String))
  | [], [] => some []
  | .word w :: ps, s :: ss => if w = s then matchPattern ps ss else none
  | .param n :: ps, s :: ss =>
    if s.isEmpty then none else (matchPattern ps ss).map ((n, s) :: ·)
  | _, _ => none

/-- Whether one pattern is preferred to another: a word beats a parameter at the first
place where they differ. -/
def prefers : List Segment → List Segment → Bool
  | .word _ :: ps, .word _ :: qs => prefers ps qs
  | .param _ :: ps, .param _ :: qs => prefers ps qs
  | .word _ :: _, .param _ :: _ => true
  | _, _ => false

/-- The segments of a path. -/
def pathSegments (path : String) : Option (List String) :=
  match path.toList with
  | '/' :: _ => some ((path.splitOn "/").drop 1)
  | _ => none

/-- The route a path leads to, with its stack and raw parameters. -/
def findRoute (path : String) : Option (Route × Stack × List (String × String)) :=
  (pathSegments path).bind fun segs =>
    let found := routes.filterMap fun (r, st) => (matchPattern r.pattern segs).map (r, st, ·)
    found.foldl (fun best c =>
      match best with
      | none => some c
      | some b => if prefers c.1.pattern b.1.pattern then some c else some b) none

/-- The endpoint of a route for a method; `HEAD` uses the `GET` endpoint. -/
def Route.endpointFor (r : Route) (m : Method) : Option Endpoint :=
  let m := if m = .head then .get else m
  (r.methods.find? (·.1 == m)).map (·.2)

/-- The `Allow` header value of a route. -/
def Route.allow (r : Route) : String :=
  ",".intercalate (r.methods.flatMap fun (m, _) => if m = .get then ["GET", "HEAD"] else [m.name])

end PosixRegistry.Http
