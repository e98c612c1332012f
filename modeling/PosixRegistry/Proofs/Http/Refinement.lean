import PosixRegistry.Proofs.Service.Session
import PosixRegistry.Http.Server

/-!
# The API over the services

A request to an API route, with a method the route answers, is answered by one endpoint behind
the rate limiter, the request-id layer and the cross-origin layer (`Server.serve`).  The server
refines the services (`api_requests_refine_services`):

* the rate limiter comes first: a request it refuses gets 429 and leaves the registry;
* every endpoint identifies its caller next: a missing bearer token or a refused token gets 401
  with its own code, and leaves the registry;
* a write endpoint then reads its inputs, the path parameter before the body and the body before
  its field rules (`Endpoint.writeOf`); an unreadable input gets 400 with the code of what was
  unreadable, and leaves the registry;
* a write that passes is the service's write request made as the caller, whose actor is the
  token's subject read as a user id, the token's username and the caller's address
  (`clientIp`); it changes the registry exactly as the service does (`Mutation.run`), and is
  answered 201, 200 or 204 when it goes through and with the service's refusal otherwise;
* a read endpoint then reads its path parameter or its query string (`Endpoint.readOf`); an
  unreadable one gets 400 with the code of what was unreadable, and a read that passes is
  answered 200 with the service's result or with the service's refusal; a read leaves the
  registry as it is.

The server's settings and range policy stay as they are, only the limiter moves on, so all of
this holds of every request of a sequence.  The outer layers do not change what an endpoint
sees: the request-id layer adds at most an `X-Request-Id`, which no endpoint reads, and the
cross-origin layer passes on every request but a preflight, which no route answers.
-/

open Std.Do

set_option mvcgen.warning false

namespace PosixRegistry

/-! ### The caller -/

namespace TokenService

variable {t : TokenService} {j : JwtCodec} {now : Int} {token : String} {e : AppError}

/-- A token is refused only as invalid or as expired. -/
theorem decode_error (h : t.decode j now token = .error e) :
    e = .invalidToken ∨ e = .tokenExpired := by
  cases hd : j.decode t.secret t.leewaySecs now token with
  | ok c => simp [decode, hd, Except.mapError] at h
  | error f =>
    simp only [decode, hd, Except.mapError, Except.error.injEq] at h
    subst h
    cases f
    · exact .inr rfl
    · exact .inl rfl

theorem validateAccess_error (h : t.validateAccess j now token = .error e) :
    e = .invalidToken ∨ e = .tokenExpired := by
  simp only [validateAccess, bind, Except.bind] at h
  split at h
  · cases h
    exact decode_error ‹_›
  · split at h
    · cases h
    · cases h
      exact .inl rfl

end TokenService

theorem Claims.userId_error {c : Claims} {e : AppError} (h : c.userId = .error e) :
    e = .invalidToken := by
  simp only [Claims.userId] at h
  split at h
  · cases h
  · cases h
    rfl

/-- The status a write request that went through is answered with: 201 for a creation, 200 for
a change, 204 for a deletion or a membership change. -/
def Mutation.successStatus : Mutation → Nat
  | .createAccount .. | .createGroup .. => 201
  | .updateAccount .. | .updateGroup .. => 200
  | .deleteAccount .. | .deleteGroup .. | .assign .. | .remove .. => 204

namespace Http

variable {codec : JwtCodec} {tokens : TokenService} {now : Int} {req : Request}

/-- **A caller not identified is refused with 401**, as unauthenticated, or with the token's
refusal, invalid or expired. -/
theorem authenticate_error {err : ApiError} (h : authenticate codec tokens now req = .error err) :
    err.status = 401 ∧
      err.code ∈ ["MISSING_AUTHORIZATION", "INVALID_TOKEN", "TOKEN_EXPIRED"] := by
  simp only [authenticate, pure, Except.pure, throw, throwThe, MonadExceptOf.throw] at h
  split at h
  · -- a bearer token: the token checker's refusal, or a subject that is no user id
    split at h
    · cases h
      rcases TokenService.validateAccess_error ‹_› with rfl | rfl <;>
        simp [ApiError.status, ApiError.code, AppError.status, AppError.code]
    · split at h
      · rename_i hid
        cases h
        rw [Claims.userId_error hid]
        simp [ApiError.status, ApiError.code, AppError.status, AppError.code]
      · cases h
  · cases h
    simp [ApiError.status, ApiError.code]

/-- **An identified caller is the bearer of an access token**: the token is the first
`Authorization` value's, the user id is its subject, the username its own, and the address the
caller's. -/
theorem authenticate_ok {u : AuthUser} (h : authenticate codec tokens now req = .ok u) :
    ∃ token claims, (req.headers.get? "authorization").bind bearerToken? = some token ∧
      tokens.validateAccess codec now token = .ok claims ∧ claims.userId = .ok u.userId ∧
      u.username = claims.username ∧ u.ipAddress = clientIp req := by
  simp only [authenticate, pure, Except.pure, throw, throwThe, MonadExceptOf.throw] at h
  split at h
  · rename_i token htoken
    split at h
    · cases h
    · rename_i claims hclaims
      split at h
      · cases h
      · rename_i id hid
        cases h
        exact ⟨token, claims, htoken, hclaims, hid, rfl, rfl⟩
  · cases h

/-! ### The inputs of a write -/

open Json

/-- A request body read as a record of a shape, then checked against its field rules. -/
def bodyOf {β : Type} (req : Request) (shape : Shape) (ofSlots : List (Option Got) → β)
    (violations : β → List Violation) : Except ApiError β := do
  let b := ofSlots (← jsonArgs req shape)
  checkViolations (violations b)
  pure b

namespace Endpoint

/-- The write request an endpoint makes of the registry, for any caller, with its inputs read in
order: the path parameter, then the body, then the body's field rules.  `none` for an endpoint
that only reads. -/
def writeOf (p : RangePolicy) (req : Request) (params : List (String × String)) :
    Endpoint → Option (Except ApiError (Actor → Mutation))
  | createAccount => some do
    let b ← bodyOf req NewAccount.shape NewAccount.ofSlots NewAccount.violations
    pure (.createAccount p b)
  | updateAccount => some do
    let id ← intParam params "id"
    let b ← bodyOf req AccountChange.shape AccountChange.ofSlots AccountChange.violations
    pure (.updateAccount p id b)
  | deleteAccount => some do
    let id ← intParam params "id"
    pure (.deleteAccount id)
  | createGroup => some do
    let b ← bodyOf req NewGroup.shape NewGroup.ofSlots NewGroup.violations
    pure (.createGroup p b)
  | updateGroup => some do
    let id ← intParam params "id"
    let b ← bodyOf req GroupChange.shape GroupChange.ofSlots GroupChange.violations
    pure (.updateGroup p id b)
  | deleteGroup => some do
    let id ← intParam params "id"
    pure (.deleteGroup id)
  | assign => some do
    let b ← bodyOf req MembershipRequest.shape MembershipRequest.ofSlots
      MembershipRequest.violations
    pure (.assign b.account b.group)
  | remove => some do
    let b ← bodyOf req MembershipRequest.shape MembershipRequest.ofSlots
      MembershipRequest.violations
    pure (.remove b.account b.group)
  | _ => none

/-- The read a read endpoint makes of the registry, with its inputs read: a path parameter or
the query string, then, for the audit log, the filters named there.  The read's result is the
body of the 200 answer; a range check answers without the registry.  `none` for an endpoint
that writes, and for the health probes. -/
def readOf (p : RangePolicy) (req : Request) (params : List (String × String)) :
    Endpoint → Option (Except ApiError (Service Value))
  | listAccounts => some do
    let ps ← queryArgs req listFields
    let type := ParamValue.text? (ps.getD 0 none)
    match searchTerm (ParamValue.text? (ps.getD 1 none)) with
    | some q => pure ((fun xs => .arr (xs.map Account.toJson)) <$> Service.searchAccounts q type)
    | none => pure ((fun xs => .arr (xs.map Account.toJson)) <$> Service.listAccounts type)
  | getAccount => some do
    let id ← intParam params "id"
    pure (Account.toJson <$> Service.findAccount id)
  | accountByUid => some do
    let uid ← intParam params "uid"
    pure (Account.toJson <$> Service.accountByUid uid)
  | accountByName => some do
    let name ← textParam params "username"
    pure (Account.toJson <$> Service.accountByName name)
  | accountGroups => some do
    let id ← intParam params "id"
    pure ((fun gs => .arr (gs.map Group.toJson)) <$> Service.accountGroups id)
  | nextUid => some do
    let ps ← queryArgs req typeFields
    pure (NextId.toJson <$> Service.nextId p .uid ((ParamValue.text? (ps.getD 0 none)).getD ""))
  | uidCheck => some do
    let ps ← queryArgs req (checkFields "uid")
    pure (DuplicateCheck.toJson <$> Service.duplicateCheck .uid
      ((ParamValue.int? (ps.getD 0 none)).getD 0) ((ParamValue.int? (ps.getD 1 none)).getD 0))
  | uidValidate => some do
    let ps ← queryArgs req (validateFields "uid")
    pure (pure (p.judgeNamed .uid ((ParamValue.int? (ps.getD 0 none)).getD 0)
      ((ParamValue.text? (ps.getD 1 none)).getD "")).toJson)
  | listGroups => some do
    let ps ← queryArgs req listFields
    let type := ParamValue.text? (ps.getD 0 none)
    match searchTerm (ParamValue.text? (ps.getD 1 none)) with
    | some q => pure ((fun gs => .arr (gs.map Group.toJson)) <$> Service.searchGroups q type)
    | none => pure ((fun gs => .arr (gs.map Group.toJson)) <$> Service.listGroups type)
  | getGroup => some do
    let id ← intParam params "id"
    pure (Group.toJson <$> Service.findGroup id)
  | groupByGid => some do
    let gid ← intParam params "gid"
    pure (Group.toJson <$> Service.groupByGid gid)
  | groupByName => some do
    let name ← textParam params "groupname"
    pure (Group.toJson <$> Service.groupByName name)
  | groupMembers => some do
    let id ← intParam params "id"
    pure ((fun xs => .arr (xs.map Account.toJson)) <$> Service.groupMembers id)
  | nextGid => some do
    let ps ← queryArgs req typeFields
    pure (NextId.toJson <$> Service.nextId p .gid ((ParamValue.text? (ps.getD 0 none)).getD ""))
  | gidCheck => some do
    let ps ← queryArgs req (checkFields "gid")
    pure (DuplicateCheck.toJson <$> Service.duplicateCheck .gid
      ((ParamValue.int? (ps.getD 0 none)).getD 0) ((ParamValue.int? (ps.getD 1 none)).getD 0))
  | gidValidate => some do
    let ps ← queryArgs req (validateFields "gid")
    pure (pure (p.judgeNamed .gid ((ParamValue.int? (ps.getD 0 none)).getD 0)
      ((ParamValue.text? (ps.getD 1 none)).getD "")).toJson)
  | auditList => some do
    let ps ← queryArgs req auditFields
    let q ← auditQueryOf ps
    pure ((fun es => .arr (es.map AuditEntry.toJson)) <$> Service.auditList q)
  | auditGet => some do
    let id ← intParam params "id"
    pure (AuditEntry.toJson <$> Service.auditGet id)
  | _ => none

end Endpoint

/-- The write request of a request to a write endpoint: the caller is identified first, then the
inputs are read. -/
def writePlan (codec : JwtCodec) (tokens : TokenService) (now : Int) (req : Request)
    (inputs : Except ApiError (Actor → Mutation)) : Except ApiError Mutation := do
  let u ← authenticate codec tokens now req
  let write ← inputs
  pure (write u.actor)

/-- The read of a request to a read endpoint: the caller is identified first, then the inputs
are read. -/
def readPlan (codec : JwtCodec) (tokens : TokenService) (now : Int) (req : Request)
    (inputs : Except ApiError (Service Value)) : Except ApiError (Service Value) := do
  let _ ← authenticate codec tokens now req
  inputs

/-- A refusal of an unreadable input: a bad path parameter, a bad body, or a body that breaks its
field rules. -/
def ApiError.IsInput : ApiError → Prop
  | .invalidPath _ | .invalidBody _ | .validation _ => True
  | _ => False

theorem ApiError.IsInput.status_code {err : ApiError} (h : err.IsInput) :
    err.status = 400 ∧
      err.code ∈ ["INVALID_PATH_PARAMETER", "INVALID_BODY", "VALIDATION_ERROR"] := by
  cases err <;> simp_all [IsInput, ApiError.status, ApiError.code]

/-- Every refusal of a chain of reads is a refusal of one of its reads. -/
theorem bind_refusal {α β : Type} {P : ApiError → Prop} {x : Except ApiError α}
    {f : α → Except ApiError β} (hx : ∀ e, x = .error e → P e)
    (hf : ∀ a e, f a = .error e → P e)
    (e : ApiError) (h : x >>= f = .error e) : P e := by
  cases x with
  | error e' =>
    cases h
    exact hx _ rfl
  | ok a => exact hf a e h

theorem pure_refusal {α : Type} {P : ApiError → Prop} (a : α) (e : ApiError)
    (h : (pure a : Except ApiError α) = .error e) : P e := by
  cases h

/-- A chain of reads that passes passed its first read. -/
theorem bind_ok {α β : Type} {x : Except ApiError α} {f : α → Except ApiError β} {b : β}
    (h : x >>= f = .ok b) : ∃ a, x = .ok a ∧ f a = .ok b := by
  cases x with
  | error e => cases h
  | ok a => exact ⟨a, rfl, h⟩

/-- A refusal of an unreadable input of a read: a bad path parameter or a bad query string. -/
def ApiError.IsReadInput : ApiError → Prop
  | .invalidPath _ | .invalidQuery _ => True
  | _ => False

theorem ApiError.IsReadInput.status_code {err : ApiError} (h : err.IsReadInput) :
    err.status = 400 ∧ err.code ∈ ["INVALID_PATH_PARAMETER", "INVALID_QUERY_PARAMETER"] := by
  cases err <;> simp_all [IsReadInput, ApiError.status, ApiError.code]

section Inputs

variable {params : List (String × String)} {name : String}

/-- A path parameter is refused only as a bad path parameter. -/
theorem textParam_invalidPath {e : ApiError} (h : textParam params name = .error e) :
    ∃ m, e = .invalidPath m := by
  simp only [textParam] at h
  split at h
  · cases h
  · cases h
    exact ⟨_, rfl⟩

theorem intParam_invalidPath {e : ApiError} (h : intParam params name = .error e) :
    ∃ m, e = .invalidPath m := by
  refine bind_refusal (fun _ => textParam_invalidPath) (fun s e h => ?_) e h
  split at h
  · cases h
  · cases h
    exact ⟨_, rfl⟩

/-- A query string is refused only as a bad query string. -/
theorem queryArgs_invalidQuery {fields : List ParamField} {e : ApiError}
    (h : queryArgs req fields = .error e) : ∃ m, e = .invalidQuery m := by
  simp only [queryArgs] at h
  split at h
  · cases h
  · cases h
    exact ⟨_, rfl⟩

/-- The audit filters named in a query string are refused only as a bad query string. -/
theorem auditQueryOf_invalidQuery {ps : List (Option ParamValue)} {e : ApiError}
    (h : auditQueryOf ps = .error e) : ∃ m, e = .invalidQuery m := by
  simp only [auditQueryOf, bind, Except.bind, pure, Except.pure, throw, throwThe,
    MonadExceptOf.throw] at h
  repeat' split at h
  all_goals cases h
  all_goals exact ⟨_, rfl⟩

theorem textParam_refusal (e : ApiError) (h : textParam params name = .error e) : e.IsInput := by
  obtain ⟨m, rfl⟩ := textParam_invalidPath h
  trivial

theorem intParam_refusal (e : ApiError) (h : intParam params name = .error e) : e.IsInput := by
  obtain ⟨m, rfl⟩ := intParam_invalidPath h
  trivial

theorem jsonArgs_refusal {shape : Shape} (e : ApiError) (h : jsonArgs req shape = .error e) :
    e.IsInput := by
  simp only [jsonArgs] at h
  repeat' split at h
  all_goals cases h
  all_goals trivial

theorem bodyOf_refusal {β : Type} {shape : Shape} {ofSlots : List (Option Got) → β}
    {violations : β → List Violation} (e : ApiError)
    (h : bodyOf req shape ofSlots violations = .error e) : e.IsInput := by
  refine bind_refusal jsonArgs_refusal (fun slots e h => ?_) e h
  refine bind_refusal (fun e h => ?_) (fun _ => pure_refusal _) e h
  simp only [checkViolations] at h
  split at h
  · cases h
  · cases h
    trivial

end Inputs

/-- **An unreadable input of a write is refused with 400**, as a bad path parameter, a bad body,
or a body that breaks its field rules. -/
theorem Endpoint.writeOf_error {e : Endpoint} {p : RangePolicy} {params : List (String × String)}
    {err : ApiError} (h : e.writeOf p req params = some (.error err)) :
    err.status = 400 ∧
      err.code ∈ ["INVALID_PATH_PARAMETER", "INVALID_BODY", "VALIDATION_ERROR"] := by
  refine ApiError.IsInput.status_code ?_
  cases e <;> simp only [writeOf, Option.some.injEq, reduceCtorEq] at h
  -- each write reads a path parameter, a body, or both, and nothing else can refuse
  case createAccount | createGroup | assign | remove =>
    exact bind_refusal bodyOf_refusal (fun _ => pure_refusal _) err h
  case updateAccount | updateGroup =>
    exact bind_refusal intParam_refusal
      (fun _ => bind_refusal bodyOf_refusal fun _ => pure_refusal _) err h
  case deleteAccount | deleteGroup =>
    exact bind_refusal intParam_refusal (fun _ => pure_refusal _) err h

/-- **A write request is made as whoever calls it**: the inputs read, the actor of an endpoint's
write request is still the caller's. -/
theorem Endpoint.writeOf_actor {e : Endpoint} {p : RangePolicy} {params : List (String × String)}
    {write : Actor → Mutation} (h : e.writeOf p req params = some (.ok write)) (a : Actor) :
    (write a).actor = a := by
  cases e <;> simp only [writeOf, Option.some.injEq, reduceCtorEq] at h
  -- each write request is built last, from what was read, with the caller left open
  case createAccount | createGroup | assign | remove | deleteAccount | deleteGroup =>
    obtain ⟨_, -, h⟩ := bind_ok h
    cases Except.ok.inj h
    rfl
  case updateAccount | updateGroup =>
    obtain ⟨_, -, h⟩ := bind_ok h
    obtain ⟨_, -, h⟩ := bind_ok h
    cases Except.ok.inj h
    rfl

/-- **An unreadable input of a read is refused with 400**, as a bad path parameter or a bad query
string. -/
theorem Endpoint.readOf_error {e : Endpoint} {p : RangePolicy} {params : List (String × String)}
    {err : ApiError} (h : e.readOf p req params = some (.error err)) :
    err.status = 400 ∧ err.code ∈ ["INVALID_PATH_PARAMETER", "INVALID_QUERY_PARAMETER"] := by
  refine ApiError.IsReadInput.status_code ?_
  have hint : ∀ {name} e, intParam params name = .error e → e.IsReadInput := fun _ h => by
    obtain ⟨m, rfl⟩ := intParam_invalidPath h
    trivial
  have htext : ∀ {name} e, textParam params name = .error e → e.IsReadInput := fun _ h => by
    obtain ⟨m, rfl⟩ := textParam_invalidPath h
    trivial
  have hquery : ∀ {fields} e, queryArgs req fields = .error e → e.IsReadInput := fun _ h => by
    obtain ⟨m, rfl⟩ := queryArgs_invalidQuery h
    trivial
  cases e <;> simp only [readOf, Option.some.injEq, reduceCtorEq] at h
  -- each read reads a path parameter or the query string, and only the audit log reads more
  case getAccount | accountByUid | accountGroups | getGroup | groupByGid | groupMembers
    | auditGet =>
    exact bind_refusal hint (fun _ => pure_refusal _) err h
  case accountByName | groupByName => exact bind_refusal htext (fun _ => pure_refusal _) err h
  case nextUid | uidCheck | uidValidate | nextGid | gidCheck | gidValidate =>
    exact bind_refusal hquery (fun _ => pure_refusal _) err h
  case listAccounts | listGroups =>
    refine bind_refusal hquery (fun ps e h => ?_) err h
    split at h <;> cases h
  case auditList =>
    refine bind_refusal hquery (fun ps => bind_refusal (fun e h => ?_) fun _ => pure_refusal _) err h
    obtain ⟨m, rfl⟩ := auditQueryOf_invalidQuery h
    trivial

/-- An endpoint that reads does not write. -/
theorem Endpoint.writeOf_of_readOf {e : Endpoint} {p : RangePolicy}
    {params : List (String × String)} {inputs : Except ApiError (Service Value)}
    (h : e.readOf p req params = some inputs) : e.writeOf p req params = none := by
  cases e <;> simp_all [readOf, writeOf]

/-- Every API endpoint that does not write reads. -/
theorem Endpoint.readOf_of_writeOf {e : Endpoint} {p : RangePolicy}
    {params : List (String × String)} (hw : e.writeOf p req params = none)
    (he : e ≠ .health ∧ e ≠ .ready) : ∃ inputs, e.readOf p req params = some inputs := by
  cases e <;> simp_all [readOf, writeOf]

/-- A write plan that passes is the endpoint's write request made as the identified caller. -/
theorem writePlan_ok {inputs : Except ApiError (Actor → Mutation)} {m : Mutation}
    (h : writePlan codec tokens now req inputs = .ok m) :
    ∃ u write, authenticate codec tokens now req = .ok u ∧ inputs = .ok write ∧
      m = write u.actor := by
  obtain ⟨u, hu, h⟩ := bind_ok h
  obtain ⟨write, hw, h⟩ := bind_ok h
  exact ⟨u, write, hu, hw, (Except.ok.inj h).symm⟩

/-! ### Endpoints over the services -/

/-- A service run inside an endpoint: its result, and its refusal as the endpoint's. -/
theorem Api.service_spec {α : Type} (s : Service α) (r0 : Registry) :
    ⦃fun r => ⌜r = r0⌝⦄ Api.service s
    ⦃post⟨fun a r => ⌜s.run.run r0 = (.ok a, r)⌝,
      fun e r => ⌜∃ se, e = .service se ∧ s.run.run r0 = (.error se, r)⌝⟩⦄ := by
  mvcgen [Api.service]
  rename_i r hr
  subst hr
  simp only [WP.wp]
  rcases h : s.run.run r with ⟨e | a, r'⟩ <;> simp [Id.run, h]

/-- **A write endpoint runs its write request as the caller**, once the caller is identified and
the inputs are read: the registry changes as the request's run says, and the answer is the
success status or the service's refusal.  A request refused before changes nothing. -/
theorem handle_write_spec (ctx : Context) (req : Request) (params : List (String × String))
    {e : Endpoint} {inputs : Except ApiError (Actor → Mutation)}
    (he : e.writeOf ctx.policy req params = some inputs) (reg : Registry) :
    ⦃fun r => ⌜r = reg⌝⦄ handle ctx req params e
    ⦃post⟨fun resp r => ⌜∃ m, writePlan ctx.codec ctx.tokens ctx.now req inputs = .ok m ∧
        m.run reg = (.ok (), r) ∧ resp.status = m.successStatus⌝,
      fun err r => ⌜(writePlan ctx.codec ctx.tokens ctx.now req inputs = .error err ∧ r = reg) ∨
        ∃ m se, writePlan ctx.codec ctx.tokens ctx.now req inputs = .ok m ∧ err = .service se ∧
          m.run reg = (.error se, r)⌝⟩⦄ := by
  cases e <;> simp only [Endpoint.writeOf, reduceCtorEq, Option.some.injEq] at he <;> subst he
  all_goals
    mvcgen -trivial [handle, handle.who, Api.ofExcept, Api.service_spec]
    all_goals simp_all [writePlan, bodyOf, bind, Except.bind, pure, Except.pure, Mutation.run,
      Service.outcome, Except.map, Mutation.successStatus, createdJson, okJson, noContent,
      Response.ofJson, Response.bare]

/-- **A read endpoint leaves the registry as it is**, whatever it answers. -/
theorem handle_read_spec (ctx : Context) (req : Request) (params : List (String × String))
    {e : Endpoint} (he : e.writeOf ctx.policy req params = none) (reg : Registry) :
    ⦃fun r => ⌜r = reg⌝⦄ handle ctx req params e
    ⦃post⟨fun _ r => ⌜r = reg⌝, fun _ r => ⌜r = reg⌝⟩⦄ := by
  cases e <;> simp only [Endpoint.writeOf, reduceCtorEq] at he
  all_goals mvcgen [handle, handle.who, Api.ofExcept, Api.service, Service.listAccounts,
    Service.searchAccounts, Service.findAccount, Service.accountByUid, Service.accountByName,
    Service.accountGroups, Service.nextId, Service.nextUid, Service.nextGid,
    Service.duplicateCheck, Service.listGroups, Service.searchGroups, Service.findGroup,
    Service.groupByGid, Service.groupByName, Service.groupMembers, Service.auditList,
    Service.auditGet, Service.parseType, Service.tables, Service.fail]

/-- A read whose result is rendered runs as the read, with its result rendered. -/
theorem Service.run_map {α β : Type} (f : α → β) (s : Service α) (r : Registry) :
    (f <$> s).run.run r = ((s.run.run r).1.map f, (s.run.run r).2) := by
  simp only [ExceptT.run_map, StateT.run_map]
  rfl

/-- **A read endpoint runs its read**, once the caller is identified and the inputs are read:
it answers 200 with the read's result, or with the read's refusal. -/
theorem handle_reads_spec (ctx : Context) (req : Request) (params : List (String × String))
    {e : Endpoint} {inputs : Except ApiError (Service Value)}
    (he : e.readOf ctx.policy req params = some inputs) (reg : Registry) :
    ⦃fun r => ⌜r = reg⌝⦄ handle ctx req params e
    ⦃post⟨fun resp r => ⌜∃ s v, readPlan ctx.codec ctx.tokens ctx.now req inputs = .ok s ∧
        s.run.run reg = (.ok v, r) ∧ resp = okJson v⌝,
      fun err r => ⌜(readPlan ctx.codec ctx.tokens ctx.now req inputs = .error err ∧ r = reg) ∨
        ∃ s se, readPlan ctx.codec ctx.tokens ctx.now req inputs = .ok s ∧ err = .service se ∧
          s.run.run reg = (.error se, r)⌝⟩⦄ := by
  cases e <;> simp only [Endpoint.readOf, reduceCtorEq, Option.some.injEq] at he <;> subst he
  all_goals
    mvcgen -trivial [handle, handle.who, Api.ofExcept, Api.service_spec]
    all_goals
      try simp only [forall_exists_index, and_imp]
      intros
      simp_all +zetaDelta [-ExceptT.run_map, Service.run_map, readPlan, bind, Except.bind, pure,
        Except.pure, Except.map, listJson]
  -- what is left pairs a rendered result with the registry, the pair read in `Id`
  all_goals exact ⟨_, rfl, rfl⟩

/-- **Every API endpoint identifies its caller first**: a request whose caller is not identified
is refused with that refusal, and changes nothing. -/
theorem handle_unidentified (ctx : Context) (req : Request) (params : List (String × String))
    {e : Endpoint} (he : e ≠ .health ∧ e ≠ .ready) {err : ApiError}
    (ha : authenticate ctx.codec ctx.tokens ctx.now req = .error err) (reg : Registry) :
    Api.respond reg (handle ctx req params e) = (err.toResponse, reg) := by
  cases e
  case health | ready => simp at he
  all_goals
    simp [handle, handle.who, Api.ofExcept, ha, Api.respond]
    rfl

/-- **What a write endpoint answers**: the refusal of its write plan with the registry as it was,
or the registry its write request leaves, with the success status or the service's refusal. -/
theorem respond_write (ctx : Context) (req : Request) (params : List (String × String))
    {e : Endpoint} {inputs : Except ApiError (Actor → Mutation)}
    (he : e.writeOf ctx.policy req params = some inputs) (reg : Registry) :
    match writePlan ctx.codec ctx.tokens ctx.now req inputs with
    | .error err => Api.respond reg (handle ctx req params e) = (err.toResponse, reg)
    | .ok m => (Api.respond reg (handle ctx req params e)).2 = (m.run reg).2 ∧
      match (m.run reg).1 with
      | .ok _ => (Api.respond reg (handle ctx req params e)).1.status = m.successStatus
      | .error se =>
        (Api.respond reg (handle ctx req params e)).1 = (ApiError.service se).toResponse := by
  have h := Service.run_of_triple (handle_write_spec ctx req params he reg) rfl
  simp only [Api.respond]
  rcases hrun : (handle ctx req params e).run.run reg with ⟨err | resp, r⟩ <;>
    simp only [hrun] at h ⊢
  · -- refused before the write, with the registry as it was, or by the service
    rcases h with ⟨hp, rfl⟩ | ⟨m, se, hp, rfl, hm⟩
    · simp [hp]
    · simp [hp, hm]
  · obtain ⟨m, hp, hm, hs⟩ := h
    simp [hp, hm, hs]

/-- What a read endpoint answers leaves the registry as it was. -/
theorem respond_read (ctx : Context) (req : Request) (params : List (String × String))
    {e : Endpoint} (he : e.writeOf ctx.policy req params = none) (reg : Registry) :
    (Api.respond reg (handle ctx req params e)).2 = reg := by
  have h := Service.run_of_triple (handle_read_spec ctx req params he reg) rfl
  simp only [Api.respond]
  rcases hrun : (handle ctx req params e).run.run reg with ⟨err | resp, r⟩ <;>
    simp only [hrun] at h ⊢ <;> exact h

/-- **What a read endpoint answers**: the refusal of its read plan, or 200 with the read's
result, or the read's refusal, with the registry as it was. -/
theorem respond_reads (ctx : Context) (req : Request) (params : List (String × String))
    {e : Endpoint} {inputs : Except ApiError (Service Value)}
    (he : e.readOf ctx.policy req params = some inputs) (reg : Registry) :
    match readPlan ctx.codec ctx.tokens ctx.now req inputs with
    | .error err => Api.respond reg (handle ctx req params e) = (err.toResponse, reg)
    | .ok rd =>
      match (rd.run.run reg).1 with
      | .ok v => Api.respond reg (handle ctx req params e) = (okJson v, reg)
      | .error se =>
        Api.respond reg (handle ctx req params e) = ((ApiError.service se).toResponse, reg) := by
  have hkeep := respond_read ctx req params (Endpoint.writeOf_of_readOf he) reg
  have h := Service.run_of_triple (handle_reads_spec ctx req params he reg) rfl
  simp only [Api.respond] at hkeep ⊢
  rcases hrun : (handle ctx req params e).run.run reg with ⟨err | resp, r⟩ <;>
    simp only [hrun] at h hkeep ⊢ <;> subst hkeep
  · -- refused before the read, or by the read
    rcases h with ⟨hp, -⟩ | ⟨rd, se, hp, rfl, hs⟩
    · simp [hp]
    · simp [hp, hs]
  · obtain ⟨rd, v, hp, hs, rfl⟩ := h
    simp [hp, hs]

/-! ### The layers around the endpoints -/

theorem Headers.get?_append_of_ne {h : Headers} {n v name : String} (hne : name ≠ n) :
    (h ++ [(n, v)]).get? name = h.get? name := by
  simp [Headers.get?, List.find?_append, Ne.symm hne]

/-- Two requests no endpoint tells apart: the same method, query, body and peer, and the same
first value of every header but `X-Request-Id`. -/
structure Request.Alike (req req' : Request) : Prop where
  method : req'.method = req.method
  query : req'.query = req.query
  body : req'.body = req.body
  peer : req'.peer = req.peer
  headers : ∀ name, name ≠ "x-request-id" → req'.headers.get? name = req.headers.get? name

section Alike

variable {req' : Request} (h : req.Alike req')
include h

theorem Request.Alike.clientIp : clientIp req' = clientIp req := by
  simp only [PosixRegistry.Http.clientIp, h.headers "x-forwarded-for" (by decide), h.peer]

theorem Request.Alike.authenticate :
    authenticate codec tokens now req' = authenticate codec tokens now req := by
  simp only [PosixRegistry.Http.authenticate, h.headers "authorization" (by decide),
    h.clientIp]

theorem Request.Alike.jsonArgs {shape : Shape} : jsonArgs req' shape = jsonArgs req shape := by
  simp only [PosixRegistry.Http.jsonArgs, h.headers "content-type" (by decide), h.body]

theorem Request.Alike.writeOf {e : Endpoint} {p : RangePolicy} {params : List (String × String)} :
    e.writeOf p req' params = e.writeOf p req params := by
  cases e <;> simp only [Endpoint.writeOf, bodyOf, h.jsonArgs]

theorem Request.Alike.writePlan {inputs : Except ApiError (Actor → Mutation)} :
    writePlan codec tokens now req' inputs = writePlan codec tokens now req inputs := by
  simp only [PosixRegistry.Http.writePlan, h.authenticate]

theorem Request.Alike.readOf {e : Endpoint} {p : RangePolicy} {params : List (String × String)} :
    e.readOf p req' params = e.readOf p req params := by
  cases e <;> simp only [Endpoint.readOf, queryArgs, h.query]

theorem Request.Alike.readPlan {inputs : Except ApiError (Service Value)} :
    readPlan codec tokens now req' inputs = readPlan codec tokens now req inputs := by
  simp only [PosixRegistry.Http.readPlan, h.authenticate]

end Alike

/-- The request-id layer passes the endpoint a request it cannot tell from the one sent, and
keeps the status, the body and the state the endpoint leaves. -/
theorem withRequestId_passes {σ : Type} (freshId : String) (req : Request)
    (inner : Request → Response × σ) :
    ∃ req', req.Alike req' ∧
      (withRequestId freshId req inner).1.status = (inner req').1.status ∧
      (withRequestId freshId req inner).1.body = (inner req').1.body ∧
      (withRequestId freshId req inner).2 = (inner req').2 := by
  refine ⟨if req.headers.has "x-request-id" then req
    else { req with headers := req.headers ++ [("x-request-id", freshId)] }, ?_, ?_⟩
  · split
    · exact ⟨rfl, rfl, rfl, rfl, fun _ _ => rfl⟩
    · exact ⟨rfl, rfl, rfl, rfl, fun _ hne => Headers.get?_append_of_ne hne⟩
  · simp only [withRequestId]
    generalize inner _ = p
    rcases p with ⟨r, x⟩
    -- the layer only puts the request id on the response
    split
    · split <;> simp
    · simp

/-- The cross-origin layer passes on every request but a preflight, keeping the status, the body
and the state the endpoint leaves. -/
theorem withCors_passes {σ : Type} (p : OriginPolicy) (req : Request) (unchanged : σ)
    (inner : Request → Response × σ) (h : req.method ≠ .options) :
    (withCors p req unchanged inner).1.status = (inner req).1.status ∧
      (withCors p req unchanged inner).1.body = (inner req).1.body ∧
      (withCors p req unchanged inner).2 = (inner req).2 := by
  simp [withCors, h]

/-! ### Routes and the server -/

/-- Whether an endpoint writes to the registry. -/
def Endpoint.writes : Endpoint → Bool
  | .createAccount | .updateAccount | .deleteAccount | .createGroup | .updateGroup
  | .deleteGroup | .assign | .remove => true
  | _ => false

theorem Endpoint.writeOf_isSome {e : Endpoint} {p : RangePolicy}
    {params : List (String × String)} : (e.writeOf p req params).isSome = e.writes := by
  cases e <;> rfl

/-- What the route table says of its methods: no route answers a preflight, no `GET` endpoint
writes, and the health probes are no API route's. -/
theorem routes_answer : ∀ x ∈ routes, ∀ q ∈ x.1.methods,
    q.1 ≠ .options ∧ (q.1 = .get → q.2.writes = false) ∧
      (x.2 = .api → q.2 ≠ .health ∧ q.2 ≠ .ready) := by
  decide

theorem Route.endpointFor_mem {r : Route} {m : Method} {e : Endpoint}
    (h : r.endpointFor m = some e) : ((if m = .head then .get else m), e) ∈ r.methods := by
  simp only [Route.endpointFor, Option.map_eq_some_iff] at h
  obtain ⟨q, hq, rfl⟩ := h
  have hm : q.1 = if m = .head then .get else m := by simpa using List.find?_some hq
  rw [← hm]
  exact List.mem_of_find?_eq_some hq

/-- A choice made along a list, each step keeping the choice so far or taking the next, picks the
start or one of the list. -/
theorem foldl_choice {α : Type} (step : Option α → α → Option α)
    (hstep : ∀ best c b, step best c = some b → best = some b ∨ b = c) (l : List α)
    (init : Option α) {b : α} (h : l.foldl step init = some b) : init = some b ∨ b ∈ l := by
  induction l generalizing init with
  | nil => exact .inl h
  | cons c l ih =>
    rcases ih _ h with h | h
    · rcases hstep init c b h with h | rfl
      · exact .inl h
      · exact .inr List.mem_cons_self
    · exact .inr (List.mem_cons_of_mem c h)

/-- The route a path leads to is one of the table's. -/
theorem findRoute_mem {path : String} {route : Route} {st : Stack}
    {params : List (String × String)} (h : findRoute path = some (route, st, params)) :
    (route, st) ∈ routes := by
  simp only [findRoute, Option.bind_eq_some_iff] at h
  obtain ⟨segs, -, h⟩ := h
  -- the route found is the preferred one among the matching routes
  refine (foldl_choice _ (fun best c b hb => ?_) _ _ h).elim (fun h => ?_) fun h => ?_
  · -- each step keeps the route preferred so far or takes the next one
    split at hb
    · cases hb
      exact .inr rfl
    · split at hb <;> cases hb
      · exact .inr rfl
      · exact .inl rfl
  · cases h
  · obtain ⟨⟨r, st'⟩, hx, hr⟩ := List.mem_filterMap.mp h
    obtain ⟨_, -, hr⟩ := Option.map_eq_some_iff.mp hr
    cases hr
    exact hx

/-- The endpoint of a method of a route in the table: never a preflight's, no `HEAD` endpoint
writes, and an API route's endpoint is no health probe. -/
theorem endpointFor_answer {route : Route} {st : Stack} {m : Method} {e : Endpoint}
    (hr : (route, st) ∈ routes) (he : route.endpointFor m = some e) :
    m ≠ .options ∧ (e.writes = true → m ≠ .head) ∧
      (st = .api → e ≠ .health ∧ e ≠ .ready) := by
  have hmem := Route.endpointFor_mem he
  obtain ⟨hopt, hget, hapi⟩ := routes_answer _ hr _ hmem
  refine ⟨fun hm => ?_, fun hw hm => ?_, hapi⟩
  · simp [hm] at hopt
  · simp [hm, hw] at hget

/-- A server answering a request keeps its settings and its range policy; only its limiter moves
on. -/
theorem serve_settings (s : Server) (reg : Registry) (now : Instant) (freshId : String)
    (req : Request) :
    (s.serve reg now freshId req).2.1.config = s.config ∧
      (s.serve reg now freshId req).2.1.policy = s.policy := by
  rcases hf : findRoute req.path with _ | ⟨route, _ | _, params⟩
  · simp [Server.serve, hf]
  · cases he : route.endpointFor req.method <;> simp [Server.serve, hf, he]
  · -- behind the limiter: the server keeps its settings whether the limiter lets the request in
    cases hl : s.limiter with
    | none => cases he : route.endpointFor req.method <;> simp [Server.serve, hf, he, hl]
    | some l =>
      cases hc : l.check now.monoNanos <;> cases he : route.endpointFor req.method <;>
        simp [Server.serve, hf, he, hl, hc]

/-- Dropping the body of an answer to `HEAD` keeps its status, and every other answer whole. -/
theorem Response.finish_head (c : Prop) [Decidable c] (r : Response) :
    (if c then r.stripBody else r).status = r.status ∧
      (¬c → (if c then r.stripBody else r).body = r.body) := by
  by_cases hc : c <;> simp [hc, Response.stripBody]

/-- The outer layers pass a request that is no preflight to the endpoint: the answer is the
endpoint's on a request it cannot tell from the one sent, the body dropped for `HEAD`. -/
theorem layers_pass {σ : Type} (freshId : String) (origins : OriginPolicy) (unchanged : σ)
    (inner : Request → Response × σ) (h : req.method ≠ .options) :
    ∃ req', req.Alike req' ∧
      let layered := withRequestId freshId req fun req => withCors origins req unchanged inner
      (if req.method = .head then layered.1.stripBody else layered.1).status =
          (inner req').1.status ∧
        (req.method ≠ .head →
          (if req.method = .head then layered.1.stripBody else layered.1).body =
            (inner req').1.body) ∧
        layered.2 = (inner req').2 := by
  obtain ⟨req', hreq', hstatus, hbody, hreg⟩ := withRequestId_passes freshId req
    fun req => withCors origins req unchanged inner
  -- the cross-origin layer sees a request with the method sent, so it passes it on
  obtain ⟨hcs, hcb, hcr⟩ := withCors_passes origins req' unchanged inner (hreq'.method ▸ h)
  obtain ⟨h1, h2⟩ := Response.finish_head (req.method = .head)
    (withRequestId freshId req fun req => withCors origins req unchanged inner).1
  exact ⟨req', hreq', h1.trans (hstatus.trans hcs), fun hm => (h2 hm).trans (hbody.trans hcb),
    hreg.trans hcr⟩

/-- **An API request with an endpoint reaches it behind the limiter**: refused with 429 by the
limiter, or answered as the endpoint answers a request it cannot tell from the one sent, the body
dropped for `HEAD`. -/
theorem serve_api (s : Server) (reg : Registry) (now : Instant) (freshId : String)
    {req : Request} {route : Route} {params : List (String × String)} {e : Endpoint}
    (hf : findRoute req.path = some (route, .api, params))
    (he : route.endpointFor req.method = some e) :
    match s.limiter.map (·.check now.monoNanos) with
    | some (Except.error _) =>
      (s.serve reg now freshId req).1.status = 429 ∧ (s.serve reg now freshId req).2.2 = reg
    | _ => ∃ req', req.Alike req' ∧
      (s.serve reg now freshId req).1.status =
        (Api.respond reg (handle ⟨s.policy, s.tokens, s.codec, now.unixSecs⟩ req' params e)).1.status ∧
      (req.method ≠ .head → (s.serve reg now freshId req).1.body =
        (Api.respond reg (handle ⟨s.policy, s.tokens, s.codec, now.unixSecs⟩ req' params e)).1.body) ∧
      (s.serve reg now freshId req).2.2 =
        (Api.respond reg (handle ⟨s.policy, s.tokens, s.codec, now.unixSecs⟩ req' params e)).2 := by
  obtain ⟨req', hreq', hpass⟩ := layers_pass freshId s.origins reg
    (fun req => Api.respond reg (handle ⟨s.policy, s.tokens, s.codec, now.unixSecs⟩ req params e))
    (endpointFor_answer (findRoute_mem hf) he).1
  cases hl : s.limiter with
  | none =>
    refine ⟨req', hreq', ?_⟩
    simp only [Server.serve, hf, he, hl]
    exact hpass
  | some l =>
    cases hc : l.check now.monoNanos with
    | error wait =>
      simp only [Server.serve, hf, he, hl, hc, Option.map_some]
      exact ⟨(Response.finish_head _ _).1, trivial⟩
    | ok l' =>
      simp only [Option.map_some, hc]
      refine ⟨req', hreq', ?_⟩
      simp only [Server.serve, hf, he, hl, hc]
      exact hpass

/-- An answer that agrees with an endpoint's on a request it cannot tell from the one sent (in its
status, in its body unless the method is `HEAD`, and in the registry it leaves) is what the
services say of the request: the caller is identified first, a read leaves the registry, and a
write is refused with its plan's refusal or is its write request run as the caller. -/
theorem answer_refines (ctx : Context) {req req' : Request} (hreq : req.Alike req')
    {params : List (String × String)} {e : Endpoint} (he : e ≠ .health ∧ e ≠ .ready)
    (hhead : e.writes = true → req.method ≠ .head) {reg after : Registry} {resp : Response}
    (hstatus : resp.status = (Api.respond reg (handle ctx req' params e)).1.status)
    (hbody : req.method ≠ .head →
      resp.body = (Api.respond reg (handle ctx req' params e)).1.body)
    (hreg : after = (Api.respond reg (handle ctx req' params e)).2) :
    (∀ err, authenticate ctx.codec ctx.tokens ctx.now req = .error err →
      resp.status = err.status ∧ after = reg) ∧
    match e.writeOf ctx.policy req params with
    | none => after = reg ∧ ∃ inputs, e.readOf ctx.policy req params = some inputs ∧
      match readPlan ctx.codec ctx.tokens ctx.now req inputs with
      | .error err => resp.status = err.status ∧ (req.method ≠ .head → resp.body = .json err.body)
      | .ok rd =>
        match (rd.run.run reg).1 with
        | .ok v => resp.status = 200 ∧ (req.method ≠ .head → resp.body = .json v)
        | .error se => resp.status = se.status ∧
          (req.method ≠ .head → resp.body = .json (ApiError.service se).body)
    | some inputs =>
      match writePlan ctx.codec ctx.tokens ctx.now req inputs with
      | .error err => resp.status = err.status ∧ resp.body = .json err.body ∧ after = reg
      | .ok m =>
        (∃ u, authenticate ctx.codec ctx.tokens ctx.now req = .ok u ∧ m.actor = u.actor) ∧
          after = (m.run reg).2 ∧
          match (m.run reg).1 with
          | .ok _ => resp.status = m.successStatus
          | .error se =>
            resp.status = se.status ∧ resp.body = .json (ApiError.service se).body := by
  refine ⟨fun err ha => ?_, ?_⟩
  · -- the caller is identified first, by every endpoint but the health probes
    rw [handle_unidentified ctx req' params he (hreq.authenticate.trans ha) reg] at hstatus hreg
    exact ⟨hstatus, hreg⟩
  · rcases hw : e.writeOf ctx.policy req params with _ | inputs
    · refine ⟨hreg.trans (respond_read ctx req' params (hreq.writeOf.trans hw) reg), ?_⟩
      -- an API endpoint that does not write reads, and answers as its read plan says
      obtain ⟨inputs, hi⟩ := Endpoint.readOf_of_writeOf hw he
      refine ⟨inputs, hi, ?_⟩
      have hr := respond_reads ctx req' params (hreq.readOf.trans hi) reg
      rw [hreq.readPlan] at hr
      rcases hp : readPlan ctx.codec ctx.tokens ctx.now req inputs with err | rd <;>
        simp only [hp] at hr ⊢
      · rw [hr] at hstatus hbody
        exact ⟨hstatus, hbody⟩
      · rcases hm : (rd.run.run reg).1 with se | v <;> simp only [hm] at hr ⊢ <;>
          rw [hr] at hstatus hbody <;> exact ⟨hstatus, hbody⟩
    · -- a write endpoint answers no `HEAD`, so its body reaches the caller
      have hwrites : (e.writeOf ctx.policy req params).isSome = e.writes := Endpoint.writeOf_isSome
      rw [hw] at hwrites
      have hnh := hhead hwrites.symm
      have hr := respond_write ctx req' params (hreq.writeOf.trans hw) reg
      rw [hreq.writePlan] at hr
      rcases hp : writePlan ctx.codec ctx.tokens ctx.now req inputs with err | m <;> simp only [hp] at hr ⊢
      · rw [hr] at hstatus hbody hreg
        exact ⟨hstatus, hbody hnh, hreg⟩
      · obtain ⟨u, write, hu, rfl, rfl⟩ := writePlan_ok hp
        refine ⟨⟨u, hu, Endpoint.writeOf_actor hw u.actor⟩, hreg.trans hr.1, ?_⟩
        rcases hm : ((write u.actor).run reg).1 with se | _ <;> simp only [hm] at hr ⊢
        · rw [hr.2] at hstatus hbody
          exact ⟨hstatus, hbody hnh⟩
        · exact hstatus.trans hr.2

/-- **The API refines the services.**  A caller not identified is refused with 401 and its own
code, an identified caller is the bearer of an access token, and an unreadable input of a write
is refused with 400 and the code of what was unreadable, as is an unreadable input of a read.  A
server answering any request keeps its settings, and a request to an API route with a method the
route answers is refused with 429 by the rate limiter, or else is answered as the services say:
a caller not identified is refused first and changes nothing; a read changes nothing and is
answered with the first refusal of its plan (caller, path parameter or query string), or 200 with
the service's result, or the service's refusal; a write is refused with the first refusal of
its plan (caller, path parameter, body, field rules) and changes nothing, or is the endpoint's
write request made as the caller, changing the registry as the services do and answered with the
success status or the service's refusal. -/
theorem api_requests_refine_services :
    (∀ (codec : JwtCodec) (tokens : TokenService) (now : Int) (req : Request) (err : ApiError),
      authenticate codec tokens now req = .error err →
        err.status = 401 ∧
          err.code ∈ ["MISSING_AUTHORIZATION", "INVALID_TOKEN", "TOKEN_EXPIRED"]) ∧
    (∀ (codec : JwtCodec) (tokens : TokenService) (now : Int) (req : Request) (u : AuthUser),
      authenticate codec tokens now req = .ok u →
        ∃ token claims, (req.headers.get? "authorization").bind bearerToken? = some token ∧
          tokens.validateAccess codec now token = .ok claims ∧ claims.userId = .ok u.userId ∧
          u.username = claims.username ∧ u.ipAddress = clientIp req) ∧
    (∀ (e : Endpoint) (p : RangePolicy) (req : Request) (params : List (String × String))
      (err : ApiError), e.writeOf p req params = some (.error err) →
        err.status = 400 ∧
          err.code ∈ ["INVALID_PATH_PARAMETER", "INVALID_BODY", "VALIDATION_ERROR"]) ∧
    (∀ (e : Endpoint) (p : RangePolicy) (req : Request) (params : List (String × String))
      (err : ApiError), e.readOf p req params = some (.error err) →
        err.status = 400 ∧ err.code ∈ ["INVALID_PATH_PARAMETER", "INVALID_QUERY_PARAMETER"]) ∧
    ∀ (s : Server) (reg : Registry) (now : Instant) (freshId : String) (req : Request),
      let out := s.serve reg now freshId req
      out.2.1.config = s.config ∧ out.2.1.policy = s.policy ∧
      match findRoute req.path with
      | some (route, .api, params) =>
        match route.endpointFor req.method with
        | some e =>
          match s.limiter.map (·.check now.monoNanos) with
          | some (Except.error _) => out.1.status = 429 ∧ out.2.2 = reg
          | _ =>
            (∀ err, authenticate s.codec s.tokens now.unixSecs req = .error err →
              out.1.status = err.status ∧ out.2.2 = reg) ∧
            match e.writeOf s.policy req params with
            | none => out.2.2 = reg ∧ ∃ inputs, e.readOf s.policy req params = some inputs ∧
              match readPlan s.codec s.tokens now.unixSecs req inputs with
              | .error err =>
                out.1.status = err.status ∧ (req.method ≠ .head → out.1.body = .json err.body)
              | .ok rd =>
                match (rd.run.run reg).1 with
                | .ok v => out.1.status = 200 ∧ (req.method ≠ .head → out.1.body = .json v)
                | .error se => out.1.status = se.status ∧
                  (req.method ≠ .head → out.1.body = .json (ApiError.service se).body)
            | some inputs =>
              match writePlan s.codec s.tokens now.unixSecs req inputs with
              | .error err =>
                out.1.status = err.status ∧ out.1.body = .json err.body ∧ out.2.2 = reg
              | .ok m =>
                (∃ u, authenticate s.codec s.tokens now.unixSecs req = .ok u ∧ m.actor = u.actor) ∧
                  out.2.2 = (m.run reg).2 ∧
                  match (m.run reg).1 with
                  | .ok _ => out.1.status = m.successStatus
                  | .error se =>
                    out.1.status = se.status ∧ out.1.body = .json (ApiError.service se).body
        | none => True
      | _ => True := by
  refine ⟨fun _ _ _ _ _ => authenticate_error, fun _ _ _ _ _ => authenticate_ok,
    fun _ _ _ _ _ => Endpoint.writeOf_error, fun _ _ _ _ _ => Endpoint.readOf_error,
    fun s reg now freshId req => ?_⟩
  obtain ⟨hconfig, hpolicy⟩ := serve_settings s reg now freshId req
  refine ⟨hconfig, hpolicy, ?_⟩
  split
  next route params hf =>
    split
    next e he =>
      obtain ⟨-, hhead, hapi⟩ := endpointFor_answer (findRoute_mem hf) he
      have hserve := serve_api s reg now freshId hf he
      -- the limiter's verdict decides both what the server does and what is said of it: the
      -- split of `hserve` on it splits the goal alike
      split at hserve
      next => exact hserve
      next =>
        obtain ⟨req', hreq', hstatus, hbody, hreg⟩ := hserve
        exact answer_refines ⟨s.policy, s.tokens, s.codec, now.unixSecs⟩ hreq' (hapi rfl) hhead
          hstatus hbody hreg
    next => trivial
  next => trivial

end Http

end PosixRegistry
