import PosixRegistry.Http.Auth
import PosixRegistry.Http.Form
import PosixRegistry.Http.Route
import PosixRegistry.Text.Quote
/-!
# Endpoints

What each endpoint does with a request. An endpoint reads its inputs in a fixed order —
the caller first, then its path parameter or query string, then its body — and the first
unreadable input decides the refusal. It then runs one registry service as the caller and
answers 200 with JSON, 201 for a creation, or 204 for a deletion or a membership change. A
service refusal is answered with its own status.

A path parameter is percent-decoded and must be UTF-8; an id must read as a signed 64-bit
integer. A body must be announced as JSON, may be at most 2 MiB, and must fit the request's
shape (what follows the JSON value is not read); then its field rules are checked.
-/

namespace PosixRegistry.Http

open Json

/-- A step of an endpoint: it may change the registry and may end in a refusal. Changes made
before a refusal stay. -/
abbrev Api := ExceptT ApiError (StateM Registry)

/-- What endpoints share: the range policy, the token checker, the token codec and the time in
seconds since the epoch. -/
structure Context where
  policy : RangePolicy
  tokens : TokenService
  codec : JwtCodec
  now : Int

namespace Api

/-- Takes a computed result, refusing with its error. -/
def ofExcept {α : Type} : Except ApiError α → Api α
  | .ok a => pure a
  | .error e => throw e

/-- Runs a service step, its refusal becoming the API's. -/
def service {α : Type} (s : Service α) : Api α := ExceptT.adapt ApiError.service s

/-- Runs a step on a registry, a refusal becoming its error response. -/
def respond (r : Registry) (a : Api Response) : Response × Registry :=
  match a.run.run r with
  | (.ok resp, r) => (resp, r)
  | (.error e, r) => (e.toResponse, r)

end Api

/-- The most bytes a request body may have. -/
def bodyLimit : Nat := 2097152

/-- A path parameter as text. -/
def textParam (params : List (String × String)) (name : String) : Except ApiError String :=
  let raw := (params.lookup name).getD ""
  match Text.decodeStrict? (percentDecode (Text.utf8Bytes raw)) with
  | some s => .ok s
  | none => .error (.invalidPath s!"Invalid UTF-8 in `{name}`")

/-- A path parameter as a signed 64-bit integer. -/
def intParam (params : List (String × String)) (name : String) : Except ApiError Int := do
  let s ← textParam params name
  match Text.readInt64 s with
  | .ok i => pure i
  | .error _ =>
    let shown := Text.quote s
    throw (.invalidPath s!"Cannot parse `{shown}` to a `i64`")

/-- The query string read into the fields of a parameter record. -/
def queryArgs (req : Request) (fields : List ParamField) :
    Except ApiError (List (Option ParamValue)) :=
  match readParams fields req.query with
  | .ok slots => .ok slots
  | .error m => .error (.invalidQuery s!"Failed to deserialize query string: {m}")

/-- The body read as a record of a shape. -/
def jsonArgs (req : Request) (shape : Shape) : Except ApiError (List (Option Got)) :=
  if !((req.headers.get? "content-type").any isJsonContentType) then
    .error (.invalidBody "Expected request with `Content-Type: application/json`")
  else if bodyLimit < req.body.utf8ByteSize then
    .error (.invalidBody "Failed to buffer the request body: length limit exceeded")
  else
    match shape with
    | .record n ms =>
      match readRecordText n ms false req.body with
      | .ok slots => .ok slots
      | .error f =>
        if f.isMismatch then
          .error (.invalidBody
            ("Failed to deserialize the JSON body into the target type: " ++ f.messageWithPath))
        else .error (.invalidBody ("Failed to parse the request body as JSON: " ++ f.messageWithPath))
    | _ => .ok []

/-- Refuses a request whose body breaks field rules. -/
def checkViolations (vs : List Violation) : Except ApiError Unit :=
  if vs.isEmpty then .ok () else .error (.validation vs)

/-- The search text of a listing: the trimmed `q`, unless blank. -/
def searchTerm (q : Option String) : Option String :=
  (q.map Text.trimBlank).bind fun s => if s.isEmpty then none else some s

/-! ### Parameter records -/

/-- Listing parameters: `type` and `q`. -/
def listFields : List ParamField := [⟨"type", .text, false⟩, ⟨"q", .text, false⟩]

/-- The required `type` parameter. -/
def typeFields : List ParamField := [⟨"type", .text, true⟩]

/-- Duplicate check parameters: the id and an optional record id to leave out. -/
def checkFields (id : String) : List ParamField := [⟨id, .int, true⟩, ⟨"exclude_id", .int, false⟩]

/-- Range check parameters: the id and the type. -/
def validateFields (id : String) : List ParamField := [⟨id, .int, true⟩, ⟨"type", .text, true⟩]

/-- Audit log filters and page. -/
def auditFields : List ParamField :=
  [⟨"entity_type", .text, false⟩, ⟨"action", .text, false⟩, ⟨"entity_id", .int, false⟩,
   ⟨"user_id", .int, false⟩, ⟨"limit", .int, false⟩, ⟨"offset", .int, false⟩]

/-- The audit query of audit log parameters; the entity type is read before the action. -/
def auditQueryOf (ps : List (Option ParamValue)) : Except ApiError AuditQuery := do
  let entityType ← match ParamValue.text? (ps.getD 0 none) with
    | some s => match AuditEntityType.parse s with
      | .ok t => pure (some t)
      | .error e => throw (.invalidQuery e.message)
    | none => pure none
  let action ← match ParamValue.text? (ps.getD 1 none) with
    | some s => match AuditAction.parse s with
      | .ok a => pure (some a)
      | .error e => throw (.invalidQuery e.message)
    | none => pure none
  pure (AuditQuery.normalized
    { entityType, action, entityId := ParamValue.int? (ps.getD 2 none),
      userId := ParamValue.int? (ps.getD 3 none), limit := (ParamValue.int? (ps.getD 4 none)).getD 50,
      offset := (ParamValue.int? (ps.getD 5 none)).getD 0 })

/-! ### Answers -/

/-- A 200 answer. -/
def okJson (v : Value) : Response := Response.ofJson 200 v

/-- A 201 answer. -/
def createdJson (v : Value) : Response := Response.ofJson 201 v

/-- A 204 answer. -/
def noContent : Response := Response.bare 204

/-- A list answer. -/
def listJson {α : Type} (f : α → Value) (xs : List α) : Response := okJson (.arr (xs.map f))

/-- The answer of the health probe. -/
def healthJson : Value := .obj [("status", .str "healthy")]

/-- The answer of the readiness probe: the in-memory store is always reachable. -/
def readyJson : Value := .obj [("status", .str "ready"), ("checks", .obj [("database", .str "healthy")])]

/-! ### The endpoints -/

/-- Answers a request at an endpoint, with the route's raw path parameters. -/
def handle (ctx : Context) (req : Request) (params : List (String × String)) :
    Endpoint → Api Response
  | .health => pure (okJson healthJson)
  | .ready => pure (okJson readyJson)
  | .listAccounts => do
    let _ ← who
    let ps ← Api.ofExcept (queryArgs req listFields)
    let type := ParamValue.text? (ps.getD 0 none)
    match searchTerm (ParamValue.text? (ps.getD 1 none)) with
    | some q => listJson Account.toJson <$> Api.service (Service.searchAccounts q type)
    | none => listJson Account.toJson <$> Api.service (Service.listAccounts type)
  | .createAccount => do
    let u ← who
    let req ← NewAccount.ofSlots <$> Api.ofExcept (jsonArgs req NewAccount.shape)
    Api.ofExcept (checkViolations req.violations)
    let a ← Api.service (Service.createAccount ctx.policy req u.actor)
    pure (createdJson (Applied.toJson Account.toJson a))
  | .getAccount => do
    let _ ← who
    let id ← Api.ofExcept (intParam params "id")
    okJson <$> Account.toJson <$> Api.service (Service.findAccount id)
  | .updateAccount => do
    let u ← who
    let id ← Api.ofExcept (intParam params "id")
    let req ← AccountChange.ofSlots <$> Api.ofExcept (jsonArgs req AccountChange.shape)
    Api.ofExcept (checkViolations req.violations)
    let a ← Api.service (Service.updateAccount ctx.policy id req u.actor)
    pure (okJson (Applied.toJson Account.toJson a))
  | .deleteAccount => do
    let u ← who
    let id ← Api.ofExcept (intParam params "id")
    Api.service (Service.deleteAccount id u.actor)
    pure noContent
  | .accountByUid => do
    let _ ← who
    let uid ← Api.ofExcept (intParam params "uid")
    okJson <$> Account.toJson <$> Api.service (Service.accountByUid uid)
  | .accountByName => do
    let _ ← who
    let name ← Api.ofExcept (textParam params "username")
    okJson <$> Account.toJson <$> Api.service (Service.accountByName name)
  | .accountGroups => do
    let _ ← who
    let id ← Api.ofExcept (intParam params "id")
    listJson Group.toJson <$> Api.service (Service.accountGroups id)
  | .nextUid => do
    let _ ← who
    let ps ← Api.ofExcept (queryArgs req typeFields)
    let n ← Api.service (Service.nextId ctx.policy .uid ((ParamValue.text? (ps.getD 0 none)).getD ""))
    pure (okJson n.toJson)
  | .uidCheck => do
    let _ ← who
    let ps ← Api.ofExcept (queryArgs req (checkFields "uid"))
    let d ← Api.service (Service.duplicateCheck .uid ((ParamValue.int? (ps.getD 0 none)).getD 0)
      ((ParamValue.int? (ps.getD 1 none)).getD 0))
    pure (okJson d.toJson)
  | .uidValidate => do
    let _ ← who
    let ps ← Api.ofExcept (queryArgs req (validateFields "uid"))
    let v := ctx.policy.judgeNamed .uid ((ParamValue.int? (ps.getD 0 none)).getD 0)
      ((ParamValue.text? (ps.getD 1 none)).getD "")
    pure (okJson v.toJson)
  | .listGroups => do
    let _ ← who
    let ps ← Api.ofExcept (queryArgs req listFields)
    let type := ParamValue.text? (ps.getD 0 none)
    match searchTerm (ParamValue.text? (ps.getD 1 none)) with
    | some q => listJson Group.toJson <$> Api.service (Service.searchGroups q type)
    | none => listJson Group.toJson <$> Api.service (Service.listGroups type)
  | .createGroup => do
    let u ← who
    let req ← NewGroup.ofSlots <$> Api.ofExcept (jsonArgs req NewGroup.shape)
    Api.ofExcept (checkViolations req.violations)
    let g ← Api.service (Service.createGroup ctx.policy req u.actor)
    pure (createdJson (Applied.toJson Group.toJson g))
  | .getGroup => do
    let _ ← who
    let id ← Api.ofExcept (intParam params "id")
    okJson <$> Group.toJson <$> Api.service (Service.findGroup id)
  | .updateGroup => do
    let u ← who
    let id ← Api.ofExcept (intParam params "id")
    let req ← GroupChange.ofSlots <$> Api.ofExcept (jsonArgs req GroupChange.shape)
    Api.ofExcept (checkViolations req.violations)
    let g ← Api.service (Service.updateGroup ctx.policy id req u.actor)
    pure (okJson (Applied.toJson Group.toJson g))
  | .deleteGroup => do
    let u ← who
    let id ← Api.ofExcept (intParam params "id")
    Api.service (Service.deleteGroup id u.actor)
    pure noContent
  | .groupByGid => do
    let _ ← who
    let gid ← Api.ofExcept (intParam params "gid")
    okJson <$> Group.toJson <$> Api.service (Service.groupByGid gid)
  | .groupByName => do
    let _ ← who
    let name ← Api.ofExcept (textParam params "groupname")
    okJson <$> Group.toJson <$> Api.service (Service.groupByName name)
  | .groupMembers => do
    let _ ← who
    let id ← Api.ofExcept (intParam params "id")
    listJson Account.toJson <$> Api.service (Service.groupMembers id)
  | .nextGid => do
    let _ ← who
    let ps ← Api.ofExcept (queryArgs req typeFields)
    let n ← Api.service (Service.nextId ctx.policy .gid ((ParamValue.text? (ps.getD 0 none)).getD ""))
    pure (okJson n.toJson)
  | .gidCheck => do
    let _ ← who
    let ps ← Api.ofExcept (queryArgs req (checkFields "gid"))
    let d ← Api.service (Service.duplicateCheck .gid ((ParamValue.int? (ps.getD 0 none)).getD 0)
      ((ParamValue.int? (ps.getD 1 none)).getD 0))
    pure (okJson d.toJson)
  | .gidValidate => do
    let _ ← who
    let ps ← Api.ofExcept (queryArgs req (validateFields "gid"))
    let v := ctx.policy.judgeNamed .gid ((ParamValue.int? (ps.getD 0 none)).getD 0)
      ((ParamValue.text? (ps.getD 1 none)).getD "")
    pure (okJson v.toJson)
  | .assign => do
    let u ← who
    let req ← MembershipRequest.ofSlots <$> Api.ofExcept (jsonArgs req MembershipRequest.shape)
    Api.ofExcept (checkViolations req.violations)
    Api.service (Service.assign req.account req.group u.actor)
    pure noContent
  | .remove => do
    let u ← who
    let req ← MembershipRequest.ofSlots <$> Api.ofExcept (jsonArgs req MembershipRequest.shape)
    Api.ofExcept (checkViolations req.violations)
    Api.service (Service.remove req.account req.group u.actor)
    pure noContent
  | .auditList => do
    let _ ← who
    let ps ← Api.ofExcept (queryArgs req auditFields)
    let q ← Api.ofExcept (auditQueryOf ps)
    listJson AuditEntry.toJson <$> Api.service (Service.auditList q)
  | .auditGet => do
    let _ ← who
    let id ← Api.ofExcept (intParam params "id")
    okJson <$> AuditEntry.toJson <$> Api.service (Service.auditGet id)
where
  /-- The caller of the request. -/
  who : Api AuthUser := Api.ofExcept (authenticate ctx.codec ctx.tokens ctx.now req)

end PosixRegistry.Http
