import PosixRegistry.Registry.Render
/-!
# Command arguments

A command is a JSON object naming an operation and its arguments. Its answer is `{"ok": v}`,
an error object, or a refusal of the command itself (`BadInput`) when an argument is missing
or of the wrong kind. Integers must be signed 64-bit values; `null` counts as absent for
optional arguments.
-/

namespace PosixRegistry.Console

open Json

/-- Reading the arguments of a command: a value, or the reason the command is refused. -/
abbrev Args := Except String

/-- A successful answer. -/
def ok (v : Value) : Value := .obj [("ok", v)]

/-- A refusal of the command itself. -/
def badInput (m : String) : Value := .obj [("error", .str "BadInput"), ("message", .str m)]

/-- Whether an integer fits in 64 signed bits. -/
def isInt64 (i : Int) : Bool := decide (-9223372036854775808 ≤ i ∧ i < 9223372036854775808)

/-- An integer argument. -/
def reqInt (op : Value) (name : String) : Args Int :=
  match op.get? name with
  | none => .error s!"missing field {name}"
  | some (.int i) => if isInt64 i then .ok i else .error s!"field {name} must be an i64"
  | some _ => .error s!"field {name} must be an i64"

/-- An optional integer argument. -/
def optInt (op : Value) (name : String) : Args (Option Int) :=
  match op.get? name with
  | none | some .null => .ok none
  | some _ => some <$> reqInt op name

/-- A string argument. -/
def reqStr (op : Value) (name : String) : Args String :=
  match op.get? name with
  | none => .error s!"missing field {name}"
  | some (.str s) => .ok s
  | some _ => .error s!"field {name} must be a string"

/-- An optional string argument. -/
def optStr (op : Value) (name : String) : Args (Option String) :=
  match op.get? name with
  | none | some .null => .ok none
  | some _ => some <$> reqStr op name

/-- A boolean argument. -/
def reqBool (op : Value) (name : String) : Args Bool :=
  match op.get? name with
  | some (.bool b) => .ok b
  | none => .error s!"missing field {name}"
  | some _ => .error s!"{name} must be a bool"

/-- An object argument whose wrong kind is refused as `<name> must be an object`. -/
def reqObject (op : Value) (name : String) : Args Value :=
  match op.get? name with
  | none => .error s!"missing field {name}"
  | some (.obj fields) => .ok (.obj fields)
  | some _ => .error s!"{name} must be an object"

/-- An argument of any JSON value that must be given. -/
def reqAny (op : Value) (name : String) : Args Value :=
  match op.get? name with
  | some v => .ok v
  | none => .error s!"missing field {name}"

/-- An argument of any JSON value; absent reads as `null`. -/
def anyArg (op : Value) (name : String) : Value := (op.get? name).getD .null

/-- An identifier space argument, `uid` or `gid`. -/
def reqKind (op : Value) (name : String) : Args IdKind := do
  let k ← reqStr op name
  match IdKind.ofName? k with
  | some k => pure k
  | none => throw s!"unknown kind {k}"

/-- An identity type argument given by its exact name. -/
def reqType (op : Value) (name : String) : Args IdentityType := do
  let t ← reqStr op name
  match IdentityType.ofName? t with
  | some t => pure t
  | none => throw s!"unknown identity type {t}"

/-- The actor of a write: the standard one when absent. -/
def actorArg (op : Value) : Args Actor :=
  match op.get? "actor" with
  | none | some .null => .ok Actor.standard
  | some (.obj fields) => do
    let a := Value.obj fields
    let userId ← reqInt a "user_id"
    let username ← reqStr a "username"
    let ipAddress ← reqStr a "ip_address"
    pure ⟨userId, username, ipAddress⟩
  | some _ => .error "actor must be an object"

/-- An object argument. -/
def reqObj (op : Value) (name : String) : Args Value :=
  match op.get? name with
  | none => .error s!"missing field {name}"
  | some (.obj fields) => .ok (.obj fields)
  | some _ => .error s!"field {name} must be an object"

/-- The answer of a refusal or a value. -/
def answer {α : Type} (f : α → Value) : Except ServiceError α → Value
  | .ok a => ok (f a)
  | .error e => e.toJson

/-- The error object of a request body refused while being read. -/
def invalidRequest (message : String) : Value :=
  .obj [("error", .str "InvalidRequest"), ("message", .str message)]

end PosixRegistry.Console
