import PosixRegistry.Registry.Service.Step
/-!
# Account services

Creating an account checks, in order: the field rules, the type name, the user id (given, or
one past the largest of the type), that it is not negative, that no live account has it or the
username, and the primary group. A system account needs a primary group, and that group must
be a system group; any primary group must be a live group. A user id outside the type's range
is accepted with a warning.

Changing an account merges the request into the account as it is (clearing the primary group
wins over setting one) and runs the same checks, uniqueness excluding the account itself. The
audit entry lists what changed.
-/

namespace PosixRegistry

namespace Service

/-- The live account with a record id, or a refusal. -/
def findAccount (id : Int) : Service Account := do
  match (← tables).account? id with
  | some a => pure a
  | none => fail (.accountNotFound id)

/-- The user id proposed for a new account of a type. -/
def nextUid (p : RangePolicy) (t : IdentityType) : Service Int :=
  return p.nextAfter .uid ((← tables).maxUid t) t

/-- Refuses a user id or username that another live account has. -/
def ensureUniqueAccount (d : AccountDraft) (exclude : Int) : Service Unit := do
  let t ← tables
  if t.uidTaken d.uid exclude then fail (.uidTaken d.uid)
  else if t.usernameTaken d.username exclude then fail (.usernameTaken d.username)
  else pure ()

/-- Checks the primary group of an account of a type. -/
def ensurePrimaryGroup (type : IdentityType) (group : Option Int) : Service Unit := do
  match group with
  | none => if type.isSystem then fail .primaryGroupRequired else pure ()
  | some g =>
    match (← tables).group? g with
    | none => fail (.missingReference "group" g)
    | some grp =>
      if type.isSystem && !grp.isSystem then fail (.primaryGroupNotSystem g grp.type)
      else pure ()

/-- Creates an account. -/
def createAccount (p : RangePolicy) (req : NewAccount) (actor : Actor) :
    Service (Applied Account) := do
  checkRules req.violations
  let type ← parseType req.type
  let uid ← match req.uid with
    | some u => pure u
    | none => nextUid p type
  let warnings ← judge p .uid uid type
  let d : AccountDraft := ⟨uid, req.username, type, req.primaryGroup, req.firstName, req.lastName⟩
  ensureUniqueAccount d 0
  ensurePrimaryGroup d.type d.primaryGroup
  let x ← begin
  let (a, x) ← drawing (Txn.insertAccount · x d)
  finish x ⟨.create, .account, a.id, s!"Created account {a.username} with UID {a.uid}", actor⟩
  pure ⟨a, warnings⟩

/-- The draft of an account with a change request merged in. -/
def AccountChange.merge (a : Account) (req : AccountChange) (type : IdentityType) : AccountDraft :=
  { uid := req.uid.getD a.uid
    username := req.username.getD a.username
    type
    primaryGroup := if req.clearPrimaryGroup then none
      else match req.primaryGroup with
        | some g => some g
        | none => a.primaryGroup
    firstName := if req.firstName.isSome then req.firstName else a.firstName
    lastName := if req.lastName.isSome then req.lastName else a.lastName }

/-- An optional value in a change line. -/
def showOpt : Option String → String
  | some s => s
  | none => "none"

/-- The changes between an account and a draft, in field order. -/
def accountChanges (a : Account) (d : AccountDraft) : List String :=
  (if a.uid != d.uid then [s!"uid {a.uid} -> {d.uid}"] else []) ++
  (if a.username != d.username then [s!"username {a.username} -> {d.username}"] else []) ++
  (if a.type != d.type then [s!"type {a.type.name} -> {d.type.name}"] else []) ++
  (if a.primaryGroup != d.primaryGroup then
    [s!"primary group {showOpt (a.primaryGroup.map toString)} -> {showOpt (d.primaryGroup.map toString)}"]
   else []) ++
  (if a.firstName != d.firstName then
    [s!"first name {showOpt a.firstName} -> {showOpt d.firstName}"] else []) ++
  (if a.lastName != d.lastName then
    [s!"last name {showOpt a.lastName} -> {showOpt d.lastName}"] else [])

/-- The audit line of a change: the record, then the changes in parentheses if any. -/
def changeLine (head : String) (changes : List String) : String :=
  if changes.isEmpty then head else head ++ " (" ++ ", ".intercalate changes ++ ")"

/-- Changes an account. -/
def updateAccount (p : RangePolicy) (id : Int) (req : AccountChange) (actor : Actor) :
    Service (Applied Account) := do
  checkRules req.violations
  let a ← findAccount id
  let type ← match req.type with
    | some s => parseType s
    | none => pure a.type
  let d := AccountChange.merge a req type
  let warnings ← judge p .uid d.uid d.type
  ensureUniqueAccount d id
  ensurePrimaryGroup d.type d.primaryGroup
  let changes := accountChanges a d
  let x ← begin
  let (b, x) ← lift (x.updateAccount id d)
  let line := changeLine s!"Updated account {b.username} with UID {b.uid}" changes
  finish x ⟨.update, .account, b.id, line, actor⟩
  pure ⟨b, warnings⟩

/-- Deletes an account. -/
def deleteAccount (id : Int) (actor : Actor) : Service Unit := do
  let a ← findAccount id
  let x ← begin
  let x ← lift (x.write (.deleteAccount id))
  finish x ⟨.delete, .account, id, s!"Deleted account {a.username} with UID {a.uid}", actor⟩

/-- The live accounts, of one type if given, by user id. -/
def listAccounts (type : Option String) : Service (List Account) := do
  let t ← match type with
    | some s => some <$> parseType s
    | none => pure none
  return (← tables).listAccounts t

/-- The live accounts matching a trimmed search text, of one type if given, by user id. -/
def searchAccounts (q : String) (type : Option String) : Service (List Account) := do
  let t ← match type with
    | some s => some <$> parseType s
    | none => pure none
  let found := (← tables).searchAccounts (Text.trimBlank q)
  return found.filter fun a => t.all (· == a.type)

/-- The live account with a user id. -/
def accountByUid (uid : Int) : Service Account := do
  match (← tables).accountByUid? uid with
  | some a => pure a
  | none => fail (.accountNotFoundBy "UID" (toString uid))

/-- The live account with a username. -/
def accountByName (name : String) : Service Account := do
  match (← tables).accountByName? name with
  | some a => pure a
  | none => fail (.accountNotFoundBy "username" name)

/-- The live groups of a live account, by group id. -/
def accountGroups (id : Int) : Service (List Group) := do
  let _ ← findAccount id
  return (← tables).groupsOf id

end Service

end PosixRegistry
