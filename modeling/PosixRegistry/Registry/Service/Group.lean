import PosixRegistry.Registry.Service.Account
/-!
# Group services

Creating a group checks the field rules, the type name, the group id (given, or one past the
largest of the type), that it is not negative, and that no live group has it or the name. The
creator is recorded. Changing a group merges the request in and runs the same checks; a group
whose type changes must not be anyone's primary group. Deleting a group needs the same.
-/

namespace PosixRegistry

namespace Service

/-- The live group with a record id, or a refusal. -/
def findGroup (id : Int) : Service Group := do
  match (← tables).group? id with
  | some g => pure g
  | none => fail (.groupNotFound id)

/-- The group id proposed for a new group of a type. -/
def nextGid (p : RangePolicy) (t : IdentityType) : Service Int :=
  return p.nextAfter .gid ((← tables).maxGid t) t

/-- Refuses a group id or name that another live group has. -/
def ensureUniqueGroup (d : GroupDraft) (exclude : Int) : Service Unit := do
  let t ← tables
  if t.gidTaken d.gid exclude then fail (.gidTaken d.gid)
  else if t.groupnameTaken d.groupname exclude then fail (.groupnameTaken d.groupname)
  else pure ()

/-- Refuses when live accounts have the group as primary group. -/
def ensureNotPrimary (id : Int) : Service Unit := do
  let n := (← tables).primaryCount id
  if 0 < n then fail (.groupInUse id n) else pure ()

/-- Creates a group. -/
def createGroup (p : RangePolicy) (req : NewGroup) (actor : Actor) : Service (Applied Group) := do
  checkRules req.violations
  let type ← parseType req.type
  let gid ← match req.gid with
    | some g => pure g
    | none => nextGid p type
  let warnings ← judge p .gid gid type
  let d : GroupDraft := ⟨gid, req.groupname, type, req.description.getD "", some actor.username⟩
  ensureUniqueGroup d 0
  let x ← begin
  let (g, x) ← drawing (Txn.insertGroup · x d)
  finish x ⟨.create, .group, g.id, s!"Created group {g.groupname} with GID {g.gid}", actor⟩
  pure ⟨g, warnings⟩

/-- The changes between a group and a draft, in field order. -/
def groupChanges (g : Group) (d : GroupDraft) : List String :=
  (if g.gid != d.gid then [s!"gid {g.gid} -> {d.gid}"] else []) ++
  (if g.groupname != d.groupname then [s!"groupname {g.groupname} -> {d.groupname}"] else []) ++
  (if g.type != d.type then [s!"type {g.type.name} -> {d.type.name}"] else []) ++
  (if g.description != d.description then ["description"] else [])

/-- Changes a group. -/
def updateGroup (p : RangePolicy) (id : Int) (req : GroupChange) (actor : Actor) :
    Service (Applied Group) := do
  checkRules req.violations
  let g ← findGroup id
  let type ← match req.type with
    | some s => parseType s
    | none => pure g.type
  let d : GroupDraft := ⟨req.gid.getD g.gid, req.groupname.getD g.groupname, type,
    req.description.getD g.description, g.createdBy⟩
  let warnings ← judge p .gid d.gid d.type
  ensureUniqueGroup d id
  if d.type != g.type then ensureNotPrimary id
  let changes := groupChanges g d
  let x ← begin
  let (h, x) ← lift (x.updateGroup id d)
  let line := changeLine s!"Updated group {h.groupname} with GID {h.gid}" changes
  finish x ⟨.update, .group, h.id, line, actor⟩
  pure ⟨h, warnings⟩

/-- Deletes a group that is no one's primary group. -/
def deleteGroup (id : Int) (actor : Actor) : Service Unit := do
  let g ← findGroup id
  ensureNotPrimary id
  let x ← begin
  let x ← lift (x.write (.deleteGroup id))
  finish x ⟨.delete, .group, id, s!"Deleted group {g.groupname} with GID {g.gid}", actor⟩

/-- The live groups, of one type if given, by group id. -/
def listGroups (type : Option String) : Service (List Group) := do
  let t ← match type with
    | some s => some <$> parseType s
    | none => pure none
  return (← tables).listGroups t

/-- The live groups matching a trimmed search text, of one type if given, by group id. -/
def searchGroups (q : String) (type : Option String) : Service (List Group) := do
  let t ← match type with
    | some s => some <$> parseType s
    | none => pure none
  let found := (← tables).searchGroups (Text.trimBlank q)
  return found.filter fun g => t.all (· == g.type)

/-- The live group with a group id. -/
def groupByGid (gid : Int) : Service Group := do
  match (← tables).groupByGid? gid with
  | some g => pure g
  | none => fail (.groupNotFoundBy "GID" (toString gid))

/-- The live group with a name. -/
def groupByName (name : String) : Service Group := do
  match (← tables).groupByName? name with
  | some g => pure g
  | none => fail (.groupNotFoundBy "groupname" name)

/-- The live members of a live group, by user id. -/
def groupMembers (id : Int) : Service (List Account) := do
  let _ ← findGroup id
  return (← tables).members id

end Service

end PosixRegistry
