import PosixRegistry.Registry.Entity
/-!
# The registry store

The store keeps accounts, groups, memberships and the audit log in lists, in the order they
were written, and one counter from which every record id and audit id is drawn. Deleting an
account or group marks its row; marked rows drop out of every lookup, list, uniqueness check
and largest-identifier query, but membership rows stay.

A transaction works on a copy of the tables and records each write it makes. Each write is
checked as it is made: a new or changed account must not share a user id or a username with
another live account, and its primary group, if any, must be a group row (marked or not); a
group must not share a group id or name with another live group; a membership needs both rows
and must be new. Commit replays the recorded writes, with the same checks, on the tables as
they are then, and keeps the result only if every write passes. Ids drawn inside a transaction
stay drawn whatever becomes of it.
-/

namespace PosixRegistry

/-- The tables of the registry. -/
structure Tables where
  accounts : List Account := []
  groups : List Group := []
  memberships : List Membership := []
  audit : List AuditEntry := []
  deriving DecidableEq, Repr, Inhabited

/-- One write of a transaction. -/
inductive Write where
  | insertAccount (a : Account)
  | updateAccount (a : Account)
  | deleteAccount (id : Int)
  | insertGroup (g : Group)
  | updateGroup (g : Group)
  | deleteGroup (id : Int)
  | insertMembership (m : Membership)
  | deleteMembership (account group : Int)
  | audit (e : AuditEntry)
  deriving DecidableEq, Repr

/-- Replaces the first element that satisfies a test; `none` when none does. -/
def replaceFirst {α : Type} (p : α → Bool) (f : α → α) : List α → Option (List α)
  | [] => none
  | x :: xs => if p x then some (f x :: xs) else (replaceFirst p f xs).map (x :: ·)

/-- Whether one list of characters occurs inside another. -/
def isInfix (needle : List Char) : List Char → Bool
  | [] => needle.isEmpty
  | c :: cs => needle.isPrefixOf (c :: cs) || isInfix needle cs

/-- Whether one text occurs inside another; the empty text occurs in every text. -/
def textContains (hay needle : String) : Bool := isInfix needle.toList hay.toList

namespace Tables

/-! ### Lookups -/

/-- The accounts that are not marked deleted. -/
def liveAccounts (t : Tables) : List Account := t.accounts.filter (!·.deleted)

/-- The groups that are not marked deleted. -/
def liveGroups (t : Tables) : List Group := t.groups.filter (!·.deleted)

/-- The live account with a record id. -/
def account? (t : Tables) (id : Int) : Option Account := t.liveAccounts.find? (·.id == id)

/-- The live group with a record id. -/
def group? (t : Tables) (id : Int) : Option Group := t.liveGroups.find? (·.id == id)

/-- The live account with a user id. -/
def accountByUid? (t : Tables) (uid : Int) : Option Account := t.liveAccounts.find? (·.uid == uid)

/-- The live account with a username. -/
def accountByName? (t : Tables) (name : String) : Option Account :=
  t.liveAccounts.find? (·.username == name)

/-- The live group with a group id. -/
def groupByGid? (t : Tables) (gid : Int) : Option Group := t.liveGroups.find? (·.gid == gid)

/-- The live group with a name. -/
def groupByName? (t : Tables) (name : String) : Option Group :=
  t.liveGroups.find? (·.groupname == name)

/-- Accounts ordered by user id, keeping the table order among equals. -/
def byUid (as : List Account) : List Account := as.mergeSort fun a b => a.uid ≤ b.uid

/-- Groups ordered by group id, keeping the table order among equals. -/
def byGid (gs : List Group) : List Group := gs.mergeSort fun a b => a.gid ≤ b.gid

/-- The live accounts, of one type if given, by user id. -/
def listAccounts (t : Tables) (type : Option IdentityType) : List Account :=
  byUid (t.liveAccounts.filter fun a => type.all (· == a.type))

/-- The live groups, of one type if given, by group id. -/
def listGroups (t : Tables) (type : Option IdentityType) : List Group :=
  byGid (t.liveGroups.filter fun g => type.all (· == g.type))

/-- The live accounts whose username or decimal user id contains the text, by user id. -/
def searchAccounts (t : Tables) (q : String) : List Account :=
  byUid (t.liveAccounts.filter fun a => textContains a.username q || textContains (toString a.uid) q)

/-- The live groups whose name or decimal group id contains the text, by group id. -/
def searchGroups (t : Tables) (q : String) : List Group :=
  byGid (t.liveGroups.filter fun g => textContains g.groupname q || textContains (toString g.gid) q)

/-- Whether a membership row pairs the account and the group. -/
def isMember (t : Tables) (account group : Int) : Bool :=
  t.memberships.any fun m => m.account == account && m.group == group

/-- The live accounts with a membership row in the group, by user id. -/
def members (t : Tables) (group : Int) : List Account :=
  byUid (t.liveAccounts.filter fun a => t.isMember a.id group)

/-- The live groups in which the account has a membership row, by group id. -/
def groupsOf (t : Tables) (account : Int) : List Group :=
  byGid (t.liveGroups.filter fun g => t.isMember account g.id)

/-- Whether a live account other than the excluded one (0 excludes nothing) has the user id. -/
def uidTaken (t : Tables) (uid exclude : Int) : Bool :=
  t.liveAccounts.any fun a => a.uid == uid && (exclude == 0 || a.id != exclude)

/-- Whether a live account other than the excluded one has the username. -/
def usernameTaken (t : Tables) (name : String) (exclude : Int) : Bool :=
  t.liveAccounts.any fun a => a.username == name && (exclude == 0 || a.id != exclude)

/-- Whether a live group other than the excluded one has the group id. -/
def gidTaken (t : Tables) (gid exclude : Int) : Bool :=
  t.liveGroups.any fun g => g.gid == gid && (exclude == 0 || g.id != exclude)

/-- Whether a live group other than the excluded one has the name. -/
def groupnameTaken (t : Tables) (name : String) (exclude : Int) : Bool :=
  t.liveGroups.any fun g => g.groupname == name && (exclude == 0 || g.id != exclude)

/-- The largest of a list of integers. -/
def maxOf : List Int → Option Int
  | [] => none
  | x :: xs => some (xs.foldl max x)

/-- The largest user id among live accounts of a type. -/
def maxUid (t : Tables) (type : IdentityType) : Option Int :=
  maxOf ((t.liveAccounts.filter (·.type == type)).map (·.uid))

/-- The largest group id among live groups of a type. -/
def maxGid (t : Tables) (type : IdentityType) : Option Int :=
  maxOf ((t.liveGroups.filter (·.type == type)).map (·.gid))

/-- How many live accounts have the group as primary group. -/
def primaryCount (t : Tables) (group : Int) : Nat :=
  (t.liveAccounts.filter (·.primaryGroup == some group)).length

/-- The page of the audit log a query asks for: matching entries, newest first. -/
def auditPage (t : Tables) (q : AuditQuery) : List AuditEntry :=
  let q := q.normalized
  let hits := (t.audit.filter q.admits).mergeSort AuditEntry.newerOrSame
  (hits.drop q.offset.toNat).take q.limit.toNat

/-- The audit entry with an id. -/
def findAudit? (t : Tables) (id : Int) : Option AuditEntry := t.audit.find? (·.id == id)

/-! ### Checked writes -/

/-- The check of an account about to be written. -/
def checkAccount (t : Tables) (a : Account) : Except RegistryError Unit :=
  let others := t.liveAccounts.filter (·.id != a.id)
  if others.any (·.uid == a.uid) then .error (.uidTaken a.uid)
  else if others.any (·.username == a.username) then .error (.usernameTaken a.username)
  else match a.primaryGroup with
    | some g => if t.groups.any (·.id == g) then .ok () else .error (.missingReference "group" g)
    | none => .ok ()

/-- The check of a group about to be written. -/
def checkGroup (t : Tables) (g : Group) : Except RegistryError Unit :=
  let others := t.liveGroups.filter (·.id != g.id)
  if others.any (·.gid == g.gid) then .error (.gidTaken g.gid)
  else if others.any (·.groupname == g.groupname) then .error (.groupnameTaken g.groupname)
  else .ok ()

/-- The check of a membership about to be written. -/
def checkMembership (t : Tables) (m : Membership) : Except RegistryError Unit :=
  if !t.accounts.any (·.id == m.account) then .error (.missingReference "account" m.account)
  else if !t.groups.any (·.id == m.group) then .error (.missingReference "group" m.group)
  else if t.isMember m.account m.group then .error (.alreadyMember m.account m.group)
  else .ok ()

/-- Replaces the live account with the same id. -/
def putAccount (t : Tables) (a : Account) : Except RegistryError Tables :=
  match replaceFirst (fun b => b.id == a.id && !b.deleted) (fun _ => a) t.accounts with
  | some accounts => .ok { t with accounts }
  | none => .error (.accountNotFound a.id)

/-- Replaces the live group with the same id. -/
def putGroup (t : Tables) (g : Group) : Except RegistryError Tables :=
  match replaceFirst (fun h => h.id == g.id && !h.deleted) (fun _ => g) t.groups with
  | some groups => .ok { t with groups }
  | none => .error (.groupNotFound g.id)

/-- Applies one write, with its check. -/
def apply (t : Tables) : Write → Except RegistryError Tables
  | .insertAccount a => do t.checkAccount a; pure { t with accounts := t.accounts ++ [a] }
  | .updateAccount a => do t.checkAccount a; t.putAccount a
  | .deleteAccount id =>
    match replaceFirst (fun b => b.id == id && !b.deleted) (fun b => { b with deleted := true })
        t.accounts with
    | some accounts => .ok { t with accounts }
    | none => .error (.accountNotFound id)
  | .insertGroup g => do t.checkGroup g; pure { t with groups := t.groups ++ [g] }
  | .updateGroup g => do t.checkGroup g; t.putGroup g
  | .deleteGroup id =>
    match replaceFirst (fun h => h.id == id && !h.deleted) (fun h => { h with deleted := true })
        t.groups with
    | some groups => .ok { t with groups }
    | none => .error (.groupNotFound id)
  | .insertMembership m => do t.checkMembership m; pure { t with memberships := t.memberships ++ [m] }
  | .deleteMembership a g =>
    .ok { t with memberships := t.memberships.filter fun m => !(m.account == a && m.group == g) }
  | .audit e => .ok { t with audit := t.audit ++ [e] }

/-- Applies writes in order, stopping at the first refused one. -/
def replay (t : Tables) (ws : List Write) : Except RegistryError Tables := ws.foldlM apply t

end Tables

/-- The registry: its tables, the last id drawn, whether audit appends are failing, and the
wall-clock time that audit entries appended now are stamped with. -/
structure Registry where
  tables : Tables := {}
  lastId : Int := 0
  failAudit : Bool := false
  clock : Int := 0
  deriving DecidableEq, Repr, Inhabited

/-- A transaction: the working copy of the tables and the writes made so far, in order. -/
structure Txn where
  working : Tables
  log : List Write := []
  deriving DecidableEq, Repr

namespace Registry

/-- Draws the next id from the one sequence. -/
def draw (r : Registry) : Int × Registry := (r.lastId + 1, { r with lastId := r.lastId + 1 })

/-- Starts a transaction on a copy of the current tables. -/
def begin (r : Registry) : Txn := ⟨r.tables, []⟩

/-- Replays a transaction's writes on the current tables and keeps the result. -/
def commit (r : Registry) (x : Txn) : Except RegistryError Registry :=
  (r.tables.replay x.log).map fun tables => { r with tables }

end Registry

namespace Txn

/-- Makes a write on the working copy and records it. -/
def write (x : Txn) (w : Write) : Except RegistryError Txn :=
  (x.working.apply w).map fun working => ⟨working, x.log ++ [w]⟩

/-- Inserts an account under a freshly drawn id. -/
def insertAccount (r : Registry) (x : Txn) (d : AccountDraft) :
    Registry × Except RegistryError (Account × Txn) :=
  let (id, r) := r.draw
  let a : Account := { id, uid := d.uid, username := d.username, type := d.type,
                       primaryGroup := d.primaryGroup, firstName := d.firstName,
                       lastName := d.lastName }
  (r, (x.write (.insertAccount a)).map fun x => (a, x))

/-- Sets the draft's fields on the live account with the id. -/
def updateAccount (x : Txn) (id : Int) (d : AccountDraft) : Except RegistryError (Account × Txn) :=
  match x.working.account? id with
  | none => .error (.accountNotFound id)
  | some a =>
    let a := a.withDraft d
    (x.write (.updateAccount a)).map fun x => (a, x)

/-- Inserts a group under a freshly drawn id. -/
def insertGroup (r : Registry) (x : Txn) (d : GroupDraft) :
    Registry × Except RegistryError (Group × Txn) :=
  let (id, r) := r.draw
  let g : Group := { id, gid := d.gid, groupname := d.groupname, type := d.type,
                     description := d.description, createdBy := d.createdBy }
  (r, (x.write (.insertGroup g)).map fun x => (g, x))

/-- Sets the draft's fields on the live group with the id. -/
def updateGroup (x : Txn) (id : Int) (d : GroupDraft) : Except RegistryError (Group × Txn) :=
  match x.working.group? id with
  | none => .error (.groupNotFound id)
  | some g =>
    let g := g.withDraft d
    (x.write (.updateGroup g)).map fun x => (g, x)

/-- Removes the membership row if there is one, and says whether there was. -/
def deleteMembership (x : Txn) (account group : Int) : Except RegistryError (Bool × Txn) :=
  if x.working.isMember account group then
    (x.write (.deleteMembership account group)).map fun x => (true, x)
  else .ok (false, x)

/-- Appends an audit entry under a freshly drawn id, stamped with the clock, unless audit
appends are failing, in which case nothing is drawn. -/
def appendAudit (r : Registry) (x : Txn) (n : AuditNote) :
    Registry × Except RegistryError (AuditEntry × Txn) :=
  if r.failAudit then (r, .error (.auditWriteFailed "audit table unavailable"))
  else
    let (id, r) := r.draw
    let e := n.entry id r.clock
    (r, (x.write (.audit e)).map fun x => (e, x))

end Txn

end PosixRegistry
