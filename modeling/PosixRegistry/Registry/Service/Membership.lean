import PosixRegistry.Registry.Service.Group
/-!
# Membership services

Joining an account to a group needs both to be live, their types to be compatible, and the
pair to be new. Parting them needs both to be live and the pair to exist; a missing pair is
found inside the transaction, before anything is drawn.
-/

namespace PosixRegistry

namespace Service

/-- The live account and the live group of a pair, account first. -/
def loadPair (account group : Int) : Service (Account × Group) := do
  let a ← findAccount account
  let g ← findGroup group
  pure (a, g)

/-- Joins an account to a group. -/
def assign (account group : Int) (actor : Actor) : Service Unit := do
  let (a, g) ← loadPair account group
  if !compatible a.type g.type then fail (.incompatibleTypes a.type g.type)
  if (← tables).isMember account group then fail (.alreadyMember account group)
  let x ← begin
  let x ← lift (x.write (.insertMembership ⟨account, group⟩))
  let line := s!"Assigned account {a.username} (ID: {account}) to group {g.groupname} (ID: {group})"
  finish x ⟨.assign, .accountGroup, account, line, actor⟩

/-- Parts an account from a group. -/
def remove (account group : Int) (actor : Actor) : Service Unit := do
  let (a, g) ← loadPair account group
  let x ← begin
  let (existed, x) ← lift (x.deleteMembership account group)
  if !existed then fail (.membershipNotFound account group)
  let line :=
    s!"Removed account {a.username} (ID: {account}) from group {g.groupname} (ID: {group})"
  finish x ⟨.remove, .accountGroup, account, line, actor⟩

end Service

end PosixRegistry
