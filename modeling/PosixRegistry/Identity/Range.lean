import PosixRegistry.Identity.Type
/-!
# Identifier ranges

A range is an inclusive pair of bounds; a table gives one range per identity type, and a policy
one table per identifier space. The standard table, used for both spaces, is system 1–999,
people 1000–60000, service 60001–65535 and database 70000–79999. Ranges are taken as given,
also when the bounds are crossed or negative.

A policy judges an identifier against the range of a type: a negative identifier is invalid,
one inside the range is fine, any other draws a warning naming the range. When the type comes
as a name, the negative check goes first and an unreadable name is invalid next.
-/

namespace PosixRegistry

/-- The largest signed 64-bit identifier. -/
def idMax : Int := 9223372036854775807

/-- An inclusive range of identifiers. -/
structure IdRange where
  min : Int
  max : Int
  deriving DecidableEq, Repr, Inhabited

namespace IdRange

/-- Whether the identifier lies within the bounds. -/
def contains (r : IdRange) (id : Int) : Bool := decide (r.min ≤ id ∧ id ≤ r.max)

/-- The range written as `[min,max]`. -/
def text (r : IdRange) : String := s!"[{r.min},{r.max}]"

end IdRange

/-- One range per identity type. -/
structure RangeTable where
  system : IdRange
  people : IdRange
  service : IdRange
  database : IdRange
  deriving DecidableEq, Repr, Inhabited

namespace RangeTable

/-- The standard table. -/
def standard : RangeTable where
  system := ⟨1, 999⟩
  people := ⟨1000, 60000⟩
  service := ⟨60001, 65535⟩
  database := ⟨70000, 79999⟩

/-- The range of a type. -/
def get (t : RangeTable) : IdentityType → IdRange
  | .system => t.system
  | .people => t.people
  | .service => t.service
  | .database => t.database

/-- The table with the range of one type replaced. -/
def set (t : RangeTable) : IdentityType → IdRange → RangeTable
  | .system, r => { t with system := r }
  | .people, r => { t with people := r }
  | .service, r => { t with service := r }
  | .database, r => { t with database := r }

end RangeTable

/-- One range table per identifier space. -/
structure RangePolicy where
  uid : RangeTable
  gid : RangeTable
  deriving DecidableEq, Repr, Inhabited

namespace RangePolicy

/-- The standard table in both spaces. -/
def standard : RangePolicy := ⟨.standard, .standard⟩

/-- The table of a space. -/
def table (p : RangePolicy) : IdKind → RangeTable
  | .uid => p.uid
  | .gid => p.gid

/-- The range of a type in a space. -/
def rangeFor (p : RangePolicy) (k : IdKind) (t : IdentityType) : IdRange := (p.table k).get t

end RangePolicy

/-- An identifier outside the range of its type: accepted, but reported. -/
structure RangeWarning where
  kind : IdKind
  id : Int
  type : IdentityType
  range : IdRange
  deriving DecidableEq, Repr

/-- The report of an identifier outside its range. -/
def RangeWarning.message (w : RangeWarning) : String :=
  s!"identifier {w.id} outside recommended range {w.range.text} for type {w.type.name}"

/-- Why an identifier is refused outright. -/
inductive InvalidReason where
  | negative
  | unknownType (name : String)
  deriving DecidableEq, Repr

/-- The reason in words. -/
def InvalidReason.message : InvalidReason → String
  | .negative => "identifier cannot be negative"
  | .unknownType _ => "invalid type"

/-- The judgement of an identifier against a range. -/
inductive Verdict where
  | fine
  | warning (w : RangeWarning)
  | invalid (r : InvalidReason)
  deriving DecidableEq, Repr

namespace Verdict

/-- The words of the judgement: none when fine. -/
def message : Verdict → Option String
  | .fine => none
  | .warning w => some w.message
  | .invalid r => some r.message

/-- Whether the identifier is fine. -/
def isFine : Verdict → Bool
  | .fine => true
  | _ => false

/-- Whether the identifier draws a warning. -/
def isWarning : Verdict → Bool
  | .warning _ => true
  | _ => false

/-- Whether the identifier is refused. -/
def isInvalid : Verdict → Bool
  | .invalid _ => true
  | _ => false

end Verdict

namespace RangePolicy

/-- Judges an identifier against the range of a type. -/
def judge (p : RangePolicy) (k : IdKind) (id : Int) (t : IdentityType) : Verdict :=
  if id < 0 then .invalid .negative
  else
    let r := p.rangeFor k t
    if r.contains id then .fine else .warning ⟨k, id, t, r⟩

/-- Judges an identifier against the range of a type given by name. -/
def judgeNamed (p : RangePolicy) (k : IdKind) (id : Int) (name : String) : Verdict :=
  if id < 0 then .invalid .negative
  else match IdentityType.parse name with
    | some t => p.judge k id t
    | none => .invalid (.unknownType name)

/-- The identifier proposed after the largest one in use for a type: one more (held at the
largest 64-bit value), or the start of the type's range when none is in use. -/
def nextAfter (p : RangePolicy) (k : IdKind) (max : Option Int) (t : IdentityType) : Int :=
  match max with
  | some m => if m < idMax then m + 1 else m
  | none => (p.rangeFor k t).min

end RangePolicy

/-- Which group types an account of a type may join: people join people and database groups,
every other type only its own. -/
def compatible : IdentityType → IdentityType → Bool
  | .people, .people | .people, .database => true
  | .system, .system => true
  | .database, .database => true
  | .service, .service => true
  | _, _ => false

end PosixRegistry
