import PosixRegistry.Json.Shape
import PosixRegistry.Registry.Error
/-!
# Requests and their field rules

The bodies a client sends to create or change an account or a group, or to join an account to
a group. Each has a shape for reading it from JSON and a set of field rules.

Names of accounts and groups are 1–32 characters and follow the Unix name grammar: after
dropping one trailing `$`, a lowercase ASCII letter or `_`, then lowercase letters, digits,
`_` or `-`. First and last names are at most 64 characters, a description at most 255; the
ids of a membership request are positive. Lengths count characters. Every rule of every field
is checked, so one field may break two rules.

A service reports broken rules as one message: the items `field: message`, sorted as texts and
joined with `, `.
-/

namespace PosixRegistry

open Json

/-- The message of a broken Unix name rule. -/
def unixNameMessage : String :=
  "must start with a lowercase letter or underscore and contain only a-z, 0-9, '_' or '-'"

/-- Whether the characters after the first are letters, digits, `_` or `-`. -/
def unixNameRest (cs : List Char) : Bool :=
  cs.all fun c => ('a' ≤ c && c ≤ 'z') || ('0' ≤ c && c ≤ '9') || c == '_' || c == '-'

/-- The Unix name grammar: one trailing `$` dropped, then a lowercase letter or `_`, then
lowercase letters, digits, `_` or `-`. -/
def isUnixName (name : String) : Bool :=
  let cs := name.toList
  let body := if cs.getLast? == some '$' then cs.dropLast else cs
  match body with
  | c :: rest => (('a' ≤ c && c ≤ 'z') || c == '_') && unixNameRest rest
  | [] => false

/-- One broken rule: the field, the rule's code, its message and the values it was checked
with. -/
structure Violation where
  field : String
  code : String
  message : Option String
  params : List (String × Value)

/-- The item of a service message for a broken rule. -/
def Violation.item (v : Violation) : String :=
  match v.message with
  | some m => s!"{v.field}: {m}"
  | none => s!"{v.field}: invalid value"

/-- Orders texts as byte strings. -/
def sortTexts (xs : List String) : List String := xs.mergeSort fun a b => !(b < a)

/-- The service refusal for broken rules. -/
def violationsError (vs : List Violation) : ServiceError :=
  .invalid (", ".intercalate (sortTexts (vs.map Violation.item)))

/-- The length rule of a text field, with an optional lower bound. -/
def lengthRule (field message : String) (min : Option Nat) (max : Nat) (s : String) :
    List Violation :=
  let n := s.length
  if min.all (· ≤ n) && n ≤ max then []
  else
    let bounds := match min with
      | some m => [("max", Value.int max), ("min", Value.int m)]
      | none => [("max", Value.int max)]
    [⟨field, "length", some message, bounds ++ [("value", .str s)]⟩]

/-- The Unix name rule of a field. -/
def unixNameRule (field s : String) : List Violation :=
  if isUnixName s then [] else [⟨field, "unix_name", some unixNameMessage, [("value", .str s)]⟩]

/-- The rules of an account name. -/
def usernameRules (s : String) : List Violation :=
  lengthRule "username" "Username must be 1-32 characters" (some 1) 32 s ++ unixNameRule "username" s

/-- The rules of a group name. -/
def groupnameRules (s : String) : List Violation :=
  lengthRule "groupname" "Group name must be 1-32 characters" (some 1) 32 s ++
    unixNameRule "groupname" s

/-- The rules of the optional name fields of an account. -/
def personRules (first last : Option String) : List Violation :=
  (first.map (lengthRule "first_name" "First name must be at most 64 characters" none 64)).getD [] ++
  (last.map (lengthRule "last_name" "Last name must be at most 64 characters" none 64)).getD []

/-- The rule of a group description. -/
def descriptionRules (d : Option String) : List Violation :=
  (d.map (lengthRule "description" "Description must be at most 255 characters" none 255)).getD []

/-- The positive-id rule of a field. -/
def positiveRule (field : String) (id : Int) : List Violation :=
  if 1 ≤ id then [] else
    [⟨field, "range", some s!"{field} must be positive", [("min", .int 1), ("value", .int id)]⟩]

/-! ### Account requests -/

/-- A request to create an account. -/
structure NewAccount where
  uid : Option Int := none
  username : String
  type : String
  primaryGroup : Option Int := none
  firstName : Option String := none
  lastName : Option String := none
  deriving DecidableEq, Repr

/-- The JSON shape of an account creation request. -/
def NewAccount.shape : Shape :=
  .record "CreateAccountRequest"
    [("unix_uid", .nullable .int, .optional), ("username", .text, .required),
     ("account_type", .text, .required), ("primary_group_id", .nullable .int, .optional),
     ("first_name", .nullable .text, .optional), ("last_name", .nullable .text, .optional)]

/-- The request held by a decoded record of its shape. -/
def NewAccount.ofSlots (s : List (Option Got)) : NewAccount :=
  ⟨Got.int? (slotAt s 0), (Got.text? (slotAt s 1)).getD "", (Got.text? (slotAt s 2)).getD "",
    Got.int? (slotAt s 3), Got.text? (slotAt s 4), Got.text? (slotAt s 5)⟩

/-- The broken rules of an account creation request. -/
def NewAccount.violations (r : NewAccount) : List Violation :=
  usernameRules r.username ++ personRules r.firstName r.lastName

/-- A request to change an account: absent fields stay as they are. -/
structure AccountChange where
  uid : Option Int := none
  username : Option String := none
  type : Option String := none
  primaryGroup : Option Int := none
  clearPrimaryGroup : Bool := false
  firstName : Option String := none
  lastName : Option String := none
  deriving DecidableEq, Repr

/-- The JSON shape of an account change request. -/
def AccountChange.shape : Shape :=
  .record "UpdateAccountRequest"
    [("unix_uid", .nullable .int, .optional), ("username", .nullable .text, .optional),
     ("account_type", .nullable .text, .optional), ("primary_group_id", .nullable .int, .optional),
     ("clear_primary_group", .flag, .defaulted), ("first_name", .nullable .text, .optional),
     ("last_name", .nullable .text, .optional)]

/-- The request held by a decoded record of its shape. -/
def AccountChange.ofSlots (s : List (Option Got)) : AccountChange :=
  ⟨Got.int? (slotAt s 0), Got.text? (slotAt s 1), Got.text? (slotAt s 2), Got.int? (slotAt s 3),
    Got.flagOrFalse (slotAt s 4), Got.text? (slotAt s 5), Got.text? (slotAt s 6)⟩

/-- The broken rules of an account change request. -/
def AccountChange.violations (r : AccountChange) : List Violation :=
  (r.username.map usernameRules).getD [] ++ personRules r.firstName r.lastName

/-! ### Group requests -/

/-- A request to create a group. -/
structure NewGroup where
  gid : Option Int := none
  groupname : String
  type : String
  description : Option String := none
  deriving DecidableEq, Repr

/-- The JSON shape of a group creation request. -/
def NewGroup.shape : Shape :=
  .record "CreateGroupRequest"
    [("unix_gid", .nullable .int, .optional), ("groupname", .text, .required),
     ("group_type", .text, .required), ("description", .nullable .text, .optional)]

/-- The request held by a decoded record of its shape. -/
def NewGroup.ofSlots (s : List (Option Got)) : NewGroup :=
  ⟨Got.int? (slotAt s 0), (Got.text? (slotAt s 1)).getD "", (Got.text? (slotAt s 2)).getD "",
    Got.text? (slotAt s 3)⟩

/-- The broken rules of a group creation request. -/
def NewGroup.violations (r : NewGroup) : List Violation :=
  groupnameRules r.groupname ++ descriptionRules r.description

/-- A request to change a group: absent fields stay as they are. -/
structure GroupChange where
  gid : Option Int := none
  groupname : Option String := none
  type : Option String := none
  description : Option String := none
  deriving DecidableEq, Repr

/-- The JSON shape of a group change request. -/
def GroupChange.shape : Shape :=
  .record "UpdateGroupRequest"
    [("unix_gid", .nullable .int, .optional), ("groupname", .nullable .text, .optional),
     ("group_type", .nullable .text, .optional), ("description", .nullable .text, .optional)]

/-- The request held by a decoded record of its shape. -/
def GroupChange.ofSlots (s : List (Option Got)) : GroupChange :=
  ⟨Got.int? (slotAt s 0), Got.text? (slotAt s 1), Got.text? (slotAt s 2), Got.text? (slotAt s 3)⟩

/-- The broken rules of a group change request. -/
def GroupChange.violations (r : GroupChange) : List Violation :=
  (r.groupname.map groupnameRules).getD [] ++ descriptionRules r.description

/-! ### Membership requests -/

/-- A request to join an account to a group, or to part them. -/
structure MembershipRequest where
  account : Int
  group : Int
  deriving DecidableEq, Repr

/-- The JSON shape of a membership request. -/
def MembershipRequest.shape : Shape :=
  .record "MembershipRequest" [("account_id", .int, .required), ("group_id", .int, .required)]

/-- The request held by a decoded record of its shape. -/
def MembershipRequest.ofSlots (s : List (Option Got)) : MembershipRequest :=
  ⟨(Got.int? (slotAt s 0)).getD 0, (Got.int? (slotAt s 1)).getD 0⟩

/-- The broken rules of a membership request. -/
def MembershipRequest.violations (r : MembershipRequest) : List Violation :=
  positiveRule "account_id" r.account ++ positiveRule "group_id" r.group

end PosixRegistry
