import OrgAccess.Permission
import OrgAccess.Selection
import OrgAccess.Text.Quoted

/-! An authorization is what somebody may do with a target: a role, the actions it is granted,
the account they are granted in, and the business if there is one. Guards ask whether it
suffices. -/

namespace OrgAccess

structure Authorization where
  role : Role
  actions : List Action
  account : Account
  business : Option Business
  deriving DecidableEq

namespace Authorization

def ofRow (row : Row) (actions : List Action) : Authorization :=
  ⟨row.role, actions, row.account, row.business⟩

/-- The row with the actions that the table grants its role in its org. -/
def grantedBy (table : PermissionTable) (row : Row) : Authorization :=
  ofRow row (table.actionsFor row.role row.orgStatus)

/-- What the winning row is granted. -/
def ofRows? (rows : List Row) (table : PermissionTable) : Option Authorization :=
  (Row.authoritative? rows).map (grantedBy table)

def hasAction (a : Authorization) (action : Action) : Bool := a.actions.contains action

end Authorization

/-- Why a guard refuses. -/
inductive GuardFault where
  | notAMember
  | forbidden (action : Action)
  | roleNotAllowed (allowed : List Role) (actual : Role)
  deriving DecidableEq

def GuardFault.message : GuardFault → String
  | .notAMember => "no membership grants access to the target"
  | .forbidden action => "forbidden: missing permission '" ++ action.name ++ "'"
  | .roleNotAllowed allowed actual =>
    "forbidden: role '" ++ actual.code ++ "' is not one of " ++
      Text.quotedList (allowed.map (·.code))

/-- Require an action. -/
def requireAction (a : Option Authorization) (action : Action) : Except GuardFault Unit :=
  match a with
  | none => .error .notAMember
  | some a => if a.hasAction action then .ok () else .error (.forbidden action)

/-- Require one of some roles. -/
def requireRole (a : Option Authorization) (allowed : List Role) : Except GuardFault Unit :=
  match a with
  | none => .error .notAMember
  | some a =>
    if allowed.contains a.role then .ok () else .error (.roleNotAllowed allowed a.role)

end OrgAccess
