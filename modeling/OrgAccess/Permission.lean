import OrgAccess.Role
import OrgAccess.Status
import OrgAccess.Table

/-! Permissions: which actions a role is granted in an org of some status. A rule without a
status holds in every status, rules only add to each other, and the actions granted are listed
once each in code-point order. -/

namespace OrgAccess

@[ext]
structure Action where
  name : String
  deriving DecidableEq

instance : Ordered Action := Ordered.along Action.name Action.ext

structure PermissionRule where
  role : Role
  orgStatus : Option OrgStatus
  action : Action
  deriving DecidableEq

/-- The rule grants its action to the role in an org of the status. -/
def PermissionRule.appliesTo (rule : PermissionRule) (role : Role) (status : OrgStatus) : Bool :=
  rule.role = role ∧ (rule.orgStatus = none ∨ rule.orgStatus = some status)

@[ext]
structure PermissionTable where
  rules : List PermissionRule
  deriving DecidableEq

namespace PermissionTable

/-- Add a rule at the end. -/
def push (table : PermissionTable) (rule : PermissionRule) : PermissionTable :=
  ⟨table.rules ++ [rule]⟩

/-- The rules of the listed roles. -/
def restrictTo (table : PermissionTable) (roles : List Role) : PermissionTable :=
  ⟨table.rules.filter fun rule => roles.contains rule.role⟩

def rulesFor (table : PermissionTable) (role : Role) (status : OrgStatus) :
    List PermissionRule :=
  table.rules.filter fun rule => rule.appliesTo role status

def actionsFor (table : PermissionTable) (role : Role) (status : OrgStatus) : List Action :=
  (Table.ofKeys ((table.rulesFor role status).map (·.action))).keys

private def grant (role : Role) (names : List String) : List PermissionRule :=
  names.map fun name => ⟨role, none, ⟨name⟩⟩

private def grantWhenNsfSuspended (role : Role) (name : String) : List PermissionRule :=
  [⟨role, some .nsfSuspended, ⟨name⟩⟩]

def managerActions : List String :=
  ["view", "edit", "make-payment", "generate-invoice", "invite-members", "change-role",
    "remove-member", "view-statements", "manage-statements"]

/-- The rules a service starts with. -/
def seed : PermissionTable :=
  ⟨grant .owner managerActions ++ grantWhenNsfSuspended .owner "transaction_history" ++
    grant .admin managerActions ++ grantWhenNsfSuspended .admin "transaction_history" ++
    grant .owner ["change-account-info", "deactivate-account"] ++
    grant .coordinator ["view", "edit", "invite-members", "view-statements"] ++
    grantWhenNsfSuspended .coordinator "view-statements" ++
    grant .user ["view"] ++
    grant .member ["view"] ++
    grant .staff ["view", "view-statements", "transaction_history"]⟩

end PermissionTable

end OrgAccess
