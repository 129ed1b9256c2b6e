import OrgAccess.Order

/-! Statuses. That of an org is a code, known or not, because permissions are keyed by it. Those
of memberships and subscriptions are closed lists, of which only the active one counts. -/

namespace OrgAccess

@[ext]
structure OrgStatus where
  code : String
  deriving DecidableEq

instance : Ordered OrgStatus := Ordered.along OrgStatus.code OrgStatus.ext

namespace OrgStatus

def active : OrgStatus := ⟨"ACTIVE"⟩
def pendingActivation : OrgStatus := ⟨"PENDING_ACTIVATION"⟩
def pendingStaffReview : OrgStatus := ⟨"PENDING_STAFF_REVIEW"⟩
def inactive : OrgStatus := ⟨"INACTIVE"⟩
def rejected : OrgStatus := ⟨"REJECTED"⟩
def nsfSuspended : OrgStatus := ⟨"NSF_SUSPENDED"⟩
def suspended : OrgStatus := ⟨"SUSPENDED"⟩

end OrgStatus

inductive MembershipStatus where
  | active
  | pendingApproval
  | inactive
  | rejected
  deriving DecidableEq, Inhabited

namespace MembershipStatus

def code : MembershipStatus → String
  | .active => "ACTIVE"
  | .pendingApproval => "PENDING_APPROVAL"
  | .inactive => "INACTIVE"
  | .rejected => "REJECTED"

def all : List MembershipStatus := [.active, .pendingApproval, .inactive, .rejected]

def ofCode? (s : String) : Option MembershipStatus := all.find? (fun status => status.code = s)

theorem ofCode?_code (status : MembershipStatus) : ofCode? status.code = some status := by
  cases status <;> decide

end MembershipStatus

inductive SubscriptionStatus where
  | active
  | pendingStaffReview
  | rejected
  | inactive
  deriving DecidableEq, Inhabited

namespace SubscriptionStatus

def code : SubscriptionStatus → String
  | .active => "ACTIVE"
  | .pendingStaffReview => "PENDING_STAFF_REVIEW"
  | .rejected => "REJECTED"
  | .inactive => "INACTIVE"

def all : List SubscriptionStatus := [.active, .pendingStaffReview, .rejected, .inactive]

def ofCode? (s : String) : Option SubscriptionStatus := all.find? (fun status => status.code = s)

theorem ofCode?_code (status : SubscriptionStatus) : ofCode? status.code = some status := by
  cases status <;> decide

end SubscriptionStatus

end OrgAccess
