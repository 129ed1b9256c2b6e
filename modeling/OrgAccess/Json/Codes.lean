import OrgAccess.Json.Fields
import OrgAccess.Permission
import OrgAccess.Record

/-! Identifiers, codes and statuses in JSON. -/

namespace OrgAccess

namespace Id

variable {kind : IdKind}

def toJson (id : Id kind) : Json := .ofInt id.value.toInt

def ofJson? (j : Json) : Option (Id kind) := j.int?.bind ofInt?

end Id

namespace Guid

def toJson (g : Guid) : Json := .ofText g.text

def ofJson? (j : Json) : Option Guid := j.text?.bind parse?

end Guid

namespace Role

def toJson (role : Role) : Json := .ofText role.code

def ofJson? (j : Json) : Option Role := j.text?.map Role.mk

end Role

namespace OrgStatus

def toJson (status : OrgStatus) : Json := .ofText status.code

def ofJson? (j : Json) : Option OrgStatus := j.text?.map OrgStatus.mk

end OrgStatus

namespace Action

def toJson (action : Action) : Json := .ofText action.name

def ofJson? (j : Json) : Option Action := j.text?.map Action.mk

end Action

namespace MembershipStatus

def toJson (status : MembershipStatus) : Json := .ofText status.code

def ofJson? (j : Json) : Option MembershipStatus := j.code?.bind ofCode?

end MembershipStatus

namespace SubscriptionStatus

def toJson (status : SubscriptionStatus) : Json := .ofText status.code

def ofJson? (j : Json) : Option SubscriptionStatus := j.code?.bind ofCode?

end SubscriptionStatus

end OrgAccess
