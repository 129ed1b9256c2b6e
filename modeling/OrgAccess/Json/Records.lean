import OrgAccess.Json.Codes

/-! The records of the store, and permission rules, in JSON. -/

namespace OrgAccess

open Json (required optional fields? ofFields ofOption ofText text?)

namespace PermissionRule

def fieldNames : List String := ["membership_type", "org_status", "action"]

def toJson (rule : PermissionRule) : Json :=
  ofFields (fieldNames.zip [rule.role.toJson, ofOption OrgStatus.toJson rule.orgStatus,
    rule.action.toJson])

def ofJson? (j : Json) : Option PermissionRule := do
  match ← fields? fieldNames j with
  | [role, status, action] =>
    return ⟨← required Role.ofJson? role, ← optional OrgStatus.ofJson? status,
      ← required Action.ofJson? action⟩
  | _ => none

end PermissionRule

namespace Org

def fieldNames : List String :=
  ["id", "name", "type_code", "status_code", "bcol_account_id", "bcol_user_id"]

def toJson (org : Org) : Json :=
  ofFields (fieldNames.zip [org.id.toJson, ofText org.name, ofText org.typeCode,
    org.statusCode.toJson, ofOption ofText org.bcolAccountId, ofOption ofText org.bcolUserId])

def ofJson? (j : Json) : Option Org := do
  match ← fields? fieldNames j with
  | [id, name, type, status, account, user] =>
    return ⟨← required Id.ofJson? id, ← required text? name, ← required text? type,
      ← required OrgStatus.ofJson? status, ← optional text? account, ← optional text? user⟩
  | _ => none

end Org

namespace User

def fieldNames : List String := ["id", "keycloak_guid", "username"]

def toJson (user : User) : Json :=
  ofFields (fieldNames.zip [user.id.toJson, user.guid.toJson, ofText user.username])

def ofJson? (j : Json) : Option User := do
  match ← fields? fieldNames j with
  | [id, guid, name] =>
    return ⟨← required Id.ofJson? id, ← required Guid.ofJson? guid, ← required text? name⟩
  | _ => none

end User

namespace Entity

def fieldNames : List String :=
  ["id", "business_identifier", "corp_type_code", "name", "folio_number"]

def toJson (entity : Entity) : Json :=
  ofFields (fieldNames.zip [entity.id.toJson, ofText entity.businessIdentifier,
    ofText entity.corpTypeCode, ofOption ofText entity.name, ofOption ofText entity.folioNumber])

def ofJson? (j : Json) : Option Entity := do
  match ← fields? fieldNames j with
  | [id, identifier, type, name, folio] =>
    return ⟨← required Id.ofJson? id, ← required text? identifier, ← required text? type,
      ← optional text? name, ← optional text? folio⟩
  | _ => none

end Entity

namespace Membership

def fieldNames : List String := ["id", "user_id", "org_id", "membership_type_code", "status"]

def toJson (m : Membership) : Json :=
  ofFields (fieldNames.zip [m.id.toJson, m.userId.toJson, m.orgId.toJson, m.role.toJson,
    m.status.toJson])

def ofJson? (j : Json) : Option Membership := do
  match ← fields? fieldNames j with
  | [id, user, org, role, status] =>
    return ⟨← required Id.ofJson? id, ← required Id.ofJson? user, ← required Id.ofJson? org,
      ← required Role.ofJson? role, ← required MembershipStatus.ofJson? status⟩
  | _ => none

end Membership

namespace Affiliation

def fieldNames : List String := ["org_id", "entity_id"]

def toJson (a : Affiliation) : Json :=
  ofFields (fieldNames.zip [a.orgId.toJson, a.entityId.toJson])

def ofJson? (j : Json) : Option Affiliation := do
  match ← fields? fieldNames j with
  | [org, entity] => return ⟨← required Id.ofJson? org, ← required Id.ofJson? entity⟩
  | _ => none

end Affiliation

namespace Subscription

def fieldNames : List String := ["org_id", "product_code", "status_code"]

def toJson (s : Subscription) : Json :=
  ofFields (fieldNames.zip [s.orgId.toJson, ofText s.productCode, s.status.toJson])

def ofJson? (j : Json) : Option Subscription := do
  match ← fields? fieldNames j with
  | [org, product, status] =>
    return ⟨← required Id.ofJson? org, ← required text? product,
      ← required SubscriptionStatus.ofJson? status⟩
  | _ => none

end Subscription

end OrgAccess
