import OrgAccess.Authorization
import OrgAccess.Json.Codes

/-! Rows of the view, and what they tell, in JSON. -/

namespace OrgAccess

open Json (required optional fields? ofFields ofOption ofText text?)

namespace Account

def fieldNames : List String :=
  ["org_id", "name", "org_type", "status", "bcol_user_id", "bcol_account_id"]

def toJson (a : Account) : Json :=
  ofFields (fieldNames.zip [a.orgId.toJson, ofText a.name, ofText a.orgType, a.status.toJson,
    ofOption ofText a.bcolUserId, ofOption ofText a.bcolAccountId])

def ofJson? (j : Json) : Option Account := do
  match ← fields? fieldNames j with
  | [org, name, type, status, user, account] =>
    return ⟨← required Id.ofJson? org, ← required text? name, ← required text? type,
      ← required OrgStatus.ofJson? status, ← optional text? user, ← optional text? account⟩
  | _ => none

end Account

namespace Business

def fieldNames : List String := ["identifier", "corp_type_code", "name", "folio_number"]

def toJson (b : Business) : Json :=
  ofFields (fieldNames.zip [ofText b.identifier, ofOption ofText b.corpTypeCode,
    ofOption ofText b.name, ofOption ofText b.folioNumber])

def ofJson? (j : Json) : Option Business := do
  match ← fields? fieldNames j with
  | [identifier, type, name, folio] =>
    return ⟨← required text? identifier, ← optional text? type, ← optional text? name,
      ← optional text? folio⟩
  | _ => none

end Business

namespace Row

def fieldNames : List String :=
  ["business_identifier", "entity_name", "corp_type_code", "folio_number", "org_membership",
    "keycloak_guid", "org_id", "org_name", "org_type", "org_status", "bcol_user_id",
    "bcol_account_id", "product_code", "membership_id"]

def toJson (row : Row) : Json :=
  ofFields (fieldNames.zip [ofOption ofText row.businessIdentifier,
    ofOption ofText row.entityName, ofOption ofText row.corpTypeCode,
    ofOption ofText row.folioNumber, row.role.toJson, row.guid.toJson, row.orgId.toJson,
    ofText row.orgName, ofText row.orgType, row.orgStatus.toJson,
    ofOption ofText row.bcolUserId, ofOption ofText row.bcolAccountId,
    ofOption ofText row.productCode, row.membershipId.toJson])

def ofJson? (j : Json) : Option Row := do
  match ← fields? fieldNames j with
  | [identifier, name, corpType, folio, role, guid, org, orgName, orgType, status, user, account,
      product, membership] =>
    return ⟨← optional text? identifier, ← optional text? name, ← optional text? corpType,
      ← optional text? folio, ← required Role.ofJson? role, ← required Guid.ofJson? guid,
      ← required Id.ofJson? org, ← required text? orgName, ← required text? orgType,
      ← required OrgStatus.ofJson? status, ← optional text? user, ← optional text? account,
      ← optional text? product, ← required Id.ofJson? membership⟩
  | _ => none

end Row

namespace Authorization

def toJson (a : Authorization) : Json :=
  ofFields [("role", a.role.toJson), ("actions", Json.ofList Action.toJson a.actions),
    ("account", a.account.toJson), ("business", ofOption Business.toJson a.business)]

end Authorization

end OrgAccess
