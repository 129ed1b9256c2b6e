import OrgAccess.Proofs.Json.Fields
import OrgAccess.Web.Response

/-! What a client reads off the JSON of a response: members of objects, found by their keys. A
grant has the members that it has something to tell under, and no others. -/

namespace OrgAccess

/-- What stands under a key of an object. -/
def Json.member? (key : String) : Json → Option Json
  | .object members => (members.find? fun m => m.1 = .text key).map (·.2)
  | _ => none

theorem Json.member?_append {key : String} (fs : List (String × Json)) {gs : List (String × Json)}
    (h : ∀ g ∈ gs, g.1 ≠ key) : (ofFields (fs ++ gs)).member? key = (ofFields fs).member? key := by
  have hnone :
      (gs.map fun g => (Literal.text g.1, g.2)).find? (fun m => m.1 = .text key) = none := by
    refine List.find?_eq_none.2 fun m hm => ?_
    obtain ⟨g, hg, rfl⟩ := List.mem_map.1 hm
    simpa using h g hg
  rw [ofFields, ofFields, List.map_append, member?, member?, List.find?_append, hnone,
    Option.or_none]

/-- An object without what stands under the keys. -/
def Json.without (keys : List String) : Json → Json
  | .object members => .object (members.filter fun m => keys.all fun key => m.1 ≠ .text key)
  | j => j

namespace Web

/-- The response has the status, and the document for a body. -/
def Response.Shows (response : Response) (status : Nat) (document : Json) : Prop :=
  response.status = status ∧ response.body.toJson? = some document

/-- What the document of the response has under a key. -/
def Response.member? (response : Response) (key : String) : Option Json :=
  response.body.toJson?.bind (Json.member? key)

/-- The identifier of the account that a grant in JSON tells about. -/
def accountId? (grant : Json) : Option Int :=
  ((grant.member? "account").bind (Json.member? "id")).bind Json.int?

/-- The document that tells of nothing granted. -/
def nothingGranted : Json := Json.ofFields [("roles", .array [])]

namespace Grant

theorem toJson_empty : empty.toJson = nothingGranted := rfl

theorem member?_orgMembership (g : Grant) :
    g.toJson.member? "orgMembership" = g.membership.map Role.toJson := by
  obtain ⟨membership, roles, account, business⟩ := g
  cases membership <;> cases account <;> cases business <;> rfl

theorem member?_account (g : Grant) : g.toJson.member? "account" = g.account.map accountJson := by
  obtain ⟨membership, roles, account, business⟩ := g
  cases membership <;> cases account <;> cases business <;> rfl

/-- The business is told under its own key. -/
theorem member?_business (g : Grant) (business : Option Business) {key : String}
    (hkey : key ≠ "business") :
    ({ g with business := business } : Grant).toJson.member? key = g.toJson.member? key := by
  have hlast : ∀ b : Option Business,
      ∀ f ∈ b.toList.map fun b => ("business", businessJson b), f.1 ≠ key := by
    intro b f hf
    obtain ⟨_, _, rfl⟩ := List.mem_map.1 hf
    exact fun h => hkey h.symm
  rw [toJson, toJson, Json.member?_append _ (hlast _), Json.member?_append _ (hlast _)]

/-- What is told in full is told in short too, but for the account and the business. -/
theorem without_details (a : Authorization) :
    (Grant.of a true).toJson.without ["account", "business"] = (Grant.of a false).toJson := by
  obtain ⟨role, actions, account, business⟩ := a
  cases business <;> rfl

theorem accountId?_toJson (g : Grant) :
    accountId? g.toJson = g.account.map fun account => account.orgId.value.toInt := by
  rw [accountId?, member?_account]
  cases g.account with
  | none => rfl
  | some account => exact Json.int?_ofInt account.orgId.value.toInt

end Grant

end Web

end OrgAccess
