import OrgAccess.Selection
import OrgAccess.Store

/-! The authorization view of a store: every active membership with its org and user, once for
each affiliated entity and each subscribed product of the org. Where there is no entity, or no
product, the membership still has its row. -/

namespace OrgAccess.Store

/-- Every value, or the one absent value when there are none. -/
def orAbsent {α : Type} : List α → List (Option α)
  | [] => [none]
  | xs => xs.map some

/-- The entities an org is affiliated with, in the order of their identifiers. -/
def entitiesOf (s : Store) (org : OrgId) : List Entity :=
  (s.affiliations.keys.filter (Affiliation.bounds org).contains).filterMap fun a =>
    s.entities.find? a.entityId

/-- The products an org has an active subscription to, in code-point order. -/
def productsOf (s : Store) (org : OrgId) : List String :=
  (s.subscriptions.values.filter fun sub => sub.orgId = org ∧ sub.isActive).map (·.productCode)

def rowsOf (s : Store) (m : Membership) : List Row :=
  match s.orgs.find? m.orgId, s.users.find? m.userId with
  | some org, some user =>
    (orAbsent (s.entitiesOf org.id)).flatMap fun entity =>
      (orAbsent (s.productsOf org.id)).map fun product => Row.join m org user entity product
  | _, _ => []

/-- The whole view, in the order of the memberships. -/
def rows (s : Store) : List Row :=
  (s.memberships.values.filter (·.isActive)).flatMap s.rowsOf

/-- The winner among the rows that a filter admits. -/
def fetch (s : Store) (filter : Filter) : Option Row :=
  Row.authoritative? (filter.select s.rows)

/-- The winner of each org among the rows that a filter admits. -/
def fetchPerOrg (s : Store) (filter : Filter) : List Row :=
  Row.authoritativePerOrg (filter.select s.rows)

end OrgAccess.Store
