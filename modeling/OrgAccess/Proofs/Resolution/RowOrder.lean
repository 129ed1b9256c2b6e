import OrgAccess.Authorization
import OrgAccess.Proofs.Store.Winner

/-! Resolution does not depend on the order of the rows. The precedence key is no key of the view:
the rows of one membership and one business over several products share it. They differ in nothing
but the product, though, and what is resolved does not show the product. -/

namespace OrgAccess

/-- An authorization does not show the product of the row it is made of. -/
theorem Authorization.ofRow_productCode (row : Row) (product : Option String)
    (actions : List Action) :
    ofRow { row with productCode := product } actions = ofRow row actions :=
  rfl

namespace Store
variable {s : Store} (hs : s.Integrity)
include hs

/-- Rows of the view that share their precedence key differ in the product at most: the key has the
membership, which is of one org and one user, and the business. -/
theorem eq_but_product_of_precedence_eq {r t : Row} (hr : r ∈ s.rows) (ht : t ∈ s.rows)
    (hkey : r.precedence = t.precedence) : t = { r with productCode := t.productCode } := by
  obtain ⟨m, org, user, e, p, hm, rfl⟩ := (mem_rows_iff hs r).1 hr
  obtain ⟨n, org', user', f, q, hn, rfl⟩ := (mem_rows_iff hs t).1 ht
  obtain ⟨hid, hidentifier⟩ := Prod.ext_iff.1 (Prod.ext_iff.1 hkey).2
  have hmn : m = n := hm.active.eq_of_id_eq hn.active hid
  subst hmn
  have horg : org' = org := Option.some.inj (hn.org.symm.trans hm.org)
  have huser : user' = user := Option.some.inj (hn.user.symm.trans hm.user)
  have hentity : f = e := entityChoice_injective hs hm.entity hn.entity hidentifier.symm
  rw [horg, huser, hentity]
  rfl

/-- Rows of the view that share their precedence key are granted the same. -/
theorem grantedBy_eq_of_precedence_eq (table : PermissionTable) {r t : Row} (hr : r ∈ s.rows)
    (ht : t ∈ s.rows) (hkey : r.precedence = t.precedence) :
    Authorization.grantedBy table r = Authorization.grantedBy table t := by
  rw [eq_but_product_of_precedence_eq hs hr ht hkey]
  rfl

/-- In whichever order some rows of the view arrive, the same is resolved from them. -/
theorem ofRows?_eq_of_perm (table : PermissionTable) {rows others : List Row}
    (hsub : ∀ r ∈ others, r ∈ s.rows) (hperm : rows.Perm others) :
    Authorization.ofRows? rows table = Authorization.ofRows? others table := by
  refine Row.map_authoritative?_of_perm hperm ?_
  intro r hr t ht hkey
  exact grantedBy_eq_of_precedence_eq hs table (hsub r (hperm.mem_iff.1 hr))
    (hsub t (hperm.mem_iff.1 ht)) hkey

end Store

/-- The rows that a filter admits may arrive in any order. The winner is granted the same, the
winners of the orgs are granted the same in the same order, and two rows that share their
precedence key differ in the product at most, which no authorization shows. -/
theorem Store.resolution_of_perm {s : Store} (h : s.Reachable) (filter : Filter)
    (table : PermissionTable) {rows : List Row} (hperm : rows.Perm (filter.select s.rows)) :
    Authorization.ofRows? rows table = Authorization.ofRows? (filter.select s.rows) table ∧
      (Row.authoritativePerOrg rows).map (Authorization.grantedBy table) =
        (Row.authoritativePerOrg (filter.select s.rows)).map (Authorization.grantedBy table) ∧
      ∀ r ∈ filter.select s.rows, ∀ t ∈ filter.select s.rows, r.precedence = t.precedence →
        t = { r with productCode := t.productCode } ∧
          ∀ actions, Authorization.ofRow t actions = Authorization.ofRow r actions := by
  have hs := h.integrity
  have hsub : ∀ r ∈ filter.select s.rows, r ∈ s.rows := fun r hr => (List.mem_filter.1 hr).1
  refine ⟨ofRows?_eq_of_perm hs table hsub hperm, ?_, ?_⟩
  · refine Table.map_values_congr ?_
    intro org
    rw [Row.find?_winners, Row.find?_winners]
    refine ofRows?_eq_of_perm hs table ?_ (hperm.filter _)
    intro r hr
    exact hsub r (List.mem_filter.1 hr).1
  · intro r hr t ht hkey
    have heq := eq_but_product_of_precedence_eq hs (hsub r hr) (hsub t ht) hkey
    refine ⟨heq, ?_⟩
    intro actions
    rw [heq, Authorization.ofRow_productCode]

/-- The sample, where the org `1` subscribes to a second product. -/
def Store.sampleOfTwoProducts : Store := sample.after (.subscribe (.active ⟨1⟩ "CSO"))

/-- The rows of the org `1` have another winner backwards, which is granted the same. -/
theorem Store.resolution_of_perm_sample :
    sampleOfTwoProducts.Reachable ∧ ∃ rows : List Row,
      rows.Perm (Filter.select { orgId := some ⟨1⟩ } sampleOfTwoProducts.rows) ∧
      Row.authoritative? rows ≠
        Row.authoritative? (Filter.select { orgId := some ⟨1⟩ } sampleOfTwoProducts.rows) ∧
      Authorization.ofRows? rows .seed =
        Authorization.ofRows? (Filter.select { orgId := some ⟨1⟩ } sampleOfTwoProducts.rows)
          .seed := by
  have hreach : sampleOfTwoProducts.Reachable := reachable_sample.after _
  have hperm := List.reverse_perm
    (Filter.select { orgId := some ⟨1⟩ } sampleOfTwoProducts.rows)
  exact ⟨hreach, _, hperm, by decide +kernel, (resolution_of_perm hreach _ .seed hperm).1⟩

end OrgAccess
