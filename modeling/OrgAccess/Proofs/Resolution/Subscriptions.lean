import Mathlib.Control.Monad.Basic
import OrgAccess.Proofs.Resolution.Narrowing
import OrgAccess.Proofs.Resolution.RowOrder
import OrgAccess.Proofs.Resolution.Standing

/-! Whom a subscription concerns. It changes the product column of every row of its org, and how
many rows there are. Who qualifies hangs on products only where rows of a product are looked for,
and only service accounts of the product look for these. -/

namespace OrgAccess

namespace Store

/-- Other subscriptions do not change the view of a filter whose product they leave subscribed or
not, as it was. -/
theorem alikeFor_of_subscribed {s : Store} {subscriptions : Table SubscriptionKey Subscription}
    {filter : Filter}
    (h : ∀ org p, filter.productCode = some p →
      (s.Subscribed org p ↔
        ({ s with subscriptions := subscriptions } : Store).Subscribed org p)) :
    s.AlikeFor { s with subscriptions := subscriptions } filter where
  qualifies m := by
    have hproduct : (∃ p, s.ProductChoice m.orgId p ∧ Filter.meets filter.productCode p = true) ↔
        ∃ p, ({ s with subscriptions := subscriptions } : Store).ProductChoice m.orgId p ∧
          Filter.meets filter.productCode p = true := by
      rw [exists_productChoice_iff, exists_productChoice_iff]
      exact forall_congr' fun p => forall_congr' fun hp => h m.orgId p hp
    constructor
    · intro hm
      exact ⟨hm.active, hm.user, hm.org, hm.entity, hproduct.1 hm.product⟩
    · intro hm
      exact ⟨hm.active, hm.user, hm.org, hm.entity, hproduct.2 hm.product⟩
  entity _ _ _ := Iff.rfl

/-- A subscription leaves it as it is which orgs subscribe to another product. -/
theorem subscribed_insert_iff (s : Store) (sub : Subscription) {p : String}
    (hp : p ≠ sub.productCode) (org : OrgId) :
    s.Subscribed org p ↔
      ({ s with subscriptions := s.subscriptions.insert (sub.orgId, sub.productCode) sub } :
        Store).Subscribed org p := by
  have hkey : (org, p) ≠ (sub.orgId, sub.productCode) := by simp [hp]
  simp only [Subscribed, s.subscriptions.find?_insert_of_ne hkey]

theorem Change.alikeFor_of_subscribe {s t : Store} {sub : Subscription}
    (h : s.Change (.subscribe sub) t) {filter : Filter}
    (hother : filter.productCode ≠ some sub.productCode) : s.AlikeFor t filter := by
  cases h with
  | subscribe sub hasOrg =>
    apply alikeFor_of_subscribed
    intro org p hp
    have hne : p ≠ sub.productCode := by
      rintro rfl
      exact hother hp
    exact s.subscribed_insert_iff sub hne org

/-- After a subscription the store looks as before to a filter that does not ask for the product. -/
theorem alikeFor_after_subscribe (s : Store) {sub : Subscription} {filter : Filter}
    (hother : filter.productCode ≠ some sub.productCode) :
    s.AlikeFor (s.after (.subscribe sub)) filter := by
  rcases s.after_cases (.subscribe sub) with heq | hchange
  · rw [heq]
    exact AlikeFor.refl s filter
  · exact hchange.alikeFor_of_subscribe hother

theorem orgs_after_subscribe (s : Store) (sub : Subscription) :
    (s.after (.subscribe sub)).orgs = s.orgs := by
  rcases s.after_cases (.subscribe sub) with heq | hchange
  · rw [heq]
  · generalize s.after (.subscribe sub) = t at hchange
    cases hchange with
    | subscribe sub hasOrg => rfl

end Store

namespace Source
open Store

/-- Whatever an org subscribes to, and whether the subscription is new, replaces another or is
refused, a request is answered the same before and after, unless it comes from a service account of
this very product. The listings of users stay the same too. -/
theorem subscriptions_concern_product {s : Store} (h : s.Reachable) (table : PermissionTable)
    (sub : Subscription) :
    (∀ request : Request,
        (∀ guid product, request.principal = some (.serviceAccount guid product) →
          Text.trim product ≠ sub.productCode) →
        (inMemory (s.after (.subscribe sub)) table).resolve request =
          (inMemory s table).resolve request) ∧
      ∀ guid, (inMemory (s.after (.subscribe sub)) table).resolveAll guid =
        (inMemory s table).resolveAll guid := by
  have hs := h.integrity
  have ht := (h.after (.subscribe sub)).integrity
  have horgs := s.orgs_after_subscribe sub
  constructor
  · intro request hother
    apply resolve_congr table
    intro inquiry hinquiry
    refine Inquiry.standing?_congr hs ht ?_ horgs
    intro filter hfilter
    apply s.alikeFor_after_subscribe
    intro hproduct
    obtain ⟨guid, product, hprincipal, htrim⟩ :=
      Request.productCode_of_inquiry hinquiry hfilter hproduct
    exact hother guid product hprincipal htrim
  · intro guid
    apply resolveAll_congr table
    apply standingsOf_congr
    intro org
    have halike : s.AlikeFor (s.after (.subscribe sub)) { guid := some guid, orgId := some org } :=
      s.alikeFor_after_subscribe (by simp)
    exact halike.standing hs ht fun m _ => by rw [horgs]

/-- The org `1` gives up the first of its two products. The service account of the second one is
told the same of the org as before, while that of the first is told nothing any more. -/
theorem subscriptions_concern_product_sample :
    sampleOfTwoProducts.Reachable ∧ ∃ t a,
      t = sampleOfTwoProducts.after (.subscribe ⟨⟨1⟩, "BUSINESS", .inactive⟩) ∧
        (∀ guid product, some (Principal.serviceAccount sampleGuid " CSO") =
          some (.serviceAccount guid product) → Text.trim product ≠ "BUSINESS") ∧
        (inMemory sampleOfTwoProducts .seed).resolve
          ⟨some (.serviceAccount sampleGuid " CSO"), some (.org ⟨1⟩), none⟩ = .ok (some a) ∧
        (inMemory t .seed).resolve
          ⟨some (.serviceAccount sampleGuid " CSO"), some (.org ⟨1⟩), none⟩ = .ok (some a) ∧
        (inMemory sampleOfTwoProducts .seed).resolve
          ⟨some (.serviceAccount sampleGuid "BUSINESS"), some (.org ⟨1⟩), none⟩ = .ok (some a) ∧
        (inMemory t .seed).resolve
          ⟨some (.serviceAccount sampleGuid "BUSINESS"), some (.org ⟨1⟩), none⟩ = .ok none := by
  have hreach : sampleOfTwoProducts.Reachable := reachable_sample.after _
  have hother : ∀ guid product, some (Principal.serviceAccount sampleGuid " CSO") =
      some (.serviceAccount guid product) → Text.trim product ≠ "BUSINESS" := by
    intro guid product heq
    cases heq
    decide +kernel
  have htold : (inMemory sampleOfTwoProducts .seed).resolve
      ⟨some (.serviceAccount sampleGuid " CSO"), some (.org ⟨1⟩), none⟩ =
        .ok (some (sampleAnswer .admin ⟨"BC0000001", some "BC", none, none⟩)) := by decide +kernel
  obtain ⟨hsame, _⟩ :=
    subscriptions_concern_product hreach .seed ⟨⟨1⟩, "BUSINESS", .inactive⟩
  exact ⟨hreach, _, _, rfl, hother, htold, (hsame _ hother).trans htold, by decide +kernel,
    by decide +kernel⟩

end Source

end OrgAccess
