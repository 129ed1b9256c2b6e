import Mathlib.Control.Monad.Basic
import OrgAccess.Proofs.Resolution.Narrowing
import OrgAccess.Proofs.Resolution.Standing

/-! What the status of an org decides. It stands in every row of the org and is read back from the
winner, to say which actions the role is granted. Nothing that says who wins looks at it. So with
another status the same answers are given, but for the status and the actions in that org. -/

namespace OrgAccess

/-- The account after the org has got the status. -/
def Account.underStatus (org : OrgId) (status : OrgStatus) (account : Account) : Account :=
  if account.orgId = org then { account with status := status } else account

/-- The authorization after the org has got the status. In this org it shows the status and the
actions that its role is granted at the status, and in any other org it is as it was. -/
def Authorization.underStatus (table : PermissionTable) (org : OrgId) (status : OrgStatus)
    (a : Authorization) : Authorization :=
  if a.account.orgId = org then
    { a with
      actions := table.actionsFor a.role status
      account := { a.account with status := status } }
  else a

theorem Standing.grantedBy_mapAccount (standing : Standing) (table : PermissionTable)
    (org : OrgId) (status : OrgStatus) :
    (standing.mapAccount (Account.underStatus org status)).grantedBy table =
      (standing.grantedBy table).underStatus table org status := by
  by_cases h : standing.account.orgId = org <;>
    simp [mapAccount, grantedBy, withActions, Account.underStatus, Authorization.underStatus, h]

namespace Store
variable {s t : Store} {id : OrgId} {status : OrgStatus}

/-- No filter looks at the status of an org. -/
theorem Change.alikeFor_of_setOrgStatus (h : s.Change (.setOrgStatus id status) t)
    (filter : Filter) : s.AlikeFor t filter := by
  cases h with
  | setOrgStatus id status found =>
    refine ⟨?_, fun _ _ _ => Iff.rfl⟩
    intro m
    constructor
    · intro hm
      exact ⟨hm.active, hm.user, hm.org, hm.entity, hm.product⟩
    · intro hm
      exact ⟨hm.active, hm.user, hm.org, hm.entity, hm.product⟩

/-- The accounts are those of before, and only that of the org has changed. -/
theorem Change.account_of_setOrgStatus (hs : s.Integrity)
    (h : s.Change (.setOrgStatus id status) t) (org : OrgId) :
    (t.orgs.find? org).map Org.account =
      ((s.orgs.find? org).map Org.account).map (Account.underStatus id status) := by
  cases h with
  | @setOrgStatus id status o found =>
    by_cases horg : org = id
    · subst horg
      have hid : o.id = org := hs.orgsKeyed org o found
      simp [found, Account.underStatus, Org.account, Org.withStatus, hid]
    · rw [s.orgs.find?_insert_of_ne horg]
      cases ho : s.orgs.find? org with
      | none => rfl
      | some other =>
        have hid : other.account.orgId ≠ id := by
          have hother : other.id = org := hs.orgsKeyed org other ho
          simpa [Org.account, hother] using horg
        simp [Account.underStatus, hid]

/-- Every inquiry finds what it found before, with the status in the account of the org. -/
theorem Change.standing?_of_setOrgStatus (hs : s.Integrity)
    (h : s.Change (.setOrgStatus id status) t) (inquiry : Inquiry) :
    inquiry.standing? t =
      (inquiry.standing? s).map (Standing.mapAccount (Account.underStatus id status)) := by
  apply Inquiry.standing?_mapAccount hs (h.integrity hs)
  · intro filter _
    exact h.alikeFor_of_setOrgStatus filter
  · exact h.account_of_setOrgStatus hs

theorem Change.standingsOf_of_setOrgStatus (hs : s.Integrity)
    (h : s.Change (.setOrgStatus id status) t) (guid : Guid) :
    t.standingsOf guid =
      (s.standingsOf guid).map (Standing.mapAccount (Account.underStatus id status)) := by
  apply standingsOf_mapAccount
  intro org
  apply (h.alikeFor_of_setOrgStatus _).standing_mapAccount hs (h.integrity hs)
  intro m _
  exact h.account_of_setOrgStatus hs m.orgId

end Store

namespace Source
open Store

/-- When an org gets another status, every request and every listing comes out as before, but for
the authorizations in this org: these show the new status and the actions that their role is granted
at it, and nothing else of them changes. -/
theorem status_decides_actions {s t : Store} (h : s.Reachable) (table : PermissionTable)
    {id : OrgId} {status : OrgStatus} (hset : s.perform (.setOrgStatus id status) = (.ok (), t)) :
    (∀ request, (inMemory t table).resolve request =
        ((inMemory s table).resolve request).map
          (Option.map (Authorization.underStatus table id status))) ∧
      ∀ guid, (inMemory t table).resolveAll guid =
        ((inMemory s table).resolveAll guid).map
          (List.map (Authorization.underStatus table id status)) := by
  have hs := h.integrity
  have hchange := change_of_perform hset
  constructor
  · intro request
    cases hinquiry : request.inquiry with
    | error fault =>
      rw [resolve_of_fault hinquiry, resolve_of_fault hinquiry]
      rfl
    | ok inquiry =>
      rw [resolve_of_inquiry hinquiry, resolve_of_inquiry hinquiry,
        hchange.standing?_of_setOrgStatus hs]
      show Except.ok _ = Except.ok _
      simp [Function.comp_def, Standing.grantedBy_mapAccount]
  · intro guid
    rw [resolveAll_of_standings, resolveAll_of_standings, hchange.standingsOf_of_setOrgStatus hs]
    show Except.ok _ = Except.ok _
    simp [Function.comp_def, Standing.grantedBy_mapAccount]

/-- The org `1` is suspended. The service account of its product is told of it as before, with the
history of transactions beside the actions of an admin. -/
theorem status_decides_actions_sample :
    sample.Reachable ∧ ∃ t a b, sample.perform (.setOrgStatus ⟨1⟩ .nsfSuspended) = (.ok (), t) ∧
      (inMemory sample .seed).resolve
          ⟨some (.serviceAccount sampleGuid "BUSINESS"), some (.org ⟨1⟩), none⟩ = .ok (some a) ∧
      (inMemory t .seed).resolve
          ⟨some (.serviceAccount sampleGuid "BUSINESS"), some (.org ⟨1⟩), none⟩ = .ok (some b) ∧
      b = a.underStatus .seed ⟨1⟩ .nsfSuspended ∧
      a.account.status = .active ∧ ⟨"transaction_history"⟩ ∉ a.actions ∧
      b.account.status = .nsfSuspended ∧ ⟨"transaction_history"⟩ ∈ b.actions ∧
      (inMemory t .seed).resolveAll sampleGuid =
        ((inMemory sample .seed).resolveAll sampleGuid).map
          (List.map (Authorization.underStatus .seed ⟨1⟩ .nsfSuspended)) := by
  have hfirst : sample.orgs.find? ⟨1⟩ = some (.basic ⟨1⟩ "Acme") := by decide +kernel
  have hset := (Change.setOrgStatus ⟨1⟩ .nsfSuspended hfirst).perform
  obtain ⟨hanswers, hlistings⟩ := status_decides_actions reachable_sample .seed hset
  have htold : (inMemory sample .seed).resolve
      ⟨some (.serviceAccount sampleGuid "BUSINESS"), some (.org ⟨1⟩), none⟩ =
        .ok (some (sampleAnswer .admin ⟨"BC0000001", some "BC", none, none⟩)) := by decide +kernel
  refine ⟨reachable_sample, _, _, _, hset, htold, ?_, rfl, by decide +kernel, by decide +kernel,
    by decide +kernel, by decide +kernel, hlistings sampleGuid⟩
  rw [hanswers, htold]
  rfl

end Source

end OrgAccess
