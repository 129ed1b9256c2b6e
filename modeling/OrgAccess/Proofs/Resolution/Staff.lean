import Mathlib.Control.Monad.Basic
import OrgAccess.Proofs.Resolution.Exact
import OrgAccess.Proofs.Resolution.Standing
import OrgAccess.Proofs.Store.Outcome

/-! What staff are told. An org is looked up by itself, so no membership has a say in that. A
business is looked up in the view, whose rows are those of active members: it is found only where an
org that acts for it has one, and shown with the org of the first. -/

namespace OrgAccess

namespace Store

/-- A write on a membership puts one into its place and touches nothing else. -/
theorem Change.eq_insertMembership {s t : Store} {w : Write} (h : s.Change w t)
    {id : MembershipId} (hw : w.slot = .membership id) :
    ∃ n, t = { s with memberships := s.memberships.insert id n } := by
  cases h with
  | addMembership m fresh hasOrg hasUser alone =>
    cases hw
    exact ⟨m, rfl⟩
  | @changeRole id' role m found =>
    cases hw
    exact ⟨_, rfl⟩
  | @setMembershipStatus id' status m found alone =>
    cases hw
    exact ⟨_, rfl⟩
  | @deactivate id' m found =>
    cases hw
    exact ⟨_, rfl⟩
  | putOrg org => cases hw
  | putUser user => cases hw
  | putEntity entity free => cases hw
  | setOrgStatus id' status found => cases hw
  | affiliate a hasOrg hasEntity => cases hw
  | removeAffiliation a => cases hw
  | subscribe sub hasOrg => cases hw

theorem orgs_after_of_membership {s : Store} {w : Write} {id : MembershipId}
    (hw : w.slot = .membership id) : (s.after w).orgs = s.orgs := by
  rcases s.after_cases w with heq | hchange
  · rw [heq]
  · obtain ⟨n, hn⟩ := hchange.eq_insertMembership hw
    rw [hn]

/-- The write adds or changes no membership of an org that acts for the business. -/
def SparesBusiness (s : Store) (identifier : String) (w : Write) : Prop :=
  ∃ id, w.slot = .membership id ∧
    ∀ m, s.memberships.find? id = some m ∨ (s.after w).memberships.find? id = some m →
      ¬ s.ActsFor m.orgId identifier

/-- Among the rows of a business the winner has the same standing after a write that spares it. -/
theorem standing_after_of_spares {s : Store} (hs : s.Integrity) {identifier : String} {w : Write}
    (hw : s.SparesBusiness identifier w) :
    ((s.after w).fetch { businessIdentifier := some identifier }).map Standing.ofRow =
      (s.fetch { businessIdentifier := some identifier }).map Standing.ofRow := by
  obtain ⟨id, hslot, hspared⟩ := hw
  rcases s.after_cases w with heq | hchange
  · rw [heq]
  · have ht : (s.after w).Integrity := hchange.integrity hs
    obtain ⟨n, hn⟩ := hchange.eq_insertMembership hslot
    rw [hn] at hspared ht ⊢
    have halike := alikeFor_insertMembership { businessIdentifier := some identifier }
      (fun m hm hq => hspared m (Or.inl hm) ((qualifies_business_iff rfl rfl rfl m).1 hq).2.2.1)
      fun hq => hspared n (Or.inr (s.memberships.find?_insert_self id n))
        ((qualifies_business_iff rfl rfl rfl n).1 hq).2.2.1
    exact halike.standing hs ht fun _ _ => rfl

end Store

namespace Source
open Store

/-- What staff are told about a business: something just when an org that acts for it has an active
member, and then the org of the first of these members, with what the table grants to staff. -/
def ToldThroughMembers (s : Store) (table : PermissionTable) (identifier : String)
    (outcome : Except ResolveFault (Option Authorization)) : Prop :=
  ∃ answer, outcome = .ok answer ∧
    (answer.isSome = true ↔ ∃ m, s.Active m ∧ s.ActsFor m.orgId identifier) ∧
    ∀ a, answer = some a → a.role = .staff ∧
      (∃ m org, FirstBy Membership.seniority
          (fun m => s.Active m ∧ s.ActsFor m.orgId identifier) m ∧
        s.orgs.find? m.orgId = some org ∧ a.account = org.account ∧
        a.actions = table.actionsFor .staff org.statusCode) ∧
      ∃ e, s.entities.find? e.id = some e ∧ e.businessIdentifier = identifier ∧
        a.business = some e.business

theorem resolve_staff_org (s : Store) (table : PermissionTable) (guid : Guid) (org : OrgId)
    (corpType : Option String) :
    (inMemory s table).resolve ⟨some (.staff guid), some (.org org), corpType⟩ =
      .ok ((s.orgs.find? org).map fun o => (Standing.staffOfOrg o).grantedBy table) := by
  have hinquiry : Request.inquiry ⟨some (.staff guid), some (.org org), corpType⟩ =
      .ok (.staffOrg org) := rfl
  rw [resolve_of_inquiry hinquiry, Inquiry.standing?, Option.map_map]
  rfl

theorem resolve_staff_business {s : Store} (hs : s.Integrity) (table : PermissionTable)
    (guid : Guid) {identifier : String} (hid : ¬ Text.AllBlank identifier)
    (corpType : Option String) :
    ToldThroughMembers s table (Text.trim identifier)
      ((inMemory s table).resolve
        ⟨some (.staff guid), some (.business identifier), corpType⟩) := by
  obtain ⟨hsome, hgrant⟩ := fetch_business_exact hs table
    { businessIdentifier := some (Text.trim identifier) }
    (P := fun m => s.Active m ∧ s.ActsFor m.orgId (Text.trim identifier)) rfl rfl rfl (by simp)
  refine ⟨_, resolve_of_inquiry (Request.Asks.staffBusiness guid hid corpType).inquiry, ?_, ?_⟩
  · rw [Inquiry.standing?, Option.isSome_map, Option.isSome_map, hsome]
  · intro a ha
    obtain ⟨standing, hfound, rfl⟩ := Option.map_eq_some_iff.1 ha
    obtain ⟨row, hrow, rfl⟩ := Option.map_eq_some_iff.1 hfound
    obtain ⟨⟨m, org, hfirst, horg, _, haccount, _⟩, hbusiness⟩ := hgrant row hrow
    have hstatus : row.account = org.account := haccount
    refine ⟨rfl, ⟨m, org, hfirst, horg, haccount, ?_⟩, hbusiness⟩
    show table.actionsFor .staff row.account.status = _
    rw [hstatus]
    rfl

/-- What staff are told about a business hangs on memberships. When the membership `4` of the sample
gets another role, the business of both orgs moves from the org `2` to the org `1`, and when the org
`1` has no active member left, the business that it alone acts for is not found any more. -/
theorem staff_business_hangs_on_members :
    sample.Reachable ∧
      (∃ t a b, sample.perform (.changeRole ⟨4⟩ .user) = (.ok (), t) ∧
        (inMemory sample .seed).resolve
            ⟨some (.staff sampleGuid), some (.business "BC0000001"), none⟩ = .ok (some a) ∧
        a.account.orgId = ⟨2⟩ ∧
        (inMemory t .seed).resolve
            ⟨some (.staff sampleGuid), some (.business "BC0000001"), none⟩ = .ok (some b) ∧
        b.account.orgId = ⟨1⟩) ∧
      ∃ s t a, s = sample.after (.deactivate ⟨2⟩) ∧ s.perform (.deactivate ⟨3⟩) = (.ok (), t) ∧
        (inMemory s .seed).resolve
            ⟨some (.staff sampleGuid), some (.business "CP0000002"), none⟩ = .ok (some a) ∧
        t.ActsFor ⟨1⟩ "CP0000002" ∧
        (inMemory t .seed).resolve
            ⟨some (.staff sampleGuid), some (.business "CP0000002"), none⟩ = .ok none := by
  refine ⟨reachable_sample, ?_, ?_⟩
  · have hfourth : sample.memberships.find? ⟨4⟩ = some (.active ⟨4⟩ ⟨1⟩ ⟨2⟩ .owner) := by
      decide +kernel
    exact ⟨_, ⟨.staff, PermissionTable.seed.actionsFor .staff .nsfSuspended,
      ((Org.basic ⟨2⟩ "Beta").withStatus .nsfSuspended).account,
      some ⟨"BC0000001", some "BC", none, none⟩⟩,
      ⟨.staff, PermissionTable.seed.actionsFor .staff .active, (Org.basic ⟨1⟩ "Acme").account,
      some ⟨"BC0000001", some "BC", none, none⟩⟩,
      (Change.changeRole ⟨4⟩ .user hfourth).perform, by decide +kernel, rfl, by decide +kernel, rfl⟩
  · have hthird : (sample.after (.deactivate ⟨2⟩)).memberships.find? ⟨3⟩ =
        some (.active ⟨3⟩ ⟨2⟩ ⟨1⟩ .admin) := by decide +kernel
    exact ⟨_, _, ⟨.staff, PermissionTable.seed.actionsFor .staff .active,
      (Org.basic ⟨1⟩ "Acme").account, some ⟨"CP0000002", some "CP", none, none⟩⟩, rfl,
      (Change.deactivate ⟨3⟩ hthird).perform, by decide +kernel,
      ⟨⟨⟨2⟩, "CP0000002", "CP", none, none⟩, ⟨by decide +kernel, by decide +kernel⟩, rfl⟩,
      by decide +kernel⟩

/-- What staff are told about an org is the same before and after every write on a membership. What
they are told about a business they are told through the active members of the orgs that act for it:
nothing if there are none, and otherwise the org of the first of them. So a write on a membership
leaves it as it is, if the membership is not one of an org that acts for the business. -/
theorem staff_told_through_members {s : Store} (h : s.Reachable) (table : PermissionTable)
    (guid : Guid) (corpType : Option String) :
    (∀ w id, w.slot = .membership id → ∀ org,
        (inMemory (s.after w) table).resolve ⟨some (.staff guid), some (.org org), corpType⟩ =
          (inMemory s table).resolve ⟨some (.staff guid), some (.org org), corpType⟩) ∧
      (∀ identifier, Text.trim identifier ≠ "" →
        ToldThroughMembers s table (Text.trim identifier)
          ((inMemory s table).resolve
            ⟨some (.staff guid), some (.business identifier), corpType⟩)) ∧
      ∀ w identifier, s.SparesBusiness (Text.trim identifier) w →
        (inMemory (s.after w) table).resolve
            ⟨some (.staff guid), some (.business identifier), corpType⟩ =
          (inMemory s table).resolve
            ⟨some (.staff guid), some (.business identifier), corpType⟩ := by
  refine ⟨?_, ?_, ?_⟩
  · intro w id hw org
    rw [resolve_staff_org, resolve_staff_org, orgs_after_of_membership hw]
  · intro identifier hid
    exact resolve_staff_business h.integrity table guid
      (fun hblank => hid ((Text.trim_eq_empty_iff _).2 hblank)) corpType
  · intro w identifier hw
    refine resolve_congr table ?_
    intro inquiry hinquiry
    cases Request.inquiry_eq_ok_iff.1 hinquiry with
    | staffBusiness guid named corpType =>
      exact Standing.map_staffOfRow_congr (standing_after_of_spares h.integrity hw)

/-- The membership `4` gets another role. It is one of the org `2`, which does not act for the
second business. -/
theorem staff_told_through_members_sample :
    sample.Reachable ∧ sample.SparesBusiness (Text.trim "CP0000002 ") (.changeRole ⟨4⟩ .user) ∧
      (inMemory (sample.after (.changeRole ⟨4⟩ .user)) .seed).resolve
          ⟨some (.staff sampleGuid), some (.org ⟨2⟩), none⟩ =
        (inMemory sample .seed).resolve ⟨some (.staff sampleGuid), some (.org ⟨2⟩), none⟩ ∧
      (inMemory (sample.after (.changeRole ⟨4⟩ .user)) .seed).resolve
          ⟨some (.staff sampleGuid), some (.business "CP0000002 "), none⟩ =
        (inMemory sample .seed).resolve
          ⟨some (.staff sampleGuid), some (.business "CP0000002 "), none⟩ ∧
      ∃ a, (inMemory sample .seed).resolve
          ⟨some (.staff sampleGuid), some (.business "CP0000002 "), none⟩ = .ok (some a) ∧
        ∃ m, sample.Active m ∧ sample.ActsFor m.orgId (Text.trim "CP0000002 ") := by
  have htrim : Text.trim "CP0000002 " = "CP0000002" := by decide +kernel
  have hspared : sample.SparesBusiness (Text.trim "CP0000002 ") (.changeRole ⟨4⟩ .user) := by
    refine ⟨⟨4⟩, rfl, ?_⟩
    have hbefore : (sample.memberships.find? ⟨4⟩).map (·.orgId) = some ⟨2⟩ := by decide +kernel
    have hafter : ((sample.after (.changeRole ⟨4⟩ .user)).memberships.find? ⟨4⟩).map (·.orgId) =
        some ⟨2⟩ := by decide +kernel
    have hentries : ∀ x ∈ sample.affiliations.entries, ∀ y ∈ sample.entities.entries,
        x.1.orgId = ⟨2⟩ → x.1.entityId = y.1 → y.2.businessIdentifier ≠ "CP0000002" := by
      decide +kernel
    rintro m hm ⟨e, ⟨haffiliated, he⟩, hident⟩
    have horg : m.orgId = ⟨2⟩ := by
      rcases hm with hm | hm
      · rw [hm] at hbefore
        exact Option.some.inj hbefore
      · rw [hm] at hafter
        exact Option.some.inj hafter
    rw [htrim] at hident
    exact hentries (⟨m.orgId, e.id⟩, ()) ((Table.mem_entries_iff _ _ _).2 haffiliated) (e.id, e)
      ((Table.mem_entries_iff _ _ _).2 he) horg rfl hident
  have hid : Text.trim "CP0000002 " ≠ "" := by decide +kernel
  obtain ⟨horgs, htold, hbusinesses⟩ :=
    staff_told_through_members reachable_sample .seed sampleGuid none
  obtain ⟨answer, hok, hsome, _⟩ := htold _ hid
  have hanswered : (((inMemory sample .seed).resolve
      ⟨some (.staff sampleGuid), some (.business "CP0000002 "), none⟩).toOption.map
        (·.isSome)) = some true := by decide +kernel
  rw [hok] at hanswered
  have hisSome : answer.isSome = true := Option.some.inj hanswered
  obtain ⟨a, rfl⟩ := Option.isSome_iff_exists.1 hisSome
  exact ⟨reachable_sample, hspared, horgs _ ⟨4⟩ rfl _, hbusinesses _ _ hspared, a, hok,
    hsome.1 hisSome⟩

end Source

end OrgAccess
