import Mathlib.Control.Monad.Basic
import OrgAccess.Proofs.Resolution.Narrowing
import OrgAccess.Proofs.Resolution.Standing

/-! The role of staff. It is meant for those who hold no membership, but roles are codes that the
store does not look at, so it is kept from members just as long as no write gives it to one. Where
no membership has it, neither users nor service accounts are told it, and the rules of staff decide
nothing for them. -/

namespace OrgAccess

/-- The role that a write gives to a membership. -/
def Write.role? : Write → Option Role
  | .addMembership m => some m.role
  | .changeRole _ role => some role
  | _ => none

namespace Store

/-- No membership has the role of staff. -/
def NoStaffMember (s : Store) : Prop :=
  ∀ id m, s.memberships.find? id = some m → m.role ≠ .staff

/-- The write gives a membership the role of staff, and it is carried out. -/
def MakesStaff (s : Store) (w : Write) : Prop :=
  w.role? = some .staff ∧ (s.perform w).1 = .ok ()

theorem noStaffMember_empty : empty.NoStaffMember := by
  intro id m hm
  cases hm

/-- A membership that takes a place leaves the store without members of the role of staff just when
it is none itself. -/
theorem noStaffMember_insert_iff {s : Store} (h : s.NoStaffMember) (id : MembershipId)
    (n : Membership) :
    ({ s with memberships := s.memberships.insert id n } : Store).NoStaffMember ↔
      n.role ≠ .staff := by
  constructor
  · intro hall
    exact hall id n (s.memberships.find?_insert_self id n)
  · intro hn i m hm
    rcases (s.memberships.find?_insert_eq_some_iff id i n m).1 hm with ⟨_, rfl⟩ | ⟨_, hold⟩
    · exact hn
    · exact h i m hold

theorem Change.noStaffMember_iff {s t : Store} {w : Write} (h : s.Change w t)
    (hs : s.NoStaffMember) : t.NoStaffMember ↔ w.role? ≠ some .staff := by
  cases h with
  | addMembership m fresh hasOrg hasUser alone =>
    rw [noStaffMember_insert_iff hs]
    simp [Write.role?]
  | changeRole id role found =>
    rw [noStaffMember_insert_iff hs]
    simp [Write.role?]
  | @setMembershipStatus id status m found alone =>
    rw [noStaffMember_insert_iff hs]
    exact iff_of_true (hs id m found) nofun
  | @deactivate id m found =>
    rw [noStaffMember_insert_iff hs]
    exact iff_of_true (hs id m found) nofun
  | putOrg org => exact iff_of_true hs nofun
  | putUser user => exact iff_of_true hs nofun
  | putEntity entity free => exact iff_of_true hs nofun
  | setOrgStatus id status found => exact iff_of_true hs nofun
  | affiliate a hasOrg hasEntity => exact iff_of_true hs nofun
  | removeAffiliation a => exact iff_of_true hs nofun
  | subscribe sub hasOrg => exact iff_of_true hs nofun

/-- One write keeps the role of staff from members just when it gives it to none. -/
theorem noStaffMember_after_iff {s : Store} (h : s.NoStaffMember) (w : Write) :
    (s.after w).NoStaffMember ↔ ¬ s.MakesStaff w := by
  unfold after MakesStaff
  rcases s.perform_cases w with ⟨fault, hrefused⟩ | ⟨t, hdone, hchange⟩
  · simp [hrefused, h]
  · simp [hdone, hchange.noStaffMember_iff h]

/-- The winner of a filter does not have the role of staff where no membership has it. -/
theorem role_ne_staff_of_fetch {s : Store} (hs : s.Integrity) (h : s.NoStaffMember)
    {filter : Filter} {row : Row} (hrow : s.fetch filter = some row) : row.role ≠ .staff := by
  obtain ⟨m, org, user, e, p, rfl, _, hm, _⟩ := fetch_eq_some hs hrow
  exact h m.id m hm.1.active.1

/-- So the rules of staff are not looked at for it. -/
theorem grantedBy_without_staff {s : Store} (hs : s.Integrity) (h : s.NoStaffMember)
    (table : PermissionTable) {filter : Filter} {row : Row} (hrow : s.fetch filter = some row) :
    Authorization.grantedBy (table.without .staff) row = Authorization.grantedBy table row := by
  have hrole := role_ne_staff_of_fetch hs h hrow
  rw [Authorization.grantedBy, Authorization.grantedBy,
    PermissionTable.actionsFor_without table hrole]

end Store

namespace Source
open Store

section NoStaffMember
variable {s : Store} (hs : s.Integrity) (h : s.NoStaffMember) (table : PermissionTable)
include hs h

theorem resolve_without_staff {request : Request}
    (hp : ∀ guid, request.principal ≠ some (.staff guid)) :
    (inMemory s (table.without .staff)).resolve request = (inMemory s table).resolve request := by
  cases hinquiry : request.inquiry with
  | error fault => rw [resolve_of_fault hinquiry, resolve_of_fault hinquiry]
  | ok inquiry =>
    obtain ⟨filter, rfl, _⟩ := Request.inquiry_eq_winner hp hinquiry
    rw [resolve_winner hinquiry, resolve_winner hinquiry]
    refine congrArg Except.ok (Option.map_congr ?_)
    intro row hrow
    exact grantedBy_without_staff hs h table hrow

theorem role_ne_staff_of_resolve {request : Request}
    (hp : ∀ guid, request.principal ≠ some (.staff guid)) {a : Authorization}
    (ha : (inMemory s table).resolve request = .ok (some a)) : a.role ≠ .staff := by
  obtain ⟨inquiry, hinquiry⟩ := inquiry_of_resolve ha
  obtain ⟨filter, rfl, _⟩ := Request.inquiry_eq_winner hp hinquiry
  rw [resolve_winner hinquiry] at ha
  obtain ⟨row, hrow, rfl⟩ := Option.map_eq_some_iff.1 (Except.ok.inj ha)
  exact role_ne_staff_of_fetch hs h hrow

/-- The listing of a user has no entry with the role of staff, and none that owes an action to the
rules of staff. -/
theorem resolveAll_without_staff (guid : Guid) :
    ∃ listing, (inMemory s table).resolveAll guid = .ok listing ∧
      (inMemory s (table.without .staff)).resolveAll guid = .ok listing ∧
      ∀ a ∈ listing, a.role ≠ .staff := by
  have hwinner : ∀ row ∈ s.fetchPerOrg { guid := some guid },
      s.fetch { guid := some guid, orgId := some row.orgId } = some row := by
    intro row hrow
    exact (s.mem_fetchPerOrg_iff { guid := some guid } rfl row row.orgId).1 ⟨hrow, rfl⟩
  refine ⟨_, resolveAll_inMemory s table guid, ?_, ?_⟩
  · rw [resolveAll_inMemory]
    refine congrArg Except.ok (List.map_congr_left ?_)
    intro row hrow
    exact grantedBy_without_staff hs h table (hwinner row hrow)
  · intro a ha
    obtain ⟨row, hrow, rfl⟩ := List.mem_map.1 ha
    exact role_ne_staff_of_fetch hs h (hwinner row hrow)

end NoStaffMember

/-- Staff ask for standings of the role of staff. -/
theorem role_of_staff_inquiry {guid : Guid} {target : Option Target} {corpType : Option String}
    {inquiry : Inquiry} (h : Request.inquiry ⟨some (.staff guid), target, corpType⟩ = .ok inquiry)
    {s : Store} {standing : Standing} (hfound : inquiry.standing? s = some standing) :
    standing.role = .staff := by
  cases Request.inquiry_eq_ok_iff.1 h with
  | staffOrg guid org corpType =>
    obtain ⟨o, _, rfl⟩ := Option.map_eq_some_iff.1 hfound
    rfl
  | staffBusiness guid named corpType =>
    obtain ⟨row, _, rfl⟩ := Option.map_eq_some_iff.1 hfound
    rfl

theorem role_of_resolve_staff {s : Store} {table : PermissionTable} {guid : Guid}
    {target : Option Target} {corpType : Option String} {a : Authorization}
    (ha : (inMemory s table).resolve ⟨some (.staff guid), target, corpType⟩ = .ok (some a)) :
    a.role = .staff ∧ a.actions = table.actionsFor .staff a.account.status := by
  obtain ⟨inquiry, hinquiry⟩ := inquiry_of_resolve ha
  rw [resolve_of_inquiry hinquiry] at ha
  obtain ⟨standing, hfound, rfl⟩ := Option.map_eq_some_iff.1 (Except.ok.inj ha)
  have hrole : standing.role = .staff := role_of_staff_inquiry hinquiry hfound
  refine ⟨hrole, ?_⟩
  rw [← hrole]
  rfl

/-- The user `1` is made a member of the org `1` with the role of staff. -/
def impostor : Store := empty.run [
  .putOrg (.basic ⟨1⟩ "Acme"), .putUser ⟨⟨1⟩, sampleGuid, "ada"⟩,
  .addMembership (.active ⟨1⟩ ⟨1⟩ ⟨1⟩ .staff)]

/-- Nothing keeps the role of staff from members in every run. A user who is given it is told it,
and granted what the table grants to staff. -/
theorem staffMember_impostor :
    impostor.Reachable ∧ ¬ impostor.NoStaffMember ∧
      ∃ a, (inMemory impostor .seed).resolve ⟨some (.user sampleGuid), some (.org ⟨1⟩), none⟩ =
          .ok (some a) ∧ a.role = .staff ∧
        a.actions = PermissionTable.seed.actionsFor .staff .active ∧
        ⟨"transaction_history"⟩ ∈ a.actions := by
  have hmember : impostor.memberships.find? ⟨1⟩ = some (.active ⟨1⟩ ⟨1⟩ ⟨1⟩ .staff) := by
    decide +kernel
  refine ⟨⟨_, rfl⟩, fun hnone => hnone _ _ hmember rfl, ?_⟩
  refine ⟨⟨.staff, PermissionTable.seed.actionsFor .staff .active,
    (Org.basic ⟨1⟩ "Acme").account, none⟩, by decide +kernel, rfl, rfl, by decide +kernel⟩

/-- From beginning to end a run keeps the role of staff from members just when none of its writes
gives it to one. In a store that keeps it so, whoever is not staff is told neither the role nor
anything that hangs on the rules of staff: on every target, with every corp type, and in the
listing. Staff are told the role whenever they are told anything. -/
theorem staff_role_kept_from_members (ws : List Write) :
    ((∀ before after, ws = before ++ after → (empty.run before).NoStaffMember) ↔
        ∀ before w after, ws = before ++ w :: after → ¬ (empty.run before).MakesStaff w) ∧
      ((empty.run ws).NoStaffMember → ∀ table,
        (∀ request : Request, (∀ guid, request.principal ≠ some (.staff guid)) →
          (inMemory (empty.run ws) (table.without .staff)).resolve request =
              (inMemory (empty.run ws) table).resolve request ∧
            ∀ a, (inMemory (empty.run ws) table).resolve request = .ok (some a) →
              a.role ≠ .staff) ∧
        ∀ guid, ∃ listing, (inMemory (empty.run ws) table).resolveAll guid = .ok listing ∧
          (inMemory (empty.run ws) (table.without .staff)).resolveAll guid = .ok listing ∧
          ∀ a ∈ listing, a.role ≠ .staff) ∧
      ∀ table guid target corpType a,
        (inMemory (empty.run ws) table).resolve ⟨some (.staff guid), target, corpType⟩ =
            .ok (some a) →
          a.role = .staff ∧ a.actions = table.actionsFor .staff a.account.status := by
  have hs := integrity_empty.run ws
  refine ⟨?_, ?_, ?_⟩
  · refine throughout_iff (I := fun _ => True) (P := NoStaffMember) ?_ ?_ trivial
      noStaffMember_empty ws
    · intro s w _
      trivial
    · intro s w _ h
      exact noStaffMember_after_iff h w
  · intro h table
    refine ⟨?_, resolveAll_without_staff hs h table⟩
    intro request hp
    exact ⟨resolve_without_staff hs h table hp,
      fun a ha => role_ne_staff_of_resolve hs h table hp ha⟩
  · intro table guid target corpType a ha
    exact role_of_resolve_staff ha

/-- No membership of the sample has the role of staff. The user `1` is told the same of the org `1`
without the rules of staff, and staff are told their role. -/
theorem staff_role_kept_from_members_sample :
    sample.NoStaffMember ∧
      (∃ a, (inMemory sample (PermissionTable.seed.without .staff)).resolve
          ⟨some (.user sampleGuid), some (.org ⟨1⟩), none⟩ = .ok (some a) ∧
        (inMemory sample .seed).resolve ⟨some (.user sampleGuid), some (.org ⟨1⟩), none⟩ =
          .ok (some a) ∧ a.role ≠ .staff) ∧
      ∃ a, (inMemory sample .seed).resolve ⟨some (.staff sampleGuid), some (.org ⟨1⟩), none⟩ =
        .ok (some a) ∧ a.role = .staff := by
  have hnone : sample.NoStaffMember := by
    have hentries : ∀ e ∈ sample.memberships.entries, e.2.role ≠ .staff := by decide +kernel
    intro id m hm
    exact hentries (id, m) ((sample.memberships.mem_entries_iff id m).2 hm)
  have huser : (inMemory sample .seed).resolve
      ⟨some (.user sampleGuid), some (.org ⟨1⟩), none⟩ =
        .ok (some (sampleAnswer .user ⟨"BC0000001", some "BC", none, none⟩)) := by decide +kernel
  have hstaff : (inMemory sample .seed).resolve
      ⟨some (.staff sampleGuid), some (.org ⟨1⟩), none⟩ =
        .ok (some ⟨.staff, PermissionTable.seed.actionsFor .staff .active,
          (Org.basic ⟨1⟩ "Acme").account, none⟩) := by decide +kernel
  obtain ⟨ws, hws⟩ := reachable_sample
  rw [hws] at hnone huser hstaff ⊢
  obtain ⟨_, hothers, hself⟩ := staff_role_kept_from_members ws
  obtain ⟨hsame, hrole⟩ := (hothers hnone .seed).1
    ⟨some (.user sampleGuid), some (.org ⟨1⟩), none⟩ (by simp)
  exact ⟨hnone, ⟨_, hsame.trans huser, huser, hrole _ huser⟩, _, hstaff,
    (hself .seed sampleGuid _ none _ hstaff).1⟩

end Source

end OrgAccess
