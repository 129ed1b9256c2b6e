import OrgAccess.Proofs.Store.Join

/-! What comes of a write. `Refusal` lists the rules that it may break, each with its fault, and of
two broken rules only the first counts. A write that breaks none of them is carried out: it changes
the one record that it names, where a refused write changes nothing. -/

namespace OrgAccess

/-- The place of one record. -/
inductive Slot where
  | org (id : OrgId)
  | user (id : UserId)
  | entity (id : EntityId)
  | membership (id : MembershipId)
  | affiliation (a : Affiliation)
  | subscription (key : SubscriptionKey)
  deriving DecidableEq

/-- The place of the record that a write names. -/
def Write.slot : Write → Slot
  | .putOrg org => .org org.id
  | .putUser user => .user user.id
  | .putEntity entity => .entity entity.id
  | .addMembership m => .membership m.id
  | .changeRole id _ => .membership id
  | .setMembershipStatus id _ => .membership id
  | .deactivate id => .membership id
  | .setOrgStatus id _ => .org id
  | .affiliate a => .affiliation a
  | .removeAffiliation a => .affiliation a
  | .subscribe sub => .subscription (sub.orgId, sub.productCode)

/-- Of the faults, one says that something is not there, and the others that a rule is broken. -/
theorem StoreFault.asDomainFault_kind (fault : StoreFault) :
    (fault.asDomainFault = .notFound ↔ fault = .notFound) ∧
      ((∃ reason, fault.asDomainFault = .invalid reason) ↔ fault ≠ .notFound) := by
  cases fault <;> simp [asDomainFault]

namespace Store

/-- The write breaks a rule, and the fault tells which. -/
inductive Refusal (s : Store) : Write → StoreFault → Prop where
  | identifierTaken (entity : Entity) (taken : s.IdentifierTaken entity) :
    Refusal s (.putEntity entity) (.identifierTaken entity.businessIdentifier)
  | membershipExists (m : Membership) {n : Membership}
      (found : s.memberships.find? m.id = some n) :
    Refusal s (.addMembership m) (.membershipExists m.id)
  | noOrgOrUser (m : Membership) (fresh : s.memberships.find? m.id = none)
      (missing : s.orgs.find? m.orgId = none ∨ s.users.find? m.userId = none) :
    Refusal s (.addMembership m) .notFound
  | secondActive (m : Membership) {org : Org} {user : User} {n : Membership}
      (fresh : s.memberships.find? m.id = none) (hasOrg : s.orgs.find? m.orgId = some org)
      (hasUser : s.users.find? m.userId = some user) (active : m.isActive = true)
      (other : s.Active n) (sameUser : n.userId = m.userId) (sameOrg : n.orgId = m.orgId) :
    Refusal s (.addMembership m) (.secondActiveMembership m.userId m.orgId)
  | changeRole (id : MembershipId) (role : Role) (missing : s.memberships.find? id = none) :
    Refusal s (.changeRole id role) .notFound
  | setMembershipStatus (id : MembershipId) (status : MembershipStatus)
      (missing : s.memberships.find? id = none) :
    Refusal s (.setMembershipStatus id status) .notFound
  | reactivation (id : MembershipId) {m n : Membership}
      (found : s.memberships.find? id = some m) (inactive : m.isActive = false)
      (other : s.Active n) (distinct : n.id ≠ id) (sameUser : n.userId = m.userId)
      (sameOrg : n.orgId = m.orgId) :
    Refusal s (.setMembershipStatus id .active) (.secondActiveMembership m.userId m.orgId)
  | deactivate (id : MembershipId) (missing : s.memberships.find? id = none) :
    Refusal s (.deactivate id) .notFound
  | setOrgStatus (id : OrgId) (status : OrgStatus) (missing : s.orgs.find? id = none) :
    Refusal s (.setOrgStatus id status) .notFound
  | affiliate (a : Affiliation)
      (missing : s.orgs.find? a.orgId = none ∨ s.entities.find? a.entityId = none) :
    Refusal s (.affiliate a) .notFound
  | subscribe (sub : Subscription) (missing : s.orgs.find? sub.orgId = none) :
    Refusal s (.subscribe sub) .notFound

theorem hasActive_iff_exists_active {s : Store} (hs : s.Integrity) (user : UserId) (org : OrgId) :
    s.hasActive user org = true ↔ ∃ m, s.Active m ∧ m.userId = user ∧ m.orgId = org := by
  rw [hasActive_iff]
  constructor
  · rintro ⟨k, m, hm, huser, horg, hactive⟩
    exact ⟨m, ⟨hs.membershipsKeyed.find?_self hm, hactive⟩, huser, horg⟩
  · rintro ⟨m, ⟨hm, hactive⟩, huser, horg⟩
    exact ⟨m.id, m, hm, huser, horg, hactive⟩

/-! ## What the refused writes break -/

section Broken
open Update
variable {s : Store} {fault : StoreFault}

theorem refusal_of_putEntity {entity : Entity}
    (h : ((Update.putEntity entity).on s).1 = .error fault) :
    s.Refusal (.putEntity entity) fault := by
  rw [on_putEntity] at h
  split at h
  · rename_i htaken
    cases h
    exact .identifierTaken entity ((s.identifierTaken_iff entity).1 htaken)
  · cases h

theorem refusal_of_changeRole {id : MembershipId} {role : Role}
    (h : ((Update.changeRole id role).on s).1 = .error fault) :
    s.Refusal (.changeRole id role) fault := by
  cases hm : s.memberships.find? id with
  | none =>
    rw [Update.changeRole, on_missing hm] at h
    cases h
    exact .changeRole id role hm
  | some m =>
    rw [on_changeRole hm] at h
    cases h

theorem refusal_of_setOrgStatus {id : OrgId} {status : OrgStatus}
    (h : ((Update.setOrgStatus id status).on s).1 = .error fault) :
    s.Refusal (.setOrgStatus id status) fault := by
  cases horg : s.orgs.find? id with
  | none =>
    rw [Update.setOrgStatus, on_missing horg] at h
    cases h
    exact .setOrgStatus id status horg
  | some org =>
    rw [on_setOrgStatus horg] at h
    cases h

theorem refusal_of_affiliate {a : Affiliation}
    (h : ((Update.affiliate a).on s).1 = .error fault) : s.Refusal (.affiliate a) fault := by
  rw [on_affiliate] at h
  split at h
  · rename_i hmissing
    cases h
    exact .affiliate a ((s.orgs.not_contains_and_iff s.entities _ _).1 hmissing)
  · cases h

theorem refusal_of_subscribe {sub : Subscription}
    (h : ((Update.subscribe sub).on s).1 = .error fault) : s.Refusal (.subscribe sub) fault := by
  rw [on_subscribe] at h
  split at h
  · rename_i horg
    cases h
    exact .subscribe sub ((s.orgs.not_contains_iff sub.orgId).1 horg)
  · cases h

variable (hs : s.Integrity)
include hs

theorem refusal_of_addMembership {m : Membership}
    (h : ((Update.addMembership m).on s).1 = .error fault) :
    s.Refusal (.addMembership m) fault := by
  rw [on_addMembership] at h
  split at h
  · rename_i htaken
    cases h
    obtain ⟨n, hn⟩ := (s.memberships.contains_iff m.id).1 htaken
    exact .membershipExists m hn
  · rename_i hfresh
    rw [Table.not_contains_iff] at hfresh
    split at h
    · rename_i hmissing
      cases h
      exact .noOrgOrUser m hfresh ((s.orgs.not_contains_and_iff s.users _ _).1 hmissing)
    · rename_i hrefs
      split at h
      · rename_i hsecond
        cases h
        obtain ⟨hactive, hother⟩ := hsecond
        obtain ⟨horg, huser⟩ := Decidable.not_not.1 hrefs
        obtain ⟨org, horg⟩ := (s.orgs.contains_iff m.orgId).1 horg
        obtain ⟨user, huser⟩ := (s.users.contains_iff m.userId).1 huser
        obtain ⟨n, hn, hnuser, hnorg⟩ := (hasActive_iff_exists_active hs _ _).1 hother
        exact .secondActive m hfresh horg huser hactive hn hnuser hnorg
      · cases h

/-- A status that is refused is that of an unknown membership, or a second active one. The
membership is not active then, so the one that is active is another. -/
theorem setMembershipStatus_eq_error {id : MembershipId} {status : MembershipStatus}
    (h : ((Update.setMembershipStatus id status).on s).1 = .error fault) :
    s.memberships.find? id = none ∧ fault = .notFound ∨
      status = .active ∧ s.Refusal (.setMembershipStatus id status) fault := by
  cases hm : s.memberships.find? id with
  | none =>
    rw [Update.setMembershipStatus, on_missing hm] at h
    cases h
    exact Or.inl ⟨rfl, rfl⟩
  | some m =>
    rw [on_setMembershipStatus hm] at h
    split at h
    · rename_i hsecond
      cases h
      obtain ⟨rfl, hinactive, hother⟩ := hsecond
      obtain ⟨n, hn, hnuser, hnorg⟩ := (hasActive_iff_exists_active hs _ _).1 hother
      have hm' : m.isActive = false := by simpa using hinactive
      have hdistinct : n.id ≠ id := by
        rintro rfl
        rw [Option.some.inj (hm.symm.trans hn.1), hn.2] at hm'
        cases hm'
      exact Or.inr ⟨rfl, .reactivation id hm hm' hn hdistinct hnuser hnorg⟩
    · cases h

theorem refusal_of_perform {w : Write} (h : (s.perform w).1 = .error fault) :
    s.Refusal w fault := by
  cases w with
  | putOrg org => cases h
  | putUser user => cases h
  | putEntity entity => exact refusal_of_putEntity h
  | addMembership m => exact refusal_of_addMembership hs h
  | changeRole id role => exact refusal_of_changeRole h
  | setMembershipStatus id status =>
    rcases setMembershipStatus_eq_error hs h with ⟨hnone, rfl⟩ | ⟨_, hrefusal⟩
    · exact .setMembershipStatus id status hnone
    · exact hrefusal
  | deactivate id =>
    rcases setMembershipStatus_eq_error hs h with ⟨hnone, rfl⟩ | ⟨hactive, _⟩
    · exact .deactivate id hnone
    · cases hactive
  | setOrgStatus id status => exact refusal_of_setOrgStatus h
  | affiliate a => exact refusal_of_affiliate h
  | removeAffiliation a => cases h
  | subscribe sub => exact refusal_of_subscribe h

end Broken

/-! ## Every broken rule is noticed -/

open Update in
theorem Refusal.perform {s : Store} (hs : s.Integrity) {w : Write} {fault : StoreFault}
    (h : s.Refusal w fault) : s.perform w = (.error fault, s) := by
  cases h with
  | identifierTaken entity taken =>
    exact (on_putEntity s entity).trans (if_pos ((s.identifierTaken_iff entity).2 taken))
  | membershipExists m found =>
    have htaken := (s.memberships.contains_iff m.id).2 ⟨_, found⟩
    exact (on_addMembership s m).trans (if_pos htaken)
  | noOrgOrUser m fresh missing =>
    have hfresh := (s.memberships.not_contains_iff m.id).2 fresh
    have hmissing := (s.orgs.not_contains_and_iff s.users _ _).2 missing
    show (Update.addMembership m).on s = _
    rw [on_addMembership, if_neg hfresh, if_pos hmissing]
  | secondActive m fresh hasOrg hasUser active other sameUser sameOrg =>
    have hfresh := (s.memberships.not_contains_iff m.id).2 fresh
    have horg := (s.orgs.contains_iff m.orgId).2 ⟨_, hasOrg⟩
    have huser := (s.users.contains_iff m.userId).2 ⟨_, hasUser⟩
    have hsecond := (hasActive_iff_exists_active hs _ _).2 ⟨_, other, sameUser, sameOrg⟩
    show (Update.addMembership m).on s = _
    rw [on_addMembership, if_neg hfresh, if_neg (not_not_intro ⟨horg, huser⟩),
      if_pos ⟨active, hsecond⟩]
  | changeRole id role missing => exact on_missing missing _
  | setMembershipStatus id status missing => exact on_missing missing _
  | reactivation id found inactive other distinct sameUser sameOrg =>
    have hsecond := (hasActive_iff_exists_active hs _ _).2 ⟨_, other, sameUser, sameOrg⟩
    exact (on_setMembershipStatus found .active).trans
      (if_pos ⟨rfl, by simp [inactive], hsecond⟩)
  | deactivate id missing => exact on_missing missing _
  | setOrgStatus id status missing => exact on_missing missing _
  | affiliate a missing =>
    have hmissing := (s.orgs.not_contains_and_iff s.entities _ _).2 missing
    exact (on_affiliate s a).trans (if_pos hmissing)
  | subscribe sub missing =>
    exact (on_subscribe s sub).trans (if_pos ((s.orgs.not_contains_iff sub.orgId).2 missing))

/-! ## What the other writes change -/

/-- Outside of one place the two stores hold the same. -/
structure SameBut (s : Store) (slot : Slot) (t : Store) : Prop where
  orgs : ∀ id, slot ≠ .org id → t.orgs.find? id = s.orgs.find? id
  users : ∀ id, slot ≠ .user id → t.users.find? id = s.users.find? id
  entities : ∀ id, slot ≠ .entity id → t.entities.find? id = s.entities.find? id
  memberships : ∀ id, slot ≠ .membership id → t.memberships.find? id = s.memberships.find? id
  affiliations : ∀ a, slot ≠ .affiliation a → t.affiliations.find? a = s.affiliations.find? a
  subscriptions : ∀ key, slot ≠ .subscription key →
    t.subscriptions.find? key = s.subscriptions.find? key

/-- What stands in its place once the write has been carried out. -/
def Leaves (s : Store) : Write → Store → Prop
  | .putOrg org, t => t.orgs.find? org.id = some org
  | .putUser user, t => t.users.find? user.id = some user
  | .putEntity entity, t => t.entities.find? entity.id = some entity
  | .addMembership m, t => t.memberships.find? m.id = some m
  | .changeRole id role, t =>
    ∃ m, s.memberships.find? id = some m ∧ t.memberships.find? id = some { m with role := role }
  | .setMembershipStatus id status, t =>
    ∃ m, s.memberships.find? id = some m ∧
      t.memberships.find? id = some { m with status := status }
  | .deactivate id, t =>
    ∃ m, s.memberships.find? id = some m ∧
      t.memberships.find? id = some { m with status := .inactive }
  | .setOrgStatus id status, t =>
    ∃ org, s.orgs.find? id = some org ∧ t.orgs.find? id = some { org with statusCode := status }
  | .affiliate a, t => t.affiliations.find? a = some ()
  | .removeAffiliation a, t => t.affiliations.find? a = none
  | .subscribe sub, t => t.subscriptions.find? (sub.orgId, sub.productCode) = some sub

theorem SameBut.refl (s : Store) (slot : Slot) : s.SameBut slot s where
  orgs _ _ := rfl
  users _ _ := rfl
  entities _ _ := rfl
  memberships _ _ := rfl
  affiliations _ _ := rfl
  subscriptions _ _ := rfl

theorem sameBut_insertOrg (s : Store) (id : OrgId) (org : Org) :
    s.SameBut (.org id) { s with orgs := s.orgs.insert id org } :=
  { SameBut.refl s _ with
    orgs := fun _ hne => s.orgs.find?_insert_of_ne (fun heq => hne (congrArg _ heq.symm)) org }

theorem sameBut_insertMembership (s : Store) (id : MembershipId) (m : Membership) :
    s.SameBut (.membership id) { s with memberships := s.memberships.insert id m } :=
  { SameBut.refl s _ with
    memberships := fun _ hne =>
      s.memberships.find?_insert_of_ne (fun heq => hne (congrArg _ heq.symm)) m }

theorem Change.sameBut {s t : Store} {w : Write} (h : s.Change w t) : s.SameBut w.slot t := by
  cases h with
  | putOrg org => exact s.sameBut_insertOrg org.id org
  | putUser user =>
    refine { SameBut.refl s _ with users := ?_ }
    intro id hne
    exact s.users.find?_insert_of_ne (fun heq => hne (congrArg _ heq.symm)) user
  | putEntity entity free =>
    refine { SameBut.refl s _ with entities := ?_ }
    intro id hne
    exact s.entities.find?_insert_of_ne (fun heq => hne (congrArg _ heq.symm)) entity
  | addMembership m fresh hasOrg hasUser alone => exact s.sameBut_insertMembership m.id m
  | changeRole id role found => exact s.sameBut_insertMembership id _
  | setMembershipStatus id status found alone => exact s.sameBut_insertMembership id _
  | deactivate id found => exact s.sameBut_insertMembership id _
  | setOrgStatus id status found => exact s.sameBut_insertOrg id _
  | affiliate a hasOrg hasEntity =>
    refine { SameBut.refl s _ with affiliations := ?_ }
    intro b hne
    exact s.affiliations.find?_insert_of_ne (fun heq => hne (congrArg _ heq.symm)) ()
  | removeAffiliation a =>
    refine { SameBut.refl s _ with affiliations := ?_ }
    intro b hne
    exact s.affiliations.find?_erase_of_ne (fun heq => hne (congrArg _ heq.symm))
  | subscribe sub hasOrg =>
    refine { SameBut.refl s _ with subscriptions := ?_ }
    intro key hne
    exact s.subscriptions.find?_insert_of_ne (fun heq => hne (congrArg _ heq.symm)) sub

theorem Change.leaves {s t : Store} {w : Write} (h : s.Change w t) : s.Leaves w t := by
  cases h with
  | putOrg org => exact s.orgs.find?_insert_self org.id org
  | putUser user => exact s.users.find?_insert_self user.id user
  | putEntity entity free => exact s.entities.find?_insert_self entity.id entity
  | addMembership m fresh hasOrg hasUser alone => exact s.memberships.find?_insert_self m.id m
  | changeRole id role found => exact ⟨_, found, s.memberships.find?_insert_self id _⟩
  | setMembershipStatus id status found alone =>
    exact ⟨_, found, s.memberships.find?_insert_self id _⟩
  | deactivate id found => exact ⟨_, found, s.memberships.find?_insert_self id _⟩
  | setOrgStatus id status found => exact ⟨_, found, s.orgs.find?_insert_self id _⟩
  | affiliate a hasOrg hasEntity => exact s.affiliations.find?_insert_self a ()
  | removeAffiliation a => exact s.affiliations.find?_erase_self a
  | subscribe sub hasOrg => exact s.subscriptions.find?_insert_self _ sub

/-- What comes of a write. It is refused for the rules listed and for no others, with a fault that
says that something is not found or that a rule is broken, and then it leaves all six tables as they
were. When it is carried out, the record that it names becomes what the write makes of it, and every
other record of all six tables stays. -/
theorem perform_outcome {s : Store} (h : s.Reachable) (w : Write) :
    (∀ fault, (s.perform w).1 = .error fault ↔ s.Refusal w fault) ∧
      (∀ fault, (s.perform w).1 = .error fault → s.after w = s ∧
        (fault.asDomainFault = .notFound ↔ fault = .notFound) ∧
        ((∃ reason, fault.asDomainFault = .invalid reason) ↔ fault ≠ .notFound)) ∧
      ((s.perform w).1 = .ok () → s.Leaves w (s.after w) ∧ s.SameBut w.slot (s.after w)) := by
  have hs := h.integrity
  refine ⟨?_, ?_, ?_⟩
  · intro fault
    exact ⟨refusal_of_perform hs, fun hrefusal => congrArg Prod.fst (hrefusal.perform hs)⟩
  · intro fault hrefused
    exact ⟨after_of_refused hrefused, fault.asDomainFault_kind⟩
  · intro hdone
    have hchange : s.Change w (s.after w) := change_of_perform (Prod.ext hdone rfl)
    exact ⟨hchange.leaves, hchange.sameBut⟩

/-- The membership `1` may not be active beside the membership `2`, and the membership `3` may
get another role. -/
theorem perform_outcome_sample :
    sample.Reachable ∧
      (sample.perform (.setMembershipStatus ⟨1⟩ .active)).1 =
        .error (.secondActiveMembership ⟨1⟩ ⟨1⟩) ∧
      sample.after (.setMembershipStatus ⟨1⟩ .active) = sample ∧
      (sample.perform (.changeRole ⟨3⟩ .owner)).1 = .ok () ∧
      sample.SameBut (.membership ⟨3⟩) (sample.after (.changeRole ⟨3⟩ .owner)) := by
  obtain ⟨hrefusal, hkept, _⟩ :=
    perform_outcome reachable_sample (.setMembershipStatus ⟨1⟩ .active)
  have hold : sample.memberships.find? ⟨1⟩ = some ⟨⟨1⟩, ⟨1⟩, ⟨1⟩, .owner, .inactive⟩ := by
    decide +kernel
  have hother : sample.Active (.active ⟨2⟩ ⟨1⟩ ⟨1⟩ .user) := ⟨by decide +kernel, rfl⟩
  have hrefused : (sample.perform (.setMembershipStatus ⟨1⟩ .active)).1 =
      .error (.secondActiveMembership ⟨1⟩ ⟨1⟩) :=
    (hrefusal _).2 (.reactivation ⟨1⟩ hold rfl hother (by decide) rfl rfl)
  have hthird : sample.memberships.find? ⟨3⟩ = some (.active ⟨3⟩ ⟨2⟩ ⟨1⟩ .admin) := by
    decide +kernel
  have hdone : (sample.perform (.changeRole ⟨3⟩ .owner)).1 = .ok () :=
    congrArg Prod.fst (Change.changeRole ⟨3⟩ .owner hthird).perform
  obtain ⟨_, _, hleft⟩ := perform_outcome reachable_sample (.changeRole ⟨3⟩ .owner)
  exact ⟨reachable_sample, hrefused, (hkept _ hrefused).1, hdone, (hleft hdone).2⟩

end Store

end OrgAccess
