import OrgAccess.Proofs.Store.Update
import OrgAccess.Proofs.Table

/-! What the writes do. A write that is not refused puts one record under its key or takes one
affiliation away, and `Change` lists these outcomes with the conditions under which they occur.
Everything a run keeps is proved by cases on this relation, without looking at the writes. -/

namespace OrgAccess.Store

theorem hasActive_iff (s : Store) (user : UserId) (org : OrgId) :
    s.hasActive user org = true ↔
      ∃ k m, s.memberships.find? k = some m ∧ m.userId = user ∧ m.orgId = org ∧
        m.isActive = true := by
  unfold hasActive
  rw [List.any_eq_true]
  constructor
  · rintro ⟨m, hm, hp⟩
    obtain ⟨k, hk⟩ := (s.memberships.mem_values_iff m).1 hm
    exact ⟨k, m, hk, of_decide_eq_true hp⟩
  · rintro ⟨k, m, hk, hp⟩
    exact ⟨m, (s.memberships.mem_values_iff m).2 ⟨k, hk⟩, decide_eq_true hp⟩

/-- An entity under another identifier has the business identifier of this one. -/
def IdentifierTaken (s : Store) (entity : Entity) : Prop :=
  ∃ k e, s.entities.find? k = some e ∧ e.businessIdentifier = entity.businessIdentifier ∧
    e.id ≠ entity.id

theorem identifierTaken_iff (s : Store) (entity : Entity) :
    (s.entities.values.any fun e =>
      e.businessIdentifier = entity.businessIdentifier ∧ e.id ≠ entity.id) = true ↔
      s.IdentifierTaken entity := by
  rw [List.any_eq_true]
  constructor
  · rintro ⟨e, he, hp⟩
    obtain ⟨k, hk⟩ := (s.entities.mem_values_iff e).1 he
    exact ⟨k, e, hk, of_decide_eq_true hp⟩
  · rintro ⟨k, e, hk, hp⟩
    exact ⟨e, (s.entities.mem_values_iff e).2 ⟨k, hk⟩, decide_eq_true hp⟩

/-- The second store is what a write makes of the first, and the write is not refused. -/
inductive Change (s : Store) : Write → Store → Prop where
  | putOrg (org : Org) : Change s (.putOrg org) { s with orgs := s.orgs.insert org.id org }
  | putUser (user : User) : Change s (.putUser user) { s with users := s.users.insert user.id user }
  | putEntity (entity : Entity) (free : ¬ s.IdentifierTaken entity) :
    Change s (.putEntity entity) { s with entities := s.entities.insert entity.id entity }
  | addMembership (m : Membership) {org : Org} {user : User}
      (fresh : s.memberships.find? m.id = none) (hasOrg : s.orgs.find? m.orgId = some org)
      (hasUser : s.users.find? m.userId = some user)
      (alone : m.isActive = true → ¬ s.hasActive m.userId m.orgId = true) :
    Change s (.addMembership m) { s with memberships := s.memberships.insert m.id m }
  | changeRole (id : MembershipId) (role : Role) {m : Membership}
      (found : s.memberships.find? id = some m) :
    Change s (.changeRole id role)
      { s with memberships := s.memberships.insert id { m with role := role } }
  | setMembershipStatus (id : MembershipId) (status : MembershipStatus) {m : Membership}
      (found : s.memberships.find? id = some m)
      (alone : status = .active → m.isActive = false → ¬ s.hasActive m.userId m.orgId = true) :
    Change s (.setMembershipStatus id status)
      { s with memberships := s.memberships.insert id { m with status := status } }
  | deactivate (id : MembershipId) {m : Membership} (found : s.memberships.find? id = some m) :
    Change s (.deactivate id)
      { s with memberships := s.memberships.insert id { m with status := .inactive } }
  | setOrgStatus (id : OrgId) (status : OrgStatus) {org : Org}
      (found : s.orgs.find? id = some org) :
    Change s (.setOrgStatus id status) { s with orgs := s.orgs.insert id (org.withStatus status) }
  | affiliate (a : Affiliation) {org : Org} {entity : Entity}
      (hasOrg : s.orgs.find? a.orgId = some org)
      (hasEntity : s.entities.find? a.entityId = some entity) :
    Change s (.affiliate a) { s with affiliations := s.affiliations.insert a () }
  | removeAffiliation (a : Affiliation) :
    Change s (.removeAffiliation a) { s with affiliations := s.affiliations.erase a }
  | subscribe (sub : Subscription) {org : Org} (hasOrg : s.orgs.find? sub.orgId = some org) :
    Change s (.subscribe sub)
      { s with subscriptions := s.subscriptions.insert (sub.orgId, sub.productCode) sub }

section Outcomes
open Update
variable {s t : Store}

theorem change_of_putEntity {entity : Entity} (h : (Update.putEntity entity).on s = (.ok (), t)) :
    s.Change (.putEntity entity) t := by
  rw [on_putEntity] at h
  split at h
  · cases h
  · rename_i hfree
    cases h
    exact .putEntity entity (mt (s.identifierTaken_iff entity).2 hfree)

theorem change_of_addMembership {m : Membership}
    (h : (Update.addMembership m).on s = (.ok (), t)) : s.Change (.addMembership m) t := by
  rw [on_addMembership] at h
  split at h
  · cases h
  · rename_i hfresh
    split at h
    · cases h
    · rename_i hrefs
      split at h
      · cases h
      · rename_i halone
        cases h
        obtain ⟨horg, huser⟩ := Decidable.not_not.1 hrefs
        obtain ⟨org, horg⟩ := (s.orgs.contains_iff m.orgId).1 horg
        obtain ⟨user, huser⟩ := (s.users.contains_iff m.userId).1 huser
        exact .addMembership m ((s.memberships.not_contains_iff m.id).1 hfresh) horg huser
          fun hactive hother => halone ⟨hactive, hother⟩

theorem change_of_changeRole {id : MembershipId} {role : Role}
    (h : (Update.changeRole id role).on s = (.ok (), t)) : s.Change (.changeRole id role) t := by
  cases hm : s.memberships.find? id with
  | none =>
    rw [Update.changeRole, on_missing hm] at h
    cases h
  | some m =>
    rw [on_changeRole hm] at h
    cases h
    exact .changeRole id role hm

theorem setMembershipStatus_eq_ok {id : MembershipId} {status : MembershipStatus}
    (h : (Update.setMembershipStatus id status).on s = (.ok (), t)) :
    ∃ m, s.memberships.find? id = some m ∧
      (status = .active → m.isActive = false → ¬ s.hasActive m.userId m.orgId = true) ∧
      t = { s with memberships := s.memberships.insert id { m with status := status } } := by
  cases hm : s.memberships.find? id with
  | none =>
    rw [Update.setMembershipStatus, on_missing hm] at h
    cases h
  | some m =>
    rw [on_setMembershipStatus hm] at h
    split at h
    · cases h
    · rename_i halone
      cases h
      exact ⟨m, rfl, fun hs hm hb => halone ⟨hs, by simp [hm], hb⟩, rfl⟩

theorem change_of_setOrgStatus {id : OrgId} {status : OrgStatus}
    (h : (Update.setOrgStatus id status).on s = (.ok (), t)) :
    s.Change (.setOrgStatus id status) t := by
  cases ho : s.orgs.find? id with
  | none =>
    rw [Update.setOrgStatus, on_missing ho] at h
    cases h
  | some org =>
    rw [on_setOrgStatus ho] at h
    cases h
    exact .setOrgStatus id status ho

theorem change_of_affiliate {a : Affiliation} (h : (Update.affiliate a).on s = (.ok (), t)) :
    s.Change (.affiliate a) t := by
  rw [on_affiliate] at h
  split at h
  · cases h
  · rename_i hrefs
    cases h
    obtain ⟨horg, hentity⟩ := Decidable.not_not.1 hrefs
    obtain ⟨org, horg⟩ := (s.orgs.contains_iff a.orgId).1 horg
    obtain ⟨entity, hentity⟩ := (s.entities.contains_iff a.entityId).1 hentity
    exact .affiliate a horg hentity

theorem change_of_subscribe {sub : Subscription} (h : (Update.subscribe sub).on s = (.ok (), t)) :
    s.Change (.subscribe sub) t := by
  rw [on_subscribe] at h
  split at h
  · cases h
  · rename_i horg
    cases h
    obtain ⟨org, horg⟩ := (s.orgs.contains_iff sub.orgId).1 (Decidable.not_not.1 horg)
    exact .subscribe sub horg

/-- A write that is not refused makes one of the listed changes. -/
theorem change_of_perform {w : Write} (h : s.perform w = (.ok (), t)) : s.Change w t := by
  cases w with
  | putOrg org =>
    cases h
    exact .putOrg org
  | putUser user =>
    cases h
    exact .putUser user
  | putEntity entity => exact change_of_putEntity h
  | addMembership m => exact change_of_addMembership h
  | changeRole id role => exact change_of_changeRole h
  | setMembershipStatus id status =>
    obtain ⟨m, hm, halone, rfl⟩ := setMembershipStatus_eq_ok h
    exact .setMembershipStatus id status hm halone
  | deactivate id =>
    obtain ⟨m, hm, _, rfl⟩ := setMembershipStatus_eq_ok h
    exact .deactivate id hm
  | setOrgStatus id status => exact change_of_setOrgStatus h
  | affiliate a => exact change_of_affiliate h
  | removeAffiliation a =>
    cases h
    exact .removeAffiliation a
  | subscribe sub => exact change_of_subscribe h

/-- Each of the listed changes is what its write makes of the store. -/
theorem Change.perform {w : Write} (h : s.Change w t) : s.perform w = (.ok (), t) := by
  cases h with
  | putOrg org => rfl
  | putUser user => rfl
  | putEntity entity free =>
    exact (on_putEntity s entity).trans (if_neg (mt (s.identifierTaken_iff entity).1 free))
  | addMembership m fresh hasOrg hasUser alone =>
    have hfresh := (s.memberships.not_contains_iff m.id).2 fresh
    have horg := (s.orgs.contains_iff m.orgId).2 ⟨_, hasOrg⟩
    have huser := (s.users.contains_iff m.userId).2 ⟨_, hasUser⟩
    show (Update.addMembership m).on s = _
    rw [on_addMembership, if_neg hfresh, if_neg (not_not_intro ⟨horg, huser⟩),
      if_neg fun hsecond => alone hsecond.1 hsecond.2]
  | changeRole id role found => exact on_changeRole found role
  | @setMembershipStatus id status m found alone =>
    refine (on_setMembershipStatus found status).trans (if_neg ?_)
    rintro ⟨hstatus, hinactive, hother⟩
    exact alone hstatus (by simpa using hinactive) hother
  | deactivate id found =>
    exact (on_setMembershipStatus found .inactive).trans (if_neg (by simp))
  | setOrgStatus id status found => exact on_setOrgStatus found status
  | affiliate a hasOrg hasEntity =>
    have horg := (s.orgs.contains_iff a.orgId).2 ⟨_, hasOrg⟩
    have hentity := (s.entities.contains_iff a.entityId).2 ⟨_, hasEntity⟩
    exact (on_affiliate s a).trans (if_neg (not_not_intro ⟨horg, hentity⟩))
  | removeAffiliation a => rfl
  | subscribe sub hasOrg =>
    have horg := (s.orgs.contains_iff sub.orgId).2 ⟨_, hasOrg⟩
    exact (on_subscribe s sub).trans (if_neg (not_not_intro horg))

end Outcomes

/-- A write is refused and leaves the store as it was, or it makes a change. -/
theorem perform_cases (s : Store) (w : Write) :
    (∃ fault, s.perform w = (.error fault, s)) ∨
      ∃ t, s.perform w = (.ok (), t) ∧ s.Change w t := by
  cases h : s.perform w with
  | mk answer t =>
    cases answer with
    | error fault =>
      have hsame : t = s := by
        have hkept := after_of_refused (congrArg Prod.fst h)
        rwa [after, h] at hkept
      rw [hsame]
      exact Or.inl ⟨fault, rfl⟩
    | ok answer =>
      cases answer
      exact Or.inr ⟨t, rfl, change_of_perform h⟩

/-- After a write the store is what it was, or one change on. -/
theorem after_cases (s : Store) (w : Write) : s.after w = s ∨ s.Change w (s.after w) := by
  rcases s.perform_cases w with ⟨fault, h⟩ | ⟨t, h, hchange⟩
  · exact Or.inl (congrArg Prod.snd h)
  · rw [after, h]
    exact Or.inr hchange

/-- One more write leads from a reachable store to a reachable store. -/
theorem Reachable.after {s : Store} (h : s.Reachable) (w : Write) : (s.after w).Reachable := by
  obtain ⟨ws, rfl⟩ := h
  exact ⟨ws ++ [w], by simp [run]⟩

/-- A property that every change keeps holds after every run of writes. -/
theorem run_induction {P : Store → Prop} (hstep : ∀ s t w, s.Change w t → P s → P t) {s : Store}
    (hs : P s) (ws : List Write) : P (s.run ws) := by
  induction ws generalizing s with
  | nil => exact hs
  | cons w ws ih =>
    refine ih ?_
    show P (s.after w)
    rcases s.after_cases w with heq | hchange
    · rw [heq]
      exact hs
    · exact hstep s (s.after w) w hchange hs

/-- A property holds from the beginning of a run to its end just when no write of the run breaks
it. What breaks it may be told with the help of an invariant `I`. -/
theorem throughout_iff {I P : Store → Prop} {Breaks : Store → Write → Prop}
    (hI : ∀ s w, I s → I (s.after w))
    (hstep : ∀ s w, I s → P s → (P (s.after w) ↔ ¬ Breaks s w)) {s : Store} (hi : I s) (hp : P s)
    (ws : List Write) :
    (∀ before after, ws = before ++ after → P (s.run before)) ↔
      ∀ before w after, ws = before ++ w :: after → ¬ Breaks (s.run before) w := by
  have hrun : ∀ (vs : List Write) (t : Store), I t → I (t.run vs) := by
    intro vs
    induction vs with
    | nil => exact fun _ ht => ht
    | cons v vs ih => exact fun t ht => ih (t.after v) (hI t v ht)
  constructor
  · intro hall before w after hws
    have hnow : P (s.run before) := hall before (w :: after) hws
    have hnext : P ((s.run before).after w) := by
      have := hall (before ++ [w]) after (by simp [hws])
      simpa [run] using this
    exact (hstep _ w (hrun before s hi) hnow).1 hnext
  · intro hfree before after hws
    induction before generalizing s ws with
    | nil => exact hp
    | cons w before ih =>
      have hnext : P (s.after w) := (hstep s w hi hp).2 (hfree [] w (before ++ after) hws)
      refine ih (hI s w hi) hnext (before ++ after) ?_ rfl
      intro first v last hlast
      exact hfree (w :: first) v last (by rw [hws, List.cons_append, hlast, List.cons_append])

end OrgAccess.Store
