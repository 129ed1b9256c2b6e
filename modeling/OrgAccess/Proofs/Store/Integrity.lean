import OrgAccess.Proofs.Store.Change

/-! The integrity of a store: what its tables promise to each other and to themselves. The empty
store has it, every change keeps it, and so every reachable store has it. -/

namespace OrgAccess.Store

/-- A user holds at most one active membership in an org. -/
def OneActive (memberships : Table MembershipId Membership) : Prop :=
  ∀ i j m n, memberships.find? i = some m → memberships.find? j = some n →
    m.isActive = true → n.isActive = true → m.userId = n.userId → m.orgId = n.orgId → i = j

/-- A business identifier belongs to at most one entity. -/
def OneIdentifier (entities : Table EntityId Entity) : Prop :=
  ∀ i j e f, entities.find? i = some e → entities.find? j = some f →
    e.businessIdentifier = f.businessIdentifier → i = j

/-- Records stand under their own keys, what is to be unique is unique, and every reference
leads somewhere. -/
structure Integrity (s : Store) : Prop where
  orgsKeyed : s.orgs.Keyed Org.id
  usersKeyed : s.users.Keyed User.id
  entitiesKeyed : s.entities.Keyed Entity.id
  membershipsKeyed : s.memberships.Keyed Membership.id
  subscriptionsKeyed : s.subscriptions.Keyed fun sub => (sub.orgId, sub.productCode)
  oneActive : OneActive s.memberships
  oneIdentifier : OneIdentifier s.entities
  membershipOrg : s.memberships.Refers (fun _ m => m.orgId) s.orgs
  membershipUser : s.memberships.Refers (fun _ m => m.userId) s.users
  affiliationOrg : s.affiliations.Refers (fun a _ => a.orgId) s.orgs
  affiliationEntity : s.affiliations.Refers (fun a _ => a.entityId) s.entities
  subscriptionOrg : s.subscriptions.Refers (fun _ sub => sub.orgId) s.orgs

theorem integrity_empty : empty.Integrity where
  orgsKeyed := Table.keyed_empty _
  usersKeyed := Table.keyed_empty _
  entitiesKeyed := Table.keyed_empty _
  membershipsKeyed := Table.keyed_empty _
  subscriptionsKeyed := Table.keyed_empty _
  oneActive := by
    intro i j m n hm
    cases hm
  oneIdentifier := by
    intro i j e f he
    cases he
  membershipOrg := Table.refers_empty _ _
  membershipUser := Table.refers_empty _ _
  affiliationOrg := Table.refers_empty _ _
  affiliationEntity := Table.refers_empty _ _
  subscriptionOrg := Table.refers_empty _ _

/-! ## One table changes -/

/-- A membership may be put under a key if, once active, it is alone in its org. -/
theorem OneActive.insert {t : Table MembershipId Membership} (h : OneActive t)
    {k : MembershipId} {m : Membership}
    (halone : m.isActive = true → ∀ j n, j ≠ k → t.find? j = some n → n.isActive = true →
      n.userId = m.userId → n.orgId ≠ m.orgId) : OneActive (t.insert k m) := by
  intro i j x y hx hy hax hay huser horg
  rcases (t.find?_insert_eq_some_iff k i m x).1 hx with ⟨rfl, rfl⟩ | ⟨hik, hold⟩
  · rcases (t.find?_insert_eq_some_iff i j m y).1 hy with ⟨rfl, _⟩ | ⟨hji, hold⟩
    · rfl
    · exact absurd horg.symm (halone hax j y hji hold hay huser.symm)
  · rcases (t.find?_insert_eq_some_iff k j m y).1 hy with ⟨rfl, rfl⟩ | ⟨_, hold'⟩
    · exact absurd horg (halone hay i x hik hold hax huser)
    · exact h i j x y hold hold' hax hay huser horg

/-- An entity whose business identifier no other entity has may be put under its key. -/
theorem OneIdentifier.insert {t : Table EntityId Entity} (h : OneIdentifier t)
    (hkeyed : t.Keyed Entity.id) {e : Entity}
    (hfree : ¬ ∃ k f, t.find? k = some f ∧ f.businessIdentifier = e.businessIdentifier ∧
      f.id ≠ e.id) : OneIdentifier (t.insert e.id e) := by
  have hown : ∀ k f, t.find? k = some f → f.businessIdentifier = e.businessIdentifier →
      k = e.id := by
    intro k f hf hid
    by_cases heq : f.id = e.id
    · exact (hkeyed k f hf).symm.trans heq
    · exact absurd ⟨k, f, hf, hid, heq⟩ hfree
  intro i j x y hx hy hid
  rcases (t.find?_insert_eq_some_iff e.id i e x).1 hx with ⟨hi, rfl⟩ | ⟨_, hold⟩
  · rcases (t.find?_insert_eq_some_iff e.id j e y).1 hy with ⟨hj, _⟩ | ⟨_, hold⟩
    · exact hi.trans hj.symm
    · exact hi.trans (hown j y hold hid.symm).symm
  · rcases (t.find?_insert_eq_some_iff e.id j e y).1 hy with ⟨hj, rfl⟩ | ⟨_, hold'⟩
    · exact (hown i x hold hid).trans hj.symm
    · exact h i j x y hold hold' hid

/-- A membership takes the place of one of the same user and org. If it is active, the old one
was, or the user held no active membership there: either way no other active membership clashes
with it. -/
theorem Integrity.replaceMembership {s : Store} (h : s.Integrity) {k : MembershipId}
    {m n : Membership} (hm : s.memberships.find? k = some m) (hid : n.id = m.id)
    (huser : n.userId = m.userId) (horg : n.orgId = m.orgId)
    (halone : n.isActive = true → m.isActive = true ∨ ¬ s.hasActive m.userId m.orgId = true) :
    ({ s with memberships := s.memberships.insert k n } : Store).Integrity := by
  obtain ⟨org, hhasOrg⟩ := h.membershipOrg k m hm
  obtain ⟨user, hhasUser⟩ := h.membershipUser k m hm
  exact { h with
    membershipsKeyed := h.membershipsKeyed.insert (hid.trans (h.membershipsKeyed k m hm))
    oneActive := by
      refine h.oneActive.insert ?_
      intro han j x hjk hx hax hxuser hxorg
      rw [huser] at hxuser
      rw [horg] at hxorg
      rcases halone han with ham | hnone
      · exact hjk (h.oneActive j k x m hx hm hax ham hxuser hxorg)
      · exact hnone ((s.hasActive_iff _ _).2 ⟨j, x, hx, hxuser, hxorg, hax⟩)
    membershipOrg := h.membershipOrg.insert (by rw [horg]; exact hhasOrg)
    membershipUser := h.membershipUser.insert (by rw [huser]; exact hhasUser) }

/-- An org takes its own key, new or not. -/
theorem Integrity.putOrg {s : Store} (h : s.Integrity) {k : OrgId} {org : Org}
    (hk : org.id = k) : ({ s with orgs := s.orgs.insert k org } : Store).Integrity :=
  { h with
    orgsKeyed := h.orgsKeyed.insert hk
    membershipOrg := h.membershipOrg.grow k org
    affiliationOrg := h.affiliationOrg.grow k org
    subscriptionOrg := h.subscriptionOrg.grow k org }

/-! ## One change, and every run -/

theorem Change.integrity {s t : Store} {w : Write} (h : s.Change w t) (hs : s.Integrity) :
    t.Integrity := by
  cases h with
  | putOrg org => exact hs.putOrg rfl
  | putUser user =>
    exact { hs with
      usersKeyed := hs.usersKeyed.insert rfl
      membershipUser := hs.membershipUser.grow user.id user }
  | putEntity entity free =>
    exact { hs with
      entitiesKeyed := hs.entitiesKeyed.insert rfl
      oneIdentifier := hs.oneIdentifier.insert hs.entitiesKeyed free
      affiliationEntity := hs.affiliationEntity.grow entity.id entity }
  | addMembership m fresh hasOrg hasUser alone =>
    exact { hs with
      membershipsKeyed := hs.membershipsKeyed.insert rfl
      oneActive := by
        refine hs.oneActive.insert ?_
        intro ham j n _ hn han huser horg
        exact alone ham ((s.hasActive_iff _ _).2 ⟨j, n, hn, huser, horg, han⟩)
      membershipOrg := hs.membershipOrg.insert hasOrg
      membershipUser := hs.membershipUser.insert hasUser }
  | changeRole id role found => exact hs.replaceMembership found rfl rfl rfl Or.inl
  | @setMembershipStatus id status m found alone =>
    refine hs.replaceMembership found rfl rfl rfl ?_
    intro hactive
    cases hm : m.isActive with
    | true => exact Or.inl rfl
    | false => exact Or.inr (alone (of_decide_eq_true hactive) hm)
  | deactivate id found =>
    refine hs.replaceMembership found rfl rfl rfl ?_
    intro hactive
    cases of_decide_eq_true hactive
  | @setOrgStatus id status org found =>
    have hid : (org.withStatus status).id = org.id := rfl
    exact hs.putOrg (hid.trans (hs.orgsKeyed id org found))
  | affiliate a hasOrg hasEntity =>
    exact { hs with
      affiliationOrg := hs.affiliationOrg.insert hasOrg
      affiliationEntity := hs.affiliationEntity.insert hasEntity }
  | removeAffiliation a =>
    exact { hs with
      affiliationOrg := hs.affiliationOrg.erase a
      affiliationEntity := hs.affiliationEntity.erase a }
  | subscribe sub hasOrg =>
    exact { hs with
      subscriptionsKeyed := hs.subscriptionsKeyed.insert rfl
      subscriptionOrg := hs.subscriptionOrg.insert hasOrg }

theorem Integrity.run {s : Store} (h : s.Integrity) (ws : List Write) : (s.run ws).Integrity :=
  run_induction (fun _ _ _ hchange hs => hchange.integrity hs) h ws

theorem Reachable.integrity {s : Store} (h : s.Reachable) : s.Integrity := by
  obtain ⟨ws, rfl⟩ := h
  exact integrity_empty.run ws

/-- The active memberships of a user in an org. -/
def activeMemberships (s : Store) (user : UserId) (org : OrgId) : List Membership :=
  s.memberships.values.filter fun m => m.userId = user ∧ m.orgId = org ∧ m.isActive

/-- Whatever writes were carried out or refused, a user holds at most one active membership in
an org, records stand under their own keys, business identifiers are unique, and no record
names an org, a user or an entity that is not there. -/
theorem tables_sound {s : Store} (h : s.Reachable) :
    (∀ user org, (s.activeMemberships user org).length ≤ 1) ∧
      (s.orgs.Keyed Org.id ∧ s.users.Keyed User.id ∧ s.entities.Keyed Entity.id ∧
        s.memberships.Keyed Membership.id ∧
        s.subscriptions.Keyed fun sub => (sub.orgId, sub.productCode)) ∧
      OneIdentifier s.entities ∧
      (s.memberships.Refers (fun _ m => m.orgId) s.orgs ∧
        s.memberships.Refers (fun _ m => m.userId) s.users) ∧
      (s.affiliations.Refers (fun a _ => a.orgId) s.orgs ∧
        s.affiliations.Refers (fun a _ => a.entityId) s.entities) ∧
      s.subscriptions.Refers (fun _ sub => sub.orgId) s.orgs := by
  have hs := h.integrity
  refine ⟨?_, ⟨hs.orgsKeyed, hs.usersKeyed, hs.entitiesKeyed, hs.membershipsKeyed,
    hs.subscriptionsKeyed⟩, hs.oneIdentifier, ⟨hs.membershipOrg, hs.membershipUser⟩,
    ⟨hs.affiliationOrg, hs.affiliationEntity⟩, hs.subscriptionOrg⟩
  intro user org
  refine s.memberships.length_filter_values_le_one _ ?_
  intro i j m n hm hn hpm hpn
  obtain ⟨hmu, hmo, hma⟩ := of_decide_eq_true hpm
  obtain ⟨hnu, hno, hna⟩ := of_decide_eq_true hpn
  exact hs.oneActive i j m n hm hn hma hna (hmu.trans hnu.symm) (hmo.trans hno.symm)

/-- The GUID of the user `1` below. -/
def sampleGuid : Guid := ⟨List.replicate 32 ⟨1, by decide⟩, rfl⟩

/-- Two orgs, two users and two entities. The user `1` has left and joined the org `1` again, and
the old membership is refused when it is to be made active beside the new one. -/
@[irreducible]
def sample : Store := empty.run [
  .putOrg (.basic ⟨1⟩ "Acme"), .putOrg (.basic ⟨2⟩ "Beta"), .setOrgStatus ⟨2⟩ .nsfSuspended,
  .putUser ⟨⟨1⟩, sampleGuid, "ada"⟩,
  .putUser ⟨⟨2⟩, ⟨List.replicate 32 ⟨2, by decide⟩, rfl⟩, "bob"⟩,
  .putEntity ⟨⟨1⟩, "BC0000001", "BC", none, none⟩,
  .putEntity ⟨⟨2⟩, "CP0000002", "CP", none, none⟩,
  .addMembership (.active ⟨1⟩ ⟨1⟩ ⟨1⟩ .owner), .deactivate ⟨1⟩,
  .addMembership (.active ⟨2⟩ ⟨1⟩ ⟨1⟩ .user), .setMembershipStatus ⟨1⟩ .active,
  .addMembership (.active ⟨3⟩ ⟨2⟩ ⟨1⟩ .admin), .addMembership (.active ⟨4⟩ ⟨1⟩ ⟨2⟩ .owner),
  .affiliate ⟨⟨1⟩, ⟨1⟩⟩, .affiliate ⟨⟨1⟩, ⟨2⟩⟩, .affiliate ⟨⟨2⟩, ⟨1⟩⟩,
  .subscribe (.active ⟨1⟩ "BUSINESS")]

theorem reachable_sample : sample.Reachable := by
  unfold sample
  exact ⟨_, rfl⟩

theorem tables_sound_sample : sample.Reachable ∧ sample.memberships.values.length = 4 ∧
    (sample.activeMemberships ⟨1⟩ ⟨1⟩).length ≤ 1 :=
  ⟨reachable_sample, by decide +kernel, (tables_sound reachable_sample).1 ⟨1⟩ ⟨1⟩⟩

end OrgAccess.Store
