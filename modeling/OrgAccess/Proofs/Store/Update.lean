import OrgAccess.Proofs.Table
import OrgAccess.Store

/-! Updates, step by step. Some steps only look at the store. An update that looks first and changes
the store in its last step is atomic: where it fails, nothing has been changed. Every write is of
this form, and what it does to a store is an equation beside it. -/

namespace OrgAccess

namespace Update

variable {α β : Type}

/-! ## One step and the next -/

theorem on_bind_of_ok {u : Update α} {s t : Store} {a : α} (h : u.on s = (.ok a, t))
    (next : α → Update β) : (u >>= next).on s = (next a).on t := by
  show ExceptT.bindCont next (u.on s).1 (u.on s).2 = _
  rw [h]
  rfl

theorem on_bind_of_error {u : Update α} {s t : Store} {fault : StoreFault}
    (h : u.on s = (.error fault, t)) (next : α → Update β) :
    (u >>= next).on s = (.error fault, t) := by
  show ExceptT.bindCont next (u.on s).1 (u.on s).2 = _
  rw [h]
  rfl

theorem on_get (s : Store) : on get s = (.ok s, s) := rfl

theorem on_modify (f : Store → Store) (s : Store) : on (modify f) s = (.ok (), f s) := rfl

theorem on_refuseIf (broken : Store → Bool) (fault : StoreFault) (s : Store) :
    (refuseIf broken fault).on s = if broken s then (.error fault, s) else (.ok (), s) := by
  rw [refuseIf, on_bind_of_ok (on_get s)]
  split <;> rfl

/-- What comes after a rule is done where the rule is kept. -/
theorem on_refuseIf_bind (broken : Store → Bool) (fault : StoreFault) (next : Unit → Update β)
    (s : Store) :
    (refuseIf broken fault >>= next).on s =
      if broken s then (.error fault, s) else (next ()).on s := by
  have hstep := on_refuseIf broken fault s
  by_cases hbroken : broken s = true
  · rw [if_pos hbroken] at hstep ⊢
    exact on_bind_of_error hstep next
  · rw [if_neg hbroken] at hstep ⊢
    exact on_bind_of_ok hstep next

section Require
variable {find? : Store → Option α} {s : Store}

theorem on_require_of_some {a : α} (h : find? s = some a) :
    (require find?).on s = (.ok a, s) := by
  rw [require, on_bind_of_ok (on_get s), h]
  rfl

theorem on_require_of_none (h : find? s = none) :
    (require find?).on s = (.error .notFound, s) := by
  rw [require, on_bind_of_ok (on_get s), h]
  rfl

/-- A record that is looked up first has to be there. -/
theorem on_missing (h : find? s = none) (next : α → Update β) :
    (require find? >>= next).on s = (.error .notFound, s) :=
  on_bind_of_error (on_require_of_none h) next

end Require

/-! ## Looking before changing -/

/-- The update changes nothing. -/
def Looks (u : Update α) : Prop := ∀ s, (u.on s).2 = s

/-- Where the update fails it has changed nothing. -/
def Atomic (u : Update α) : Prop := ∀ s fault, (u.on s).1 = .error fault → (u.on s).2 = s

theorem looks_refuseIf (broken : Store → Bool) (fault : StoreFault) :
    (refuseIf broken fault).Looks := by
  intro s
  rw [on_refuseIf]
  split <;> rfl

theorem looks_require (find? : Store → Option α) : (require find?).Looks := by
  intro s
  cases h : find? s with
  | none => rw [on_require_of_none h]
  | some a => rw [on_require_of_some h]

theorem atomic_modify (f : Store → Store) : Atomic (modify f) := by
  intro s fault h
  rw [on_modify] at h
  cases h

/-- An atomic update may be put after one that looks. It may not be put after one that changes the
store, which would stay changed. -/
theorem Looks.bind {u : Update α} {next : α → Update β} (hu : u.Looks)
    (hnext : ∀ a, (next a).Atomic) : (u >>= next).Atomic := by
  intro s fault h
  cases hfirst : u.on s with
  | mk answer t =>
    have hsame : t = s := by
      have hlooks := hu s
      rwa [hfirst] at hlooks
    subst hsame
    cases answer with
    | error e => rw [on_bind_of_error hfirst]
    | ok a =>
      rw [on_bind_of_ok hfirst] at h ⊢
      exact hnext a _ fault h

/-- An org that is put in before a failure stays. -/
example (org : Org) : (putOrg org >>= fun _ => throw .notFound : Update Unit).on .empty =
    (.error .notFound, { orgs := (∅ : Table OrgId Org).insert org.id org }) := rfl

/-! ## The writes -/

section Writes
variable (s : Store)

theorem on_putEntity (entity : Entity) : (putEntity entity).on s =
    if s.entities.values.any (fun e =>
        e.businessIdentifier = entity.businessIdentifier ∧ e.id ≠ entity.id) then
      (.error (.identifierTaken entity.businessIdentifier), s)
    else (.ok (), { s with entities := s.entities.insert entity.id entity }) := by
  rw [putEntity, on_refuseIf_bind, on_modify]

theorem on_addMembership (m : Membership) : (addMembership m).on s =
    if s.memberships.contains m.id then (.error (.membershipExists m.id), s)
    else if ¬ (s.orgs.contains m.orgId ∧ s.users.contains m.userId) then (.error .notFound, s)
    else if m.isActive ∧ s.hasActive m.userId m.orgId then
      (.error (.secondActiveMembership m.userId m.orgId), s)
    else (.ok (), { s with memberships := s.memberships.insert m.id m }) := by
  simp only [addMembership, on_refuseIf_bind, on_modify, decide_eq_true_eq]

theorem on_affiliate (a : Affiliation) : (affiliate a).on s =
    if ¬ (s.orgs.contains a.orgId ∧ s.entities.contains a.entityId) then (.error .notFound, s)
    else (.ok (), { s with affiliations := s.affiliations.insert a () }) := by
  simp only [affiliate, on_refuseIf_bind, on_modify, decide_eq_true_eq]

theorem on_subscribe (sub : Subscription) : (subscribe sub).on s =
    if ¬ s.orgs.contains sub.orgId then (.error .notFound, s)
    else (.ok (), { s with
      subscriptions := s.subscriptions.insert (sub.orgId, sub.productCode) sub }) := by
  simp only [subscribe, on_refuseIf_bind, on_modify, decide_eq_true_eq]

variable {s}

theorem on_changeRole {id : MembershipId} {m : Membership} (h : s.memberships.find? id = some m)
    (role : Role) : (changeRole id role).on s =
      (.ok (), { s with memberships := s.memberships.insert id { m with role := role } }) := by
  rw [changeRole, on_bind_of_ok (on_require_of_some h), on_modify, Table.modify_eq_insert _ _ _ h]

theorem on_setMembershipStatus {id : MembershipId} {m : Membership}
    (h : s.memberships.find? id = some m) (status : MembershipStatus) :
    (setMembershipStatus id status).on s =
      if status = .active ∧ ¬ m.isActive ∧ s.hasActive m.userId m.orgId then
        (.error (.secondActiveMembership m.userId m.orgId), s)
      else (.ok (), { s with
        memberships := s.memberships.insert id { m with status := status } }) := by
  rw [setMembershipStatus, on_bind_of_ok (on_require_of_some h), on_refuseIf_bind, on_modify,
    Table.modify_eq_insert _ _ _ h]
  simp only [decide_eq_true_eq]

theorem on_setOrgStatus {id : OrgId} {org : Org} (h : s.orgs.find? id = some org)
    (status : OrgStatus) : (setOrgStatus id status).on s =
      (.ok (), { s with orgs := s.orgs.insert id (org.withStatus status) }) := by
  rw [setOrgStatus, on_bind_of_ok (on_require_of_some h), on_modify,
    Table.modify_eq_insert _ _ _ h]

end Writes

theorem atomic_putEntity (entity : Entity) : (putEntity entity).Atomic :=
  (looks_refuseIf _ _).bind fun _ => atomic_modify _

theorem atomic_addMembership (m : Membership) : (addMembership m).Atomic := by
  refine (looks_refuseIf _ _).bind fun _ => ?_
  refine (looks_refuseIf _ _).bind fun _ => ?_
  exact (looks_refuseIf _ _).bind fun _ => atomic_modify _

theorem atomic_changeRole (id : MembershipId) (role : Role) : (changeRole id role).Atomic :=
  (looks_require _).bind fun _ => atomic_modify _

theorem atomic_setMembershipStatus (id : MembershipId) (status : MembershipStatus) :
    (setMembershipStatus id status).Atomic := by
  refine (looks_require _).bind fun _ => ?_
  exact (looks_refuseIf _ _).bind fun _ => atomic_modify _

theorem atomic_setOrgStatus (id : OrgId) (status : OrgStatus) : (setOrgStatus id status).Atomic :=
  (looks_require _).bind fun _ => atomic_modify _

theorem atomic_affiliate (a : Affiliation) : (affiliate a).Atomic :=
  (looks_refuseIf _ _).bind fun _ => atomic_modify _

theorem atomic_subscribe (sub : Subscription) : (subscribe sub).Atomic :=
  (looks_refuseIf _ _).bind fun _ => atomic_modify _

end Update

theorem Write.atomic_update (w : Write) : w.update.Atomic := by
  cases w with
  | putOrg org => exact Update.atomic_modify _
  | putUser user => exact Update.atomic_modify _
  | putEntity entity => exact Update.atomic_putEntity entity
  | addMembership m => exact Update.atomic_addMembership m
  | changeRole id role => exact Update.atomic_changeRole id role
  | setMembershipStatus id status => exact Update.atomic_setMembershipStatus id status
  | deactivate id => exact Update.atomic_setMembershipStatus id .inactive
  | setOrgStatus id status => exact Update.atomic_setOrgStatus id status
  | affiliate a => exact Update.atomic_affiliate a
  | removeAffiliation a => exact Update.atomic_modify _
  | subscribe sub => exact Update.atomic_subscribe sub

/-- A refused write leaves the store as it was. -/
theorem Store.after_of_refused {s : Store} {w : Write} {fault : StoreFault}
    (h : (s.perform w).1 = .error fault) : s.after w = s :=
  w.atomic_update s fault h

end OrgAccess
