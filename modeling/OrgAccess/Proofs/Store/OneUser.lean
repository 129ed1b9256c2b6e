import Mathlib.Control.Monad.Basic
import OrgAccess.Proofs.Resolution.Narrowing

/-! Users and their GUIDs. That a user holds one active membership in an org is kept for the
identifiers of users, while whoever asks is known by a GUID. The two meet where no GUID stands for
two users. A write of a user does not look for its GUID among the others, so this holds all through
a run just when none of its writes takes a GUID away from another user. -/

namespace OrgAccess.Store

/-- A GUID stands for at most one user. -/
def OneUser (users : Table UserId User) : Prop :=
  ∀ i j u v, users.find? i = some u → users.find? j = some v → u.guid = v.guid → i = j

/-- A user under another identifier has the GUID of this one. -/
def GuidTaken (s : Store) (user : User) : Prop :=
  ∃ k u, s.users.find? k = some u ∧ u.guid = user.guid ∧ u.id ≠ user.id

/-- The write puts a user with the GUID of another. -/
def TakesGuid (s : Store) : Write → Prop
  | .putUser user => s.GuidTaken user
  | _ => False

theorem oneUser_empty : OneUser empty.users := by
  intro i j u v hu
  cases hu

/-- A user may be put under its key just when its GUID is free. -/
theorem oneUser_putUser_iff {s : Store} (hs : s.Integrity) (h : OneUser s.users) (user : User) :
    OneUser (s.users.insert user.id user) ↔ ¬ s.GuidTaken user := by
  constructor
  · rintro hone ⟨k, u, hu, hguid, hne⟩
    have hkey : u.id = k := hs.usersKeyed k u hu
    subst hkey
    have hold : (s.users.insert user.id user).find? u.id = some u := by
      rw [Table.find?_insert_of_ne _ hne, hu]
    exact hne (hone u.id user.id u user hold (Table.find?_insert_self _ _ _) hguid)
  · intro hfree i j x y hx hy hguid
    have hown : ∀ k v, s.users.find? k = some v → v.guid = user.guid → k = user.id := by
      intro k v hv hvguid
      by_cases heq : v.id = user.id
      · exact (hs.usersKeyed k v hv).symm.trans heq
      · exact absurd ⟨k, v, hv, hvguid, heq⟩ hfree
    rcases (s.users.find?_insert_eq_some_iff user.id i user x).1 hx with ⟨hi, rfl⟩ | ⟨_, hold⟩
    · rcases (s.users.find?_insert_eq_some_iff user.id j user y).1 hy with ⟨hj, _⟩ | ⟨_, hold⟩
      · exact hi.trans hj.symm
      · exact hi.trans (hown j y hold hguid.symm).symm
    · rcases (s.users.find?_insert_eq_some_iff user.id j user y).1 hy with ⟨hj, rfl⟩ | ⟨_, hold'⟩
      · exact (hown i x hold hguid).trans hj.symm
      · exact h i j x y hold hold' hguid

/-- Only writes of users touch the users. -/
theorem users_after {s : Store} {w : Write} (hw : ∀ user, w ≠ .putUser user) :
    (s.after w).users = s.users := by
  rcases s.after_cases w with heq | hchange
  · rw [heq]
  · generalize s.after w = t at hchange
    cases hchange with
    | putUser user => exact absurd rfl (hw user)
    | _ => rfl

/-- One write keeps GUIDs apart just when it takes none. -/
theorem oneUser_after_iff {s : Store} (hs : s.Integrity) (h : OneUser s.users) (w : Write) :
    OneUser (s.after w).users ↔ ¬ s.TakesGuid w := by
  by_cases hw : ∃ user, w = .putUser user
  · obtain ⟨user, rfl⟩ := hw
    exact oneUser_putUser_iff hs h user
  · rw [users_after fun user heq => hw ⟨user, heq⟩]
    refine iff_of_true h ?_
    cases w with
    | putUser user => exact absurd ⟨user, rfl⟩ hw
    | _ => exact id

/-- GUIDs are kept apart all through a run just when no write of the run takes one. -/
theorem oneUser_throughout_iff {s : Store} (hs : s.Integrity) (h : OneUser s.users)
    (ws : List Write) :
    (∀ before after, ws = before ++ after → OneUser (s.run before).users) ↔
      ∀ before w after, ws = before ++ w :: after → ¬ (s.run before).TakesGuid w := by
  refine throughout_iff (I := Integrity) (P := fun t => OneUser t.users) ?_ ?_ hs h ws
  · intro t w ht
    exact ht.run [w]
  · intro t w ht hone
    exact oneUser_after_iff ht hone w

/-! ## The one membership of a GUID in an org -/

section OneUser
variable {s : Store} (hs : s.Integrity) (h : OneUser s.users)
include hs h

/-- The holder of a GUID is an active member of an org at most once. -/
theorem Active.eq_of_heldBy {guid : Guid} {m n : Membership} (hm : s.Active m) (hn : s.Active n)
    (hmg : s.HeldBy guid m) (hng : s.HeldBy guid n) (horg : m.orgId = n.orgId) : m = n := by
  obtain ⟨u, hu, hug⟩ := hmg
  obtain ⟨v, hv, hvg⟩ := hng
  have huser : m.userId = n.userId := h _ _ u v hu hv (hug.trans hvg.symm)
  exact hm.eq_of_id_eq hn (hs.oneActive m.id n.id m n hm.1 hn.1 hm.2 hn.2 huser horg)

/-- Rows of one GUID and one org are rows of one membership. -/
theorem membershipId_eq_of_guid_eq {r t : Row} (hr : r ∈ s.rows) (ht : t ∈ s.rows)
    (hguid : r.guid = t.guid) (horg : r.orgId = t.orgId) : r.membershipId = t.membershipId := by
  obtain ⟨m, org, user, e, p, hm, rfl⟩ := (mem_rows_iff hs r).1 hr
  obtain ⟨n, org', user', f, q, hn, rfl⟩ := (mem_rows_iff hs t).1 ht
  have hmn : m.orgId = n.orgId :=
    (hs.orgsKeyed m.orgId org hm.org).symm.trans (horg.trans (hs.orgsKeyed n.orgId org' hn.org))
  have hsame : m = n := Active.eq_of_heldBy hs h hm.active hn.active ⟨user, hm.user, rfl⟩
    ⟨user', hn.user, hguid.symm⟩ hmn
  exact congrArg Membership.id hsame

/-- What a user is answered on an org is what the single active membership is granted. -/
theorem role_of_single_membership {table : PermissionTable} {guid : Guid} {org : OrgId}
    {a : Authorization} (ha : (Source.inMemory s table).resolve
      ⟨some (.user guid), some (.org org), none⟩ = .ok (some a)) :
    ∃ m, (∀ n, s.Active n ∧ n.orgId = org ∧ s.HeldBy guid n ↔ n = m) ∧ a.role = m.role ∧
      a.actions = table.actionsFor m.role a.account.status := by
  obtain ⟨row, hrow, rfl⟩ := Option.map_eq_some_iff.1 (Source.answer_user_org ha).symm
  obtain ⟨m, o, user, e, p, rfl, _, hm, _⟩ := fetch_eq_some hs hrow
  refine ⟨m, ?_, rfl, rfl⟩
  intro n
  constructor
  · rintro ⟨hactive, horg, hheld⟩
    exact Active.eq_of_heldBy hs h hactive hm.1.active hheld (hm.1.user guid rfl)
      (horg.trans (hm.1.org org rfl).symm)
  · rintro rfl
    exact ⟨hm.1.active, hm.1.org org rfl, hm.1.user guid rfl⟩

end OneUser

/-- Two users with the GUID of the sample are both members of the org `1`. -/
def clash : Store := empty.run [
  .putOrg (.basic ⟨1⟩ "Acme"), .putUser ⟨⟨1⟩, sampleGuid, "ada"⟩,
  .putUser ⟨⟨2⟩, sampleGuid, "bob"⟩, .addMembership (.active ⟨1⟩ ⟨1⟩ ⟨1⟩ .user),
  .addMembership (.active ⟨2⟩ ⟨2⟩ ⟨1⟩ .owner)]

/-- Not every run of writes keeps GUIDs apart, and the holder of a GUID may then be shown with two
memberships in one org. -/
theorem not_oneUser_clash :
    clash.Reachable ∧ ¬ OneUser clash.users ∧
      ∃ r ∈ clash.rows, ∃ t ∈ clash.rows, r.guid = t.guid ∧ r.orgId = t.orgId ∧
        r.membershipId ≠ t.membershipId := by
  refine ⟨⟨_, rfl⟩, ?_, by decide +kernel⟩
  intro hone
  have hfirst : clash.users.find? ⟨1⟩ = some ⟨⟨1⟩, sampleGuid, "ada"⟩ := by decide +kernel
  have hsecond : clash.users.find? ⟨2⟩ = some ⟨⟨2⟩, sampleGuid, "bob"⟩ := by decide +kernel
  exact absurd (hone _ _ _ _ hfirst hsecond rfl) (by decide)

/-- A run keeps one GUID for one user, from its beginning to its end, just when none of its writes
puts a user with the GUID of another. In a store that keeps them so, all rows of a GUID and an org
are rows of one membership, and what the holder of the GUID is answered on the org is what the
single active membership there is granted. -/
theorem guid_stands_for_one_user (ws : List Write) :
    ((∀ before after, ws = before ++ after → OneUser (empty.run before).users) ↔
      ∀ before w after, ws = before ++ w :: after → ¬ (empty.run before).TakesGuid w) ∧
    (OneUser (empty.run ws).users →
      (∀ r ∈ (empty.run ws).rows, ∀ t ∈ (empty.run ws).rows, r.guid = t.guid →
        r.orgId = t.orgId → r.membershipId = t.membershipId) ∧
      ∀ table guid org a,
        (Source.inMemory (empty.run ws) table).resolve ⟨some (.user guid), some (.org org), none⟩ =
            .ok (some a) →
          ∃ m, (∀ n, (empty.run ws).Active n ∧ n.orgId = org ∧ (empty.run ws).HeldBy guid n ↔
              n = m) ∧
            a.role = m.role ∧ a.actions = table.actionsFor m.role a.account.status) := by
  have hs := integrity_empty.run ws
  refine ⟨oneUser_throughout_iff integrity_empty oneUser_empty ws, ?_⟩
  intro hone
  refine ⟨?_, ?_⟩
  · intro r hr t ht hguid horg
    exact membershipId_eq_of_guid_eq hs hone hr ht hguid horg
  · intro table guid org a ha
    exact role_of_single_membership hs hone ha

/-- The users of the sample have GUIDs of their own. The user `1` has two rows in the org `1`, one
for each of its entities, and one membership. -/
theorem guid_stands_for_one_user_sample :
    OneUser sample.users ∧
      (∃ r ∈ sample.rows, ∃ t ∈ sample.rows, r ≠ t ∧ r.guid = t.guid ∧ r.orgId = t.orgId ∧
        r.membershipId = t.membershipId) ∧
      ∃ a m, (Source.inMemory sample .seed).resolve
          ⟨some (.user sampleGuid), some (.org ⟨1⟩), none⟩ = .ok (some a) ∧
        (∀ n, sample.Active n ∧ n.orgId = ⟨1⟩ ∧ sample.HeldBy sampleGuid n ↔ n = m) ∧
        a.role = m.role := by
  have hone : OneUser sample.users := by
    have hentries : ∀ e ∈ sample.users.entries, ∀ f ∈ sample.users.entries,
        e.2.guid = f.2.guid → e.1 = f.1 := by decide +kernel
    intro i j u v hu hv hguid
    exact hentries (i, u) ((sample.users.mem_entries_iff i u).2 hu) (j, v)
      ((sample.users.mem_entries_iff j v).2 hv) hguid
  have hrows : ∃ r ∈ sample.rows, ∃ t ∈ sample.rows, r ≠ t ∧ r.guid = t.guid ∧
      r.orgId = t.orgId := by decide +kernel
  have hanswer : (Source.inMemory sample .seed).resolve
      ⟨some (.user sampleGuid), some (.org ⟨1⟩), none⟩ =
        .ok (some (Source.sampleAnswer .user ⟨"BC0000001", some "BC", none, none⟩)) := by
    decide +kernel
  obtain ⟨ws, hws⟩ := reachable_sample
  rw [hws] at hone hrows hanswer ⊢
  obtain ⟨hsame, hsingle⟩ := (guid_stands_for_one_user ws).2 hone
  obtain ⟨r, hr, t, ht, hne, hguid, horg⟩ := hrows
  obtain ⟨m, hm, hrole, _⟩ := hsingle _ _ _ _ hanswer
  exact ⟨hone, ⟨r, hr, t, ht, hne, hguid, horg, hsame r hr t ht hguid horg⟩, _, m, hanswer, hm,
    hrole⟩

end OrgAccess.Store
