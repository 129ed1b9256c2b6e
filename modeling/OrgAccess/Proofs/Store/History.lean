import OrgAccess.Proofs.Store.Integrity

/-! History is never rewritten. Writes put new records and replace old ones, but none of them drops
a record, and a membership keeps its user and its org for good. Affiliations alone may go, and an
affiliation goes only when it is taken away by name. -/

namespace OrgAccess.Store

/-- The second store has a record under every key of the first, and its memberships are the same but
for role and status. -/
structure Remembers (s t : Store) : Prop where
  orgs : ∀ id, s.orgs.contains id = true → t.orgs.contains id = true
  users : ∀ id, s.users.contains id = true → t.users.contains id = true
  entities : ∀ id, s.entities.contains id = true → t.entities.contains id = true
  subscriptions : ∀ key, s.subscriptions.contains key = true → t.subscriptions.contains key = true
  memberships : ∀ id m, s.memberships.find? id = some m →
    ∃ role status, t.memberships.find? id = some { m with role := role, status := status }

theorem Remembers.refl (s : Store) : s.Remembers s where
  orgs _ h := h
  users _ h := h
  entities _ h := h
  subscriptions _ h := h
  memberships _ m hm := ⟨m.role, m.status, hm⟩

theorem Remembers.trans {s t u : Store} (hst : s.Remembers t) (htu : t.Remembers u) :
    s.Remembers u where
  orgs id h := htu.orgs id (hst.orgs id h)
  users id h := htu.users id (hst.users id h)
  entities id h := htu.entities id (hst.entities id h)
  subscriptions key h := htu.subscriptions key (hst.subscriptions key h)
  memberships id m hm := by
    obtain ⟨role, status, ht⟩ := hst.memberships id m hm
    exact htu.memberships id { m with role := role, status := status } ht

/-! ## One write -/

theorem remembers_insertOrg (s : Store) (id : OrgId) (org : Org) :
    s.Remembers { s with orgs := s.orgs.insert id org } :=
  { Remembers.refl s with
    orgs := fun j h => (s.orgs.contains_insert id j org).2 (Or.inr h) }

/-- A membership may take a new place, or that of a membership of the same user and org. -/
theorem remembers_insertMembership {s : Store} {id : MembershipId} {n : Membership}
    (hold : ∀ m, s.memberships.find? id = some m →
      n = { m with role := n.role, status := n.status }) :
    s.Remembers { s with memberships := s.memberships.insert id n } := by
  refine { Remembers.refl s with memberships := ?_ }
  intro j m hm
  by_cases hj : j = id
  · subst hj
    refine ⟨n.role, n.status, ?_⟩
    rw [← hold m hm]
    exact s.memberships.find?_insert_self j n
  · exact ⟨m.role, m.status, (s.memberships.find?_insert_of_ne hj n).trans hm⟩

theorem remembers_replaceMembership {s : Store} {id : MembershipId} {m : Membership}
    (found : s.memberships.find? id = some m) (role : Role) (status : MembershipStatus) :
    s.Remembers { s with
      memberships := s.memberships.insert id { m with role := role, status := status } } := by
  apply remembers_insertMembership
  intro n hn
  rw [found] at hn
  cases hn
  rfl

theorem Change.remembers {s t : Store} {w : Write} (h : s.Change w t) : s.Remembers t := by
  cases h with
  | putOrg org => exact s.remembers_insertOrg org.id org
  | setOrgStatus id status found => exact s.remembers_insertOrg id _
  | putUser user =>
    refine { Remembers.refl s with users := ?_ }
    intro id h
    exact (s.users.contains_insert user.id id user).2 (Or.inr h)
  | putEntity entity free =>
    refine { Remembers.refl s with entities := ?_ }
    intro id h
    exact (s.entities.contains_insert entity.id id entity).2 (Or.inr h)
  | addMembership m fresh hasOrg hasUser alone =>
    apply remembers_insertMembership
    intro n hn
    rw [fresh] at hn
    cases hn
  | changeRole id role found => exact remembers_replaceMembership found role _
  | setMembershipStatus id status found alone => exact remembers_replaceMembership found _ status
  | deactivate id found => exact remembers_replaceMembership found _ .inactive
  | affiliate a hasOrg hasEntity => exact { Remembers.refl s with }
  | removeAffiliation a => exact { Remembers.refl s with }
  | subscribe sub hasOrg =>
    refine { Remembers.refl s with subscriptions := ?_ }
    intro key h
    exact (s.subscriptions.contains_insert _ key sub).2 (Or.inr h)

/-- An affiliation stays, unless the write takes this very one away. -/
theorem Change.isAffiliated {s t : Store} {w : Write} (h : s.Change w t) {a : Affiliation}
    (hw : w ≠ .removeAffiliation a) (ha : s.isAffiliated a = true) : t.isAffiliated a = true := by
  cases h with
  | affiliate b hasOrg hasEntity => exact (s.affiliations.contains_insert b a ()).2 (Or.inr ha)
  | removeAffiliation b =>
    have hne : a ≠ b := by
      rintro rfl
      exact hw rfl
    show (s.affiliations.erase b).contains a = true
    rw [Table.contains, s.affiliations.find?_erase_of_ne hne]
    exact ha
  | putOrg org => exact ha
  | putUser user => exact ha
  | putEntity entity free => exact ha
  | addMembership m fresh hasOrg hasUser alone => exact ha
  | changeRole id role found => exact ha
  | setMembershipStatus id status found alone => exact ha
  | deactivate id found => exact ha
  | setOrgStatus id status found => exact ha
  | subscribe sub hasOrg => exact ha

theorem isAffiliated_after {s : Store} {w : Write} {a : Affiliation}
    (hw : w ≠ .removeAffiliation a) (ha : s.isAffiliated a = true) :
    (s.after w).isAffiliated a = true := by
  rcases s.after_cases w with heq | hchange
  · rw [heq]
    exact ha
  · exact hchange.isAffiliated hw ha

/-- Taking an affiliation away does what the write does, and tells whether it was there. -/
theorem takeAffiliation_eq (s : Store) (a : Affiliation) :
    s.takeAffiliation a = (s.isAffiliated a, s.after (.removeAffiliation a)) := by
  unfold takeAffiliation
  cases ha : s.isAffiliated a with
  | true => rfl
  | false =>
    have hnone : s.affiliations.find? a = none := by
      rw [← Table.not_contains_iff]
      simpa [isAffiliated] using ha
    have hsame : s.removeAffiliation a = s := by
      rw [removeAffiliation, Table.erase_eq_self hnone]
    show (false, s) = (false, s.removeAffiliation a)
    rw [hsame]

/-! ## Every run -/

theorem run_nil (s : Store) : s.run [] = s := rfl

theorem run_append (s : Store) (before after : List Write) :
    s.run (before ++ after) = (s.run before).run after :=
  List.foldl_append

theorem remembers_run (s : Store) (ws : List Write) : s.Remembers (s.run ws) :=
  run_induction (fun _ _ _ hchange h => h.trans hchange.remembers) (Remembers.refl s) ws

/-- An affiliation that a run loses was taken away by a write of the run that found it. -/
theorem exists_removal {s : Store} {a : Affiliation} (ha : s.isAffiliated a = true)
    {ws : List Write} (hgone : (s.run ws).isAffiliated a = false) :
    ∃ first last, ws = first ++ .removeAffiliation a :: last ∧
      (s.run first).isAffiliated a = true := by
  induction ws generalizing s with
  | nil =>
    change s.isAffiliated a = false at hgone
    rw [ha] at hgone
    cases hgone
  | cons w ws ih =>
    by_cases hw : w = .removeAffiliation a
    · exact ⟨[], ws, by rw [hw, List.nil_append], ha⟩
    · obtain ⟨first, last, hws, hfound⟩ := ih (isAffiliated_after hw ha) hgone
      exact ⟨w :: first, last, by rw [hws, List.cons_append], hfound⟩

/-- From one point of a run to a later one no record is lost, and a membership keeps its user and
its org. An affiliation that is there at first and not in the end was taken away in between, by a
write that names it and answers that it was there. At every point this is the answer just when the
affiliation is there. -/
theorem history_kept (s : Store) (before after : List Write) :
    (s.run before).Remembers (s.run (before ++ after)) ∧
      (∀ a, (s.run before).isAffiliated a = true →
        (s.run (before ++ after)).isAffiliated a = false →
          ∃ first last, after = first ++ .removeAffiliation a :: last ∧
            ((s.run (before ++ first)).takeAffiliation a).1 = true) ∧
      ∀ a, ((s.run before).takeAffiliation a).2 = (s.run before).after (.removeAffiliation a) ∧
        (((s.run before).takeAffiliation a).1 = true ↔ (s.run before).isAffiliated a = true) := by
  refine ⟨?_, ?_, ?_⟩
  · rw [run_append]
    exact remembers_run (s.run before) after
  · intro a ha hgone
    rw [run_append] at hgone
    obtain ⟨first, last, hafter, hfound⟩ := exists_removal ha hgone
    refine ⟨first, last, hafter, ?_⟩
    rw [run_append, takeAffiliation_eq]
    exact hfound
  · intro a
    rw [takeAffiliation_eq]
    exact ⟨rfl, Iff.rfl⟩

/-- The membership `3` gets another role, and the affiliation of the org `1` with its second entity
is taken away. -/
theorem history_kept_sample :
    ∃ ws, sample.isAffiliated ⟨⟨1⟩, ⟨2⟩⟩ = true ∧
      (sample.run ws).isAffiliated ⟨⟨1⟩, ⟨2⟩⟩ = false ∧
      (∃ first last, ws = first ++ .removeAffiliation ⟨⟨1⟩, ⟨2⟩⟩ :: last ∧
        ((sample.run first).takeAffiliation ⟨⟨1⟩, ⟨2⟩⟩).1 = true) ∧
      sample.memberships.find? ⟨3⟩ = some (.active ⟨3⟩ ⟨2⟩ ⟨1⟩ .admin) ∧
      ∃ role status,
        (sample.run ws).memberships.find? ⟨3⟩ = some ⟨⟨3⟩, ⟨2⟩, ⟨1⟩, role, status⟩ := by
  refine ⟨[.changeRole ⟨3⟩ .owner, .removeAffiliation ⟨⟨1⟩, ⟨2⟩⟩], ?_⟩
  have hthere : sample.isAffiliated ⟨⟨1⟩, ⟨2⟩⟩ = true := by decide +kernel
  have hgone : (sample.run [.changeRole ⟨3⟩ .owner, .removeAffiliation ⟨⟨1⟩, ⟨2⟩⟩]).isAffiliated
      ⟨⟨1⟩, ⟨2⟩⟩ = false := by decide +kernel
  have hthird : sample.memberships.find? ⟨3⟩ = some (.active ⟨3⟩ ⟨2⟩ ⟨1⟩ .admin) := by
    decide +kernel
  obtain ⟨hkept, hremoved, _⟩ :=
    history_kept sample [] [.changeRole ⟨3⟩ .owner, .removeAffiliation ⟨⟨1⟩, ⟨2⟩⟩]
  simp only [List.nil_append, run_nil] at hkept hremoved
  exact ⟨hthere, hgone, hremoved _ hthere hgone, hthird, hkept.memberships ⟨3⟩ _ hthird⟩

end OrgAccess.Store
