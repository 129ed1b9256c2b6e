import OrgAccess.Proofs.Resolution.Standing

/-! Users are isolated from each other. What a user is told comes from the rows of that user, and a
write on the membership of somebody else leaves all of these as they are. -/

namespace OrgAccess

namespace Store

/-- The write adds or changes a membership, and not one of a user with the GUID. -/
def ConcernsAnother (s : Store) (guid : Guid) : Write → Prop
  | .addMembership m => ¬ s.HeldBy guid m
  | .changeRole id _ => ∀ m, s.memberships.find? id = some m → ¬ s.HeldBy guid m
  | .setMembershipStatus id _ => ∀ m, s.memberships.find? id = some m → ¬ s.HeldBy guid m
  | .deactivate id => ∀ m, s.memberships.find? id = some m → ¬ s.HeldBy guid m
  | _ => False

/-- A write that concerns another puts one membership of another into its place. -/
theorem Change.of_concernsAnother {s t : Store} {guid : Guid} {w : Write} (h : s.Change w t)
    (hw : s.ConcernsAnother guid w) :
    ∃ id n, t = { s with memberships := s.memberships.insert id n } ∧ ¬ s.HeldBy guid n ∧
      ∀ m, s.memberships.find? id = some m → ¬ s.HeldBy guid m := by
  cases h with
  | addMembership m fresh hasOrg hasUser alone =>
    refine ⟨m.id, m, rfl, hw, ?_⟩
    intro n hn
    rw [fresh] at hn
    cases hn
  | @changeRole id role m found => exact ⟨id, _, rfl, hw m found, hw⟩
  | @setMembershipStatus id status m found alone => exact ⟨id, _, rfl, hw m found, hw⟩
  | @deactivate id m found => exact ⟨id, _, rfl, hw m found, hw⟩
  | putOrg org => cases hw
  | putUser user => cases hw
  | putEntity entity free => cases hw
  | setOrgStatus id status found => cases hw
  | affiliate a hasOrg hasEntity => cases hw
  | removeAffiliation a => cases hw
  | subscribe sub hasOrg => cases hw

/-- What qualifies for the answers to a user is a membership of the user, and a change that concerns
another touches none of these. -/
theorem Change.standing_of_concernsAnother {s t : Store} (hs : s.Integrity) {guid : Guid}
    {w : Write} (h : s.Change w t) (hw : s.ConcernsAnother guid w) {filter : Filter}
    (hguid : filter.guid = some guid) :
    (t.fetch filter).map Standing.ofRow = (s.fetch filter).map Standing.ofRow := by
  have ht : t.Integrity := h.integrity hs
  obtain ⟨id, n, rfl, hnew, hold⟩ := h.of_concernsAnother hw
  have halike := alikeFor_insertMembership filter
    (fun m hm hq => hold m hm (hq.user guid hguid)) fun hq => hnew (hq.user guid hguid)
  exact halike.standing hs ht fun _ _ => rfl

end Store

namespace Source
open Store

/-- Whatever is added to or changed in the memberships of others, and whether that is carried out
or refused, a user is told the same as before: about every target, with every corp type, and in the
listing. -/
theorem isolated_from_others {s : Store} (h : s.Reachable) (table : PermissionTable)
    {guid : Guid} {w : Write} (hw : s.ConcernsAnother guid w) :
    (∀ target corpType,
        (inMemory (s.after w) table).resolve ⟨some (.user guid), target, corpType⟩ =
          (inMemory s table).resolve ⟨some (.user guid), target, corpType⟩) ∧
      (inMemory (s.after w) table).resolveAll guid = (inMemory s table).resolveAll guid := by
  refine told_user_congr table ?_
  intro filter hguid
  rcases s.after_cases w with heq | hchange
  · rw [heq]
  · exact hchange.standing_of_concernsAnother h.integrity hw hguid

/-- The membership `3` is that of the user `2`, who becomes an owner beside the user `1`. -/
theorem isolated_from_others_sample :
    sample.Reachable ∧ sample.ConcernsAnother sampleGuid (.changeRole ⟨3⟩ .owner) ∧
      (sample.after (.changeRole ⟨3⟩ .owner)).memberships.find? ⟨3⟩ =
        some (.active ⟨3⟩ ⟨2⟩ ⟨1⟩ .owner) ∧
      (inMemory (sample.after (.changeRole ⟨3⟩ .owner)) .seed).resolveAll sampleGuid =
        (inMemory sample .seed).resolveAll sampleGuid := by
  have hw : sample.ConcernsAnother sampleGuid (.changeRole ⟨3⟩ .owner) := by
    intro m hm
    have hthird : sample.memberships.find? ⟨3⟩ = some (.active ⟨3⟩ ⟨2⟩ ⟨1⟩ .admin) := by
      decide +kernel
    rw [hthird] at hm
    cases hm
    rintro ⟨user, huser, hguid⟩
    have hsecond : (sample.users.find? ⟨2⟩).map (·.guid) ≠ some sampleGuid := by decide +kernel
    refine hsecond ?_
    rw [← hguid]
    exact congrArg (Option.map User.guid) huser
  exact ⟨reachable_sample, hw, by decide +kernel,
    (isolated_from_others reachable_sample .seed hw).2⟩

end Source

end OrgAccess
