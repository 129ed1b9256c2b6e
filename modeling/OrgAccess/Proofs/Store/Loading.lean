import OrgAccess.Proofs.Store.Outcome

/-! Loading a store whose orgs, users and entities are there. Memberships, affiliations and
subscriptions may be written in any order: what a write of these needs is there before, and what
it must not meet is the same whichever of two comes first. So a list of them that is carried out in
one order is carried out in every order, and ends in one store. -/

namespace OrgAccess

/-- The writes that load a store. -/
inductive Write.Loading : Write → Prop where
  | addMembership (m : Membership) : Loading (.addMembership m)
  | affiliate (a : Affiliation) : Loading (.affiliate a)
  | subscribe (sub : Subscription) : Loading (.subscribe sub)

/-- Two writes go to one place at most if it is that of an affiliation, which may be written
twice. -/
def Write.Apart (w v : Write) : Prop := w.slot = v.slot → ∃ a, w.slot = .affiliation a

theorem Write.Apart.symm {w v : Write} (h : w.Apart v) : v.Apart w := by
  intro hslot
  obtain ⟨a, ha⟩ := h hslot.symm
  exact ⟨a, hslot.trans ha⟩

namespace Store

/-- What comes of a write, with the store that it leaves unless it is refused. -/
def performed (s : Store) (w : Write) : Except StoreFault Store :=
  (s.perform w).1.map fun _ => s.after w

/-- Carry out writes one after the other, until one is refused. -/
def load (s : Store) (ws : List Write) : Except StoreFault Store := ws.foldlM performed s

theorem performed_eq_ok_iff (s : Store) (w : Write) (t : Store) :
    s.performed w = .ok t ↔ s.Change w t := by
  constructor
  · intro h
    rcases s.perform_cases w with ⟨fault, hrefused⟩ | ⟨u, hdone, hchange⟩
    · rw [performed, hrefused] at h
      cases h
    · rw [performed, after, hdone] at h
      cases h
      exact hchange
  · intro h
    rw [performed, after, h.perform]
    rfl

/-- The first write makes a change, and the others are carried out on what comes of it. -/
theorem load_cons_eq_ok_iff (s : Store) (w : Write) (ws : List Write) (u : Store) :
    s.load (w :: ws) = .ok u ↔ ∃ t, s.Change w t ∧ t.load ws = .ok u := by
  simp only [← performed_eq_ok_iff]
  rw [load, List.foldlM_cons]
  cases hw : s.performed w with
  | error fault =>
    constructor
    · intro h
      cases h
    · rintro ⟨t, ht, _⟩
      cases ht
  | ok t =>
    constructor
    · intro h
      exact ⟨t, rfl, h⟩
    · rintro ⟨_, ht, hrest⟩
      cases ht
      exact hrest

/-- Where no write is refused, a run ends where loading does. -/
theorem run_of_load {s t : Store} {ws : List Write} (h : s.load ws = .ok t) : s.run ws = t := by
  induction ws generalizing s with
  | nil =>
    cases h
    rfl
  | cons w ws ih =>
    obtain ⟨u, hchange, hrest⟩ := (load_cons_eq_ok_iff s w ws t).1 h
    have hafter : s.after w = u := by
      rw [after, hchange.perform]
    rw [run, List.foldl_cons, hafter]
    exact ih hrest

/-! ## Two writes in either order -/

/-- One more membership makes its own user active in its own org, if it is active. -/
theorem hasActive_insert_iff {s : Store} {n : Membership}
    (fresh : s.memberships.find? n.id = none) (user : UserId) (org : OrgId) :
    ({ s with memberships := s.memberships.insert n.id n } : Store).hasActive user org = true ↔
      s.hasActive user org = true ∨ n.userId = user ∧ n.orgId = org ∧ n.isActive = true := by
  rw [hasActive_iff, hasActive_iff]
  constructor
  · rintro ⟨k, m, hm, hmember⟩
    rcases (s.memberships.find?_insert_eq_some_iff n.id k n m).1 hm with ⟨_, rfl⟩ | ⟨_, hold⟩
    · exact Or.inr hmember
    · exact Or.inl ⟨k, m, hold, hmember⟩
  · rintro (⟨k, m, hm, hmember⟩ | hmember)
    · have hne : k ≠ n.id := by
        rintro rfl
        rw [fresh] at hm
        cases hm
      exact ⟨k, m, (s.memberships.find?_insert_of_ne hne n).trans hm, hmember⟩
    · exact ⟨n.id, n, s.memberships.find?_insert_self n.id n, hmember⟩

/-- Two memberships with identifiers of their own, one added after the other, may be added the other
way round: if both are active they are not of one user in one org. -/
theorem Change.swap_memberships {s t u : Store} {m n : Membership}
    (hm : s.Change (.addMembership m) t) (hn : t.Change (.addMembership n) u) (hne : m.id ≠ n.id) :
    ∃ t', s.Change (.addMembership n) t' ∧ t'.Change (.addMembership m) u := by
  cases hm with
  | addMembership _ freshM hasOrgM hasUserM aloneM =>
    cases hn with
    | addMembership _ freshN hasOrgN hasUserN aloneN =>
      have freshN' : s.memberships.find? n.id = none :=
        (s.memberships.find?_insert_of_ne hne.symm m).symm.trans freshN
      have freshM' : (s.memberships.insert n.id n).find? m.id = none :=
        (s.memberships.find?_insert_of_ne hne n).trans freshM
      have aloneN' : n.isActive = true → ¬ s.hasActive n.userId n.orgId = true := by
        intro hactive hother
        exact aloneN hactive ((hasActive_insert_iff freshM _ _).2 (Or.inl hother))
      have hlast : (s.memberships.insert m.id m).insert n.id n =
          (s.memberships.insert n.id n).insert m.id m :=
        s.memberships.insert_comm fun heq => absurd heq hne
      refine ⟨_, .addMembership n freshN' hasOrgN hasUserN aloneN', ?_⟩
      rw [hlast]
      refine .addMembership m freshM' hasOrgM hasUserM ?_
      intro hactive hother
      rcases (hasActive_insert_iff freshN' _ _).1 hother with hold | ⟨huser, horg, hnactive⟩
      · exact aloneM hactive hold
      · have hfirst : ({ s with memberships := s.memberships.insert m.id m } : Store).hasActive
            n.userId n.orgId = true :=
          (hasActive_insert_iff freshM _ _).2 (Or.inr ⟨huser.symm, horg.symm, hactive⟩)
        exact aloneN hnactive hfirst

/-- Two loading writes that stay apart, one carried out after the other, may be carried out the
other way round. -/
theorem Change.swap {s t u : Store} {w v : Write} (hw : s.Change w t) (hv : t.Change v u)
    (hwl : w.Loading) (hvl : v.Loading) (hapart : w.Apart v) :
    ∃ t', s.Change v t' ∧ t'.Change w u := by
  cases hwl with
  | addMembership m =>
    cases hvl with
    | addMembership n =>
      refine hw.swap_memberships hv ?_
      intro hid
      obtain ⟨a, ha⟩ := hapart (congrArg Slot.membership hid)
      cases ha
    | affiliate a =>
      cases hw with
      | addMembership _ fresh hasOrg hasUser alone =>
        cases hv with
        | affiliate _ hasOrg' hasEntity =>
          exact ⟨_, .affiliate a hasOrg' hasEntity, .addMembership m fresh hasOrg hasUser alone⟩
    | subscribe sub =>
      cases hw with
      | addMembership _ fresh hasOrg hasUser alone =>
        cases hv with
        | subscribe _ hasOrg' =>
          exact ⟨_, .subscribe sub hasOrg', .addMembership m fresh hasOrg hasUser alone⟩
  | affiliate a =>
    cases hw with
    | affiliate _ hasOrg hasEntity =>
      cases hvl with
      | addMembership n =>
        cases hv with
        | addMembership _ fresh hasOrg' hasUser alone =>
          exact ⟨_, .addMembership n fresh hasOrg' hasUser alone, .affiliate a hasOrg hasEntity⟩
      | affiliate b =>
        cases hv with
        | affiliate _ hasOrg' hasEntity' =>
          refine ⟨_, .affiliate b hasOrg' hasEntity', ?_⟩
          show Change _ _ { s with affiliations := (s.affiliations.insert a ()).insert b () }
          rw [s.affiliations.insert_comm fun _ => rfl]
          exact .affiliate a hasOrg hasEntity
      | subscribe sub =>
        cases hv with
        | subscribe _ hasOrg' => exact ⟨_, .subscribe sub hasOrg', .affiliate a hasOrg hasEntity⟩
  | subscribe sub =>
    cases hw with
    | subscribe _ hasOrg =>
      cases hvl with
      | addMembership n =>
        cases hv with
        | addMembership _ fresh hasOrg' hasUser alone =>
          exact ⟨_, .addMembership n fresh hasOrg' hasUser alone, .subscribe sub hasOrg⟩
      | affiliate a =>
        cases hv with
        | affiliate _ hasOrg' hasEntity =>
          exact ⟨_, .affiliate a hasOrg' hasEntity, .subscribe sub hasOrg⟩
      | subscribe sub' =>
        cases hv with
        | subscribe _ hasOrg' =>
          refine ⟨_, .subscribe sub' hasOrg', ?_⟩
          show Change _ _ { s with
            subscriptions := (s.subscriptions.insert (sub.orgId, sub.productCode) sub).insert
              (sub'.orgId, sub'.productCode) sub' }
          rw [s.subscriptions.insert_comm]
          · exact .subscribe sub hasOrg
          · intro hkey
            obtain ⟨a, ha⟩ := hapart (congrArg Slot.subscription hkey)
            cases ha

/-! ## A list in any order -/

/-- By induction on the permutation. Only an exchange of neighbours changes a store on the way, and
only until both have been carried out. -/
theorem load_perm {s t : Store} {ws vs : List Write} (hperm : ws.Perm vs)
    (hloading : ∀ w ∈ ws, w.Loading) (hapart : ws.Pairwise Write.Apart)
    (hload : s.load ws = .ok t) : s.load vs = .ok t := by
  induction hperm generalizing s with
  | nil => exact hload
  | cons w _ ih =>
    obtain ⟨u, hchange, hrest⟩ := (load_cons_eq_ok_iff s w _ t).1 hload
    have htail := ih (fun v hv => hloading v (List.mem_cons_of_mem w hv))
      (List.pairwise_cons.1 hapart).2 hrest
    exact (load_cons_eq_ok_iff s w _ t).2 ⟨u, hchange, htail⟩
  | swap w v ws =>
    obtain ⟨u, hv, hload⟩ := (load_cons_eq_ok_iff s v _ t).1 hload
    obtain ⟨x, hw, hrest⟩ := (load_cons_eq_ok_iff u w ws t).1 hload
    have happ : v.Apart w := (List.pairwise_cons.1 hapart).1 w (by simp)
    obtain ⟨u', hw', hv'⟩ := hv.swap hw (hloading v (by simp)) (hloading w (by simp)) happ
    have hload' : u'.load (v :: ws) = .ok t := (load_cons_eq_ok_iff u' v ws t).2 ⟨x, hv', hrest⟩
    exact (load_cons_eq_ok_iff s w _ t).2 ⟨u', hw', hload'⟩
  | trans hfirst _ ihfirst ihsecond =>
    refine ihsecond (fun w hw => hloading w (hfirst.mem_iff.2 hw)) ?_
      (ihfirst hloading hapart hload)
    exact (hfirst.pairwise_iff fun happ => happ.symm).1 hapart

/-- Memberships with identifiers of their own, affiliations, and subscriptions with keys of their
own that are all accepted in one order are all accepted in every order, and every order ends in one
store. -/
theorem load_in_any_order {s t : Store} {ws vs : List Write} (hloading : ∀ w ∈ ws, w.Loading)
    (hapart : ws.Pairwise Write.Apart) (hload : s.load ws = .ok t) (hperm : ws.Perm vs) :
    s.load vs = .ok t ∧ s.run vs = s.run ws := by
  have hany : s.load vs = .ok t := load_perm hperm hloading hapart hload
  exact ⟨hany, (run_of_load hany).trans (run_of_load hload).symm⟩

/-- More for the sample to load: the user `2` has been turned away from the org `2` before joining
it, one affiliation is there already, and a subscription of the sample is ended. -/
def sampleLoad : List Write := [
  .addMembership ⟨⟨5⟩, ⟨2⟩, ⟨2⟩, .user, .rejected⟩,
  .addMembership (.active ⟨6⟩ ⟨2⟩ ⟨2⟩ .coordinator), .affiliate ⟨⟨2⟩, ⟨2⟩⟩, .affiliate ⟨⟨2⟩, ⟨1⟩⟩,
  .subscribe (.active ⟨2⟩ "CSO"), .subscribe ⟨⟨1⟩, "BUSINESS", .inactive⟩]

/-- Backwards the sample is loaded with the same. -/
theorem load_in_any_order_sample :
    (∀ w ∈ sampleLoad, w.Loading) ∧ sampleLoad.Pairwise Write.Apart ∧
      sampleLoad.Perm sampleLoad.reverse ∧
      ∃ t, sample.load sampleLoad = .ok t ∧ sample.load sampleLoad.reverse = .ok t ∧
        t.memberships.values.length = 6 := by
  have hloading : ∀ w ∈ sampleLoad, w.Loading := by
    simp [sampleLoad, Write.Loading.addMembership, Write.Loading.affiliate,
      Write.Loading.subscribe]
  have hapart : sampleLoad.Pairwise Write.Apart := by
    simp [sampleLoad, Write.Apart, Write.slot, Membership.active, Subscription.active]
  have hperm : sampleLoad.Perm sampleLoad.reverse := (List.reverse_perm sampleLoad).symm
  have hdone : (sample.load sampleLoad).isOk = true := by decide +kernel
  have hmembers : (sample.run sampleLoad).memberships.values.length = 6 := by decide +kernel
  cases hload : sample.load sampleLoad with
  | error fault =>
    rw [hload] at hdone
    cases hdone
  | ok t =>
    rw [run_of_load hload] at hmembers
    exact ⟨hloading, hapart, hperm, t, rfl, (load_in_any_order hloading hapart hload hperm).1,
      hmembers⟩

end Store

end OrgAccess
