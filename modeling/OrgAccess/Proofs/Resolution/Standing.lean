import OrgAccess.Proofs.Resolution.Answer
import OrgAccess.Proofs.Resolution.Listing

/-! What answers depend on. A winner is told by the memberships that qualify and by the entities of
their orgs. So two stores that agree on these have winners of the same standing, but for what
happened to the accounts of the orgs. From the same standings the same answers are made. -/

namespace OrgAccess

namespace Standing

/-- The standing with a function carried out on its account. -/
def mapAccount (g : Account → Account) (standing : Standing) : Standing :=
  { standing with account := g standing.account }

@[simp] theorem mapAccount_id : mapAccount id = id := rfl

theorem ofRow_join (m : Membership) (org : Org) (user : User) (entity : Option Entity)
    (product : Option String) : ofRow (Row.join m org user entity product) =
      ⟨m.role, org.account, entity.map Entity.business⟩ := by
  rw [ofRow, Row.account_join, Row.business_join]
  rfl

/-- The standing for staff is that of the winner, with the role of staff. -/
theorem map_staffOfRow (row : Option Row) :
    row.map staffOfRow = (row.map ofRow).map fun standing => { standing with role := .staff } := by
  rw [Option.map_map]
  rfl

/-- Two winners of the same standing have the same standing for staff. -/
theorem map_staffOfRow_congr {row row' : Option Row} (h : row.map ofRow = row'.map ofRow) :
    row.map staffOfRow = row'.map staffOfRow := by
  rw [map_staffOfRow, map_staffOfRow, h]

end Standing

namespace Store

/-- To the filter the two stores look alike: the same memberships qualify, and their orgs have the
same entities. -/
structure AlikeFor (s t : Store) (filter : Filter) : Prop where
  qualifies : ∀ m, s.Qualifies filter m ↔ t.Qualifies filter m
  entity : ∀ m, s.Qualifies filter m → ∀ e, s.EntityChoice m.orgId e ↔ t.EntityChoice m.orgId e

theorem AlikeFor.refl (s : Store) (filter : Filter) : s.AlikeFor s filter :=
  ⟨fun _ => Iff.rfl, fun _ _ _ => Iff.rfl⟩

section Alike
variable {s t : Store} (hs : s.Integrity) (ht : t.Integrity) {filter : Filter}
include hs ht

theorem AlikeFor.isSome_fetch (h : s.AlikeFor t filter) :
    (s.fetch filter).isSome = true ↔ (t.fetch filter).isSome = true := by
  rw [fetch_isSome_iff hs, fetch_isSome_iff ht]
  exact exists_congr h.qualifies

/-- Two winners of stores that look alike are rows of one membership and one entity. -/
theorem AlikeFor.winners (h : s.AlikeFor t filter) {r r' : Row} (hr : s.fetch filter = some r)
    (hr' : t.fetch filter = some r') :
    ∃ m org org' user user' e p p', s.Qualifies filter m ∧
      r = Row.join m org user e p ∧ s.orgs.find? m.orgId = some org ∧
      r' = Row.join m org' user' e p' ∧ t.orgs.find? m.orgId = some org' := by
  obtain ⟨m, org, user, e, p, hrow, horg, hm, he⟩ := fetch_eq_some hs hr
  obtain ⟨m', org', user', e', p', hrow', horg', hm', he'⟩ := fetch_eq_some ht hr'
  have hmm : m' = m := hm'.unique (hm.congr h.qualifies)
  subst hmm
  have hchoice : ∀ f, s.EntityChoice m'.orgId f ∧ filter.AdmitsEntity f ↔
      t.EntityChoice m'.orgId f ∧ filter.AdmitsEntity f :=
    fun f => and_congr_left fun _ => h.entity m' hm.1 f
  have hee : e' = e := he'.unique (he.congr hchoice)
  subst hee
  exact ⟨m', org, org', user, user', e', p, p', hm.1, hrow, horg, hrow', horg'⟩

/-- Stores that look alike, and whose accounts differ by a function, have winners whose standings
differ by this function. -/
theorem AlikeFor.standing_mapAccount (h : s.AlikeFor t filter) {g : Account → Account}
    (horgs : ∀ m, s.Qualifies filter m →
      (t.orgs.find? m.orgId).map Org.account = ((s.orgs.find? m.orgId).map Org.account).map g) :
    (t.fetch filter).map Standing.ofRow =
      ((s.fetch filter).map Standing.ofRow).map (Standing.mapAccount g) := by
  have hsome := h.isSome_fetch hs ht
  cases hr : s.fetch filter with
  | none => cases hr' : t.fetch filter <;> simp_all
  | some r =>
    cases hr' : t.fetch filter with
    | none => simp_all
    | some r' =>
      obtain ⟨m, org, org', user, user', e, p, p', hm, rfl, horg, rfl, horg'⟩ :=
        h.winners hs ht hr hr'
      have haccount : org'.account = g org.account := by
        simpa [horg, horg'] using horgs m hm
      simp [Standing.ofRow_join, Standing.mapAccount, haccount]

/-- Stores that look alike, down to the orgs of the memberships that qualify, have winners of the
same standing. -/
theorem AlikeFor.standing (h : s.AlikeFor t filter)
    (horgs : ∀ m, s.Qualifies filter m → t.orgs.find? m.orgId = s.orgs.find? m.orgId) :
    (t.fetch filter).map Standing.ofRow = (s.fetch filter).map Standing.ofRow := by
  have hid := h.standing_mapAccount hs ht (g := id) fun m hm => by simp [horgs m hm]
  simpa using hid

end Alike

/-- A membership that takes a place does not change the view of a filter for which neither it nor
the one that stood there qualifies. -/
theorem alikeFor_insertMembership {s : Store} (filter : Filter) {id : MembershipId}
    {n : Membership} (hold : ∀ m, s.memberships.find? id = some m → ¬ s.Qualifies filter m)
    (hnew : ¬ ({ s with memberships := s.memberships.insert id n } : Store).Qualifies filter n) :
    s.AlikeFor { s with memberships := s.memberships.insert id n } filter where
  qualifies m := by
    constructor
    · intro h
      have hne : m.id ≠ id := by
        rintro rfl
        exact hold m h.active.1 h
      have hfound := (s.memberships.find?_insert_of_ne hne n).trans h.active.1
      exact ⟨⟨hfound, h.active.2⟩, h.user, h.org, h.entity, h.product⟩
    · intro h
      have hfound : s.memberships.find? m.id = some m := by
        rcases (s.memberships.find?_insert_eq_some_iff id m.id n m).1 h.active.1 with
          ⟨_, rfl⟩ | ⟨_, hfound⟩
        · exact absurd h hnew
        · exact hfound
      exact ⟨⟨hfound, h.active.2⟩, h.user, h.org, h.entity, h.product⟩
  entity _ _ _ := Iff.rfl

/-- The standings of a user are those of the winners org by org. -/
theorem standingsOf_mapAccount {s t : Store} {guid : Guid} {g : Account → Account}
    (h : ∀ org, (t.fetch { guid := some guid, orgId := some org }).map Standing.ofRow =
      ((s.fetch { guid := some guid, orgId := some org }).map Standing.ofRow).map
        (Standing.mapAccount g)) :
    t.standingsOf guid = (s.standingsOf guid).map (Standing.mapAccount g) := by
  rw [standingsOf, standingsOf, List.map_map, fetchPerOrg, fetchPerOrg, Row.authoritativePerOrg,
    Row.authoritativePerOrg]
  apply Table.map_values_congr
  intro org
  rw [find?_winners_select t rfl, find?_winners_select s rfl, h org, Option.map_map]

theorem standingsOf_congr {s t : Store} {guid : Guid}
    (h : ∀ org, (t.fetch { guid := some guid, orgId := some org }).map Standing.ofRow =
      (s.fetch { guid := some guid, orgId := some org }).map Standing.ofRow) :
    t.standingsOf guid = s.standingsOf guid := by
  have hid : t.standingsOf guid = (s.standingsOf guid).map (Standing.mapAccount id) :=
    standingsOf_mapAccount fun org => by simp [h org]
  simpa using hid

end Store

namespace Inquiry

section Alike
variable {s t : Store} (hs : s.Integrity) (ht : t.Integrity)
include hs ht

/-- Stores that look alike to what rows an inquiry looks for, and whose accounts differ by a
function, give standings that differ by this function. -/
theorem standing?_mapAccount {g : Account → Account} {inquiry : Inquiry}
    (hrows : ∀ filter, inquiry.filter? = some filter → s.AlikeFor t filter)
    (horgs : ∀ org, (t.orgs.find? org).map Org.account =
      ((s.orgs.find? org).map Org.account).map g) :
    inquiry.standing? t = (inquiry.standing? s).map (Standing.mapAccount g) := by
  cases inquiry with
  | winner filter =>
    exact (hrows filter rfl).standing_mapAccount hs ht fun m _ => horgs m.orgId
  | staffWinner filter =>
    have hwinner := (hrows filter rfl).standing_mapAccount hs ht fun m _ => horgs m.orgId
    simp only [standing?, Standing.map_staffOfRow, hwinner, Option.map_map]
    rfl
  | staffOrg org =>
    have hstaff : ∀ o : Option Org, o.map Standing.staffOfOrg =
        (o.map Org.account).map fun account => ⟨.staff, account, none⟩ := by
      intro o
      rw [Option.map_map]
      rfl
    simp only [standing?, hstaff, horgs org, Option.map_map]
    rfl

theorem standing?_congr {inquiry : Inquiry}
    (hrows : ∀ filter, inquiry.filter? = some filter → s.AlikeFor t filter)
    (horgs : t.orgs = s.orgs) : inquiry.standing? t = inquiry.standing? s := by
  have hid := standing?_mapAccount hs ht (g := id) hrows fun org => by simp [horgs]
  simpa using hid

end Alike

end Inquiry

namespace Source

/-- An answer depends on the store by the standing that the inquiry finds, and by nothing else. -/
theorem resolve_congr {s t : Store} (table : PermissionTable) {request : Request}
    (h : ∀ inquiry, request.inquiry = .ok inquiry → inquiry.standing? s = inquiry.standing? t) :
    (inMemory s table).resolve request = (inMemory t table).resolve request := by
  cases hinquiry : request.inquiry with
  | error fault => rw [resolve_of_fault hinquiry, resolve_of_fault hinquiry]
  | ok inquiry =>
    rw [resolve_of_inquiry hinquiry, resolve_of_inquiry hinquiry, h inquiry hinquiry]

theorem resolveAll_congr {s t : Store} (table : PermissionTable) {guid : Guid}
    (h : s.standingsOf guid = t.standingsOf guid) :
    (inMemory s table).resolveAll guid = (inMemory t table).resolveAll guid := by
  simp only [resolveAll, read, h]

/-- Where the winners among the rows of a user have the same standing, whatever else is asked for,
the user is told the same. -/
theorem told_user_congr {s t : Store} (table : PermissionTable) {guid : Guid}
    (h : ∀ filter : Filter, filter.guid = some guid →
      (s.fetch filter).map Standing.ofRow = (t.fetch filter).map Standing.ofRow) :
    (∀ target corpType, (inMemory s table).resolve ⟨some (.user guid), target, corpType⟩ =
        (inMemory t table).resolve ⟨some (.user guid), target, corpType⟩) ∧
      (inMemory s table).resolveAll guid = (inMemory t table).resolveAll guid := by
  constructor
  · intro target corpType
    refine resolve_congr table ?_
    intro inquiry hinquiry
    obtain ⟨filter, rfl, hguid⟩ := Request.inquiry_eq_winner (by simp) hinquiry
    exact h filter (hguid guid rfl)
  · refine resolveAll_congr table (Store.standingsOf_congr ?_)
    intro org
    exact h _ rfl

end Source

end OrgAccess
