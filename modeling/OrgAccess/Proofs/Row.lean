import OrgAccess.Proofs.Order
import OrgAccess.Row

/-! Rows one by one: when one of two speaks before the other, told by their ranks, numbers and
texts, and when a row satisfies a filter, told criterion by criterion. -/

namespace OrgAccess

namespace Row

/-- The row speaks before the other one: by the rank of its role, then by its membership, then by
its business, where no business comes before any. -/
inductive Outranks (row other : Row) : Prop where
  | role (lower : row.role.rank < other.role.rank)
  | membership (sameRank : row.role.rank = other.role.rank)
      (lower : row.membershipId.value < other.membershipId.value)
  | noBusiness (sameRank : row.role.rank = other.role.rank)
      (sameMembership : row.membershipId = other.membershipId)
      (absent : row.businessIdentifier = none) {identifier : String}
      (present : other.businessIdentifier = some identifier)
  | business (sameRank : row.role.rank = other.role.rank)
      (sameMembership : row.membershipId = other.membershipId) {identifier identifier' : String}
      (present : row.businessIdentifier = some identifier)
      (present' : other.businessIdentifier = some identifier') (lower : identifier < identifier')

theorem outranks_iff (row other : Row) :
    row.Outranks other ↔ Precedes row.precedence other.precedence := by
  rw [precedence, precedence, precedes_pair_iff, precedes_pair_iff, precedes_nat_iff,
    precedes_id_iff]
  constructor
  · rintro (lower | ⟨sameRank, lower⟩ | ⟨sameRank, sameMembership, absent, present⟩ |
      ⟨sameRank, sameMembership, present, present', lower⟩)
    · exact Or.inl lower
    · exact Or.inr ⟨sameRank, Or.inl lower⟩
    · refine Or.inr ⟨sameRank, Or.inr ⟨sameMembership, ?_⟩⟩
      rw [absent, present]
      exact none_precedes_some _
    · refine Or.inr ⟨sameRank, Or.inr ⟨sameMembership, ?_⟩⟩
      rw [present, present', precedes_some_iff, precedes_string_iff]
      exact lower
  · rintro (lower | ⟨sameRank, lower | ⟨sameMembership, lower⟩⟩)
    · exact .role lower
    · exact .membership sameRank lower
    · cases present' : other.businessIdentifier with
      | none =>
        rw [present'] at lower
        exact absurd lower (not_precedes_none _)
      | some identifier' =>
        cases present : row.businessIdentifier with
        | none => exact .noBusiness sameRank sameMembership present present'
        | some identifier =>
          rw [present, present', precedes_some_iff, precedes_string_iff] at lower
          exact .business sameRank sameMembership present present' lower

/-- The row meets every criterion that the filter sets. -/
structure Satisfies (row : Row) (filter : Filter) : Prop where
  guid : ∀ guid, filter.guid = some guid → row.guid = guid
  org : ∀ org, filter.orgId = some org → row.orgId = org
  business : ∀ identifier, filter.businessIdentifier = some identifier →
    row.businessIdentifier = some identifier
  product : ∀ product, filter.productCode = some product → row.productCode = some product
  corpType : ∀ type, filter.corpType = some type →
    row.corpTypeCode = none ∨ row.corpTypeCode = some type

end Row

namespace Filter

theorem meets_iff {α : Type} [DecidableEq α] (wanted : Option α) (found : Option α) :
    meets wanted found = true ↔ ∀ w, wanted = some w → found = some w := by
  simp only [meets, decide_eq_true_eq]
  cases wanted with
  | none => simp
  | some w => simp [eq_comm]

theorem meetsOrAbsent_iff (wanted found : Option String) :
    meetsOrAbsent wanted found = true ↔
      found = none ∨ ∀ w, wanted = some w → found = some w := by
  simp only [meetsOrAbsent, decide_eq_true_eq, meets_iff]

theorem admits_iff (filter : Filter) (row : Row) :
    filter.admits row = true ↔ row.Satisfies filter := by
  simp only [admits, Bool.and_eq_true, meets_iff, meetsOrAbsent_iff, Option.some.injEq]
  constructor
  · rintro ⟨⟨⟨⟨guid, org⟩, business⟩, product⟩, corpType⟩
    refine ⟨guid, org, business, product, fun type htype => ?_⟩
    exact corpType.imp_right fun htypes => htypes type htype
  · rintro ⟨guid, org, business, product, corpType⟩
    refine ⟨⟨⟨⟨guid, org⟩, business⟩, product⟩, ?_⟩
    by_cases habsent : row.corpTypeCode = none
    · exact Or.inl habsent
    · exact Or.inr fun type htype => (corpType type htype).resolve_left habsent

/-- A row of the org `1`, with a business of the type `BC` or none. -/
def sampleRow (role : Role) (membership : MembershipId) (business : Option String) : Row :=
  Row.join (.active membership ⟨1⟩ ⟨1⟩ role) (.basic ⟨1⟩ "Acme")
    ⟨⟨1⟩, ⟨List.replicate 32 ⟨4, by decide⟩, rfl⟩, "ada"⟩
    (business.map fun identifier => ⟨⟨1⟩, identifier, "BC", none, none⟩) none

end Filter

end OrgAccess
