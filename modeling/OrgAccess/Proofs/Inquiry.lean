import OrgAccess.Inquiry
import OrgAccess.Proofs.Text

/-! Requests. A request is malformed for one reason, or it makes one inquiry. Which of the two it
does is read off the request: who asks, about what, and which of the texts that come with it are
blank. -/

namespace OrgAccess

namespace Inquiry

theorem businessIdentifier_of_blank {s : String} (h : Text.AllBlank s) :
    businessIdentifier s = .error .missingTarget := by
  simp only [businessIdentifier, Text.nonBlank?_eq_none h]

theorem businessIdentifier_eq {s : String} (h : ¬ Text.AllBlank s) :
    businessIdentifier s = .ok (Text.trim s) := by
  simp only [businessIdentifier, Text.nonBlank?_eq_some h]

theorem productCode_of_blank {s : String} (h : Text.AllBlank s) :
    productCode s = .error (.invalidInput .blankProductCode) := by
  simp only [productCode, Text.nonBlank?_eq_none h]

theorem productCode_eq {s : String} (h : ¬ Text.AllBlank s) :
    productCode s = .ok (Text.trim s) := by
  simp only [productCode, Text.nonBlank?_eq_some h]

theorem corpType_of_blank {s : String} (h : Text.AllBlank s) :
    corpType s = .error (.invalidInput .blankCorpType) := by
  simp only [corpType, Text.nonBlank?_eq_none h]

theorem corpType_eq {s : String} (h : ¬ Text.AllBlank s) : corpType s = .ok (Text.trim s) := by
  simp only [corpType, Text.nonBlank?_eq_some h]

/-- What rows are looked for, if any are. -/
def filter? : Inquiry → Option Filter
  | winner filter => some filter
  | staffWinner filter => some filter
  | staffOrg _ => none

end Inquiry

namespace Request

/-! ## Well-formed requests -/

/-- What each request asks that is not malformed. Staff need no corp type, and neither does whoever
asks about a business. -/
inductive Asks : Request → Inquiry → Prop where
  | userOrg (guid : Guid) (org : OrgId) {corpType : Option String}
      (typed : ∀ c, corpType = some c → ¬ Text.AllBlank c) :
      Asks ⟨some (.user guid), some (.org org), corpType⟩
        (.winner { guid := some guid, orgId := some org, corpType := corpType.map Text.trim })
  | userBusiness (guid : Guid) {identifier : String} (named : ¬ Text.AllBlank identifier)
      (corpType : Option String) :
      Asks ⟨some (.user guid), some (.business identifier), corpType⟩
        (.winner { guid := some guid, businessIdentifier := some (Text.trim identifier) })
  | productOrg (guid : Guid) {product : String} (coded : ¬ Text.AllBlank product) (org : OrgId)
      {corpType : Option String} (typed : ∀ c, corpType = some c → ¬ Text.AllBlank c) :
      Asks ⟨some (.serviceAccount guid product), some (.org org), corpType⟩
        (.winner
          { orgId := some org
            productCode := some (Text.trim product)
            corpType := corpType.map Text.trim })
  | productBusiness (guid : Guid) {product : String} (coded : ¬ Text.AllBlank product)
      {identifier : String} (named : ¬ Text.AllBlank identifier) (corpType : Option String) :
      Asks ⟨some (.serviceAccount guid product), some (.business identifier), corpType⟩
        (.winner
          { businessIdentifier := some (Text.trim identifier)
            productCode := some (Text.trim product) })
  | staffOrg (guid : Guid) (org : OrgId) (corpType : Option String) :
      Asks ⟨some (.staff guid), some (.org org), corpType⟩ (.staffOrg org)
  | staffBusiness (guid : Guid) {identifier : String} (named : ¬ Text.AllBlank identifier)
      (corpType : Option String) :
      Asks ⟨some (.staff guid), some (.business identifier), corpType⟩
        (.staffWinner { businessIdentifier := some (Text.trim identifier) })

/-- A request that asks for something makes this inquiry. -/
theorem Asks.inquiry {request : Request} {i : Inquiry} (h : request.Asks i) :
    request.inquiry = .ok i := by
  cases h with
  | @userOrg guid org corpType typed =>
    cases corpType with
    | none => rfl
    | some c =>
      simp only [Request.inquiry, Inquiry.about, Inquiry.userInOrgOfType,
        Inquiry.corpType_eq (typed c rfl)]
      rfl
  | userBusiness guid named corpType =>
    simp only [Request.inquiry, Inquiry.about, Inquiry.userInBusiness,
      Inquiry.businessIdentifier_eq named]
    rfl
  | @productOrg guid product coded org corpType typed =>
    have hproduct := Inquiry.productCode_eq coded
    cases corpType with
    | none =>
      simp only [Request.inquiry, Inquiry.about, Inquiry.productInOrg, hproduct]
      rfl
    | some c =>
      simp only [Request.inquiry, Inquiry.about, Inquiry.productInOrg, hproduct,
        Inquiry.corpType_eq (typed c rfl)]
      rfl
  | productBusiness guid coded named corpType =>
    simp only [Request.inquiry, Inquiry.about, Inquiry.productInBusiness,
      Inquiry.businessIdentifier_eq named, Inquiry.productCode_eq coded]
    rfl
  | staffOrg guid org corpType => rfl
  | staffBusiness guid named corpType =>
    simp only [Request.inquiry, Inquiry.about, Inquiry.staffOn,
      Inquiry.businessIdentifier_eq named]
    rfl

/-! ## Malformed requests -/

/-- Nothing is asked about, or a business without a name. -/
def LacksTarget (request : Request) : Prop :=
  request.target = none ∨
    ∃ identifier, request.target = some (.business identifier) ∧ Text.AllBlank identifier

/-- A service account asks, and its product code is blank. -/
def LacksProduct (request : Request) : Prop :=
  ∃ guid product, request.principal = some (.serviceAccount guid product) ∧ Text.AllBlank product

/-- A user or a service account asks about an org, and the corp type that is given is blank. -/
def LacksType (request : Request) : Prop :=
  ((∃ guid, request.principal = some (.user guid)) ∨
      ∃ guid product, request.principal = some (.serviceAccount guid product)) ∧
    (∃ org, request.target = some (.org org)) ∧
    ∃ c, request.corpType = some c ∧ Text.AllBlank c

/-- Why a request is malformed. Of several reasons the first counts, in the order of the cases. -/
inductive Malformed (request : Request) : RequestFault → Prop where
  | identity (nobody : request.principal = none) : Malformed request .missingIdentity
  | target (somebody : request.principal ≠ none) (lacks : request.LacksTarget) :
      Malformed request .missingTarget
  | product (targeted : ¬ request.LacksTarget) (lacks : request.LacksProduct) :
      Malformed request (.invalidInput .blankProductCode)
  | corpType (coded : ¬ request.LacksProduct) (lacks : request.LacksType) :
      Malformed request (.invalidInput .blankCorpType)

theorem inquiry_of_lacksTarget {principal : Principal} {target : Option Target}
    {corpType : Option String} (h : LacksTarget ⟨some principal, target, corpType⟩) :
    inquiry ⟨some principal, target, corpType⟩ = .error .missingTarget := by
  rcases h with rfl | ⟨identifier, rfl, hblank⟩
  · rfl
  · have hid := Inquiry.businessIdentifier_of_blank hblank
    cases principal with
    | user guid =>
      simp only [inquiry, Inquiry.about, Inquiry.userInBusiness, hid]
      rfl
    | serviceAccount guid product =>
      simp only [inquiry, Inquiry.about, Inquiry.productInBusiness, hid]
      rfl
    | staff guid =>
      simp only [inquiry, Inquiry.about, Inquiry.staffOn, hid]
      rfl

theorem inquiry_of_lacksProduct {request : Request} (htarget : ¬ request.LacksTarget)
    (h : request.LacksProduct) :
    request.inquiry = .error (.invalidInput .blankProductCode) := by
  obtain ⟨principal, target, corpType⟩ := request
  obtain ⟨guid, product, rfl, hblank⟩ := h
  have hproduct := Inquiry.productCode_of_blank hblank
  cases target with
  | none => exact absurd (Or.inl rfl) htarget
  | some target =>
    cases target with
    | org org =>
      simp only [inquiry, Inquiry.about, Inquiry.productInOrg, hproduct]
      rfl
    | business identifier =>
      have hid : ¬ Text.AllBlank identifier :=
        fun hid => htarget (Or.inr ⟨identifier, rfl, hid⟩)
      simp only [inquiry, Inquiry.about, Inquiry.productInBusiness,
        Inquiry.businessIdentifier_eq hid, hproduct]
      rfl

theorem inquiry_of_lacksType {request : Request} (hproduct : ¬ request.LacksProduct)
    (h : request.LacksType) : request.inquiry = .error (.invalidInput .blankCorpType) := by
  obtain ⟨principal, target, corpType⟩ := request
  obtain ⟨hprincipal, ⟨org, rfl⟩, c, rfl, hblank⟩ := h
  have htype := Inquiry.corpType_of_blank hblank
  rcases hprincipal with ⟨guid, rfl⟩ | ⟨guid, product, rfl⟩
  · simp only [inquiry, Inquiry.about, Inquiry.userInOrgOfType, htype]
    rfl
  · have hcode : ¬ Text.AllBlank product := fun hc => hproduct ⟨guid, product, rfl, hc⟩
    simp only [inquiry, Inquiry.about, Inquiry.productInOrg, Inquiry.productCode_eq hcode, htype]
    rfl

theorem Malformed.inquiry {request : Request} {fault : RequestFault}
    (h : request.Malformed fault) : request.inquiry = .error fault := by
  cases h with
  | identity nobody =>
    obtain ⟨principal, target, corpType⟩ := request
    cases nobody
    rfl
  | target somebody lacks =>
    obtain ⟨principal, target, corpType⟩ := request
    cases principal with
    | none => exact absurd rfl somebody
    | some principal => exact inquiry_of_lacksTarget lacks
  | product targeted lacks => exact inquiry_of_lacksProduct targeted lacks
  | corpType coded lacks => exact inquiry_of_lacksType coded lacks

/-! ## One or the other -/

theorem malformed_or_asks_business (principal : Principal) (identifier : String)
    (corpType : Option String) :
    (∃ fault, Malformed ⟨some principal, some (.business identifier), corpType⟩ fault) ∨
      ∃ i, Asks ⟨some principal, some (.business identifier), corpType⟩ i := by
  by_cases hid : Text.AllBlank identifier
  · exact Or.inl ⟨_, .target (by simp) (Or.inr ⟨identifier, rfl, hid⟩)⟩
  · have htarget : ¬ LacksTarget ⟨some principal, some (.business identifier), corpType⟩ := by
      simpa [LacksTarget] using hid
    cases principal with
    | user guid => exact Or.inr ⟨_, .userBusiness guid hid corpType⟩
    | serviceAccount guid product =>
      by_cases hproduct : Text.AllBlank product
      · exact Or.inl ⟨_, .product htarget ⟨guid, product, rfl, hproduct⟩⟩
      · exact Or.inr ⟨_, .productBusiness guid hproduct hid corpType⟩
    | staff guid => exact Or.inr ⟨_, .staffBusiness guid hid corpType⟩

theorem malformed_or_asks_org (principal : Principal) (org : OrgId) (corpType : Option String) :
    (∃ fault, Malformed ⟨some principal, some (.org org), corpType⟩ fault) ∨
      ∃ i, Asks ⟨some principal, some (.org org), corpType⟩ i := by
  have htarget : ¬ LacksTarget ⟨some principal, some (.org org), corpType⟩ := by
    simp [LacksTarget]
  by_cases hblank : ∃ c, corpType = some c ∧ Text.AllBlank c
  · cases principal with
    | user guid =>
      refine Or.inl ⟨_, .corpType ?_ ⟨Or.inl ⟨guid, rfl⟩, ⟨org, rfl⟩, hblank⟩⟩
      simp [LacksProduct]
    | serviceAccount guid product =>
      by_cases hproduct : Text.AllBlank product
      · exact Or.inl ⟨_, .product htarget ⟨guid, product, rfl, hproduct⟩⟩
      · refine Or.inl ⟨_, .corpType ?_ ⟨Or.inr ⟨guid, product, rfl⟩, ⟨org, rfl⟩, hblank⟩⟩
        simpa [LacksProduct] using hproduct
    | staff guid => exact Or.inr ⟨_, .staffOrg guid org corpType⟩
  · have htype : ∀ c, corpType = some c → ¬ Text.AllBlank c :=
      fun c hc hblanks => hblank ⟨c, hc, hblanks⟩
    cases principal with
    | user guid => exact Or.inr ⟨_, .userOrg guid org htype⟩
    | serviceAccount guid product =>
      by_cases hproduct : Text.AllBlank product
      · exact Or.inl ⟨_, .product htarget ⟨guid, product, rfl, hproduct⟩⟩
      · exact Or.inr ⟨_, .productOrg guid hproduct org htype⟩
    | staff guid => exact Or.inr ⟨_, .staffOrg guid org corpType⟩

/-- Whatever a request holds, it is malformed or asks for something. -/
theorem malformed_or_asks (request : Request) :
    (∃ fault, request.Malformed fault) ∨ ∃ i, request.Asks i := by
  obtain ⟨principal, target, corpType⟩ := request
  cases principal with
  | none => exact Or.inl ⟨_, .identity rfl⟩
  | some principal =>
    cases target with
    | none => exact Or.inl ⟨_, .target (by simp) (Or.inl rfl)⟩
    | some target =>
      cases target with
      | org org => exact malformed_or_asks_org principal org corpType
      | business identifier => exact malformed_or_asks_business principal identifier corpType

theorem inquiry_eq_error_iff {request : Request} {fault : RequestFault} :
    request.inquiry = .error fault ↔ request.Malformed fault := by
  constructor
  · intro h
    rcases request.malformed_or_asks with ⟨fault', hmalformed⟩ | ⟨i, hasks⟩
    · have heq : fault' = fault := Except.error.inj (hmalformed.inquiry.symm.trans h)
      exact heq ▸ hmalformed
    · rw [hasks.inquiry] at h
      cases h
  · exact Malformed.inquiry

/-- The product code counts before the corp type. -/
example (guid : Guid) (org : OrgId) :
    inquiry ⟨some (.serviceAccount guid "\t "), some (.org org), some "\u3000"⟩ =
      .error (.invalidInput .blankProductCode) := rfl

theorem inquiry_eq_ok_iff {request : Request} {i : Inquiry} :
    request.inquiry = .ok i ↔ request.Asks i := by
  constructor
  · intro h
    rcases request.malformed_or_asks with ⟨fault, hmalformed⟩ | ⟨i', hasks⟩
    · rw [hmalformed.inquiry] at h
      cases h
    · have heq : i' = i := Except.ok.inj (hasks.inquiry.symm.trans h)
      exact heq ▸ hasks
  · exact Asks.inquiry

/-- Whoever is not staff asks for a winner. -/
theorem inquiry_eq_winner {request : Request} {i : Inquiry}
    (hp : ∀ guid, request.principal ≠ some (.staff guid)) (h : request.inquiry = .ok i) :
    ∃ filter, i = .winner filter ∧
      ∀ guid, request.principal = some (.user guid) → filter.guid = some guid := by
  cases inquiry_eq_ok_iff.1 h with
  | userOrg guid org typed => exact ⟨_, rfl, by simp⟩
  | userBusiness guid named corpType => exact ⟨_, rfl, by simp⟩
  | productOrg guid coded org typed => exact ⟨_, rfl, by simp⟩
  | productBusiness guid coded named corpType => exact ⟨_, rfl, by simp⟩
  | staffOrg guid org corpType => exact absurd rfl (hp guid)
  | staffBusiness guid named corpType => exact absurd rfl (hp guid)

/-- Rows of a product are looked for only when a service account asks, and then of its product. -/
theorem productCode_of_inquiry {request : Request} {i : Inquiry} (h : request.inquiry = .ok i)
    {filter : Filter} (hfilter : i.filter? = some filter) {p : String}
    (hp : filter.productCode = some p) :
    ∃ guid product, request.principal = some (.serviceAccount guid product) ∧
      Text.trim product = p := by
  cases inquiry_eq_ok_iff.1 h with
  | productOrg guid coded org typed =>
    cases hfilter
    exact ⟨guid, _, rfl, Option.some.inj hp⟩
  | productBusiness guid coded named corpType =>
    cases hfilter
    exact ⟨guid, _, rfl, Option.some.inj hp⟩
  | userOrg guid org typed =>
    cases hfilter
    cases hp
  | userBusiness guid named corpType =>
    cases hfilter
    cases hp
  | staffOrg guid org corpType => cases hfilter
  | staffBusiness guid named corpType =>
    cases hfilter
    cases hp

end Request

/-! ## Trimmed requests -/

namespace Inquiry

@[simp] theorem businessIdentifier_trim (s : String) :
    businessIdentifier (Text.trim s) = businessIdentifier s := by
  simp [businessIdentifier]

@[simp] theorem productCode_trim (s : String) : productCode (Text.trim s) = productCode s := by
  simp [productCode]

@[simp] theorem corpType_trim (s : String) : corpType (Text.trim s) = corpType s := by
  simp [corpType]

end Inquiry

/-- The target with its business identifier trimmed. -/
def Target.trimmed : Target → Target
  | .org id => .org id
  | .business s => .business (Text.trim s)

/-- The principal with its product code trimmed. -/
def Principal.trimmed : Principal → Principal
  | .serviceAccount guid product => .serviceAccount guid (Text.trim product)
  | principal => principal

namespace Inquiry

theorem about_trimmed_target (type : Option String) (principal : Principal) (target : Target) :
    about type principal target.trimmed = about type principal target := by
  cases target with
  | org org => rfl
  | business identifier =>
    cases principal <;>
      simp [Target.trimmed, about, userInBusiness, productInBusiness, staffOn]

theorem about_trimmed_principal (type : Option String) (principal : Principal) (target : Target) :
    about type principal.trimmed target = about type principal target := by
  cases principal with
  | serviceAccount guid product =>
    cases target <;> simp [Principal.trimmed, about, productInOrg, productInBusiness]
  | user guid => rfl
  | staff guid => rfl

theorem about_trimmed_type (type : Option String) (principal : Principal) (target : Target) :
    about (type.map Text.trim) principal target = about type principal target := by
  cases type with
  | none => rfl
  | some c =>
    cases principal <;> cases target <;>
      simp [about, userInOrgOfType, userInBusiness, productInOrg, productInBusiness]

end Inquiry

namespace Request

/-- If it makes no difference to who asks about what, it makes none to the inquiry of a request. -/
theorem inquiry_map (principal : Principal → Principal) (target : Target → Target)
    (type : Option String → Option String)
    (h : ∀ c p t, Inquiry.about (type c) (principal p) (target t) = Inquiry.about c p t)
    (request : Request) :
    inquiry ⟨request.principal.map principal, request.target.map target, type request.corpType⟩ =
      request.inquiry := by
  obtain ⟨p, t, c⟩ := request
  cases p with
  | none => rfl
  | some p =>
    cases t with
    | none => rfl
    | some t => exact h c p t

theorem inquiry_trimmed_target (request : Request) :
    inquiry { request with target := request.target.map Target.trimmed } = request.inquiry := by
  simpa using inquiry_map id Target.trimmed id Inquiry.about_trimmed_target request

theorem inquiry_trimmed_principal (request : Request) :
    inquiry { request with principal := request.principal.map Principal.trimmed } =
      request.inquiry := by
  simpa using inquiry_map Principal.trimmed id id Inquiry.about_trimmed_principal request

theorem inquiry_trimmed_type (request : Request) :
    inquiry { request with corpType := request.corpType.map Text.trim } = request.inquiry := by
  simpa using inquiry_map id id (Option.map Text.trim) Inquiry.about_trimmed_type request

end Request

end OrgAccess
