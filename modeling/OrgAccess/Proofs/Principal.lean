import Mathlib.Data.List.Forall2
import OrgAccess.Claims
import OrgAccess.Proofs.Text

/-! Who the holder of a token is. Two roles decide it, `system` and `staff`, in any case of their
ASCII letters, and a system token needs a product besides. Nothing else that the roles say matters,
nor how often or in which order they say it, nor when the token holds. -/

namespace OrgAccess

/-! ## Texts up to case -/

namespace Text

/-- The first character is an ASCII capital, and the second one its small letter. -/
def Lowers (c d : Char) : Prop :=
  'A'.toNat ≤ c.toNat ∧ c.toNat ≤ 'Z'.toNat ∧ d.toNat = c.toNat + 32

/-- The same character, or an ASCII letter in its two cases. -/
def SameLetter (c d : Char) : Prop := c = d ∨ Lowers c d ∨ Lowers d c

/-- The texts have the same letters, character by character. -/
def SameButCase (a b : String) : Prop := List.Forall₂ SameLetter a.toList b.toList

theorem toNat_toLower (c : Char) : c.toLower.toNat =
    if 'A'.toNat ≤ c.toNat ∧ c.toNat ≤ 'Z'.toNat then c.toNat + 32 else c.toNat := by
  have hcapital : c.val ≥ 'A'.val ∧ c.val ≤ 'Z'.val ↔
      'A'.toNat ≤ c.toNat ∧ c.toNat ≤ 'Z'.toNat := by
    simp [UInt32.le_iff_toNat_le, ← Char.toNat_val]
  by_cases h : 'A'.toNat ≤ c.toNat ∧ c.toNat ≤ 'Z'.toNat
  · have hsum : (c.val + ('a'.val - 'A'.val)).toNat = c.toNat + 32 := by
      have hz : 'Z'.toNat = 90 := rfl
      have hval : c.val.toNat = c.toNat := rfl
      rw [UInt32.toNat_add, hval]
      show (c.toNat + 32) % 2 ^ 32 = c.toNat + 32
      omega
    rw [if_pos h, ← hsum]
    exact congrArg Char.toNat (dif_pos (hcapital.2 h))
  · rw [if_neg h]
    exact congrArg Char.toNat (dif_neg (mt hcapital.1 h))

theorem toLower_eq_iff (c d : Char) : c.toLower = d.toLower ↔ SameLetter c d := by
  have ha : 'A'.toNat = 65 := rfl
  have hz : 'Z'.toNat = 90 := rfl
  simp only [SameLetter, Lowers, ← Char.toNat_inj (c := c) (d := d),
    ← Char.toNat_inj (c := c.toLower), toNat_toLower]
  split <;> split <;> omega

theorem sameButCase_iff (a b : String) :
    SameButCase a b ↔ a.toList.map Char.toLower = b.toList.map Char.toLower := by
  rw [SameButCase, ← List.forall₂_eq_eq_eq, List.forall₂_map_left_iff,
    List.forall₂_map_right_iff]
  simp only [toLower_eq_iff]

instance (a b : String) : Decidable (SameButCase a b) :=
  decidable_of_iff _ (sameButCase_iff a b).symm

theorem SameButCase.symm {a b : String} (h : SameButCase a b) : SameButCase b a :=
  (sameButCase_iff b a).2 ((sameButCase_iff a b).1 h).symm

theorem SameButCase.trans {a b c : String} (h : SameButCase a b) (k : SameButCase b c) :
    SameButCase a c :=
  (sameButCase_iff a c).2 (((sameButCase_iff a b).1 h).trans ((sameButCase_iff b c).1 k))

/-- Beyond ASCII a character has no other case. -/
theorem SameLetter.lt {c d : Char} (h : SameLetter c d) (hd : d.toNat < 128) : c.toNat < 128 := by
  have hz : 'Z'.toNat = 90 := rfl
  rcases h with rfl | ⟨_, hc, _⟩ | ⟨_, hcapital, hc⟩
  · exact hd
  · omega
  · omega

/-- Whatever a text looks like, it is no text of ASCII characters if it holds another one. -/
theorem SameButCase.lt {a b : String} (h : SameButCase a b) (hb : ∀ d ∈ b.toList, d.toNat < 128) :
    ∀ c ∈ a.toList, c.toNat < 128 := by
  rw [SameButCase] at h
  generalize a.toList = cs at h ⊢
  generalize b.toList = ds at h hb
  induction h with
  | nil => simp
  | cons hletter _ ih =>
    intro c hc
    rcases List.mem_cons.1 hc with rfl | hc
    · exact hletter.lt (hb _ List.mem_cons_self)
    · exact ih (fun d hd => hb d (List.mem_cons_of_mem _ hd)) c hc

end Text

/-! ## What claims say -/

namespace Claims

/-- Some role of the claims is this one, in any case of its letters. -/
def Plays (claims : Claims) (role : String) : Prop := ∃ r ∈ claims.roles, Text.SameButCase r role

/-- The claims name a product that is more than blanks. -/
def Product (claims : Claims) (code : String) : Prop :=
  claims.productCode = some code ∧ ¬ Text.AllBlank code

theorem hasRole_iff (claims : Claims) (role : String) :
    claims.hasRole role = true ↔ claims.Plays role := by
  rw [hasRole, List.any_eq_true]
  refine exists_congr fun r => and_congr_right fun _ => ?_
  rw [sameButForCase, decide_eq_true_eq, Text.sameButCase_iff]

/-- What claims make of their holder. The role of the system counts before that of staff, and it
does not give way when the product is missing. -/
inductive Makes (claims : Claims) : Except DomainFault Principal → Prop where
  | serviceAccount {code : String} (system : claims.Plays Principal.systemRole)
      (product : claims.Product code) :
      Makes claims (.ok (.serviceAccount claims.subject (Text.trim code)))
  | unauthorized (system : claims.Plays Principal.systemRole)
      (noProduct : ∀ code, ¬ claims.Product code) : Makes claims (.error .unauthorized)
  | staff (noSystem : ¬ claims.Plays Principal.systemRole)
      (staff : claims.Plays Principal.staffRole) : Makes claims (.ok (.staff claims.subject))
  | user (noSystem : ¬ claims.Plays Principal.systemRole)
      (noStaff : ¬ claims.Plays Principal.staffRole) : Makes claims (.ok (.user claims.subject))

/-- The claims agree in all that decides who their holder is. -/
structure SameHolder (claims claims' : Claims) : Prop where
  subject : claims'.subject = claims.subject
  product : claims'.productCode = claims.productCode
  system : claims'.Plays Principal.systemRole ↔ claims.Plays Principal.systemRole
  staff : claims'.Plays Principal.staffRole ↔ claims.Plays Principal.staffRole

theorem Makes.congr {claims claims' : Claims} (h : claims.SameHolder claims')
    {outcome : Except DomainFault Principal} (hmakes : claims.Makes outcome) :
    claims'.Makes outcome := by
  have hproduct : ∀ code, claims'.Product code ↔ claims.Product code := by
    intro code
    rw [Product, Product, h.product]
  cases hmakes with
  | serviceAccount system product =>
    rw [← h.subject]
    exact .serviceAccount (h.system.2 system) ((hproduct _).2 product)
  | unauthorized system noProduct =>
    refine .unauthorized (h.system.2 system) fun code hcode => ?_
    exact noProduct code ((hproduct code).1 hcode)
  | staff noSystem staff =>
    rw [← h.subject]
    exact .staff (mt h.system.1 noSystem) (h.staff.2 staff)
  | user noSystem noStaff =>
    rw [← h.subject]
    exact .user (mt h.system.1 noSystem) (mt h.staff.1 noStaff)

/-- Roles matter through what is played. -/
theorem sameHolder_of_roles {claims : Claims} {roles : List String}
    (h : ∀ role ∈ [Principal.systemRole, Principal.staffRole],
      Plays { claims with roles := roles } role ↔ claims.Plays role) :
    claims.SameHolder { claims with roles := roles } :=
  ⟨rfl, rfl, h _ (by simp), h _ (by simp)⟩

theorem plays_of_mem_iff {claims : Claims} {roles : List String}
    (h : ∀ r, r ∈ roles ↔ r ∈ claims.roles) (role : String) :
    Plays { claims with roles := roles } role ↔ claims.Plays role :=
  exists_congr fun r => and_congr_left fun _ => h r

theorem plays_of_sameButCase {claims : Claims} {roles : List String}
    (h : List.Forall₂ Text.SameButCase claims.roles roles) (role : String) :
    Plays { claims with roles := roles } role ↔ claims.Plays role := by
  rw [Plays, Plays]
  generalize claims.roles = given at h
  induction h with
  | nil => rfl
  | cons hcase _ ih =>
    rw [List.exists_mem_cons_iff, List.exists_mem_cons_iff, ih]
    exact or_congr_left ⟨hcase.trans, hcase.symm.trans⟩

theorem plays_of_other {claims : Claims} {before after : List String}
    (h : claims.roles = before ++ after) {other role : String}
    (hother : ¬ Text.SameButCase other role) :
    Plays { claims with roles := before ++ other :: after } role ↔ claims.Plays role := by
  rw [Plays, Plays, h]
  simp [or_and_right, exists_or, hother]

end Claims

namespace Principal

theorem ofClaims_eq_of_makes {claims : Claims} {outcome : Except DomainFault Principal}
    (h : claims.Makes outcome) : ofClaims claims = outcome := by
  cases h with
  | serviceAccount system product =>
    rw [ofClaims, if_pos ((claims.hasRole_iff _).2 system), product.1, Option.bind_some,
      Text.nonBlank?_eq_some product.2]
  | unauthorized system noProduct =>
    have hnone : claims.productCode.bind Text.nonBlank? = none := by
      refine Option.bind_eq_none_iff.2 fun code hcode => Text.nonBlank?_eq_none ?_
      by_contra hblank
      exact noProduct code ⟨hcode, hblank⟩
    rw [ofClaims, if_pos ((claims.hasRole_iff _).2 system), hnone]
  | staff noSystem staff =>
    rw [ofClaims, if_neg (mt (claims.hasRole_iff _).1 noSystem),
      if_pos ((claims.hasRole_iff _).2 staff)]
  | user noSystem noStaff =>
    rw [ofClaims, if_neg (mt (claims.hasRole_iff _).1 noSystem),
      if_neg (mt (claims.hasRole_iff _).1 noStaff)]

/-- Claims make something of their holder, whatever they say. -/
theorem exists_makes (claims : Claims) : ∃ outcome, claims.Makes outcome := by
  by_cases system : claims.Plays systemRole
  · by_cases product : ∃ code, claims.Product code
    · obtain ⟨code, hcode⟩ := product
      exact ⟨_, .serviceAccount system hcode⟩
    · exact ⟨_, .unauthorized system (not_exists.1 product)⟩
  · by_cases staff : claims.Plays staffRole
    · exact ⟨_, .staff system staff⟩
    · exact ⟨_, .user system staff⟩

theorem ofClaims_eq_iff {claims : Claims} {outcome : Except DomainFault Principal} :
    ofClaims claims = outcome ↔ claims.Makes outcome := by
  constructor
  · rintro rfl
    obtain ⟨outcome, h⟩ := exists_makes claims
    rw [ofClaims_eq_of_makes h]
    exact h
  · exact ofClaims_eq_of_makes

theorem ofClaims_congr {claims claims' : Claims} (h : claims.SameHolder claims') :
    ofClaims claims' = ofClaims claims :=
  ofClaims_eq_iff.2 ((ofClaims_eq_iff.1 rfl).congr h)

theorem ofClaims_eq_serviceAccount_iff {claims : Claims} {guid : Guid} {product : String} :
    ofClaims claims = .ok (.serviceAccount guid product) ↔
      claims.Plays systemRole ∧ guid = claims.subject ∧
        ∃ code, claims.Product code ∧ Text.Trims code product ∧ product ≠ "" := by
  rw [ofClaims_eq_iff]
  constructor
  · rintro (⟨system, product⟩ | _)
    exact ⟨system, rfl, _, product, (Text.trims_iff _ _).2 rfl,
      mt (Text.trim_eq_empty_iff _).1 product.2⟩
  · rintro ⟨system, rfl, code, product, htrims, _⟩
    rw [← (Text.trims_iff _ _).1 htrims]
    exact .serviceAccount system product

theorem ofClaims_eq_error_iff {claims : Claims} {fault : DomainFault} :
    ofClaims claims = .error fault ↔
      claims.Plays systemRole ∧ (∀ code, ¬ claims.Product code) ∧ fault = .unauthorized := by
  rw [ofClaims_eq_iff]
  constructor
  · rintro (_ | ⟨system, noProduct⟩)
    exact ⟨system, noProduct, rfl⟩
  · rintro ⟨system, noProduct, rfl⟩
    exact .unauthorized system noProduct

theorem ofClaims_eq_staff_iff {claims : Claims} {guid : Guid} :
    ofClaims claims = .ok (.staff guid) ↔
      ¬ claims.Plays systemRole ∧ claims.Plays staffRole ∧ guid = claims.subject := by
  rw [ofClaims_eq_iff]
  constructor
  · rintro (_ | _ | ⟨noSystem, staff⟩)
    exact ⟨noSystem, staff, rfl⟩
  · rintro ⟨noSystem, staff, rfl⟩
    exact .staff noSystem staff

theorem ofClaims_eq_user_iff {claims : Claims} {guid : Guid} :
    ofClaims claims = .ok (.user guid) ↔
      ¬ claims.Plays systemRole ∧ ¬ claims.Plays staffRole ∧ guid = claims.subject := by
  rw [ofClaims_eq_iff]
  constructor
  · rintro (_ | _ | _ | ⟨noSystem, noStaff⟩)
    exact ⟨noSystem, noStaff, rfl⟩
  · rintro ⟨noSystem, noStaff, rfl⟩
    exact .user noSystem noStaff

theorem guid_of_ofClaims {claims : Claims} {principal : Principal}
    (h : ofClaims claims = .ok principal) : principal.guid = claims.subject := by
  cases ofClaims_eq_iff.1 h <;> rfl

/-- The product of a service account is more than blanks. -/
theorem not_allBlank_of_ofClaims {claims : Claims} {guid : Guid} {product : String}
    (h : ofClaims claims = .ok (.serviceAccount guid product)) : ¬ Text.AllBlank product := by
  obtain ⟨_, _, code, hcode, htrims, _⟩ := ofClaims_eq_serviceAccount_iff.1 h
  rw [← (Text.trims_iff _ _).1 htrims, ← Text.trim_eq_empty_iff, Text.trim_trim,
    Text.trim_eq_empty_iff]
  exact hcode.2

/-- The two roles are ASCII, so no text with a character beyond ASCII is read as one of them. -/
theorem not_sameButCase_of_beyond_ascii {role : String} (h : ∃ c ∈ role.toList, 128 ≤ c.toNat) :
    ¬ Text.SameButCase role systemRole ∧ ¬ Text.SameButCase role staffRole := by
  have hsystem : ∀ d ∈ systemRole.toList, d.toNat < 128 := by simp [systemRole]
  have hstaff : ∀ d ∈ staffRole.toList, d.toNat < 128 := by simp [staffRole]
  obtain ⟨c, hc, hbeyond⟩ := h
  have hnot : ¬ c.toNat < 128 := Nat.not_lt.2 hbeyond
  exact ⟨fun hcase => hnot (hcase.lt hsystem c hc), fun hcase => hnot (hcase.lt hstaff c hc)⟩

/-- The holder of claims is a service account just when some role is `system` and a product is
named that is more than blanks, and acts for this product without the blanks around it. Without the
product the claims make nobody, even if another role is `staff`. Otherwise the holder is staff or a
user, as some role is `staff` or not. The GUID is that of the subject. Claims that agree on the
subject, the product and which of the two roles are played make the same holder: so roles may be
given in any order and any number of times, in any case of their letters and among any other roles,
which all roles are that have a character beyond ASCII, and the times of the claims do not
matter. -/
theorem decided_by_two_roles (claims : Claims) :
    (∀ guid product, ofClaims claims = .ok (.serviceAccount guid product) ↔
        claims.Plays systemRole ∧ guid = claims.subject ∧
          ∃ code, claims.Product code ∧ Text.Trims code product ∧ product ≠ "") ∧
      (∀ fault, ofClaims claims = .error fault ↔
        claims.Plays systemRole ∧ (∀ code, ¬ claims.Product code) ∧ fault = .unauthorized) ∧
      (∀ guid, ofClaims claims = .ok (.staff guid) ↔
        ¬ claims.Plays systemRole ∧ claims.Plays staffRole ∧ guid = claims.subject) ∧
      (∀ guid, ofClaims claims = .ok (.user guid) ↔
        ¬ claims.Plays systemRole ∧ ¬ claims.Plays staffRole ∧ guid = claims.subject) ∧
      (∀ principal, ofClaims claims = .ok principal → principal.guid = claims.subject) ∧
      (∀ claims', claims.SameHolder claims' → ofClaims claims' = ofClaims claims) ∧
      (∀ roles, (∀ r, r ∈ roles ↔ r ∈ claims.roles) →
        ofClaims { claims with roles := roles } = ofClaims claims) ∧
      (∀ roles, List.Forall₂ Text.SameButCase claims.roles roles →
        ofClaims { claims with roles := roles } = ofClaims claims) ∧
      (∀ before after other, claims.roles = before ++ after →
        ¬ Text.SameButCase other systemRole → ¬ Text.SameButCase other staffRole →
        ofClaims { claims with roles := before ++ other :: after } = ofClaims claims) ∧
      (∀ role, (∃ c ∈ role.toList, 128 ≤ c.toNat) →
        ¬ Text.SameButCase role systemRole ∧ ¬ Text.SameButCase role staffRole) ∧
      ∀ issued expires, ofClaims { claims with issuedAt := issued, expiresAt := expires } =
        ofClaims claims := by
  refine ⟨fun _ _ => ofClaims_eq_serviceAccount_iff, fun _ => ofClaims_eq_error_iff,
    fun _ => ofClaims_eq_staff_iff, fun _ => ofClaims_eq_user_iff, fun _ => guid_of_ofClaims,
    fun _ => ofClaims_congr, ?_, ?_, ?_, fun _ => not_sameButCase_of_beyond_ascii, ?_⟩
  · intro roles hsame
    exact ofClaims_congr
      (Claims.sameHolder_of_roles fun role _ => Claims.plays_of_mem_iff hsame role)
  · intro roles hcase
    exact ofClaims_congr
      (Claims.sameHolder_of_roles fun role _ => Claims.plays_of_sameButCase hcase role)
  · intro before after other hroles hsystem hstaff
    refine ofClaims_congr (Claims.sameHolder_of_roles ?_)
    simp only [List.forall_mem_cons, List.not_mem_nil, false_implies, implies_true, and_true]
    exact ⟨Claims.plays_of_other hroles hsystem, Claims.plays_of_other hroles hstaff⟩
  · intro issued expires
    exact ofClaims_congr ⟨rfl, rfl, Iff.rfl, Iff.rfl⟩

/-- Claims of somebody on the staff, without a product. -/
def sampleStaff : Claims where
  subject := ⟨List.replicate 32 ⟨3, by decide⟩, rfl⟩
  roles := ["offline_access", "Staff"]
  productCode := none
  issuedAt := ⟨1650000000, by decide⟩
  expiresAt := ⟨1650000900, by decide⟩

/-- Staff stay staff with another role that only looks like `system`. -/
theorem decided_by_two_roles_sample :
    sampleStaff.Plays staffRole ∧ ofClaims sampleStaff = .ok (.staff sampleStaff.subject) ∧
      ofClaims { sampleStaff with roles := ["offline_access"] ++ "ſystem" :: ["Staff"] } =
        .ok (.staff sampleStaff.subject) := by
  obtain ⟨_, _, hstaff, _, _, _, _, _, hother, hbeyond, _⟩ := decided_by_two_roles sampleStaff
  have hplays : sampleStaff.Plays staffRole := ⟨"Staff", by decide, by decide⟩
  have hnot : ¬ sampleStaff.Plays systemRole := by
    rw [← Claims.hasRole_iff]
    decide
  have hprincipal := (hstaff sampleStaff.subject).2 ⟨hnot, hplays, rfl⟩
  obtain ⟨hsystem, hstaffRole⟩ := hbeyond "ſystem" ⟨'ſ', by decide, by decide⟩
  exact ⟨hplays, hprincipal,
    (hother ["offline_access"] ["Staff"] "ſystem" rfl hsystem hstaffRole).trans hprincipal⟩

end Principal

end OrgAccess
