import OrgAccess.Proofs.Json.Records
import OrgAccess.Token.Bearer

/-! Tokens that are made here are accepted here. No part of a token has a dot in it, so the parts
are found again; the signature is made over the same message; and the payload reads back as the
claims that it was written from. -/

namespace OrgAccess

namespace Base64Url

theorem mapM_valueOf?_of_mem {c : Char} {cs : List Char} (hc : c ∈ cs) (h : valueOf? c = none) :
    cs.mapM valueOf? = none := by
  induction cs with
  | nil => cases hc
  | cons d ds ih =>
    rw [List.mapM_cons]
    rcases List.mem_cons.1 hc with rfl | hc
    · rw [h]
      rfl
    · rw [ih hc]
      cases valueOf? d <;> rfl

theorem dot_not_mem_encode (bs : List UInt8) : '.' ∉ encode bs := by
  intro hdot
  have hread := decode?_encode bs
  rw [decode?, mapM_valueOf?_of_mem hdot (by decide)] at hread
  cases hread

end Base64Url

namespace Token

theorem splitLast?_append (before : List Char) {after : List Char} (h : '.' ∉ after) :
    splitLast? (before ++ '.' :: after) = some (before, after) := by
  have hafter : ∀ c ∈ after.reverse, (c ≠ '.' : Bool) = true := by
    intro c hc
    have hne : c ≠ '.' := fun heq => h (heq ▸ List.mem_reverse.1 hc)
    exact decide_eq_true hne
  have hreverse : (before ++ '.' :: after).reverse = after.reverse ++ '.' :: before.reverse := by
    simp
  rw [splitLast?, hreverse, List.dropWhile_append_of_pos hafter,
    List.takeWhile_append_of_pos hafter]
  simp

namespace Parts

/-- The parts, parted by dots. -/
def chars (p : Parts) : List Char := p.message ++ '.' :: p.signature

theorem ofChars?_chars {p : Parts} (hpayload : '.' ∉ p.payload) (hsignature : '.' ∉ p.signature) :
    ofChars? p.chars = some p := by
  rw [ofChars?, chars, splitLast?_append _ hsignature]
  show (splitLast? (p.header ++ '.' :: p.payload)).bind _ = _
  rw [splitLast?_append _ hpayload]
  rfl

/-- A header and a payload, signed with the secret. -/
def signed (secret : List UInt8) (header payload : List UInt8) : Parts where
  header := Base64Url.encode header
  payload := Base64Url.encode payload
  signature := signatureOf secret (Base64Url.encode header ++ '.' :: Base64Url.encode payload)

theorem ofChars?_signed (secret : List UInt8) (header payload : List UInt8) :
    ofChars? (signed secret header payload).chars = some (signed secret header payload) :=
  ofChars?_chars (Base64Url.dot_not_mem_encode payload) (Base64Url.dot_not_mem_encode _)

end Parts

/-- A token of any header and payload, signed with the secret. -/
def sign (secret : List UInt8) (header payload : List UInt8) : String :=
  String.ofList (Parts.signed secret header payload).chars

theorem mint_eq_sign (secret : List UInt8) (claims : Claims) :
    mint secret claims = sign secret Header.json.bytes claims.toJson.bytes := rfl

/-- The header of the tokens made here names the algorithm they are signed with. -/
theorem algorithm?_header :
    (Json.parse? Header.json.bytes).bind Header.algorithm? = some .hs256 := by
  have hwhole : Header.json.Whole := (Json.whole_ofFields_iff _).2 (by simp)
  rw [Json.parse?_bytes hwhole, Option.bind_some]
  decide

/-- Claims hold none of the registered claims that this service does not use. -/
theorem namesAudience?_claims (bytes : List UInt8) (claims : Claims) :
    namesAudience? bytes claims.toJson = some false := by
  obtain ⟨subject, roles, product, issued, expires⟩ := claims
  cases product <;> rfl

/-- The payload that claims are written as. -/
def Payload.ofClaims (claims : Claims) : Payload :=
  ⟨claims, claims.expiresAt.seconds.toNat?, false⟩

theorem payload?_claims (claims : Claims) :
    payload? claims.toJson.bytes = some (.ofClaims claims) := by
  rw [payload?, Json.parse?_bytes claims.whole_toJson]
  show (Claims.ofJson? claims.toJson).bind _ = _
  rw [Claims.ofJson?_toJson]
  show (namesAudience? _ claims.toJson).bind _ = _
  rw [namesAudience?_claims]
  rfl

theorem readAlgorithm_signed (secret : List UInt8) {header : List UInt8} {algorithm : Algorithm}
    (h : (Json.parse? header).bind Header.algorithm? = some algorithm) (payload : List UInt8) :
    readAlgorithm (.signed secret header payload) = .ok algorithm := by
  rw [readAlgorithm, Parts.signed, Base64Url.decode?_encode]
  show orElse _ ((Json.parse? header).bind _) = _
  rw [h]
  rfl

theorem readClaims_signed (checks : Checks) (clock : Nat) (secret header : List UInt8)
    (claims : Claims) :
    readClaims checks clock (.signed secret header claims.toJson.bytes) =
      (checks.check clock (.ofClaims claims)).map fun _ => claims := by
  rw [readClaims, Parts.signed, Base64Url.decode?_encode]
  show (orElse _ (payload? claims.toJson.bytes)).bind _ = _
  rw [payload?_claims]
  rfl

/-- A signed token is read for its claims, provided its header names the algorithm, and they are
checked. -/
theorem decode_sign (checks : Checks) (secret : List UInt8) {header : List UInt8}
    (hheader : (Json.parse? header).bind Header.algorithm? = some .hs256) (claims : Claims)
    (clock : Nat) :
    decode checks secret (sign secret header claims.toJson.bytes) clock =
      (checks.check clock (.ofClaims claims)).map fun _ => claims := by
  have hsignature (p : Parts) (h : p.signature = signatureOf secret p.message) :
      (if p.signature ≠ signatureOf secret p.message then .error .signature
        else readClaims checks clock p) = readClaims checks clock p := if_neg (not_not_intro h)
  rw [decode, sign, String.toList_ofList, Parts.ofChars?_signed]
  show (readAlgorithm _).bind _ = _
  rw [readAlgorithm_signed secret hheader]
  exact (hsignature _ rfl).trans (readClaims_signed checks clock secret header claims)

/-! ## The clock -/

/-- The checks of this service look for an audience and at nothing else. -/
theorem check_ofService (clock : Nat) (p : Payload) :
    Checks.ofService.check clock p = if p.namesAudience then .error .audience else .ok () := by
  simp [Checks.check, Checks.ofService]

/-- This service decodes a token alike whatever the clock shows. -/
theorem decode_ofService (secret : List UInt8) (token : String) (clock clock' : Nat) :
    decode .ofService secret token clock = decode .ofService secret token clock' := by
  simp only [decode, readClaims, check_ofService]

/-- With checks that compare the expiry it would be otherwise: a token that is over by more than the
leeway is not decoded. -/
theorem decode_expired {checks : Checks} (hcompares : checks.comparesExpiry = true)
    (secret : List UInt8) (claims : Claims) {clock : Nat}
    (hexpiry : 0 ≤ claims.expiresAt.seconds)
    (hover : claims.expiresAt.seconds + checks.leeway < clock) :
    decode checks secret (mint secret claims) clock = .error .expired := by
  obtain ⟨second, hsecond⟩ := Int.eq_ofNat_of_zero_le hexpiry
  have hread : (Payload.ofClaims claims).expiry = some second := by
    rw [Payload.ofClaims, hsecond]
    rfl
  have hcheck : checks.check clock (.ofClaims claims) = .error .expired := by
    have hlate : second + checks.leeway < clock := by omega
    simp [Checks.check, hread, hcompares, hlate]
  rw [mint_eq_sign, decode_sign checks secret algorithm?_header, hcheck]
  rfl

theorem checkAt_of_within {claims : Claims} {now : Instant}
    (hissued : claims.issuedAt.seconds ≤ now.second.seconds)
    (hexpires : now.second.seconds < claims.expiresAt.seconds) : claims.checkAt now = .ok () := by
  have hfrom : now.before claims.issuedAt = false := by simpa [Instant.before] using hissued
  have huntil : now.before claims.expiresAt = true := by simpa [Instant.before] using hexpires
  rw [Claims.checkAt, if_neg (by omega), hfrom, huntil]
  rfl

theorem validate_sign (secret : List UInt8) {header : List UInt8}
    (hheader : (Json.parse? header).bind Header.algorithm? = some .hs256) {claims : Claims}
    (clock : Nat) {now : Instant} (hissued : claims.issuedAt.seconds ≤ now.second.seconds)
    (hexpires : now.second.seconds < claims.expiresAt.seconds) :
    validate secret (sign secret header claims.toJson.bytes) clock now = .ok claims := by
  have hdecode : decode .ofService secret (sign secret header claims.toJson.bytes) clock =
      .ok claims := by
    rw [decode_sign _ secret hheader, check_ofService]
    rfl
  simp only [validate, hdecode, checkAt_of_within hissued hexpires]

/-- Whatever the secret and the claims, a minted token is accepted from the second it is issued
until the second it expires, and holds just these claims. Any other header that names the same
algorithm will do. The clock of the system does not matter. -/
theorem minted_token_validates (secret : List UInt8) (claims : Claims) (clock : Nat)
    (now : Instant) (hissued : claims.issuedAt.seconds ≤ now.second.seconds)
    (hexpires : now.second.seconds < claims.expiresAt.seconds) :
    validate secret (mint secret claims) clock now = .ok claims ∧
      ∀ header, (Json.parse? header).bind Header.algorithm? = some .hs256 →
        validate secret (sign secret header claims.toJson.bytes) clock now = .ok claims := by
  constructor
  · rw [mint_eq_sign]
    exact validate_sign secret algorithm?_header clock hissued hexpires
  · intro header hheader
    exact validate_sign secret hheader clock hissued hexpires

/-- Claims without a product, of a holder with two roles, that hold for an hour. -/
def sampleClaims : Claims where
  subject := ⟨List.replicate 32 ⟨7, by decide⟩, rfl⟩
  roles := ["staff", "été \"\n"]
  productCode := none
  issuedAt := ⟨1700000000, by decide⟩
  expiresAt := ⟨1700003600, by decide⟩

/-- A token for the sample claims is accepted in the second that it is issued, by a clock that is
years ahead. The secret is no text. -/
theorem minted_token_validates_sample :
    validate [0, 255, 128] (mint [0, 255, 128] sampleClaims) 1900000000
        ⟨⟨1700000000, by decide⟩, ⟨5, by decide⟩⟩ = .ok sampleClaims :=
  (minted_token_validates [0, 255, 128] sampleClaims 1900000000
    ⟨⟨1700000000, by decide⟩, ⟨5, by decide⟩⟩ (by decide) (by decide)).1

end Token

end OrgAccess
