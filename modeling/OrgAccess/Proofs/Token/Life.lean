import Mathlib.Order.Basic
import Mathlib.Order.Interval.Set.Defs
import OrgAccess.Proofs.Token.Mint

/-! The life of a token. A token is decoded alike whatever the clock shows, so that only its claims
are held against the time, and these are whole seconds. A token that is well formed and has a
window is not valid before the window, valid in it, and expired after it, to the nanosecond. -/

namespace OrgAccess

/-! ## Moments in their order -/

namespace Instant

/-- The nanoseconds since 1970. -/
def elapsed (now : Instant) : Int := now.second.seconds * 1000000000 + now.nanoseconds.val

theorem elapsed_injective : Function.Injective elapsed := by
  intro a b h
  obtain ⟨⟨s, hs⟩, n⟩ := a
  obtain ⟨⟨t, ht⟩, m⟩ := b
  simp only [elapsed] at h
  have hsecond : s = t := by omega
  have hnano : n = m := Fin.ext (by omega)
  subst hsecond
  subst hnano
  rfl

instance : PartialOrder Instant where
  le a b := a.elapsed ≤ b.elapsed
  lt a b := a.elapsed < b.elapsed
  le_refl a := Int.le_refl a.elapsed
  le_trans _ _ _ := Int.le_trans
  lt_iff_le_not_ge _ _ := Int.lt_iff_le_and_not_ge
  le_antisymm _ _ hle hge := elapsed_injective (Int.le_antisymm hle hge)

theorem le_iff (a b : Instant) : a ≤ b ↔ a.elapsed ≤ b.elapsed := Iff.rfl

theorem lt_iff (a b : Instant) : a < b ↔ a.elapsed < b.elapsed := Iff.rfl

end Instant

theorem Timestamp.zero_lt_billion : 0 < 1000000000 := by decide

/-- The moment at which a second begins. -/
def Timestamp.start (t : Timestamp) : Instant := ⟨t, ⟨0, zero_lt_billion⟩⟩

namespace Instant

theorem lt_start_iff (now : Instant) (t : Timestamp) :
    now < t.start ↔ now.second.seconds < t.seconds := by
  have hstart : t.start.elapsed = t.seconds * 1000000000 := by simp [elapsed, Timestamp.start]
  have hnano := now.nanoseconds.isLt
  rw [lt_iff, hstart, elapsed]
  omega

theorem start_le_iff (now : Instant) (t : Timestamp) :
    t.start ≤ now ↔ t.seconds ≤ now.second.seconds := by
  have hlt := now.lt_start_iff t
  rw [lt_iff] at hlt
  rw [le_iff]
  omega

theorem before_iff (now : Instant) (t : Timestamp) : now.before t = true ↔ now < t.start := by
  rw [before, decide_eq_true_eq, lt_start_iff]

end Instant

namespace Claims

variable {claims : Claims} {now : Instant}

theorem checkAt_of_empty (h : claims.expiresAt.seconds ≤ claims.issuedAt.seconds) :
    claims.checkAt now = .error .emptyWindow := if_pos h

theorem checkAt_of_early (hwindow : claims.issuedAt.seconds < claims.expiresAt.seconds)
    (h : now < claims.issuedAt.start) : claims.checkAt now = .error .notYetValid := by
  rw [checkAt, if_neg (Int.not_le.2 hwindow), if_pos ((now.before_iff _).2 h)]

theorem checkAt_of_late (hwindow : claims.issuedAt.seconds < claims.expiresAt.seconds)
    (h : claims.expiresAt.start ≤ now) : claims.checkAt now = .error .expired := by
  rw [Instant.start_le_iff] at h
  have hissued : ¬ now.before claims.issuedAt = true := by
    rw [Instant.before_iff, Instant.lt_start_iff]
    omega
  have hexpires : ¬ now.before claims.expiresAt = true := by
    rw [Instant.before_iff, Instant.lt_start_iff]
    omega
  rw [checkAt, if_neg (Int.not_le.2 hwindow), if_neg hissued, if_neg hexpires]

end Claims

namespace Token

/-- The ways in which a token may fare with time. It is malformed for one reason at every moment, or
its window is empty at every moment, or its claims have a window that is ahead, open or over. -/
inductive Life (told : Instant → Except Fault Claims) : Prop where
  | malformed (reason : Malformed) (always : ∀ now, told now = .error (.malformed reason))
  | empty (always : ∀ now, told now = .error (.window .emptyWindow))
  | window (claims : Claims)
      (nonempty : claims.issuedAt.seconds < claims.expiresAt.seconds)
      (early : ∀ now, now < claims.issuedAt.start → told now = .error (.window .notYetValid))
      (within : ∀ now, claims.issuedAt.start ≤ now → now < claims.expiresAt.start →
        told now = .ok claims)
      (late : ∀ now, claims.expiresAt.start ≤ now → told now = .error (.window .expired))

section Decoded
variable {secret : List UInt8} {token : String} {clock : Nat} {claims : Claims}
  (hdecode : decode .ofService secret token clock = .ok claims) {now : Instant}
include hdecode

theorem validate_of_ok (h : claims.checkAt now = .ok ()) :
    validate secret token clock now = .ok claims := by
  simp only [validate, hdecode, h]

theorem validate_of_fault {fault : WindowFault} (h : claims.checkAt now = .error fault) :
    validate secret token clock now = .error (.window fault) := by
  simp only [validate, hdecode, h]

end Decoded

/-- The moment of a request decides, and not what the clock of the system shows meanwhile. -/
theorem validate_clock (secret : List UInt8) (token : String) (clock clock' : Nat)
    (now : Instant) : validate secret token clock now = validate secret token clock' now := by
  rw [validate, validate, decode_ofService secret token clock clock']

/-- A token is decoded alike at every moment. -/
theorem life_validate (secret : List UInt8) (token : String) (clock : Instant → Nat) :
    Life fun now => validate secret token (clock now) now := by
  have hsame (now : Instant) :
      decode .ofService secret token (clock now) = decode .ofService secret token 0 :=
    decode_ofService secret token (clock now) 0
  cases hdecode : decode .ofService secret token 0 with
  | error reason =>
    refine .malformed reason fun now => ?_
    rw [validate, hsame, hdecode]
  | ok claims =>
    have hread (now : Instant) : decode .ofService secret token (clock now) = .ok claims :=
      (hsame now).trans hdecode
    by_cases hwindow : claims.issuedAt.seconds < claims.expiresAt.seconds
    · refine .window claims hwindow ?_ ?_ ?_
      · intro now h
        exact validate_of_fault (hread now) (Claims.checkAt_of_early hwindow h)
      · intro now hissued hexpires
        rw [Instant.start_le_iff] at hissued
        rw [Instant.lt_start_iff] at hexpires
        exact validate_of_ok (hread now) (checkAt_of_within hissued hexpires)
      · intro now h
        exact validate_of_fault (hread now) (Claims.checkAt_of_late hwindow h)
    · refine .empty fun now => ?_
      exact validate_of_fault (hread now) (Claims.checkAt_of_empty (Int.not_lt.1 hwindow))

namespace Life

variable {told : Instant → Except Fault Claims}

/-- At every moment the window is ahead, open or over. -/
theorem early_or_within_or_late (claims : Claims) (now : Instant) :
    now < claims.issuedAt.start ∨
      claims.issuedAt.start ≤ now ∧ now < claims.expiresAt.start ∨
      claims.expiresAt.start ≤ now := by
  simp only [Instant.lt_start_iff, Instant.start_le_iff]
  omega

theorem expired_stays (h : Life told) {now later : Instant} (hle : now ≤ later)
    (hexpired : told now = .error (.window .expired)) :
    told later = .error (.window .expired) := by
  cases h with
  | malformed reason always =>
    rw [always now] at hexpired
    cases hexpired
  | empty always =>
    rw [always now] at hexpired
    cases hexpired
  | window claims nonempty early within late =>
    rcases early_or_within_or_late claims now with hearly | ⟨hissued, hexpires⟩ | hlate
    · rw [early now hearly] at hexpired
      cases hexpired
    · rw [within now hissued hexpires] at hexpired
      cases hexpired
    · exact late later (hlate.trans hle)

theorem accepted_of_window {claims claims' : Claims} {now : Instant}
    (early : now < claims.issuedAt.start → told now = .error (.window .notYetValid))
    (late : claims.expiresAt.start ≤ now → told now = .error (.window .expired))
    (h : told now = .ok claims') : now ∈ Set.Ico claims.issuedAt.start claims.expiresAt.start := by
  rcases early_or_within_or_late claims now with hearly | hwithin | hlate
  · rw [early hearly] at h
    cases h
  · exact hwithin
  · rw [late hlate] at h
    cases h

theorem accepted_eq_empty (h : ∀ now claims, told now ≠ .ok claims) (first : Instant) :
    {now | ∃ claims, told now = .ok claims} = Set.Ico first first := by
  ext now
  constructor
  · rintro ⟨claims, htold⟩
    exact absurd htold (h now claims)
  · rintro ⟨hle, hlt⟩
    exact absurd hlt (not_lt_of_ge hle)

/-- The moments at which claims are told form an interval that includes its beginning and not its
end. -/
theorem accepted_eq_Ico (h : Life told) :
    ∃ first last : Instant, {now | ∃ claims, told now = .ok claims} = Set.Ico first last := by
  have moment : Instant := Timestamp.start ⟨0, by decide⟩
  cases h with
  | malformed reason always =>
    exact ⟨moment, moment, accepted_eq_empty (by simp [always]) moment⟩
  | empty always =>
    exact ⟨moment, moment, accepted_eq_empty (by simp [always]) moment⟩
  | window claims nonempty early within late =>
    refine ⟨claims.issuedAt.start, claims.expiresAt.start, ?_⟩
    ext now
    constructor
    · rintro ⟨claims', h⟩
      exact accepted_of_window (early now) (late now) h
    · rintro ⟨hissued, hexpires⟩
      exact ⟨claims, within now hissued hexpires⟩

end Life

/-- Whatever the secret and the token, and whatever the clock of the system shows at each moment,
there is one way in which the token fares with time. Once it is expired it stays so, and the moments
at which it is accepted form one half-open interval. The clock never matters. -/
theorem one_life (secret : List UInt8) (token : String) (clock : Instant → Nat) :
    (Life fun now => validate secret token (clock now) now) ∧
      (∀ now later, now ≤ later →
        validate secret token (clock now) now = .error (.window .expired) →
        validate secret token (clock later) later = .error (.window .expired)) ∧
      (∃ first last : Instant,
        {now | ∃ claims, validate secret token (clock now) now = .ok claims} =
          Set.Ico first last) ∧
      ∀ now other, validate secret token other now = validate secret token (clock now) now := by
  have hlife := life_validate secret token clock
  refine ⟨hlife, ?_, hlife.accepted_eq_Ico, ?_⟩
  · intro now later hle hexpired
    exact hlife.expired_stays hle hexpired
  · intro now other
    exact validate_clock secret token other (clock now) now

/-- The sample token has expired with the second that its claims name, and still is years later,
also by a clock that stands still. -/
theorem one_life_sample :
    let told := validate [115] (mint [115] sampleClaims) 0
    let later : Instant := ⟨⟨1800000000, by decide⟩, ⟨123456789, by decide⟩⟩
    sampleClaims.expiresAt.start ≤ later ∧
      told sampleClaims.expiresAt.start = .error (.window .expired) ∧
      told later = .error (.window .expired) := by
  intro told later
  have hlate : sampleClaims.expiresAt.start ≤ later :=
    (later.start_le_iff _).2 (by decide)
  have hexpired : told sampleClaims.expiresAt.start = .error (.window .expired) := by
    have hdecode : decode .ofService [115] (mint [115] sampleClaims) 0 = .ok sampleClaims := by
      rw [mint_eq_sign, decode_sign _ _ algorithm?_header, check_ofService]
      rfl
    exact validate_of_fault hdecode (Claims.checkAt_of_late (by decide) le_rfl)
  obtain ⟨_, hstays, _⟩ := one_life [115] (mint [115] sampleClaims) fun _ => 0
  exact ⟨hlate, hexpired, hstays _ later hlate hexpired⟩

end Token

end OrgAccess
