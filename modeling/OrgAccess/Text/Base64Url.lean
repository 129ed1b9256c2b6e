/-! Base64 in the URL-safe alphabet, without padding. The last group may be short, and the bits
it has to spare must be zero, so that no two texts stand for the same bytes. -/

namespace OrgAccess.Base64Url

/-- The character of a value below 64. -/
def charOf (n : Nat) : Char :=
  if n < 26 then Char.ofNat ('A'.toNat + n)
  else if n < 52 then Char.ofNat ('a'.toNat + (n - 26))
  else if n < 62 then Char.ofNat ('0'.toNat + (n - 52))
  else if n = 62 then '-'
  else '_'

def valueOf? (c : Char) : Option Nat :=
  if 'A' ≤ c ∧ c ≤ 'Z' then some (c.toNat - 'A'.toNat)
  else if 'a' ≤ c ∧ c ≤ 'z' then some (c.toNat - 'a'.toNat + 26)
  else if '0' ≤ c ∧ c ≤ '9' then some (c.toNat - '0'.toNat + 52)
  else if c = '-' then some 62
  else if c = '_' then some 63
  else none

def encode : List UInt8 → List Char
  | [] => []
  | [a] => [charOf (a.toNat / 4), charOf (a.toNat % 4 * 16)]
  | [a, b] =>
    [charOf (a.toNat / 4), charOf (a.toNat % 4 * 16 + b.toNat / 16), charOf (b.toNat % 16 * 4)]
  | a :: b :: c :: bs =>
    charOf (a.toNat / 4) :: charOf (a.toNat % 4 * 16 + b.toNat / 16) ::
      charOf (b.toNat % 16 * 4 + c.toNat / 64) :: charOf (c.toNat % 64) :: encode bs

/-- The bytes of values below 64, four of which make three bytes. -/
def pack : List Nat → Option (List UInt8)
  | [] => some []
  | [_] => none
  | [v, w] => if w % 16 = 0 then some [UInt8.ofNat (v * 4 + w / 16)] else none
  | [v, w, x] =>
    if x % 4 = 0 then some [UInt8.ofNat (v * 4 + w / 16), UInt8.ofNat (w % 16 * 16 + x / 4)]
    else none
  | v :: w :: x :: y :: vs =>
    (pack vs).map fun bs =>
      UInt8.ofNat (v * 4 + w / 16) :: UInt8.ofNat (w % 16 * 16 + x / 4) ::
        UInt8.ofNat (x % 4 * 64 + y) :: bs

def decode? (cs : List Char) : Option (List UInt8) := (cs.mapM valueOf?).bind pack

private theorem valueOf?_charOf : ∀ n < 64, valueOf? (charOf n) = some n := by
  decide

private theorem mapM_cons {c : Char} {cs : List Char} {n : Nat} (h : valueOf? c = some n) :
    (c :: cs).mapM valueOf? = (cs.mapM valueOf?).map (n :: ·) := by
  simp only [List.mapM_cons, h, Option.bind_eq_bind, Option.pure_def, Option.bind_some]
  cases cs.mapM valueOf? <;> rfl

/-- What is encoded is decoded to the same bytes. -/
theorem decode?_encode (bs : List UInt8) : decode? (encode bs) = some bs := by
  unfold decode?
  fun_induction encode bs with
  | case1 => rfl
  | case2 a =>
    have ha := a.toNat_lt
    rw [mapM_cons (valueOf?_charOf _ (by omega)), mapM_cons (valueOf?_charOf _ (by omega))]
    simp only [List.mapM_nil, Option.pure_def, Option.map_some, Option.bind_some, pack]
    rw [if_pos (by omega)]
    simp only [Option.some.injEq, List.cons.injEq, and_true]
    apply UInt8.toNat_inj.1
    simp only [UInt8.toNat_ofNat']
    omega
  | case3 a b =>
    have ha := a.toNat_lt
    have hb := b.toNat_lt
    rw [mapM_cons (valueOf?_charOf _ (by omega)), mapM_cons (valueOf?_charOf _ (by omega)),
      mapM_cons (valueOf?_charOf _ (by omega))]
    simp only [List.mapM_nil, Option.pure_def, Option.map_some, Option.bind_some, pack]
    rw [if_pos (by omega)]
    simp only [Option.some.injEq, List.cons.injEq, and_true]
    constructor
    · apply UInt8.toNat_inj.1
      simp only [UInt8.toNat_ofNat']
      omega
    · apply UInt8.toNat_inj.1
      simp only [UInt8.toNat_ofNat']
      omega
  | case4 a b c bs ih =>
    have ha := a.toNat_lt
    have hb := b.toNat_lt
    have hc := c.toNat_lt
    rw [mapM_cons (valueOf?_charOf _ (by omega)), mapM_cons (valueOf?_charOf _ (by omega)),
      mapM_cons (valueOf?_charOf _ (by omega)), mapM_cons (valueOf?_charOf _ (by omega))]
    cases hm : (encode bs).mapM valueOf? with
    | none => simp [hm] at ih
    | some vs =>
      rw [hm, Option.bind_some] at ih
      simp only [Option.map_some, Option.bind_some, pack, ih, Option.some.injEq,
        List.cons.injEq, and_true]
      refine ⟨?_, ?_, ?_⟩
      · apply UInt8.toNat_inj.1
        simp only [UInt8.toNat_ofNat']
        omega
      · apply UInt8.toNat_inj.1
        simp only [UInt8.toNat_ofNat']
        omega
      · apply UInt8.toNat_inj.1
        simp only [UInt8.toNat_ofNat']
        omega

end OrgAccess.Base64Url
