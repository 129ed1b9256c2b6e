/-! Total orders told by one comparison. Keys of tables and the precedence of rows are
compared through the class `Ordered`, so numbers, texts, optional texts and pairs all come
with the same three laws. -/

namespace OrgAccess

/-- A total order: equal outcomes only for equal values, reversed when the two sides are
swapped, and transitive. -/
class Ordered (α : Type) where
  order : α → α → Ordering
  order_eq {a b : α} : order a b = .eq ↔ a = b
  order_swap (a b : α) : order b a = (order a b).swap
  order_trans {a b c : α} : order a b = .lt → order b c = .lt → order a c = .lt

export Ordered (order order_eq order_swap order_trans)

section Laws
variable {α : Type} [Ordered α]

/-- `a` comes strictly before `b`. -/
def Precedes (a b : α) : Prop := order a b = .lt

instance (a b : α) : Decidable (Precedes a b) := inferInstanceAs (Decidable (_ = _))

theorem order_self (a : α) : order a a = .eq := order_eq.2 rfl

theorem order_eq_gt_iff (a b : α) : order a b = .gt ↔ Precedes b a := by
  unfold Precedes
  rw [order_swap a b]
  cases order a b <;> decide

theorem Precedes.irrefl (a : α) : ¬ Precedes a a := by
  simp [Precedes, order_self]

theorem Precedes.trans {a b c : α} (h : Precedes a b) (k : Precedes b c) : Precedes a c :=
  order_trans h k

theorem Precedes.asymm {a b : α} (h : Precedes a b) : ¬ Precedes b a :=
  fun k => Precedes.irrefl a (h.trans k)

theorem Precedes.ne {a b : α} (h : Precedes a b) : a ≠ b := by
  rintro rfl
  exact Precedes.irrefl a h

/-- One of two values comes first, or they are the same. -/
theorem precedes_trichotomy (a b : α) : Precedes a b ∨ a = b ∨ Precedes b a := by
  cases h : order a b with
  | lt => exact Or.inl h
  | eq => exact Or.inr (Or.inl (order_eq.1 h))
  | gt => exact Or.inr (Or.inr ((order_eq_gt_iff a b).1 h))

end Laws

/-- Values compared through a number, text or pair that tells them apart. -/
@[reducible]
def Ordered.along {α β : Type} [Ordered β] (f : α → β) (inj : ∀ {a b}, f a = f b → a = b) :
    Ordered α where
  order a b := order (f a) (f b)
  order_eq := ⟨fun h => inj (order_eq.1 h), fun h => h ▸ order_self _⟩
  order_swap a b := order_swap (f a) (f b)
  order_trans := order_trans

/-- Integers in their usual order. -/
def orderInt (a b : Int) : Ordering :=
  if a < b then .lt else if b < a then .gt else .eq

private theorem orderInt_lt_iff (a b : Int) : orderInt a b = .lt ↔ a < b := by
  unfold orderInt
  split
  · simp_all
  · split <;> simp_all

private theorem orderInt_eq_iff (a b : Int) : orderInt a b = .eq ↔ a = b := by
  unfold orderInt
  split
  · simp
    omega
  · split <;> simp <;> omega

private theorem orderInt_swap (a b : Int) : orderInt b a = (orderInt a b).swap := by
  unfold orderInt
  rcases Int.lt_trichotomy a b with h | rfl | h
  · rw [if_neg (Int.lt_asymm h), if_pos h, if_pos h]
    rfl
  · rw [if_neg (Int.lt_irrefl a), if_neg (Int.lt_irrefl a)]
    rfl
  · rw [if_pos h, if_neg (Int.lt_asymm h), if_pos h]
    rfl

private theorem orderInt_trans {a b c : Int} (h : orderInt a b = .lt) (k : orderInt b c = .lt) :
    orderInt a c = .lt := by
  rw [orderInt_lt_iff] at *
  exact Int.lt_trans h k

instance : Ordered Int where
  order := orderInt
  order_eq := orderInt_eq_iff _ _
  order_swap := orderInt_swap
  order_trans := orderInt_trans

theorem precedes_int_iff (a b : Int) : Precedes a b ↔ a < b := orderInt_lt_iff a b

instance : Ordered Nat := Ordered.along Int.ofNat (fun h => Int.ofNat.inj h)

instance : Ordered Int64 := Ordered.along Int64.toInt (fun h => Int64.toInt_inj.1 h)

instance : Ordered Char :=
  Ordered.along (fun c => c.toNat) (fun h => Char.toNat_inj.1 h)

/-- The first difference decides; a list comes after its own beginnings. -/
def orderList {α : Type} [Ordered α] : List α → List α → Ordering
  | [], [] => .eq
  | [], _ :: _ => .lt
  | _ :: _, [] => .gt
  | a :: as, b :: bs =>
    match order a b with
    | .lt => .lt
    | .gt => .gt
    | .eq => orderList as bs

private theorem orderList_eq {α : Type} [Ordered α] (as bs : List α) :
    orderList as bs = .eq ↔ as = bs := by
  induction as generalizing bs with
  | nil => cases bs <;> simp [orderList]
  | cons a as ih =>
    cases bs with
    | nil => simp [orderList]
    | cons b bs =>
      rw [orderList]
      cases h : order a b with
      | lt => simp [Precedes.ne h]
      | eq => simp [order_eq.1 h, ih]
      | gt => simp [(Precedes.ne ((order_eq_gt_iff a b).1 h)).symm]

private theorem orderList_swap {α : Type} [Ordered α] (as bs : List α) :
    orderList bs as = (orderList as bs).swap := by
  induction as generalizing bs with
  | nil => cases bs <;> rfl
  | cons a as ih =>
    cases bs with
    | nil => rfl
    | cons b bs =>
      rw [orderList, orderList, order_swap a b]
      cases order a b with
      | lt => rfl
      | eq => exact ih bs
      | gt => rfl

private theorem orderList_trans {α : Type} [Ordered α] (as bs cs : List α) :
    orderList as bs = .lt → orderList bs cs = .lt → orderList as cs = .lt := by
  induction as generalizing bs cs with
  | nil =>
    cases bs with
    | nil => simp [orderList]
    | cons b bs => cases cs <;> simp [orderList]
  | cons a as ih =>
    cases bs with
    | nil => simp [orderList]
    | cons b bs =>
      cases cs with
      | nil => simp [orderList]
      | cons c cs =>
        simp only [orderList]
        cases hab : order a b with
        | gt => simp
        | eq =>
          rw [order_eq.1 hab]
          cases order b c with
          | lt => simp
          | gt => simp
          | eq => exact ih bs cs
        | lt =>
          cases hbc : order b c with
          | gt => simp
          | lt => simp [order_trans hab hbc]
          | eq => simp [← order_eq.1 hbc, hab]

instance {α : Type} [Ordered α] : Ordered (List α) where
  order := orderList
  order_eq := orderList_eq _ _
  order_swap := orderList_swap
  order_trans := orderList_trans _ _ _

/-- Texts in code-point order. -/
instance : Ordered String := Ordered.along String.toList (fun h => String.toList_inj.1 h)

/-- Nothing comes before something. -/
instance {α : Type} [Ordered α] : Ordered (Option α) :=
  Ordered.along Option.toList (fun {a b} h => by cases a <;> cases b <;> simp_all)

/-- The left parts decide, then the right parts. -/
def orderPair {α β : Type} [Ordered α] [Ordered β] (p q : α × β) : Ordering :=
  (order p.1 q.1).then (order p.2 q.2)

section Pairs
variable {α β : Type} [Ordered α] [Ordered β]

private theorem orderPair_eq (p q : α × β) : orderPair p q = .eq ↔ p = q := by
  unfold orderPair
  rw [Prod.ext_iff, ← order_eq (a := p.1), ← order_eq (a := p.2)]
  cases order p.1 q.1 <;> simp [Ordering.then]

private theorem orderPair_swap (p q : α × β) : orderPair q p = (orderPair p q).swap := by
  unfold orderPair
  rw [order_swap p.1 q.1, order_swap p.2 q.2]
  cases order p.1 q.1 <;> rfl

private theorem orderPair_trans {p q r : α × β} :
    orderPair p q = .lt → orderPair q r = .lt → orderPair p r = .lt := by
  unfold orderPair
  cases hpq : order p.1 q.1 with
  | gt => simp [Ordering.then]
  | eq =>
    rw [order_eq.1 hpq]
    cases order q.1 r.1 with
    | gt => simp [Ordering.then]
    | lt => simp [Ordering.then]
    | eq => exact order_trans
  | lt =>
    cases hqr : order q.1 r.1 with
    | gt => simp [Ordering.then]
    | lt => simp [Ordering.then, order_trans hpq hqr]
    | eq => simp [Ordering.then, ← order_eq.1 hqr, hpq]

end Pairs

instance {α β : Type} [Ordered α] [Ordered β] : Ordered (α × β) where
  order := orderPair
  order_eq := orderPair_eq _ _
  order_swap := orderPair_swap
  order_trans := orderPair_trans

end OrgAccess
