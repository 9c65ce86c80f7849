import Mathlib.Tactic

/-!
# Signed fixed-point numbers

Binary fixed-point numbers of a given width, kept as the integer of their bits: `x` stands
for the rational number `x.bits / 2 ^ f`.

* `FixedPoint w f`: `w` bits, `f` of them fractional; the range is part of the type;
* `ofBits?`: the number with the given bits, when they are in range;
* the checked operations, each of them `none` on overflow: sums are exact, products round
  down, quotients round towards zero;
* the order, and the bounds of `checkedFloor` and `checkedCeil`;
* `val`, `ulp`: the rational number that is represented, and how far products and quotients are
  from the exact ones.
-/

/-- `w`-bit two's complement numbers with `f` fractional bits. -/
@[ext] structure FixedPoint (w f : ℕ) where
  bits : ℤ
  lower : -2 ^ (w - 1) ≤ bits
  upper : bits < 2 ^ (w - 1)
  deriving DecidableEq

namespace FixedPoint

variable {w f : ℕ}

/-- The number with the given bits, when they are in range. -/
def ofBits? (z : ℤ) : Option (FixedPoint w f) :=
  if h : -2 ^ (w - 1) ≤ z ∧ z < 2 ^ (w - 1) then some ⟨z, h.1, h.2⟩ else none

theorem ofBits?_eq_some {z : ℤ} {x : FixedPoint w f} : ofBits? z = some x ↔ x.bits = z := by
  unfold ofBits?
  split_ifs with h
  · rw [Option.some.injEq, FixedPoint.ext_iff, eq_comm]
  · simp only [false_iff]
    rintro rfl
    exact h ⟨x.lower, x.upper⟩

theorem exists_ofBits {z : ℤ} (hlow : -2 ^ (w - 1) ≤ z) (hup : z < 2 ^ (w - 1)) :
    ∃ x : FixedPoint w f, ofBits? z = some x ∧ x.bits = z :=
  ⟨⟨z, hlow, hup⟩, ofBits?_eq_some.mpr rfl, rfl⟩

/-! ### Order -/

theorem bits_injective : Function.Injective (bits : FixedPoint w f → ℤ) :=
  fun _ _ h => FixedPoint.ext h

instance : LinearOrder (FixedPoint w f) := LinearOrder.lift' bits bits_injective

theorem le_iff {x y : FixedPoint w f} : x ≤ y ↔ x.bits ≤ y.bits := Iff.rfl

instance : Zero (FixedPoint w f) where
  zero := ⟨0, by simp, by positivity⟩

@[simp] theorem bits_zero : (0 : FixedPoint w f).bits = 0 := rfl

/-! ### Checked arithmetic -/

/-- The integer `n`, when it is in range. -/
def ofInt? (n : ℤ) : Option (FixedPoint w f) := ofBits? (n * 2 ^ f)

def checkedAdd (x y : FixedPoint w f) : Option (FixedPoint w f) := ofBits? (x.bits + y.bits)

def checkedSub (x y : FixedPoint w f) : Option (FixedPoint w f) := ofBits? (x.bits - y.bits)

def checkedNeg (x : FixedPoint w f) : Option (FixedPoint w f) := ofBits? (-x.bits)

def checkedAbs (x : FixedPoint w f) : Option (FixedPoint w f) := ofBits? |x.bits|

/-- The product, rounded down. -/
def checkedMul (x y : FixedPoint w f) : Option (FixedPoint w f) :=
  ofBits? (x.bits * y.bits / 2 ^ f)

/-- The quotient, rounded towards zero; none for a zero divisor. -/
def checkedDiv (x y : FixedPoint w f) : Option (FixedPoint w f) :=
  if y.bits = 0 then none else ofBits? ((x.bits * 2 ^ f).tdiv y.bits)

/-- The greatest integer not above a number. -/
def floor (x : FixedPoint w f) : ℤ := x.bits / 2 ^ f

/-- The least integer not below a number. -/
def ceil (x : FixedPoint w f) : ℤ := -(-x.bits / 2 ^ f)

def checkedFloor (x : FixedPoint w f) : Option (FixedPoint w f) := ofInt? x.floor

def checkedCeil (x : FixedPoint w f) : Option (FixedPoint w f) := ofInt? x.ceil

/-- The integer part as a natural number below `bound`. -/
def toNat? (bound : ℕ) (x : FixedPoint w f) : Option ℕ :=
  if 0 ≤ x.floor ∧ x.floor < bound then some x.floor.toNat else none

theorem checkedAdd_eq_some {x y z : FixedPoint w f} :
    checkedAdd x y = some z ↔ z.bits = x.bits + y.bits := ofBits?_eq_some

theorem checkedSub_eq_some {x y z : FixedPoint w f} :
    checkedSub x y = some z ↔ z.bits = x.bits - y.bits := ofBits?_eq_some

theorem checkedNeg_eq_some {x y : FixedPoint w f} : checkedNeg x = some y ↔ y.bits = -x.bits :=
  ofBits?_eq_some

/-! ### Rounding -/

theorem bits_le_ceil (x : FixedPoint w f) : x.bits ≤ x.ceil * 2 ^ f := by
  have h := Int.ediv_mul_le (-x.bits) (pow_ne_zero f (two_ne_zero' ℤ))
  rw [ceil, neg_mul]
  omega

theorem ceil_lt_bits (x : FixedPoint w f) : x.ceil * 2 ^ f < x.bits + 2 ^ f := by
  have h := Int.lt_ediv_add_one_mul_self (-x.bits) (pow_pos (two_pos (α := ℤ)) f)
  rw [ceil, neg_mul]
  rw [add_mul, one_mul] at h
  omega

theorem checkedCeil_bits {x y : FixedPoint w f} (h : checkedCeil x = some y) :
    y.bits = x.ceil * 2 ^ f := ofBits?_eq_some.mp h

@[simp] theorem floor_of_bits {x : FixedPoint w f} {n : ℤ} (h : x.bits = n * 2 ^ f) :
    x.floor = n := by
  rw [floor, h, Int.mul_ediv_cancel _ (pow_ne_zero f two_ne_zero)]

theorem toNat?_eq_some {bound : ℕ} {x : FixedPoint w f} {n : ℕ} :
    x.toNat? bound = some n ↔ x.floor = n ∧ n < bound := by
  unfold toNat?
  split_ifs with h
  · rw [Option.some.injEq]
    omega
  · simp only [false_iff]
    omega

/-- A number rounded up to an integer and then read as one is its ceiling. -/
theorem toNat?_checkedCeil {bound : ℕ} {x y : FixedPoint w f} {n : ℕ}
    (hceil : checkedCeil x = some y) (hnat : y.toNat? bound = some n) :
    x.bits ≤ n * 2 ^ f ∧ n * 2 ^ f < x.bits + 2 ^ f := by
  have hfloor : y.floor = x.ceil := floor_of_bits (checkedCeil_bits hceil)
  have hn : (n : ℤ) = x.ceil := by rw [← (toNat?_eq_some.mp hnat).1, hfloor]
  rw [hn]
  exact ⟨x.bits_le_ceil, x.ceil_lt_bits⟩

/-! ### Values -/

/-- The rational number that is represented. -/
def val (x : FixedPoint w f) : ℚ := x.bits / 2 ^ f

/-- The distance between neighbouring numbers. -/
def ulp (f : ℕ) : ℚ := 1 / 2 ^ f

theorem ulp_pos (f : ℕ) : 0 < ulp f := by
  unfold ulp
  positivity

theorem val_eq (x : FixedPoint w f) : x.val = x.bits * ulp f := by
  rw [val, ulp, mul_one_div]

theorem val_le_val {x y : FixedPoint w f} : x.val ≤ y.val ↔ x ≤ y := by
  rw [val_eq, val_eq, mul_le_mul_iff_left₀ (ulp_pos f), Int.cast_le, le_iff]

theorem val_lt_val {x y : FixedPoint w f} : x.val < y.val ↔ x < y := by
  rw [← not_le, ← not_le, val_le_val]

@[simp] theorem val_zero : (0 : FixedPoint w f).val = 0 := by simp [val]

theorem val_nonneg {x : FixedPoint w f} : 0 ≤ x.val ↔ 0 ≤ x := by
  rw [← val_le_val, val_zero]

theorem val_pos {x : FixedPoint w f} : 0 < x.val ↔ 0 < x := by
  rw [← val_lt_val, val_zero]

theorem val_add {x y z : FixedPoint w f} (h : checkedAdd x y = some z) :
    z.val = x.val + y.val := by
  rw [val, checkedAdd_eq_some.mp h, Int.cast_add, add_div]
  rfl

theorem val_sub {x y z : FixedPoint w f} (h : checkedSub x y = some z) :
    z.val = x.val - y.val := by
  rw [val, checkedSub_eq_some.mp h, Int.cast_sub, sub_div]
  rfl

theorem checkedMul_bits {x y z : FixedPoint w f} (h : checkedMul x y = some z) :
    z.bits = x.bits * y.bits / 2 ^ f := ofBits?_eq_some.mp h

/-- A product is at most the exact one. -/
theorem val_mul_le {x y z : FixedPoint w f} (h : checkedMul x y = some z) :
    z.val ≤ x.val * y.val := by
  have hbits : z.bits * 2 ^ f ≤ x.bits * y.bits := by
    rw [checkedMul_bits h]
    exact Int.ediv_mul_le _ (by positivity)
  have hcast : (z.bits : ℚ) * 2 ^ f ≤ x.bits * y.bits := by exact_mod_cast hbits
  rw [val, val, val, div_mul_div_comm, div_le_div_iff₀ (by positivity) (by positivity)]
  nlinarith [pow_pos (two_pos (α := ℚ)) f]

/-- A product is less than one step away from the exact one. -/
theorem lt_val_mul {x y z : FixedPoint w f} (h : checkedMul x y = some z) :
    x.val * y.val < z.val + ulp f := by
  have hbits : x.bits * y.bits < (z.bits + 1) * 2 ^ f := by
    rw [checkedMul_bits h]
    exact Int.lt_ediv_add_one_mul_self _ (by positivity)
  have hcast : (x.bits : ℚ) * y.bits < (z.bits + 1) * 2 ^ f := by exact_mod_cast hbits
  rw [val, val, val, ulp, div_mul_div_comm, ← add_div,
    div_lt_div_iff₀ (by positivity) (by positivity)]
  nlinarith [pow_pos (two_pos (α := ℚ)) f]

theorem checkedDiv_bits {x y z : FixedPoint w f} (h : checkedDiv x y = some z) :
    y.bits ≠ 0 ∧ z.bits = (x.bits * 2 ^ f).tdiv y.bits := by
  unfold checkedDiv at h
  split_ifs at h with hy
  exact ⟨hy, ofBits?_eq_some.mp h⟩

/-- The quotient of a number that is not negative by a positive one is rounded down. -/
theorem checkedDiv_floor {x y z : FixedPoint w f} (hx : 0 ≤ x) (hy : 0 ≤ y)
    (h : checkedDiv x y = some z) :
    0 < y.bits ∧ z.bits * y.bits ≤ x.bits * 2 ^ f ∧ x.bits * 2 ^ f < (z.bits + 1) * y.bits := by
  obtain ⟨hne, hz⟩ := checkedDiv_bits h
  have hpos : 0 < y.bits := lt_of_le_of_ne hy (Ne.symm hne)
  have hnum : 0 ≤ x.bits * 2 ^ f := mul_nonneg hx (by positivity)
  rw [Int.tdiv_eq_ediv_of_nonneg hnum] at hz
  rw [hz]
  exact ⟨hpos, Int.ediv_mul_le _ hne, Int.lt_ediv_add_one_mul_self _ hpos⟩

/-- A quotient that is in range exists. -/
theorem exists_checkedDiv {x y : FixedPoint w f} (hx : 0 ≤ x) (hy : 0 < y)
    (hrange : x.bits * 2 ^ f / y.bits < 2 ^ (w - 1)) :
    ∃ z, checkedDiv x y = some z ∧ z.bits = x.bits * 2 ^ f / y.bits := by
  have hnum : 0 ≤ x.bits * 2 ^ f := mul_nonneg hx (by positivity)
  have hnonneg : 0 ≤ x.bits * 2 ^ f / y.bits := Int.ediv_nonneg hnum hy.le
  obtain ⟨z, hz, hbits⟩ := exists_ofBits (f := f) (by linarith [pow_pos (two_pos (α := ℤ)) (w - 1)])
    hrange
  have hne : y.bits ≠ 0 := ne_of_gt hy
  exact ⟨z, by rw [checkedDiv, if_neg hne, Int.tdiv_eq_ediv_of_nonneg hnum, hz], hbits⟩

/-- A quotient times its divisor is at most the dividend. -/
theorem val_div_mul_le {x y z : FixedPoint w f} (hx : 0 ≤ x) (hy : 0 ≤ y)
    (h : checkedDiv x y = some z) : z.val * y.val ≤ x.val := by
  obtain ⟨-, hle, -⟩ := checkedDiv_floor hx hy h
  have hcast : (z.bits : ℚ) * y.bits ≤ x.bits * 2 ^ f := by exact_mod_cast hle
  rw [val, val, val, div_mul_div_comm, div_le_div_iff₀ (by positivity) (by positivity)]
  nlinarith [pow_pos (two_pos (α := ℚ)) f]

/-- A quotient is less than one step away from the exact one. -/
theorem lt_val_div_mul {x y z : FixedPoint w f} (hx : 0 ≤ x) (hy : 0 ≤ y)
    (h : checkedDiv x y = some z) : x.val < (z.val + ulp f) * y.val := by
  obtain ⟨-, -, hlt⟩ := checkedDiv_floor hx hy h
  have hcast : (x.bits : ℚ) * 2 ^ f < (z.bits + 1) * y.bits := by exact_mod_cast hlt
  rw [val, val, val, ulp, ← add_div, div_mul_div_comm,
    div_lt_div_iff₀ (by positivity) (by positivity)]
  nlinarith [pow_pos (two_pos (α := ℚ)) f]

/-- Products of numbers that are not negative are not negative. -/
theorem checkedMul_nonneg {x y z : FixedPoint w f} (hx : 0 ≤ x) (hy : 0 ≤ y)
    (h : checkedMul x y = some z) : 0 ≤ z := by
  show 0 ≤ z.bits
  rw [checkedMul_bits h]
  exact Int.ediv_nonneg (mul_nonneg hx hy) (by positivity)

/-- Quotients of numbers that are not negative are not negative. -/
theorem checkedDiv_nonneg {x y z : FixedPoint w f} (hx : 0 ≤ x) (hy : 0 ≤ y)
    (h : checkedDiv x y = some z) : 0 ≤ z := by
  obtain ⟨hpos, -, hlt⟩ := checkedDiv_floor hx hy h
  have hnum : 0 ≤ x.bits * 2 ^ f := mul_nonneg hx (by positivity)
  show 0 ≤ z.bits
  by_contra hneg
  nlinarith

end FixedPoint
