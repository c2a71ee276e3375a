import BoundSql.Binary64
import Mathlib.Algebra.Order.Floor.Div
import Mathlib.Data.Rat.Floor
import Mathlib.Data.Nat.Log
import Mathlib.Tactic.FieldSimp
import Mathlib.Tactic.Linarith
import Mathlib.Tactic.Positivity

/-!
# The double nearest to a quotient

The exponent of a quotient is the one that brings it between two neighbouring powers of two, so its
mantissa has 53 bits, and the mantissa is off by at most one half. For integers of at most 53 bits
that is too little to reach the next integer: the double lies above the same integers as the
quotient, so it has the same ceiling.
-/

namespace BoundSql.Binary64

/-- Both sides of a scale are positive. -/
theorem scale_pos (e : Int) : 0 < (scale e).1 ∧ 0 < (scale e).2 :=
  ⟨Nat.pow_pos (by decide), Nat.pow_pos (by decide)⟩

/-- The two powers of two make up `2 ^ e`. -/
theorem scale_div (e : Int) : ((scale e).1 : ℚ) / (scale e).2 = 2 ^ e := by
  obtain ⟨n, rfl | rfl⟩ := e.eq_nat_or_neg
  · simp [scale]
  · simp [scale]

section Nearest

variable {num den : Nat}

/-- A quotient divided by a power of two, as the fraction that is rounded. -/
theorem scaled_div (num den : Nat) (e : Int) :
    ((num * (scale e).2 : Nat) : ℚ) / (den * (scale e).1 : Nat) = (num / den : ℚ) / 2 ^ e := by
  rw [← scale_div, div_div_div_eq]
  push_cast
  rfl

/-- A quotient compared with a power of two, as a comparison of integers. -/
theorem mul_scale_lt_iff (hden : 0 < den) (k : Nat) (e : Int) :
    num * (scale e).2 < Nat.pow 2 k * (den * (scale e).1) ↔ (num / den : ℚ) < 2 ^ (k + e) := by
  have hscaled : (0 : ℚ) < (den * (scale e).1 : Nat) := by
    exact_mod_cast Nat.mul_pos hden (scale_pos e).1
  have hpow : (0 : ℚ) < 2 ^ e := zpow_pos (by norm_num) e
  rw [zpow_add₀ (by norm_num), ← div_lt_iff₀ hpow, ← scaled_div, div_lt_iff₀ hscaled, zpow_natCast]
  exact_mod_cast Iff.rfl

/-- The difference of the logarithms leaves a quotient between two powers of two, two steps
apart. -/
theorem log2_spec (hnum : 0 < num) (hden : 0 < den) :
    let guess : Int := (num.log2 : Int) - den.log2 - 52
    (2 : ℚ) ^ (51 + guess) < num / den ∧ (num / den : ℚ) < 2 ^ (53 + guess) := by
  intro guess
  have hden' : (0 : ℚ) < den := by exact_mod_cast hden
  constructor
  · have hn : (2 : ℚ) ^ num.log2 ≤ num := by exact_mod_cast Nat.log2_self_le hnum.ne'
    have hd : (den : ℚ) < 2 ^ (den.log2 + 1) := by exact_mod_cast Nat.lt_log2_self
    have hsplit : (51 + guess : Int) = num.log2 - (den.log2 + 1 : Nat) := by
      push_cast
      omega
    rw [lt_div_iff₀ hden', hsplit, zpow_sub₀ (by norm_num), zpow_natCast, zpow_natCast]
    calc (2 : ℚ) ^ num.log2 / 2 ^ (den.log2 + 1) * den
        < 2 ^ num.log2 / 2 ^ (den.log2 + 1) * 2 ^ (den.log2 + 1) := by gcongr
      _ = 2 ^ num.log2 := by field_simp
      _ ≤ num := hn
  · have hn : (num : ℚ) < 2 ^ (num.log2 + 1) := by exact_mod_cast Nat.lt_log2_self
    have hd : (2 : ℚ) ^ den.log2 ≤ den := by exact_mod_cast Nat.log2_self_le hden.ne'
    have hsplit : (53 + guess : Int) = (num.log2 + 1 : Nat) - den.log2 := by
      push_cast
      omega
    rw [div_lt_iff₀ hden', hsplit, zpow_sub₀ (by norm_num), zpow_natCast, zpow_natCast]
    calc (num : ℚ) < 2 ^ (num.log2 + 1) := hn
      _ = 2 ^ (num.log2 + 1) / 2 ^ den.log2 * 2 ^ den.log2 := by field_simp
      _ ≤ 2 ^ (num.log2 + 1) / 2 ^ den.log2 * den := by gcongr

/-- The exponent of a quotient that is no smaller than the smallest normal double brings it between
two neighbouring powers of two. -/
theorem exponentOf_spec (hnum : 0 < num) (hden : 0 < den)
    (hsmall : (2 : ℚ) ^ (-1022 : Int) ≤ num / den) :
    (2 : ℚ) ^ (52 + exponentOf num den) ≤ num / den ∧
      (num / den : ℚ) < 2 ^ (53 + exponentOf num den) := by
  obtain ⟨hlow, hhigh⟩ := log2_spec hnum hden
  set guess : Int := (num.log2 : Int) - den.log2 - 52 with hguess
  set e : Int := if (num / den : ℚ) < 2 ^ (52 + guess) then guess - 1 else guess with he
  have hboth : (2 : ℚ) ^ (52 + e) ≤ num / den ∧ (num / den : ℚ) < 2 ^ (53 + e) := by
    by_cases hbelow : (num / den : ℚ) < 2 ^ (52 + guess)
    · have hleft : (52 + (guess - 1) : Int) = 51 + guess := by ring
      have hright : (53 + (guess - 1) : Int) = 52 + guess := by ring
      rw [he, if_pos hbelow, hleft, hright]
      exact ⟨hlow.le, hbelow⟩
    · rw [he, if_neg hbelow]
      exact ⟨not_lt.mp hbelow, hhigh⟩
  have hmin : minExponent ≤ e := by
    have hlt : (-1022 : Int) < 53 + e :=
      (zpow_lt_zpow_iff_right₀ (a := (2 : ℚ)) (by norm_num)).mp (lt_of_le_of_lt hsmall hboth.2)
    unfold minExponent
    omega
  have hcorrected : (if num * (scale guess).2 < Nat.pow 2 52 * (den * (scale guess).1) then
      guess - 1 else guess) = e := if_congr (mul_scale_lt_iff hden 52 guess) rfl rfl
  have heq : exponentOf num den = e := by
    unfold exponentOf
    dsimp only
    rw [← hguess, hcorrected]
    exact max_eq_left hmin
  rw [heq]
  exact hboth

/-- Rounding to an integer is off by at most one half. -/
theorem abs_halfEven_sub_le (hden : 0 < den) :
    |(halfEven num den : ℚ) - num / den| ≤ 1 / 2 := by
  have hden' : (0 : ℚ) < den := by exact_mod_cast hden
  have hnear : 2 * (halfEven num den * den) ≤ 2 * num + den ∧
      2 * num ≤ 2 * (halfEven num den * den) + den := by
    have hdiv := Nat.div_add_mod num den
    have hmod := Nat.mod_lt num hden
    have hsucc : (num / den + 1) * den = num / den * den + den := Nat.succ_mul _ _
    rw [Nat.mul_comm] at hdiv
    unfold halfEven
    dsimp only
    split_ifs <;> omega
  have hleft : 2 * ((halfEven num den : ℚ) * den) ≤ 2 * num + den := by exact_mod_cast hnear.1
  have hright : 2 * (num : ℚ) ≤ 2 * (halfEven num den * den) + den := by exact_mod_cast hnear.2
  have hscaled : ((halfEven num den : ℚ) - num / den) * den = halfEven num den * den - num := by
    field_simp
  rw [← mul_le_mul_iff_left₀ hden', ← abs_of_pos hden', ← abs_mul, abs_of_pos hden', hscaled,
    abs_le]
  constructor <;> linarith

/-- A double that is not negative, and its value. -/
def Holds (x : Binary64) (q : ℚ) : Prop :=
  ∃ (m : Nat) (e : Int), x = finite false m e ∧ (m : ℚ) * 2 ^ e = q

/-- The ceiling of a double is that of its value. -/
theorem Holds.ceil {x : Binary64} {q : ℚ} (h : x.Holds q) : x.ceil? = some ⌈q⌉ := by
  obtain ⟨m, e, rfl, rfl⟩ := h
  have hvalue : (m : ℚ) * 2 ^ e = ((m * (scale e).1 : Nat) : Int) / ((scale e).2 : Nat) := by
    rw [← scale_div]
    push_cast
    rw [mul_div_assoc]
  rw [hvalue, Rat.ceil_intCast_div_natCast, ← Int.fdiv_eq_ediv_of_nonneg _ (Int.natCast_nonneg _)]
  rfl

/-- The double nearest to a quotient in the range of normal numbers has a mantissa of 53 bits that
is off by at most one half. -/
theorem ofQuotient_near (hnum : 0 < num) (hden : 0 < den)
    (hsmall : (2 : ℚ) ^ (-1022 : Int) ≤ num / den) (hlarge : (num / den : ℚ) < 2 ^ (1022 : Int)) :
    ∃ (m : Nat) (e : Int), (ofQuotient false num den).Holds (m * 2 ^ e) ∧
      (2 : ℚ) ^ (52 + e) ≤ num / den ∧ |(m : ℚ) - num / den / 2 ^ e| ≤ 1 / 2 := by
  obtain ⟨hlow, -⟩ := exponentOf_spec hnum hden hsmall
  set e := exponentOf num den
  set m := halfEven (num * (scale e).2) (den * (scale e).1)
  have hmax : e + 1 ≤ maxExponent := by
    have hlt : (52 + e : Int) < 1022 :=
      (zpow_lt_zpow_iff_right₀ (a := (2 : ℚ)) (by norm_num)).mp (lt_of_le_of_lt hlow hlarge)
    unfold maxExponent
    omega
  have hdouble : ofQuotient false num den =
      if m = mantissaBound then bounded false (Nat.pow 2 52) (e + 1) else bounded false m e := by
    rw [ofQuotient, if_neg hnum.ne']
  refine ⟨m, e, ?_, hlow, ?_⟩
  · rw [hdouble]
    split
    · -- a mantissa that rounds up to the bound is halved, and the value stays
      rename_i hbound
      refine ⟨Nat.pow 2 52, e + 1, if_neg (by omega), ?_⟩
      rw [hbound, zpow_add₀ (by norm_num)]
      norm_num [mantissaBound]
      ring
    · exact ⟨m, e, if_neg (by omega), rfl⟩
  · rw [← scaled_div]
    exact abs_halfEven_sub_le (Nat.mul_pos hden (scale_pos e).1)

/-- An integer that is off by at most one half from another one is that one. -/
theorem eq_of_near {m j : Nat} (h : |(m : ℚ) - j| ≤ 1 / 2) : m = j := by
  rw [abs_le] at h
  have hle : (m : ℚ) < (j + 1 : Nat) := by
    push_cast
    linarith [h.2]
  have hge : (j : ℚ) < (m + 1 : Nat) := by
    push_cast
    linarith [h.1]
  have hle' : m < j + 1 := by exact_mod_cast hle
  have hge' : j < m + 1 := by exact_mod_cast hge
  omega

end Nearest

section Ceiling

variable {total size m k : Nat} {e : Int}

/-- Over a common power of two: where a mantissa of 53 bits is off by at most one half, what
rounding takes away is less than the distance of the quotient to an integer below it. -/
theorem mul_lt_of_near {t : Nat} (htotal : total ≤ 2 ^ 53) (hsize : size ≤ 2 ^ 53)
    (hlow : 2 ^ 52 * size ≤ total * 2 ^ t) (hnear : 2 * (total * 2 ^ t) ≤ 2 * (m * size) + size)
    (hk : k * size < total) : k * 2 ^ t < m := by
  by_contra hle
  have hm : m * size ≤ k * 2 ^ t * size := Nat.mul_le_mul_right size (not_lt.mp hle)
  -- the distance to the integer below fits twice into one unit of the last bit
  have hgap : ∀ j, k * size + j ≤ total → 2 * (j * 2 ^ t) ≤ size := by
    intro j hj
    have hscaled : (k * size + j) * 2 ^ t ≤ total * 2 ^ t := Nat.mul_le_mul_right _ hj
    have hsplit : (k * size + j) * 2 ^ t = k * 2 ^ t * size + j * 2 ^ t := by ring
    omega
  have hleast : 2 ^ (t + 1) ≤ size := by
    have hunit := hgap 1 hk
    rw [pow_succ]
    omega
  -- so the size is a power of two and the total the greatest one allowed: the size divides it
  have hsame : size = 2 ^ (t + 1) := by
    have hpow : total * 2 ^ t ≤ 2 ^ 53 * 2 ^ t := Nat.mul_le_mul_right _ htotal
    rw [pow_succ] at hleast ⊢
    omega
  have hall : total = 2 ^ 53 := by
    have hpow : 2 ^ 53 * 2 ^ t ≤ total * 2 ^ t := by
      rw [hsame, pow_succ] at hlow
      omega
    exact le_antisymm htotal (Nat.le_of_mul_le_mul_right hpow (Nat.two_pow_pos t))
  have hexponent : t + 1 ≤ 53 := (Nat.pow_le_pow_iff_right (by decide)).mp (hsame ▸ hsize)
  have hdivides : size * 2 ^ (53 - (t + 1)) = total := by
    rw [hsame, hall, ← pow_add, Nat.add_sub_cancel' hexponent]
  have hnext : k + 1 ≤ 2 ^ (53 - (t + 1)) := by
    rw [← hdivides, Nat.mul_comm] at hk
    exact Nat.lt_of_mul_lt_mul_left hk
  -- and then the distance is no less than one
  have hwhole : k * size + size ≤ total := by
    rw [← hdivides, Nat.mul_comm size, ← Nat.succ_mul]
    exact Nat.mul_le_mul_right size hnext
  have hhalf := hgap size hwhole
  have hone : size * 1 ≤ size * 2 ^ t := Nat.mul_le_mul_left size Nat.one_le_two_pow
  have hpositive : 0 < size := hsame ▸ Nat.two_pow_pos _
  omega

/-- The double lies above every integer that the quotient lies above, -/
theorem lt_of_near (htotal : total ≤ 2 ^ 53) (hsize : 0 < size) (hsize' : size ≤ 2 ^ 53)
    (hexponent : e ≤ 0) (hlow : (2 : ℚ) ^ (52 + e) ≤ total / size)
    (hnear : |(m : ℚ) - total / size / 2 ^ e| ≤ 1 / 2) (hk : (k : ℚ) < total / size) :
    (k : ℚ) < m * 2 ^ e := by
  obtain ⟨t, rfl⟩ : ∃ t : Nat, e = -t := ⟨e.natAbs, by omega⟩
  have hpow : (0 : ℚ) < 2 ^ t := by positivity
  have hpositive : (0 : ℚ) < size := by exact_mod_cast hsize
  rw [zpow_add₀ (by norm_num), zpow_neg, zpow_natCast, ← div_eq_mul_inv,
    div_le_div_iff₀ hpow hpositive] at hlow
  rw [zpow_neg, zpow_natCast, div_inv_eq_mul, abs_le] at hnear
  rw [lt_div_iff₀ hpositive] at hk
  rw [zpow_neg, zpow_natCast, ← div_eq_mul_inv, lt_div_iff₀ hpow]
  have hround : 2 * ((total : ℚ) * 2 ^ t) ≤ 2 * (m * size) + size := by
    have hquotient : (total : ℚ) / size * 2 ^ t ≤ m + 1 / 2 := by linarith [hnear.1]
    rw [div_mul_eq_mul_div, div_le_iff₀ hpositive] at hquotient
    linarith
  exact_mod_cast mul_lt_of_near htotal hsize' (by exact_mod_cast hlow) (by exact_mod_cast hround)
    (by exact_mod_cast hk)

/-- and above no other. -/
theorem le_of_near (hexponent : e ≤ 0) (hnear : |(m : ℚ) - total / size / 2 ^ e| ≤ 1 / 2)
    (hk : (total / size : ℚ) ≤ k) : (m : ℚ) * 2 ^ e ≤ k := by
  obtain ⟨t, rfl⟩ : ∃ t : Nat, e = -t := ⟨e.natAbs, by omega⟩
  have hpow : (0 : ℚ) < 2 ^ t := by positivity
  rw [zpow_neg, zpow_natCast, div_inv_eq_mul, abs_le] at hnear
  rw [zpow_neg, zpow_natCast, ← div_eq_mul_inv, div_le_iff₀ hpow]
  have hscaled : (total : ℚ) / size * 2 ^ t ≤ k * 2 ^ t := by gcongr
  have hround : (m : ℚ) < (k * 2 ^ t + 1 : Nat) := by
    push_cast
    linarith [hnear.2]
  exact_mod_cast Nat.lt_succ_iff.mp (by exact_mod_cast hround)

/-- What lies above the same integers as a quotient has its ceiling. -/
theorem ceil_eq_ceilDiv (hsize : 0 < size) {q : ℚ} (hq : 0 ≤ q)
    (hbelow : ∀ k : Nat, (k : ℚ) < total / size → k < q)
    (habove : ∀ k : Nat, (total / size : ℚ) ≤ k → q ≤ k) : ⌈q⌉ = (total ⌈/⌉ size : Nat) := by
  have hpositive : (0 : ℚ) < size := by exact_mod_cast hsize
  have hle : ∀ k : Nat, (total / size : ℚ) ≤ k ↔ total ⌈/⌉ size ≤ k := by
    intro k
    rw [ceilDiv_le_iff_le_mul hsize, div_le_iff₀ hpositive, mul_comm]
    exact_mod_cast Iff.rfl
  rw [Int.ceil_eq_iff]
  refine ⟨?_, by exact_mod_cast habove _ ((hle _).mpr le_rfl)⟩
  cases hn : total ⌈/⌉ size with
  | zero =>
    push_cast
    linarith
  | succ n =>
    have hlt : (n : ℚ) < total / size := by
      rw [← not_le, hle, hn]
      omega
    push_cast
    linarith [hbelow n hlt]

/-- The quotient of two positive integers of at most 53 bits lies far inside the range of normal
doubles. -/
theorem div_bounds (htotal : 0 < total) (htotal' : total ≤ 2 ^ 53) (hsize : 0 < size)
    (hsize' : size ≤ 2 ^ 53) :
    (2 : ℚ) ^ (-53 : Int) ≤ total / size ∧ (total / size : ℚ) ≤ 2 ^ (53 : Int) := by
  have hpositive : (0 : ℚ) < size := by exact_mod_cast hsize
  have hlow : size ≤ total * 2 ^ 53 := hsize'.trans (Nat.le_mul_of_pos_left _ htotal)
  have hhigh : total ≤ 2 ^ 53 * size := htotal'.trans (Nat.le_mul_of_pos_right _ hsize)
  constructor
  · rw [zpow_neg, inv_le_iff_one_le_mul₀ (by positivity), div_mul_eq_mul_div,
      le_div_iff₀ hpositive, one_mul]
    exact_mod_cast hlow
  · rw [div_le_iff₀ hpositive]
    exact_mod_cast hhigh

/-- The double nearest to such a quotient, however the quotient is written as a fraction. Where its
last bit is above one it is exact. -/
theorem ofQuotient_spec (htotal : 0 < total) (htotal' : total ≤ 2 ^ 53) (hsize : 0 < size)
    (hsize' : size ≤ 2 ^ 53) {num den : Nat} (hden : 0 < den)
    (hvalue : (num / den : ℚ) = total / size) :
    ∃ (m : Nat) (e : Int), (ofQuotient false num den).Holds (m * 2 ^ e) ∧
      (2 : ℚ) ^ (52 + e) ≤ total / size ∧ |(m : ℚ) - total / size / 2 ^ e| ≤ 1 / 2 ∧
      (e ≤ 0 ∨ (m : ℚ) * 2 ^ e = total / size) := by
  obtain ⟨hlow, hhigh⟩ := div_bounds htotal htotal' hsize hsize'
  have hnum : 0 < num := by
    rw [Nat.pos_iff_ne_zero]
    rintro rfl
    rw [Nat.cast_zero, zero_div] at hvalue
    rw [← hvalue] at hlow
    exact absurd hlow (not_le.mpr (zpow_pos (by norm_num) _))
  have hsmall : (2 : ℚ) ^ (-1022 : Int) ≤ total / size :=
    (zpow_le_zpow_right₀ (by norm_num) (by decide)).trans hlow
  have hlarge : (total / size : ℚ) < 2 ^ (1022 : Int) :=
    hhigh.trans_lt (zpow_lt_zpow_right₀ (by norm_num) (by decide))
  obtain ⟨m, e, hdouble, hexponent, hnear⟩ :=
    ofQuotient_near hnum hden (hvalue ▸ hsmall) (hvalue ▸ hlarge)
  rw [hvalue] at hexponent hnear
  refine ⟨m, e, hdouble, hexponent, hnear, ?_⟩
  have hle := (zpow_le_zpow_iff_right₀ (a := (2 : ℚ)) (by norm_num)).mp (hexponent.trans hhigh)
  by_cases he : e ≤ 0
  · exact .inl he
  · -- only the greatest quotient of all has so great an exponent
    obtain rfl : e = 1 := by omega
    have hgreatest : (total / size : ℚ) = 2 ^ (53 : Int) := le_antisymm hhigh hexponent
    have hm : m = 2 ^ 52 := by
      refine eq_of_near ?_
      rw [hgreatest] at hnear
      norm_num at hnear ⊢
      exact hnear
    refine .inr ?_
    rw [hgreatest, hm]
    norm_num

/-- For integers of at most 53 bits the ceiling of the double nearest to their quotient is the
ceiling of the quotient. -/
theorem ceil_ofQuotient (htotal : total ≤ 2 ^ 53) (hsize : 0 < size) (hsize' : size ≤ 2 ^ 53)
    {num den : Nat} (hden : 0 < den) (hvalue : (num / den : ℚ) = total / size) :
    (ofQuotient false num den).ceil? = some ((total ⌈/⌉ size : Nat) : Int) := by
  rcases Nat.eq_zero_or_pos total with rfl | hpositive
  · have hden' : (den : ℚ) ≠ 0 := by exact_mod_cast hden.ne'
    obtain rfl : num = 0 := by simpa [div_eq_zero_iff, hden'] using hvalue
    rw [zero_ceilDiv]
    rfl
  obtain ⟨m, e, hdouble, hlow, hnear, hexponent⟩ :=
    ofQuotient_spec hpositive htotal hsize hsize' hden hvalue
  have hq : (0 : ℚ) ≤ m * 2 ^ e := mul_nonneg (Nat.cast_nonneg m) (zpow_nonneg (by norm_num) e)
  rw [hdouble.ceil, Option.some_inj]
  rcases hexponent with hexponent | hexact
  · exact ceil_eq_ceilDiv hsize hq
      (fun k => lt_of_near htotal hsize hsize' hexponent hlow hnear)
      (fun k => le_of_near hexponent hnear)
  · rw [hexact]
    exact ceil_eq_ceilDiv hsize (hexact ▸ hq) (fun _ hk => hk) fun _ hk => hk

end Ceiling

end BoundSql.Binary64
