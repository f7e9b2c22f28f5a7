import LayeredConfig.Number.Binary64
import Mathlib.Data.Nat.Dist
import Mathlib.Tactic.Common

/-! Natural numbers as binary floating point numbers. A number that is a mantissa of 53 bits times a
power of two is kept, and any other goes to a nearest one of these. -/

namespace LayeredConfig.Number.Binary64

variable {n k : Nat}

def Holds (n : Nat) : Prop := ∃ m e : Nat, m < 2 ^ 53 ∧ n = m * 2 ^ e

structure Nearest (n k : Nat) : Prop where
  holds : Holds k
  closest : ∀ j, Holds j → Nat.dist n k ≤ Nat.dist n j

lemma holds_of_lt (h : n < 2 ^ 53) : Holds n := ⟨n, 0, h, by simp⟩

lemma Nearest.eq_iff (h : Nearest n k) : k = n ↔ Holds n := by
  constructor
  · rintro rfl
    exact h.holds
  · intro hn
    have := h.closest n hn
    simp only [Nat.dist] at this
    omega

lemma roundDiv_cases (num den : Nat) :
    (roundDiv num den = num / den ∧ 2 * (num % den) ≤ den) ∨
      (roundDiv num den = num / den + 1 ∧ den ≤ 2 * (num % den)) := by
  simp only [roundDiv]
  split
  · exact .inl ⟨rfl, by omega⟩
  · split
    · exact .inr ⟨rfl, by omega⟩
    · split
      · exact .inl ⟨rfl, by omega⟩
      · exact .inr ⟨rfl, by omega⟩

lemma roundDiv_mul {den : Nat} (h : 0 < den) (q : Nat) : roundDiv (q * den) den = q := by
  simp only [roundDiv, Nat.mul_mod_left, Nat.mul_zero, if_pos h]
  exact Nat.mul_div_cancel q h

lemma roundDiv_closest {num den : Nat} (h : 0 < den) (q : Nat) :
    Nat.dist num (roundDiv num den * den) ≤ Nat.dist num (q * den) := by
  have hnum : num / den * den + num % den = num := Nat.div_add_mod' num den
  have hlt := Nat.mod_lt num h
  have hside : q * den ≤ num / den * den ∨ num / den * den + den ≤ q * den := by
    rcases Nat.lt_or_ge (num / den) q with hq | hq
    · right
      rw [← Nat.succ_mul]
      exact Nat.mul_le_mul_right den hq
    · exact .inl (Nat.mul_le_mul_right den hq)
  simp only [Nat.dist]
  rcases roundDiv_cases num den with ⟨he, hr⟩ | ⟨he, hr⟩
  · rw [he]
    omega
  · rw [he, Nat.succ_mul]
    omega

/-- The distance between the neighbours of a number, where it has 53 digits in base two or more. -/
def spacing (n : Nat) : Nat := 2 ^ (n.log2 - 52)

def nearest (n : Nat) : Nat := roundDiv n (spacing n) * spacing n

lemma spacing_pos (n : Nat) : 0 < spacing n := Nat.two_pow_pos _

lemma lt_mul_spacing (n : Nat) : n < 2 ^ 53 * spacing n := by
  calc n < 2 ^ (n.log2 + 1) := Nat.lt_log2_self
    _ ≤ 2 ^ (53 + (n.log2 - 52)) := Nat.pow_le_pow_right (by decide) (by omega)
    _ = 2 ^ 53 * spacing n := Nat.pow_add 2 53 _

lemma roundDiv_spacing_le (n : Nat) : roundDiv n (spacing n) ≤ 2 ^ 53 := by
  have hlt : n / spacing n < 2 ^ 53 := (Nat.div_lt_iff_lt_mul (spacing_pos n)).2 (lt_mul_spacing n)
  rcases roundDiv_cases n (spacing n) with ⟨he, -⟩ | ⟨he, -⟩
  · rw [he]
    omega
  · rw [he]
    omega

lemma holds_nearest (n : Nat) : Holds (nearest n) := by
  rcases Nat.lt_or_eq_of_le (roundDiv_spacing_le n) with hlt | heq
  · exact ⟨_, _, hlt, rfl⟩
  · refine ⟨1, 53 + (n.log2 - 52), by decide, ?_⟩
    rw [nearest, heq, spacing, Nat.pow_add, Nat.one_mul]

lemma Holds.dvd_or_lt {j : Nat} (h : Holds j) (n : Nat) :
    spacing n ∣ j ∨ (j < 2 ^ n.log2 ∧ 52 < n.log2) := by
  obtain ⟨m, e, hm, rfl⟩ := h
  rcases Nat.lt_or_ge e (n.log2 - 52) with he | he
  · right
    refine ⟨?_, by omega⟩
    calc m * 2 ^ e < 2 ^ 53 * 2 ^ e := Nat.mul_lt_mul_of_pos_right hm (Nat.two_pow_pos e)
      _ = 2 ^ (53 + e) := (Nat.pow_add 2 53 e).symm
      _ ≤ 2 ^ n.log2 := Nat.pow_le_pow_right (by decide) (by omega)
  · exact .inl (Nat.dvd_mul_left_of_dvd (Nat.pow_dvd_pow 2 he) m)

lemma nearest_spec (n : Nat) : Nearest n (nearest n) := by
  refine ⟨holds_nearest n, fun j hj => ?_⟩
  rcases hj.dvd_or_lt n with ⟨q, rfl⟩ | ⟨hlt, hlog⟩
  · rw [Nat.mul_comm]
    exact roundDiv_closest (spacing_pos n) q
  · -- The least number with as many digits as `n` lies on the grid, between `j` and `n`.
    have hle : 2 ^ n.log2 ≤ n := Nat.log2_self_le (by rintro rfl; simp at hlog)
    have hgrid : 2 ^ 52 * spacing n = 2 ^ n.log2 := by
      rw [spacing, ← Nat.pow_add]
      congr 1
      omega
    have hclosest : Nat.dist n (nearest n) ≤ Nat.dist n (2 ^ 52 * spacing n) :=
      roundDiv_closest (spacing_pos n) (2 ^ 52)
    rw [hgrid] at hclosest
    simp only [Nat.dist] at hclosest ⊢
    omega

lemma denominator_pos (e : Int) : 0 < denominator e := Nat.pow_pos (by decide)

lemma roundDiv_zero (e f : Int) : roundDiv (numerator 0 e) (denominator f) = 0 := by
  have hzero := roundDiv_mul (denominator_pos f) 0
  rw [numerator]
  rwa [Nat.zero_mul] at hzero ⊢

lemma floorLog2_whole (h : n ≠ 0) : floorLog2 n 1 = n.log2 := by
  have hone : Nat.log2 1 = 0 := by decide
  have hle : 1 * power 2 (n.log2 : Int) ≤ n * power 2 (-(n.log2 : Int)) := by
    have hneg : power 2 (-(n.log2 : Int)) = 1 := by simp [power]
    rw [hneg, Nat.one_mul, Nat.mul_one, power, Int.toNat_natCast]
    exact Nat.log2_self_le h
  simp only [floorLog2, hone, Int.natCast_zero, Int.sub_zero, if_pos hle]

def IsWhole (x : Binary64) (n : Nat) : Prop :=
  ∃ m e, x = finite false m e ∧ numerator m e = n * denominator e

lemma round_of_exponent {e : Int} (h : n ≠ 0) (he : (n.log2 : Int) - 52 = e) (hmax : e < maxExponent) :
    round false n 1 =
      let m := roundDiv (n * power 2 (-e)) (1 * power 2 e)
      if m = power 2 53 then finite false (power 2 52) (e + 1) else finite false m e := by
  have hmin : max minExponent e = e := max_eq_right (by simp only [minExponent]; omega)
  simp only [round, if_neg h, floorLog2_whole h, he, hmin]
  split
  · exact if_neg (by omega)
  · exact if_neg (by omega)

lemma power_natCast (k : Nat) : power 2 (k : Int) = 2 ^ k := rfl

lemma power_neg_natCast (k : Nat) : power 2 (-(k : Int)) = 1 := by simp [power]

lemma round_short (h : n ≠ 0) (hlog : n.log2 ≤ 52) : IsWhole (round false n 1) (nearest n) := by
  obtain ⟨k, hk⟩ : ∃ k, n.log2 + k = 52 := ⟨52 - n.log2, by omega⟩
  have hspacing : spacing n = 1 := by rw [spacing, Nat.sub_eq_zero_of_le hlog, Nat.pow_zero]
  have hnearest : nearest n = n := by
    rw [nearest, hspacing, Nat.mul_one]
    simpa using roundDiv_mul Nat.one_pos n
  have hmantissa : roundDiv (n * power 2 (- -(k : Int))) (1 * power 2 (-(k : Int))) = n * 2 ^ k := by
    rw [neg_neg, power_natCast, power_neg_natCast, Nat.one_mul]
    simpa using roundDiv_mul Nat.one_pos (n * 2 ^ k)
  have hlt : n * 2 ^ k < power 2 53 := by
    calc n * 2 ^ k < 2 ^ (n.log2 + 1) * 2 ^ k :=
          Nat.mul_lt_mul_of_pos_right Nat.lt_log2_self (Nat.two_pow_pos k)
      _ = 2 ^ 53 := by
          rw [← Nat.pow_add]
          congr 1
          omega
  have hround := round_of_exponent (e := -(k : Int)) h (by omega) (by simp only [maxExponent]; omega)
  simp only [hmantissa, if_neg (Nat.ne_of_lt hlt)] at hround
  refine ⟨_, _, hround, ?_⟩
  rw [numerator, denominator, neg_neg, power_natCast, power_neg_natCast, hnearest, Nat.mul_one]

lemma round_long {k : Nat} (hlog : n.log2 = 52 + k) (hmax : k < 970) :
    IsWhole (round false n 1) (nearest n) := by
  have h : n ≠ 0 := by
    rintro rfl
    rw [Nat.log2_zero] at hlog
    omega
  have hspacing : spacing n = 2 ^ k := by
    rw [spacing, hlog]
    congr 1
    omega
  have hround := round_of_exponent (e := (k : Int)) h (by omega) (by simp only [maxExponent]; omega)
  simp only [power_natCast, power_neg_natCast, Nat.mul_one, Nat.one_mul, ← hspacing] at hround
  split at hround
  -- Rounding up gave a mantissa of one digit more, and the exponent has taken that digit over.
  · rename_i hcarry
    refine ⟨_, _, hround, ?_⟩
    have hsucc : ((k : Int) + 1) = ((k + 1 : Nat) : Int) := rfl
    rw [numerator, denominator, hsucc, power_natCast, power_neg_natCast, nearest, hcarry, hspacing,
      Nat.mul_one]
    change 2 ^ 52 * 2 ^ (k + 1) = 2 ^ 53 * 2 ^ k
    rw [← Nat.pow_add, ← Nat.pow_add]
    congr 1
    omega
  · refine ⟨_, _, hround, ?_⟩
    rw [numerator, denominator, power_natCast, power_neg_natCast, nearest, hspacing, Nat.mul_one]

lemma round_whole (h : n ≠ 0) (hmax : n.log2 < 1000) : IsWhole (round false n 1) (nearest n) := by
  rcases Nat.le_total n.log2 52 with hshort | hlong
  · exact round_short h hshort
  · obtain ⟨k, hk⟩ := Nat.exists_eq_add_of_le hlong
    exact round_long hk (by omega)

lemma ofDecimal_whole (h : n < 10 ^ 20) : IsWhole (ofDecimal false n 0) (nearest n) := by
  by_cases hzero : n = 0
  · have hnearest : nearest 0 = 0 := by decide
    refine ⟨0, minExponent, if_pos hzero, ?_⟩
    rw [hzero, hnearest, numerator, Nat.zero_mul, Nat.zero_mul]
  · have hsize : (Nat.toDigits 10 n).length ≤ 20 :=
      (Nat.length_toDigits_le_iff (by decide) (by decide)).2 h
    have hlog : n.log2 < 67 := (Nat.log2_lt hzero).2 (h.trans (by decide))
    have hround : ofDecimal false n 0 = round false n 1 := by
      simp only [ofDecimal, if_neg hzero]
      rw [if_neg (by omega), if_neg (by omega), Int.neg_zero, power, Int.toNat_zero]
      simp
    rw [hround]
    exact round_whole hzero (by omega)

end LayeredConfig.Number.Binary64
