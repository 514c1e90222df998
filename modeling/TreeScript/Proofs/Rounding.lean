/-
  TreeScript.Proofs.Rounding — decimals read back as the doubles they were written for.

  Rounding depends on the quotient alone and not on the numerator and denominator it is
  given by (`ofRatio_congr`): the binary scale is the logarithm of the quotient
  (`binaryScale_eq_log`), and rounding to an integer ignores a common factor. A magnitude
  that a double has is rounded to that double (`ofRatio_ratio`). So the shortest decimal of
  a finite double, which was found by trying, reads back (`ofDecimal_shortest`).
-/

import Mathlib.Algebra.Order.Field.Power
import Mathlib.Data.Int.Log
import Mathlib.Data.Rat.Floor
import Mathlib.Tactic.FieldSimp
import Mathlib.Tactic.Linarith
import Mathlib.Tactic.Positivity
import Mathlib.Tactic.Ring
import TreeScript.Binary64.Shortest

namespace TreeScript

namespace Binary64

/-! ## Rounding to an integer -/

theorem roundDiv_mul_left (k num den : Nat) (hk : 0 < k) : roundDiv (k * num) (k * den) = roundDiv num den := by
  have hlt : 2 * (k * (num % den)) < k * den ↔ 2 * (num % den) < den := by
    rw [Nat.mul_left_comm]
    exact Nat.mul_lt_mul_left hk
  have heq : 2 * (k * (num % den)) = k * den ↔ 2 * (num % den) = den := by
    rw [Nat.mul_left_comm]
    exact Nat.mul_right_inj (Nat.ne_of_gt hk)
  simp only [roundDiv, Nat.mul_div_mul_left _ _ hk, Nat.mul_mod_mul_left, hlt, heq]

theorem roundDiv_congr {a b c d : Nat} (hb : 0 < b) (hd : 0 < d) (h : a * d = c * b) :
    roundDiv a b = roundDiv c d := by
  rw [← roundDiv_mul_left d a b hd, ← roundDiv_mul_left b c d hb, Nat.mul_comm d a, h, Nat.mul_comm c b,
    Nat.mul_comm d b]

theorem roundDiv_mul_self (n den : Nat) (hd : 0 < den) : roundDiv (n * den) den = n := by
  have : roundDiv (n * den) den = roundDiv n 1 := roundDiv_congr hd Nat.one_pos (by ring)
  rw [this]
  simp [roundDiv, Nat.mod_one]

/-! ## The binary scale -/

theorem zpow_eq_toNat (b : Nat) (e : Int) : (b : ℚ) ^ e = b ^ e.toNat / b ^ (-e).toNat := by
  rcases Int.le_total 0 e with h | h
  · have h0 : (-e).toNat = 0 := by omega
    rw [h0, pow_zero, div_one, ← zpow_natCast, Int.toNat_of_nonneg h]
  · have h0 : e.toNat = 0 := by omega
    rw [h0, pow_zero, one_div, ← zpow_natCast, ← zpow_neg, Int.toNat_of_nonneg (by omega), neg_neg]

theorem pow_le_iff_le_div (num den : Nat) (hd : 0 < den) (e : Int) :
    den * 2 ^ e.toNat ≤ num * 2 ^ (-e).toNat ↔ (2 : ℚ) ^ e ≤ num / den := by
  have hdq : (0 : ℚ) < den := by exact_mod_cast hd
  have hz : (2 : ℚ) ^ e = 2 ^ e.toNat / 2 ^ (-e).toNat := by exact_mod_cast zpow_eq_toNat 2 e
  rw [hz, div_le_div_iff₀ (by positivity) hdq]
  constructor
  · intro h
    have : ((den * 2 ^ e.toNat : Nat) : ℚ) ≤ ((num * 2 ^ (-e).toNat : Nat) : ℚ) := by exact_mod_cast h
    push_cast at this
    linarith
  · intro h
    have : ((den * 2 ^ e.toNat : Nat) : ℚ) ≤ ((num * 2 ^ (-e).toNat : Nat) : ℚ) := by
      push_cast
      linarith
    exact_mod_cast this

/-- The scale lies within one of the difference of the logarithms, so one comparison finds it. -/
theorem log_div_bounds (num den : Nat) (hn : 0 < num) (hd : 0 < den) :
    (2 : ℚ) ^ ((num.log2 : Int) - den.log2 - 1) ≤ num / den ∧
      (num : ℚ) / den < 2 ^ ((num.log2 : Int) - den.log2 + 1) := by
  have hdq : (0 : ℚ) < den := by exact_mod_cast hd
  have hn1 : (2 : ℚ) ^ (num.log2 : Int) ≤ num := by exact_mod_cast Nat.log2_self_le (by omega)
  have hn2 : (num : ℚ) < 2 ^ ((num.log2 : Int) + 1) := by exact_mod_cast Nat.lt_log2_self
  have hd1 : (2 : ℚ) ^ (den.log2 : Int) ≤ den := by exact_mod_cast Nat.log2_self_le (by omega)
  have hd2 : (den : ℚ) < 2 ^ ((den.log2 : Int) + 1) := by exact_mod_cast Nat.lt_log2_self
  have two : (2 : ℚ) ≠ 0 := two_ne_zero
  constructor
  · rw [le_div_iff₀ hdq]
    calc (2 : ℚ) ^ ((num.log2 : Int) - den.log2 - 1) * den
        ≤ 2 ^ ((num.log2 : Int) - den.log2 - 1) * 2 ^ ((den.log2 : Int) + 1) := by gcongr
      _ = 2 ^ (num.log2 : Int) := by rw [← zpow_add₀ two]; congr 1; ring
      _ ≤ num := hn1
  · rw [div_lt_iff₀ hdq]
    calc (num : ℚ) < 2 ^ ((num.log2 : Int) + 1) := hn2
      _ = 2 ^ ((num.log2 : Int) - den.log2 + 1) * 2 ^ (den.log2 : Int) := by
        rw [← zpow_add₀ two]; congr 1; ring
      _ ≤ 2 ^ ((num.log2 : Int) - den.log2 + 1) * den := by gcongr

theorem eq_log_of_bounds {r : ℚ} {e : Int} (hr : 0 < r) (hlo : (2 : ℚ) ^ e ≤ r) (hhi : r < 2 ^ (e + 1)) :
    e = Int.log 2 r := by
  have h1 : e ≤ Int.log 2 r := (Int.zpow_le_iff_le_log Nat.one_lt_two hr).mp (by exact_mod_cast hlo)
  have h2 : Int.log 2 r < e + 1 := (Int.lt_zpow_iff_log_lt Nat.one_lt_two hr).mp (by exact_mod_cast hhi)
  omega

theorem binaryScale_eq_log (num den : Nat) (hn : 0 < num) (hd : 0 < den) :
    binaryScale num den = Int.log 2 ((num : ℚ) / den) := by
  have hr : (0 : ℚ) < num / den := by positivity
  obtain ⟨hlo, hhi⟩ := log_div_bounds num den hn hd
  simp only [binaryScale]
  split
  · rename_i h
    exact eq_log_of_bounds hr ((pow_le_iff_le_div num den hd _).mp h) hhi
  · rename_i h
    rw [pow_le_iff_le_div num den hd, not_le] at h
    exact eq_log_of_bounds hr hlo (by simpa using h)

/-! ## Rounding a quotient -/

/-- Equal quotients are rounded to the same double. -/
theorem ofRatio_congr {num den num' den' : Nat} (hd : 0 < den) (hd' : 0 < den') (h : num * den' = num' * den) :
    ofRatio num den = ofRatio num' den' := by
  by_cases hn : num = 0
  · have hn' : num' = 0 := by
      rw [hn, Nat.zero_mul] at h
      exact (Nat.mul_eq_zero.mp h.symm).resolve_right (by omega)
    simp [ofRatio, hn, hn']
  have hn' : num' ≠ 0 := by
    intro e
    rw [e, Nat.zero_mul] at h
    rcases Nat.mul_eq_zero.mp h with h | h <;> omega
  have hq : (num : ℚ) / den = num' / den' := by
    rw [div_eq_div_iff (by positivity) (by positivity)]
    exact_mod_cast h
  have hs : binaryScale num den = binaryScale num' den' := by
    rw [binaryScale_eq_log _ _ (by omega) hd, binaryScale_eq_log _ _ (by omega) hd', hq]
  simp only [ofRatio, hn, hn', if_false, hs]
  congr 2
  apply roundDiv_congr (Nat.mul_pos hd (by positivity)) (Nat.mul_pos hd' (by positivity))
  calc num * 2 ^ (-max (binaryScale num' den' - 52) (-1074)).toNat *
        (den' * 2 ^ (max (binaryScale num' den' - 52) (-1074)).toNat)
      = num * den' * (2 ^ (-max (binaryScale num' den' - 52) (-1074)).toNat *
        2 ^ (max (binaryScale num' den' - 52) (-1074)).toNat) := by ring
    _ = num' * 2 ^ (-max (binaryScale num' den' - 52) (-1074)).toNat *
        (den * 2 ^ (max (binaryScale num' den' - 52) (-1074)).toNat) := by rw [h]; ring

@[simp] theorem ofRatio_negative (num den : Nat) : (ofRatio num den).negative = false := by
  simp only [ofRatio]
  split <;> rfl

theorem ofRank_rank {r : Nat} (h : r < infinityRank) : ((ofRank r).rank : Nat) = r := by
  simp only [ofRank]
  omega

/-- A quotient that is a significand at a place is rounded to the double that has them. -/
theorem ofRatio_place (m : Nat) (q : Int) (hm : 0 < m) (hq : -1074 ≤ q)
    (hlo : q = -1074 ∨ 2 ^ 52 ≤ m) (hhi : m < 2 ^ 53) :
    ofRatio (m * 2 ^ q.toNat) (2 ^ (-q).toNat) = ofRank ((q + 1074).toNat * 2 ^ 52 + m) := by
  have two : (2 : ℚ) ≠ 0 := two_ne_zero
  have hpos : 0 < m * 2 ^ q.toNat := Nat.mul_pos hm (by positivity)
  have hval : ((m * 2 ^ q.toNat : Nat) : ℚ) / ((2 ^ (-q).toNat : Nat) : ℚ) = m * 2 ^ q := by
    have hz : (2 : ℚ) ^ q = 2 ^ q.toNat / 2 ^ (-q).toNat := by exact_mod_cast zpow_eq_toNat 2 q
    push_cast
    rw [hz, mul_div_assoc]
  have hscale : binaryScale (m * 2 ^ q.toNat) (2 ^ (-q).toNat) = m.log2 + q := by
    rw [binaryScale_eq_log _ _ hpos (by positivity), hval]
    have h1 : (2 : ℚ) ^ (m.log2 : Int) ≤ m := by exact_mod_cast Nat.log2_self_le (by omega)
    have h2 : (m : ℚ) < 2 ^ ((m.log2 : Int) + 1) := by exact_mod_cast Nat.lt_log2_self
    refine (eq_log_of_bounds (by positivity) ?_ ?_).symm
    · rw [zpow_add₀ two]
      gcongr
    · calc (m : ℚ) * 2 ^ q < 2 ^ ((m.log2 : Int) + 1) * 2 ^ q := by gcongr
        _ = 2 ^ ((m.log2 : Int) + q + 1) := by rw [← zpow_add₀ two]; congr 1; ring
  have hq' : max (binaryScale (m * 2 ^ q.toNat) (2 ^ (-q).toNat) - 52) (-1074) = q := by
    have hle : m.log2 ≤ 52 := by
      have := (Nat.log2_lt (by omega)).mpr hhi
      omega
    rcases hlo with h | h
    · omega
    · have : 52 ≤ m.log2 := (Nat.le_log2 (by omega)).mpr h
      omega
  simp only [ofRatio, hq', Nat.ne_of_gt hpos, if_false]
  have hround : roundDiv (m * 2 ^ q.toNat * 2 ^ (-q).toNat) (2 ^ (-q).toNat * 2 ^ q.toNat) = m := by
    rw [Nat.mul_assoc, Nat.mul_comm (2 ^ q.toNat)]
    exact roundDiv_mul_self m _ (by positivity)
  rw [hround]

/-- The magnitude of a finite double is rounded to that double. -/
theorem ofRatio_ratio (x : Binary64) (hx : x.isFinite = true) : ofRatio x.ratio.1 x.ratio.2 = ⟨false, x.rank⟩ := by
  have hr : (x.rank : Nat) < infinityRank := by simpa [isFinite] using hx
  have hinf : infinityRank = 2047 * 2 ^ 52 := rfl
  have finish : ∀ r : Nat, r = x.rank → ofRank r = ⟨false, x.rank⟩ := by
    intro r e
    have := ofRank_rank (r := r) (by omega)
    simp only [ofRank, mk.injEq, true_and]
    apply Fin.ext
    simp only
    omega
  simp only [ratio, significand, exponent]
  split
  · rename_i h
    rcases Nat.eq_zero_or_pos x.rank with h0 | h0
    · rw [h0]
      simp only [Nat.zero_mul, ofRatio, if_true, zero, mk.injEq, true_and]
      exact Fin.ext h0.symm
    · rw [ofRatio_place _ _ h0 (by omega) (Or.inl rfl) (by omega)]
      exact finish _ (by omega)
  · rename_i h
    rw [ofRatio_place _ _ (by omega) (by omega) (Or.inr (by omega)) (by omega)]
    exact finish _ (by omega)

/-! ## Decimals -/

/-- Zeros at the end of the digits count as places. -/
theorem ofDecimal_mul_pow (digits k : Nat) (e : Int) : ofDecimal (digits * 10 ^ k) e = ofDecimal digits (e + k) := by
  apply ofRatio_congr (by positivity) (by positivity)
  have hexp : k + e.toNat + (-(e + k)).toNat = (e + k).toNat + (-e).toNat := by omega
  calc digits * 10 ^ k * 10 ^ e.toNat * 10 ^ (-(e + k)).toNat
      = digits * 10 ^ (k + e.toNat + (-(e + k)).toNat) := by rw [pow_add, pow_add]; ring
    _ = digits * 10 ^ (e + k).toNat * 10 ^ (-e).toNat := by rw [hexp, pow_add]; ring

end Binary64

namespace Decimal

theorem toDigits_eq_append_zeros (n : Nat) :
    ∃ ds, Nat.toDigits 10 n = ds ++
      List.replicate ((Nat.toDigits 10 n).reverse.takeWhile (· = '0')).length '0' := by
  refine ⟨((Nat.toDigits 10 n).reverse.dropWhile (· = '0')).reverse, ?_⟩
  have hzeros : (Nat.toDigits 10 n).reverse.takeWhile (· = '0') =
      List.replicate ((Nat.toDigits 10 n).reverse.takeWhile (· = '0')).length '0' := by
    rw [List.eq_replicate_iff]
    refine ⟨rfl, fun c hc => ?_⟩
    simpa using List.all_eq_true.mp List.all_takeWhile c hc
  have hsplit := List.takeWhile_append_dropWhile (p := (· = '0')) (l := (Nat.toDigits 10 n).reverse)
  calc Nat.toDigits 10 n
      = ((Nat.toDigits 10 n).reverse.takeWhile (· = '0') ++
          (Nat.toDigits 10 n).reverse.dropWhile (· = '0')).reverse := by rw [hsplit, List.reverse_reverse]
    _ = _ := by rw [List.reverse_append, hzeros, List.reverse_replicate, List.length_replicate]

theorem toDigits_head {n : Nat} (hn : n ≠ 0) : (Nat.toDigits 10 n).head? ≠ some '0' := by
  induction n using Nat.strongRecOn with
  | ind n ih =>
    by_cases h : n < 10
    · rw [Nat.toDigits_of_lt_base h]
      have : ∀ m : Nat, m < 10 → m ≠ 0 → m.digitChar ≠ '0' := by decide
      simpa using this n h hn
    · have hne : Nat.toDigits 10 (n / 10) ≠ [] := Nat.toDigits_ne_nil
      rw [Nat.toDigits_of_base_le (by decide) (by omega), List.head?_append_of_ne_nil _ hne]
      exact ih (n / 10) (by omega) (by omega)

theorem pow_zeros_dvd (n : Nat) : 10 ^ ((Nat.toDigits 10 n).reverse.takeWhile (· = '0')).length ∣ n := by
  obtain ⟨ds, hds⟩ := toDigits_eq_append_zeros n
  have hn := Nat.ofDigitChars_ten_toDigits (n := n)
  rw [hds, Nat.ofDigitChars_append, Nat.ofDigitChars_replicate_zero] at hn
  exact ⟨_, hn.symm⟩

/-- Trimming does not change what a decimal stands for. -/
theorem ofDecimal_trimmed (d : Decimal) :
    Binary64.ofDecimal d.trimmed.digits d.trimmed.exponent = Binary64.ofDecimal d.digits d.exponent := by
  simp only [trimmed]
  rw [← Binary64.ofDecimal_mul_pow, Nat.div_mul_cancel (pow_zeros_dvd d.digits)]

end Decimal

namespace Binary64

theorem shortestAt_rank {x : Binary64} {num den n : Nat} {scale : Int} {d : Decimal}
    (h : shortestAt x num den scale n = some d) : (ofDecimal d.digits d.exponent).rank = x.rank := by
  simp only [shortestAt, decide_eq_true_eq] at h
  repeat' split at h
  all_goals first
    | (cases h; assumption)
    | exact nomatch h

/-- The denominator of a magnitude goes into every power of ten with that many places. -/
theorem ratio_den_dvd (x : Binary64) {places : Nat} (h : 1074 ≤ places) : x.ratio.2 ∣ x.ratio.1 * 10 ^ places := by
  have hle : (-x.exponent).toNat ≤ places := by
    simp only [exponent]
    split <;> omega
  have h2 : (2 : Nat) ^ (-x.exponent).toNat ∣ 10 ^ places := by
    calc (2 : Nat) ^ (-x.exponent).toNat ∣ 2 ^ places := Nat.pow_dvd_pow 2 hle
      _ ∣ 10 ^ places := pow_dvd_pow_of_dvd (by norm_num) places
  exact Nat.dvd_mul_left_of_dvd h2 _

/-- A magnitude written out with all its places is exact. -/
theorem ofDecimal_exact (x : Binary64) (hx : x.isFinite = true) {places : Nat} (h : 1074 ≤ places) :
    ofDecimal (x.ratio.1 * 10 ^ places / x.ratio.2) (-places) = ⟨false, x.rank⟩ := by
  have hden : 0 < x.ratio.2 := by simp only [ratio]; positivity
  rw [← ofRatio_ratio x hx]
  apply ofRatio_congr (by positivity) hden
  rw [neg_neg, Int.toNat_natCast, Int.toNat_of_nonpos (by omega), pow_zero, Nat.mul_one,
    Nat.div_mul_cancel (ratio_den_dvd x h)]

/-- The shortest decimal of a finite double is rounded to its magnitude. -/
theorem ofDecimal_shortest (x : Binary64) (hx : x.isFinite = true) :
    ofDecimal x.shortest.digits x.shortest.exponent = ⟨false, x.rank⟩ := by
  by_cases hz : x.isZero = true
  · have h0 : (x.rank : Nat) = 0 := by simpa [isZero] using hz
    simp only [shortest, hz, if_true, ofDecimal, Nat.zero_mul, ofRatio, zero, mk.injEq, true_and]
    exact Fin.ext h0.symm
  simp only [shortest, hz, Bool.false_eq_true, if_false]
  split
  · rename_i d hd
    obtain ⟨n, -, hn⟩ := List.exists_of_findSome?_eq_some hd
    rw [Decimal.ofDecimal_trimmed]
    have hneg : (ofDecimal d.digits d.exponent).negative = false := ofRatio_negative _ _
    have hrank := shortestAt_rank hn
    cases h : ofDecimal d.digits d.exponent with
    | mk negative rank =>
      rw [h] at hneg hrank
      exact congrArg₂ Binary64.mk hneg hrank
  · exact ofDecimal_exact x hx (Nat.le_refl 1074)

end Binary64

end TreeScript
