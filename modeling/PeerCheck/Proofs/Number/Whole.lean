import PeerCheck.Number.Binary64
import Mathlib.Tactic.Ring

/-!
# Whole numbers as binary values

A whole number rounds to a finite value just where it is below the middle between the largest such
value and the next power of two (`ofInt?_of_lt`, `ofInt?_of_le`), and rounding keeps its sign.
-/

namespace PeerCheck.Number

theorem twoTo_pos (n : Nat) : 0 < twoTo n := Nat.two_pow_pos n

theorem twoTo_add (m n : Nat) : twoTo (m + n) = twoTo m * twoTo n := Nat.pow_add 2 m n

theorem twoTo_le {m n : Nat} (h : m ≤ n) : twoTo m ≤ twoTo n := Nat.pow_le_pow_right (by omega) h

/-! ## Rounded quotients -/

theorem div_le_roundDiv (n d : Nat) : n / d ≤ roundDiv n d := by
  unfold roundDiv
  dsimp only
  split <;> omega

theorem roundDiv_le_succ (n d : Nat) : roundDiv n d ≤ n / d + 1 := by
  unfold roundDiv
  dsimp only
  split <;> omega

/-- The half below an even number goes up to it. -/
theorem roundDiv_lt_iff (n k : Nat) {h : Nat} (hh : 0 < h) :
    roundDiv n (2 * h) < 2 * k ↔ n + h < 2 * k * (2 * h) := by
  have hn : 2 * h * (n / (2 * h)) + n % (2 * h) = n := Nat.div_add_mod n (2 * h)
  have hr : n % (2 * h) < 2 * h := Nat.mod_lt n (by omega)
  unfold roundDiv
  dsimp only
  generalize n / (2 * h) = q at *
  generalize n % (2 * h) = r at *
  rw [Nat.mul_comm (2 * k)]
  rcases Nat.lt_trichotomy (q + 1) (2 * k) with hq | hq | hq
  · -- far enough below the bound, rounding up does not reach it
    have hle : 2 * h * (q + 2) ≤ 2 * h * (2 * k) := Nat.mul_le_mul_left _ hq
    rw [Nat.mul_add] at hle
    split <;> omega
  · rw [← hq, Nat.mul_add, Nat.mul_one]
    split <;> omega
  · have hle : 2 * h * (2 * k) ≤ 2 * h * q := Nat.mul_le_mul_left _ (by omega)
    split <;> omega

namespace Binary64

theorem spacing_pos (n : Nat) : 0 < spacing n := twoTo_pos _

theorem spacing_le {n : Nat} (hn : n ≠ 0) : spacing n ≤ n :=
  (twoTo_le (by omega)).trans (Nat.log2_self_le hn)

def rounded (n : Nat) : Nat := roundDiv n (spacing n) * spacing n

theorem rounded_pos {n : Nat} (hn : n ≠ 0) : 0 < rounded n := by
  have hq : 0 < n / spacing n := Nat.div_pos (spacing_le hn) (spacing_pos n)
  exact Nat.mul_pos (hq.trans_le (div_le_roundDiv n _)) (spacing_pos n)

theorem rounded_le (n : Nat) : rounded n ≤ 2 * n := by
  by_cases hn : n = 0
  · subst hn
    decide
  · have hle := Nat.mul_le_mul_right (spacing n) (roundDiv_le_succ n (spacing n))
    have hdiv : n / spacing n * spacing n ≤ n := Nat.div_mul_le_self n _
    have hgap := spacing_le hn
    rw [Nat.add_mul, Nat.one_mul] at hle
    unfold rounded
    omega

theorem le_log2_of_twoTo_le {n e : Nat} (h : twoTo e ≤ n) : n ≠ 0 ∧ e ≤ n.log2 := by
  have hn : n ≠ 0 := by
    have := twoTo_pos e
    omega
  exact ⟨hn, (Nat.le_log2 hn).mpr h⟩

/-- Between two powers of two the spacing is the same. -/
theorem spacing_eq {n e : Nat} (hlow : twoTo (e + 52) ≤ n) (hhigh : n < twoTo (e + 53)) :
    spacing n = twoTo e := by
  obtain ⟨hn, hge⟩ := le_log2_of_twoTo_le hlow
  have hlt : n.log2 < e + 53 := (Nat.log2_lt hn).mpr hhigh
  rw [spacing]
  congr 1
  omega

/-- Rounding does not go below a power of two that a number has reached. -/
theorem le_rounded {n e : Nat} (h : twoTo (52 + e) ≤ n) : twoTo (52 + e) ≤ rounded n := by
  obtain ⟨hn, hge⟩ := le_log2_of_twoTo_le h
  obtain ⟨i, hi⟩ := Nat.exists_eq_add_of_le hge
  have hgap : spacing n = twoTo (e + i) := by
    rw [spacing]
    congr 1
    omega
  have hself : twoTo 52 * spacing n ≤ n := by
    rw [hgap, ← twoTo_add, ← Nat.add_assoc, ← hi]
    exact Nat.log2_self_le hn
  have hq : twoTo 52 ≤ n / spacing n := (Nat.le_div_iff_mul_le (spacing_pos n)).mpr hself
  calc twoTo (52 + e) ≤ twoTo 52 * spacing n := by
        rw [hgap, ← twoTo_add]
        exact twoTo_le (by omega)
    _ ≤ rounded n := Nat.mul_le_mul_right _ (hq.trans (div_le_roundDiv n _))

/-- Rounding stays below a power of two just where the number is more than half a spacing below. -/
theorem rounded_lt_iff (n e : Nat) :
    rounded n < twoTo (54 + e) ↔ n + twoTo e < twoTo (54 + e) := by
  have hpos : 0 < twoTo e := twoTo_pos e
  have h53 : twoTo (53 + e) = 2 * twoTo 52 * twoTo e := by rw [twoTo_add]; rfl
  have h54 : twoTo (54 + e) = 2 * twoTo 52 * (2 * twoTo e) := by
    rw [show 54 + e = 1 + (53 + e) by omega, twoTo_add, h53, show twoTo 1 = 2 from rfl]
    ring
  have hhalf : twoTo e ≤ twoTo 52 * twoTo e := Nat.le_mul_of_pos_left _ (twoTo_pos 52)
  rcases Nat.lt_or_ge n (twoTo (53 + e)) with hlow | hlow
  · have hle := rounded_le n
    rw [h53, Nat.mul_assoc] at hlow
    rw [h54, Nat.mul_assoc, Nat.mul_left_comm (twoTo 52)]
    constructor <;> intro <;> omega
  · rcases Nat.lt_or_ge n (twoTo (54 + e)) with hhigh | hhigh
    · have hgap : spacing n = 2 * twoTo e := by
        have hlow' : twoTo (1 + e + 52) ≤ n := by convert hlow using 2; omega
        have hhigh' : n < twoTo (1 + e + 53) := by convert hhigh using 2; omega
        rw [spacing_eq hlow' hhigh', twoTo_add]
        rfl
      rw [rounded, hgap, h54, Nat.mul_lt_mul_right (by omega)]
      exact roundDiv_lt_iff n _ hpos
    · have hle : twoTo (54 + e) ≤ rounded n := by
        have := le_rounded (e := 2 + e) (by convert hhigh using 2; omega)
        convert this using 2
        omega
      constructor <;> intro <;> omega

/-! ## Whole numbers -/

/-- The least whole number past those that round to finite values: half a spacing below the power of
two that is out of range. -/
def wholeLimit : Nat := twoTo 1024 - twoTo 970

/-- Whole numbers are scaled before they are rounded. -/
theorem rounded_scaled_lt_iff (m a b : Nat) :
    rounded (m * twoTo a) < twoTo (54 + (a + b)) ↔ m < twoTo (54 + b) - twoTo b := by
  have hb : twoTo (a + b) = twoTo b * twoTo a := by rw [Nat.add_comm, twoTo_add]
  have h54 : twoTo (54 + (a + b)) = twoTo (54 + b) * twoTo a := by
    rw [twoTo_add, hb, twoTo_add, Nat.mul_assoc]
  rw [rounded_lt_iff, h54, hb, ← Nat.add_mul, Nat.mul_lt_mul_right (twoTo_pos a)]
  omega

/-- The number of units that a whole number is rounded to. -/
def wholeUnits (m : Nat) : Nat := rounded (m * unitsPerOne)

theorem wholeUnits_lt_iff (m : Nat) : wholeUnits m < unitsLimit ↔ m < wholeLimit := by
  have h := rounded_scaled_lt_iff m 1074 970
  simp only [Nat.reduceAdd] at h
  exact h

theorem wholeUnits_pos {m : Nat} (hm : m ≠ 0) : 0 < wholeUnits m :=
  rounded_pos (Nat.mul_ne_zero hm (twoTo_pos _).ne')

theorem ofRatio_one (negative : Bool) (m : Nat) :
    ofRatio negative m 1 =
      if wholeUnits m < unitsLimit then finite negative (wholeUnits m)
      else infinite negative := by
  unfold ofRatio
  rw [Nat.div_one]
  simp only [Nat.one_mul]
  rfl

/-- A value that is not infinite. -/
def bounded? : Binary64 → Option Binary64
  | infinite _ => none
  | x => some x

theorem ofInt?_of_ratio {n : Int} {x : Binary64} (h : ofRatio (n < 0) n.natAbs 1 = x) :
    ofInt? n = bounded? x := by
  -- the definition is opened as a function, since applied it would be run on its powers of two
  have opened : ∀ f, f = ofInt? → f n = bounded? x := by
    delta ofInt?
    rintro _ rfl
    beta_reduce
    rw [h]
    cases x <;> rfl
  exact opened ofInt? rfl

theorem ofInt?_of_lt {n : Int} (h : n.natAbs < wholeLimit) :
    ofInt? n = some (finite (n < 0) (wholeUnits n.natAbs)) := by
  refine ofInt?_of_ratio (x := finite (n < 0) (wholeUnits n.natAbs)) ?_
  rw [ofRatio_one, if_pos ((wholeUnits_lt_iff _).mpr h)]

theorem ofInt?_of_le {n : Int} (h : wholeLimit ≤ n.natAbs) : ofInt? n = none := by
  refine ofInt?_of_ratio (x := infinite (n < 0)) ?_
  rw [ofRatio_one, if_neg fun hlt => absurd ((wholeUnits_lt_iff _).mp hlt) (Nat.not_lt.mpr h)]

/-- Rounding keeps the sign. -/
theorem lt_zero_of_ofInt? {n : Int} {x : Binary64} (h : ofInt? n = some x) :
    x.lt zero = decide (n < 0) := by
  have hn : n.natAbs < wholeLimit := by
    by_contra hn
    rw [ofInt?_of_le (Nat.le_of_not_lt hn)] at h
    cases h
  rw [ofInt?_of_lt hn] at h
  obtain rfl := Option.some.inj h
  by_cases hneg : n < 0
  · have hpos : 0 < wholeUnits n.natAbs := wholeUnits_pos (by omega)
    simp only [lt, zero, signed, hneg, decide_true, ↓reduceIte]
    exact decide_eq_true (by omega)
  · simp only [lt, zero, signed, hneg, decide_false]
    exact decide_eq_false (Int.not_lt.mpr (Int.natCast_nonneg _))

end Binary64

end PeerCheck.Number
