import Mathlib.Tactic.Ring
import SourceOutline.Decimal.Shortest

/-!
# Decimals that read back

The decimal that a positive finite floating-point number is shown as lies in the interval of the reals
that round to the number, so it reads back as that number; and no decimal in the interval ends at a
greater power of ten, up to the power of the number's first digit (`ofBits_shortest`). Seventeen digits
are enough, since a grid of so many is finer than the interval is wide (`Proper.exists_has`).
-/

namespace SourceOutline

namespace Decimal

namespace Interval

/-- Whether a decimal lies in an interval. -/
def Has (i : Interval) (d : Decimal) : Prop := (i.scale d.exponent).holds d.digits = true

/-- Whether an interval reaches below its middle and above. -/
structure Proper (i : Interval) : Prop where
  low_lt : i.low < i.mid
  lt_high : i.mid < i.high
  den_pos : 0 < i.den

variable {i : Interval} {d : Decimal} {n : Nat} {e : Int}

/-! ## Grids -/

theorem pow_ten_pos (n : Nat) : 0 < Nat.pow 10 n := Nat.pow_pos (by decide)

theorem Proper.scale (h : i.Proper) (e : Int) : (i.scale e).Proper where
  low_lt := Nat.mul_lt_mul_of_pos_right h.low_lt (pow_ten_pos _)
  lt_high := Nat.mul_lt_mul_of_pos_right h.lt_high (pow_ten_pos _)
  den_pos := Nat.mul_pos h.den_pos (pow_ten_pos _)

theorem holds_iff : i.holds n = true ↔
    i.low ≤ n * i.den ∧ n * i.den ≤ i.high ∧
      (i.closed = false → i.low < n * i.den ∧ n * i.den < i.high) := by
  unfold holds
  cases i.closed with
  | true => simp
  | false =>
      simp only [Bool.false_eq_true, if_false, Bool.and_eq_true, decide_eq_true_eq, forall_const]
      omega

theorem Proper.holds_between (h : i.Proper) {a : Nat} (hn : i.holds n = true)
    (ha : n * i.den ≤ a * i.den ∧ a * i.den ≤ i.mid ∨ i.mid ≤ a * i.den ∧ a * i.den ≤ n * i.den) :
    i.holds a = true := by
  obtain ⟨hlow, hhigh, hopen⟩ := holds_iff.mp hn
  have hlt := h.low_lt
  have hgt := h.lt_high
  refine holds_iff.mpr ⟨by omega, by omega, fun hclosed => ?_⟩
  have hstrict := hopen hclosed
  omega

theorem holds_of_nearest? (h : i.nearest? = some n) : i.holds n = true := by
  unfold nearest? at h
  dsimp only at h
  split at h
  · cases h
  · cases h
    assumption
  · cases h
    assumption
  · split at h
    · cases h
      assumption
    · split at h
      · cases h
        assumption
      · split at h <;> cases h <;> assumption

/-- A grid that has a point in the interval has one there next to the middle. -/
theorem Proper.holds_eq_false (h : i.Proper) (hnone : i.nearest? = none) (n : Nat) :
    i.holds n = false := by
  obtain ⟨hbelow, habove⟩ : i.holds (i.mid / i.den) = false ∧ i.holds (i.mid / i.den + 1) = false := by
    unfold nearest? at hnone
    dsimp only at hnone
    split at hnone
    · exact ⟨by assumption, by assumption⟩
    · cases hnone
    · cases hnone
    · split at hnone
      · cases hnone
      · split at hnone
        · cases hnone
        · split at hnone <;> cases hnone
  have hfloor := Nat.div_mul_le_self i.mid i.den
  have hnext := Nat.lt_mul_div_succ i.mid h.den_pos
  rw [Nat.mul_comm] at hnext
  refine Bool.eq_false_iff.mpr fun hn => ?_
  rcases Nat.lt_or_ge (i.mid / i.den) n with hlt | hle
  · have hmul := Nat.mul_le_mul_right i.den hlt
    exact Bool.eq_false_iff.mp habove (h.holds_between hn (Or.inr ⟨hnext.le, hmul⟩))
  · have hmul := Nat.mul_le_mul_right i.den hle
    exact Bool.eq_false_iff.mp hbelow (h.holds_between hn (Or.inl ⟨hmul, hfloor⟩))

/-- The two factors of a scale, `k` powers of ten apart. -/
theorem scale_factors (e : Int) (k : Nat) :
    Nat.pow 10 (-(e - k)).toNat * Nat.pow 10 e.toNat =
      Nat.pow 10 (-e).toNat * Nat.pow 10 (e - k).toNat * Nat.pow 10 k := by
  have hexponents : (-(e - k)).toNat + e.toNat = (-e).toNat + (e - k).toNat + k := by omega
  change 10 ^ _ * 10 ^ _ = 10 ^ _ * 10 ^ _ * 10 ^ _
  rw [← Nat.pow_add, ← Nat.pow_add, ← Nat.pow_add, hexponents]

section Finer

variable {up down up' down' ten a b : Nat} (hfactors : up' * down = up * down' * ten)
  (hdown : 0 < down) (hfiner : 0 < down' * ten)
include hfactors hdown hfiner

theorem le_finer_iff : a * up' ≤ b * ten * down' ↔ a * up ≤ b * down := by
  have hleft : a * up' * down = a * up * (down' * ten) := by
    rw [Nat.mul_assoc, hfactors]
    ring
  have hright : b * ten * down' * down = b * down * (down' * ten) := by ring
  rw [← Nat.mul_le_mul_right_iff hdown, hleft, hright, Nat.mul_le_mul_right_iff hfiner]

theorem finer_le_iff : b * ten * down' ≤ a * up' ↔ b * down ≤ a * up := by
  have hleft : a * up' * down = a * up * (down' * ten) := by
    rw [Nat.mul_assoc, hfactors]
    ring
  have hright : b * ten * down' * down = b * down * (down' * ten) := by ring
  rw [← Nat.mul_le_mul_right_iff hdown, hleft, hright, Nat.mul_le_mul_right_iff hfiner]

end Finer

/-- A grid that is `k` powers of ten finer has the points of a grid, too. -/
theorem has_finer (k : Nat) : i.Has { digits := n * Nat.pow 10 k, exponent := e - k } ↔
    i.Has { digits := n, exponent := e } := by
  have hdown := pow_ten_pos e.toNat
  have hfiner := Nat.mul_pos (pow_ten_pos (e - k).toNat) (pow_ten_pos k)
  have hfine : n * Nat.pow 10 k * (i.den * Nat.pow 10 (e - k).toNat) =
      n * i.den * Nat.pow 10 k * Nat.pow 10 (e - k).toNat := by ring
  have hcoarse : n * (i.den * Nat.pow 10 e.toNat) = n * i.den * Nat.pow 10 e.toNat := by ring
  have hle : ∀ end_, end_ * Nat.pow 10 (-(e - k)).toNat ≤
      n * Nat.pow 10 k * (i.den * Nat.pow 10 (e - k).toNat) ↔
      end_ * Nat.pow 10 (-e).toNat ≤ n * (i.den * Nat.pow 10 e.toNat) := by
    intro end_
    rw [hfine, hcoarse]
    exact le_finer_iff (scale_factors e k) hdown hfiner
  have hge : ∀ end_, n * Nat.pow 10 k * (i.den * Nat.pow 10 (e - k).toNat) ≤
      end_ * Nat.pow 10 (-(e - k)).toNat ↔
      n * (i.den * Nat.pow 10 e.toNat) ≤ end_ * Nat.pow 10 (-e).toNat := by
    intro end_
    rw [hfine, hcoarse]
    exact finer_le_iff (scale_factors e k) hdown hfiner
  unfold Has
  rw [holds_iff, holds_iff]
  refine and_congr (hle i.low) (and_congr (hge i.high) (forall_congr' fun _ => and_congr ?_ ?_))
  · exact lt_iff_lt_of_le_iff_le (hge i.low)
  · exact lt_iff_lt_of_le_iff_le (hle i.high)

/-! ## The search -/

theorem has_trimZeros (fuel : Nat) (d : Decimal) : i.Has (trimZeros fuel d) ↔ i.Has d := by
  induction fuel generalizing d with
  | zero => rfl
  | succ fuel ih =>
      unfold trimZeros
      split
      · rename_i hzero
        have hfiner := @has_finer i (d.digits / 10) (d.exponent + 1) 1
        have hdigits : d.digits / 10 * Nat.pow 10 1 = d.digits := by
          change d.digits / 10 * 10 = d.digits
          omega
        have hexponent : d.exponent + 1 - (1 : Nat) = d.exponent := by omega
        rw [hdigits, hexponent] at hfiner
        exact (ih _).trans hfiner.symm
      · rfl

theorem le_exponent_trimZeros (fuel : Nat) (d : Decimal) :
    d.exponent ≤ (trimZeros fuel d).exponent := by
  induction fuel generalizing d with
  | zero => exact le_rfl
  | succ fuel ih =>
      unfold trimZeros
      split
      · exact (by omega : d.exponent ≤ d.exponent + 1).trans (ih _)
      · exact le_rfl

/-- What a search finds that tries grids from `count` digits on, if one of them has a point in the
interval. -/
theorem Proper.shortest_spec (h : i.Proper) (magnitude : Int) {fuel count k n : Nat} (hk : k < fuel)
    (hn : i.Has { digits := n, exponent := magnitude - (count + k : Nat) + 1 }) :
    i.Has (i.shortest magnitude fuel count) ∧
      ∀ d, i.Has d → d.exponent ≤ magnitude - count + 1 →
        d.exponent ≤ (i.shortest magnitude fuel count).exponent := by
  induction fuel generalizing count k with
  | zero => exact absurd hk (Nat.not_lt_zero k)
  | succ fuel ih =>
      unfold shortest
      dsimp only
      cases hnearest : (i.scale (magnitude - count + 1)).nearest? with
      | some digits =>
          have hhas : i.Has { digits, exponent := magnitude - count + 1 } :=
            holds_of_nearest? hnearest
          exact ⟨(has_trimZeros 20 _).mpr hhas, fun d _ hd => hd.trans (le_exponent_trimZeros 20 _)⟩
      | none =>
          have hmissed := (h.scale (magnitude - count + 1)).holds_eq_false hnearest
          obtain ⟨k, rfl⟩ : ∃ before, k = before + 1 := by
            refine Nat.exists_eq_succ_of_ne_zero fun hzero => ?_
            subst hzero
            exact Bool.eq_false_iff.mp (hmissed n) hn
          rw [show count + (k + 1) = count + 1 + k by omega] at hn
          obtain ⟨hhas, hcoarsest⟩ := ih (Nat.lt_of_succ_lt_succ hk) hn
          refine ⟨hhas, fun d hd hexponent => hcoarsest d hd ?_⟩
          -- on the grid that has been tried there is no such decimal
          have hne : d.exponent ≠ magnitude - count + 1 := by
            intro heq
            unfold Has at hd
            rw [heq] at hd
            exact Bool.eq_false_iff.mp (hmissed d.digits) hd
          omega

/-! ## Grids that are fine enough -/

theorem Proper.exists_holds (h : i.Proper) (hwide : i.den < i.high - i.low) :
    ∃ n, i.holds n = true := by
  have hnext := Nat.lt_mul_div_succ i.low h.den_pos
  have hfloor := Nat.div_mul_le_self i.low i.den
  have hmul : (i.low / i.den + 1) * i.den = i.low / i.den * i.den + i.den := Nat.succ_mul _ _
  rw [Nat.mul_comm, hmul] at hnext
  refine ⟨i.low / i.den + 1, holds_iff.mpr ?_⟩
  rw [hmul]
  exact ⟨by omega, by omega, fun _ => by omega⟩

/-- A grid is fine enough when it starts `k` powers of ten below the number and the interval is wider
than that part of the number. -/
theorem Proper.exists_has (h : i.Proper) (k : Nat) (hbelow : (i.scale e).den ≤ (i.scale e).mid)
    (hwide : i.mid < (i.high - i.low) * Nat.pow 10 k) :
    ∃ n, i.Has { digits := n, exponent := e - k } := by
  have hdown := pow_ten_pos e.toNat
  have hup := pow_ten_pos (-e).toNat
  have hfiner := Nat.mul_pos (pow_ten_pos (e - k).toNat) (pow_ten_pos k)
  have hcoarse : i.den * Nat.pow 10 e.toNat <
      (i.high - i.low) * Nat.pow 10 k * Nat.pow 10 (-e).toNat :=
    Nat.lt_of_le_of_lt hbelow (Nat.mul_lt_mul_of_pos_right hwide hup)
  have hfine := (lt_iff_lt_of_le_iff_le
    (le_finer_iff (scale_factors e k) hdown hfiner)).mpr hcoarse
  have hcancelled : i.den * Nat.pow 10 (e - k).toNat <
      (i.high - i.low) * Nat.pow 10 (-(e - k)).toNat := by
    refine Nat.lt_of_mul_lt_mul_right (a := Nat.pow 10 k) ?_
    calc i.den * Nat.pow 10 (e - k).toNat * Nat.pow 10 k
        = i.den * Nat.pow 10 k * Nat.pow 10 (e - k).toNat := by ring
      _ < (i.high - i.low) * Nat.pow 10 k * Nat.pow 10 (-(e - k)).toNat := hfine
      _ = (i.high - i.low) * Nat.pow 10 (-(e - k)).toNat * Nat.pow 10 k := by ring
  refine (h.scale (e - k)).exists_holds ?_
  rw [Nat.sub_mul] at hcancelled
  exact hcancelled

/-! ## The power of the first digit -/

theorem digitCount_zero (fuel : Nat) : digitCount fuel 0 = 0 := by
  cases fuel <;> rfl

theorem pow_digitCount_le (fuel : Nat) (hn : n ≠ 0) : Nat.pow 10 (digitCount fuel n - 1) ≤ n := by
  induction fuel generalizing n with
  | zero => exact Nat.pos_of_ne_zero hn
  | succ fuel ih =>
      rw [digitCount, if_neg hn, Nat.add_sub_cancel]
      by_cases htens : n / 10 = 0
      · rw [htens, digitCount_zero]
        exact Nat.pos_of_ne_zero hn
      · have hpow := ih htens
        cases hcount : digitCount fuel (n / 10) with
        | zero => exact Nat.pos_of_ne_zero hn
        | succ count =>
            rw [hcount, Nat.add_sub_cancel] at hpow
            have hmul : Nat.pow 10 (count + 1) = Nat.pow 10 count * 10 := Nat.pow_succ 10 count
            omega

theorem search_eq (hlarge : ∀ {count}, 359 ≤ count → i.den ≤ i.mid * Nat.pow 10 count)
    (fuel tried : Nat) (hfuel : 359 ≤ tried + fuel) :
    ∃ k : Nat, magnitude.search i fuel tried = -(k : Int) ∧ i.den ≤ i.mid * Nat.pow 10 k := by
  induction fuel generalizing tried with
  | zero => exact ⟨tried, rfl, hlarge hfuel⟩
  | succ fuel ih =>
      unfold magnitude.search
      split
      · rename_i hfound
        exact ⟨tried + 1, by omega, hfound⟩
      · exact ih (tried + 1) (by omega)

theorem Proper.magnitude_below (h : i.Proper)
    (hlarge : ∀ {count}, 359 ≤ count → i.den ≤ i.mid * Nat.pow 10 count) :
    (i.scale i.magnitude).den ≤ (i.scale i.magnitude).mid := by
  unfold magnitude
  by_cases hone : i.den ≤ i.mid
  · rw [if_pos hone]
    have hdiv : i.mid / i.den ≠ 0 := Nat.ne_of_gt (Nat.div_pos hone h.den_pos)
    have hpow := pow_digitCount_le 400 hdiv
    have hpos : 1 ≤ digitCount 400 (i.mid / i.den) := by
      rw [digitCount, if_neg hdiv]
      exact Nat.succ_pos _
    generalize digitCount 400 (i.mid / i.den) = count at hpow hpos
    have hexponent : (count : Int) - 1 = (count - 1 : Nat) := by omega
    rw [hexponent]
    change i.den * Nat.pow 10 (count - 1) ≤ i.mid * Nat.pow 10 (-((count - 1 : Nat) : Int)).toNat
    rw [show (-((count - 1 : Nat) : Int)).toNat = 0 by omega]
    calc i.den * Nat.pow 10 (count - 1) ≤ i.den * (i.mid / i.den) := Nat.mul_le_mul_left _ hpow
      _ ≤ i.mid := Nat.mul_div_le _ _
      _ = i.mid * Nat.pow 10 0 := (Nat.mul_one _).symm
  · rw [if_neg hone]
    obtain ⟨k, hk, hbelow⟩ := search_eq hlarge 400 0 (by decide)
    rw [hk]
    change i.den * Nat.pow 10 (-(k : Int)).toNat ≤ i.mid * Nat.pow 10 (-(-(k : Int))).toNat
    rw [show (-(k : Int)).toNat = 0 by omega, show (-(-(k : Int))).toNat = k by omega]
    calc i.den * Nat.pow 10 0 = i.den := Nat.mul_one _
      _ ≤ i.mid * Nat.pow 10 k := hbelow

/-! ## Floating-point numbers -/

section OfBinary

variable {m : Nat} {q : Int} {atPowerOfTwo : Bool}

theorem proper_ofBinary (hm : 0 < m) : (ofBinary m q atPowerOfTwo).Proper where
  low_lt := by
    refine Nat.mul_lt_mul_of_pos_right ?_ (Nat.pow_pos (by decide))
    split <;> omega
  lt_high := Nat.mul_lt_mul_of_pos_right (by omega) (Nat.pow_pos (by decide))
  den_pos := Nat.pow_pos (by decide)

theorem wide_ofBinary (hm : m < 2 * hiddenBit) (hpower : atPowerOfTwo = true → m = hiddenBit) :
    (ofBinary m q atPowerOfTwo).mid <
      ((ofBinary m q atPowerOfTwo).high - (ofBinary m q atPowerOfTwo).low) * Nat.pow 10 16 := by
  have hup : 0 < Nat.pow 2 (q - 2).toNat := Nat.pow_pos (by decide)
  have hten : Nat.pow 10 16 = 0x2386f26fc10000 := rfl
  have hwidth : 4 * m < (4 * m + 2 - (4 * m - if atPowerOfTwo then 1 else 2)) * Nat.pow 10 16 := by
    unfold hiddenBit at hm hpower
    rw [hten]
    cases atPowerOfTwo with
    | true =>
        have hexact := hpower rfl
        simp only [if_true]
        omega
    | false =>
        simp only [Bool.false_eq_true, if_false]
        omega
  unfold ofBinary
  dsimp only
  rw [← Nat.sub_mul, Nat.mul_right_comm (_ - _)]
  exact Nat.mul_lt_mul_of_pos_right hwidth hup

theorem large_ofBinary (hm : 0 < m) (hq : -1074 ≤ q) {count : Nat} (hcount : 359 ≤ count) :
    (ofBinary m q atPowerOfTwo).den ≤ (ofBinary m q atPowerOfTwo).mid * Nat.pow 10 count := by
  have hmid : 1 ≤ (ofBinary m q atPowerOfTwo).mid :=
    Nat.mul_pos (by omega) (Nat.pow_pos (by decide))
  calc (ofBinary m q atPowerOfTwo).den ≤ 2 ^ (3 * count) :=
        Nat.pow_le_pow_right (by decide) (by omega)
    _ = (2 ^ 3) ^ count := Nat.pow_mul 2 3 count
    _ ≤ Nat.pow 10 count := Nat.pow_le_pow_left (by decide) count
    _ ≤ (ofBinary m q atPowerOfTwo).mid * Nat.pow 10 count := Nat.le_mul_of_pos_left _ hmid

end OfBinary

/-- What is known of the interval of a positive number. -/
theorem ofBits_eq {bits : Nat} (hpos : 0 < bits) (hsign : bits < signBit) :
    ∃ m q atPowerOfTwo, ofBits bits = ofBinary m q atPowerOfTwo ∧ 0 < m ∧ m < 2 * hiddenBit ∧
      -1074 ≤ q ∧ (atPowerOfTwo = true → m = hiddenBit) := by
  have hfraction : bits % hiddenBit < hiddenBit := Nat.mod_lt _ (by decide)
  unfold ofBits
  dsimp only
  split
  · rename_i hzero
    refine ⟨_, _, _, rfl, ?_, by omega, le_rfl, nofun⟩
    unfold hiddenBit signBit at *
    omega
  · rename_i hbiased
    refine ⟨_, _, _, rfl, by unfold hiddenBit; omega, by omega, by omega, fun hpower => ?_⟩
    simp only [Bool.and_eq_true, beq_iff_eq] at hpower
    rw [hpower.1, Nat.add_zero]

end Interval

/-- **A positive floating-point number is shown as a decimal that rounds to it**, and up to the power
of its first digit no decimal that does ends further to the left. -/
theorem ofBits_shortest {bits : Nat} (hpos : 0 < bits) (hsign : bits < signBit) :
    (Interval.ofBits bits).Has (ofBits bits) ∧
      ∀ d, (Interval.ofBits bits).Has d →
        min d.exponent (Interval.ofBits bits).magnitude ≤ (ofBits bits).exponent := by
  obtain ⟨m, q, atPowerOfTwo, hbinary, hm, hbound, hq, hpower⟩ := Interval.ofBits_eq hpos hsign
  unfold ofBits
  dsimp only
  rw [hbinary]
  have hproper := @Interval.proper_ofBinary m q atPowerOfTwo hm
  have hlarge := @Interval.large_ofBinary m q atPowerOfTwo hm hq
  have hwide := @Interval.wide_ofBinary m q atPowerOfTwo hbound hpower
  generalize Interval.ofBinary m q atPowerOfTwo = i at hproper hlarge hwide ⊢
  obtain ⟨n, hn⟩ := hproper.exists_has 16 (hproper.magnitude_below hlarge) hwide
  have hexponent : i.magnitude - (16 : Nat) = i.magnitude - (1 + 16 : Nat) + 1 := by omega
  rw [hexponent] at hn
  obtain ⟨hhas, hcoarsest⟩ := hproper.shortest_spec i.magnitude (by decide : 16 < 17) hn
  refine ⟨hhas, fun d hd => ?_⟩
  rcases Int.le_total d.exponent i.magnitude with hle | hge
  · have hfound := hcoarsest d hd (by omega)
    omega
  · -- a decimal that ends further to the left is one on the grid of the first digit, too
    have hfiner := (@Interval.has_finer i d.digits d.exponent (d.exponent - i.magnitude).toNat).mpr hd
    have hfound := hcoarsest _ hfiner (by dsimp only; omega)
    dsimp only at hfound
    omega

end Decimal

end SourceOutline
