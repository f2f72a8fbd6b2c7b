import Mathlib.Tactic.IntervalCases
import Mathlib.Tactic.NormNum
import Mathlib.Tactic.Ring
import GlobeUtil.Data.Str

/-!
# Byte counts for people

`part::BytesReadable` writes a byte count in B, or in the largest of KB, MB, GB and TB (powers
of 1024) that is not above it, with two decimals: `strprintf("%.2f", v)` of
`v = nBytes / 1024.0 / …`. Three roundings make the text. The count is converted to `double`,
which is exact below 2^53 bytes (8 PiB) and rounds to 53 significant bits, ties to even, above.
The divisions by `1024.0` are exact, being by powers of two. `%.2f` rounds the exact value to
hundredths, ties to even.

So the number written is the count in its unit rounded to the nearest hundredth
(`bytesReadable_eq`). Rounding can carry a count up to `1024.00` of its unit instead
of `1.00` of the next: the counts from 1048571 to 1048575 bytes are written `1024.00 KB`, and
likewise for MB and GB (`bytesReadable_carry`).

## Main definitions

* `roundHalfEven`: round-to-nearest of a quotient, ties to even
* `toDouble`: `(double)n` for a 64-bit count
* `hundredthsText`, `fixed2`: `%.2f`
* `bytesReadable`: `part::BytesReadable`

## Main results

* `bytesReadable_eq`: the unit, and the number as `%.2f` of the converted count
* `bytesReadable_carry`: which counts are written as `1024.00` of a unit
-/

namespace GlobeUtil

/-! ## Rounding -/

/-- The nearest natural number to `a / b`, the even one at a tie. -/
def roundHalfEven (a b : Nat) : Nat :=
  if 2 * (a % b) < b then a / b
  else if b < 2 * (a % b) then a / b + 1
  else a / b + a / b % 2

/-- **Round to nearest**: `roundHalfEven a b` is within half of `a / b`. -/
theorem roundHalfEven_spec (a : Nat) {b : Nat} (hb : 0 < b) :
    2 * a ≤ (2 * roundHalfEven a b + 1) * b ∧ 2 * roundHalfEven a b * b ≤ 2 * a + b := by
  have hdiv := Nat.div_add_mod a b
  have hmod := Nat.mod_lt a hb
  unfold roundHalfEven
  generalize a / b = q at hdiv ⊢
  generalize a % b = r at hdiv hmod ⊢
  subst hdiv
  have hpar : b * (q % 2) ≤ b := by
    simpa using Nat.mul_le_mul_left b (Nat.le_of_lt_succ (Nat.mod_lt q (by decide : 2 > 0)))
  -- `omega` takes `b * q` and `b * (q % 2)` as atoms: write every product through them
  have e₁ : (2 * q + 1) * b = 2 * (b * q) + b := by ring
  have e₂ : (2 * (q + 1) + 1) * b = 2 * (b * q) + 3 * b := by ring
  have e₃ : (2 * (q + q % 2) + 1) * b = 2 * (b * q) + 2 * (b * (q % 2)) + b := by ring
  have e₄ : 2 * q * b = 2 * (b * q) := by ring
  have e₅ : 2 * (q + 1) * b = 2 * (b * q) + 2 * b := by ring
  have e₆ : 2 * (q + q % 2) * b = 2 * (b * q) + 2 * (b * (q % 2)) := by ring
  split_ifs <;> constructor <;> omega

/-- Where `a / b` is closer to `r` than half, it rounds to `r`. -/
theorem roundHalfEven_eq {a b r : Nat} (hb : 0 < b) (h₁ : 2 * a < (2 * r + 1) * b)
    (h₂ : 2 * r * b < 2 * a + b) : roundHalfEven a b = r := by
  obtain ⟨hlo, hhi⟩ := roundHalfEven_spec a hb
  generalize roundHalfEven a b = R at hlo hhi ⊢
  have e₁ : (2 * R + 1) * b = 2 * (R * b) + b := by ring
  have e₂ : (2 * r + 1) * b = 2 * (r * b) + b := by ring
  have e₃ : 2 * R * b = 2 * (R * b) := by ring
  have e₄ : 2 * r * b = 2 * (r * b) := by ring
  rcases lt_trichotomy R r with h | h | h
  · have : (R + 1) * b ≤ r * b := Nat.mul_le_mul_right b h
    rw [Nat.add_one_mul] at this
    omega
  · exact h
  · have : (r + 1) * b ≤ R * b := Nat.mul_le_mul_right b h
    rw [Nat.add_one_mul] at this
    omega

/-- `(double)n`: the nearest double to `n`, that is `n` rounded to 53 significant bits, ties
to even. -/
def toDouble (n : Nat) : Nat :=
  roundHalfEven n (2 ^ (Nat.log2 n + 1 - 53)) * 2 ^ (Nat.log2 n + 1 - 53)

/-- Below 2^53 the conversion to `double` is exact. -/
theorem toDouble_of_lt {n : Nat} (h : n < 2 ^ 53) : toDouble n = n := by
  have hlog : Nat.log2 n + 1 - 53 = 0 := by
    rcases Nat.eq_zero_or_pos n with rfl | hn
    · simp [Nat.log2_zero]
    · have := (Nat.log2_lt hn.ne').2 h; omega
  simp [toDouble, hlog, roundHalfEven, Nat.mod_one]

/-! ## The text -/

/-- The two decimals of a number of hundredths below 100. -/
def twoDigits (d : Nat) : Str :=
  [Char.ofNat ('0'.toNat + d / 10), Char.ofNat ('0'.toNat + d % 10)]

/-- A number of hundredths, written with two decimals. -/
def hundredthsText (h : Nat) : Str :=
  (Nat.repr (h / 100)).toList ++ '.' :: twoDigits (h % 100)

/-- `strprintf("%.2f", v)` of tinyformat.h, which is not among the sources: the exact value
`v = num / den` rounded to hundredths, ties to even, as the C library's `printf` rounds. -/
def fixed2 (num den : Nat) : Str :=
  hundredthsText (roundHalfEven (100 * num) den)

/-- `part::BytesReadable`: `nBytes/1024.0/…` is `(double)nBytes` over a power of 1024, the
divisions being exact; tinyformat writes the `uint64_t` of `%d` in decimal. -/
def bytesReadable (nBytes : UInt64) : Str :=
  let n := nBytes.toNat
  if n ≥ 1024 * 1024 * 1024 * 1024 then
    fixed2 (toDouble n) (1024 * 1024 * 1024 * 1024) ++ " TB".toList
  else if n ≥ 1024 * 1024 * 1024 then fixed2 (toDouble n) (1024 * 1024 * 1024) ++ " GB".toList
  else if n ≥ 1024 * 1024 then fixed2 (toDouble n) (1024 * 1024) ++ " MB".toList
  else if n ≥ 1024 then fixed2 (toDouble n) 1024 ++ " KB".toList
  else (Nat.repr n).toList ++ " B".toList

/-- The name of the unit `1024 ^ k`. -/
def unitName : Nat → Str
  | 0 => "B"
  | 1 => "KB"
  | 2 => "MB"
  | 3 => "GB"
  | _ => "TB"

/-- A count from `1024 ^ k` up is written in the unit `1024 ^ k`, up to the next unit. -/
theorem bytesReadable_eq (nBytes : UInt64) {k : Nat} (hk : 1 ≤ k ∧ k ≤ 4)
    (hlo : 1024 ^ k ≤ nBytes.toNat) (hhi : k < 4 → nBytes.toNat < 1024 ^ (k + 1)) :
    bytesReadable nBytes = fixed2 (toDouble nBytes.toNat) (1024 ^ k) ++ ' ' :: unitName k := by
  obtain ⟨hk₁, hk₄⟩ := hk
  unfold bytesReadable
  dsimp only
  interval_cases k <;> norm_num at hlo hhi <;> split_ifs <;> first | omega | rfl

/-- **Rounding carries to `1024.00`**: in KB, MB and GB, a count whose hundredths round up to
102400 is written `1024.00` of its unit; every other count of the unit below `1024.00`. -/
theorem bytesReadable_carry (nBytes : UInt64) {k : Nat} (hk : 1 ≤ k ∧ k ≤ 3)
    (hlo : 1024 ^ k ≤ nBytes.toNat) (hhi : nBytes.toNat < 1024 ^ (k + 1)) :
    (204799 * 1024 ^ k < 200 * nBytes.toNat →
      bytesReadable nBytes = "1024.00".toList ++ ' ' :: unitName k) ∧
    (200 * nBytes.toNat ≤ 204799 * 1024 ^ k →
      ∃ h < 102400, bytesReadable nBytes = hundredthsText h ++ ' ' :: unitName k) := by
  have hn : nBytes.toNat < 2 ^ 53 := by
    have h₁ : 1024 ^ (k + 1) ≤ 1024 ^ 4 := Nat.pow_le_pow_right (by decide) (by omega)
    have h₂ : (1024 : Nat) ^ 4 < 2 ^ 53 := by norm_num
    omega
  have heq := bytesReadable_eq nBytes ⟨hk.1, by omega⟩ hlo fun _ => hhi
  rw [fixed2, toDouble_of_lt hn] at heq
  have hb : 0 < 1024 ^ k := Nat.pos_pow_of_pos k (by decide)
  refine ⟨fun hc => ?_, fun hc => ⟨_, ?_, heq⟩⟩
  · rw [heq, roundHalfEven_eq hb (r := 102400) (by omega) (by omega)]
    rfl
  · obtain ⟨-, hhi'⟩ := roundHalfEven_spec (100 * nBytes.toNat) hb
    rw [Nat.mul_assoc] at hhi'
    have hne : 200 * nBytes.toNat ≠ 204799 * 1024 ^ k := by
      obtain ⟨hk₁, hk₃⟩ := hk
      interval_cases k <;> omega
    by_contra hge
    have : 102400 * 1024 ^ k ≤ roundHalfEven (100 * nBytes.toNat) (1024 ^ k) * 1024 ^ k :=
      Nat.mul_le_mul_right _ (not_lt.1 hge)
    omega

/-- 1048575 bytes are written `1024.00 KB`. -/
theorem bytesReadable_carry_kb :
    (204799 * 1024 ^ 1 < 200 * (1048575 : UInt64).toNat →
      bytesReadable 1048575 = "1024.00".toList ++ ' ' :: unitName 1) ∧
    (200 * (1048575 : UInt64).toNat ≤ 204799 * 1024 ^ 1 →
      ∃ h < 102400, bytesReadable 1048575 = hundredthsText h ++ ' ' :: unitName 1) :=
  bytesReadable_carry 1048575 ⟨le_refl 1, by decide⟩ (by decide) (by decide)

end GlobeUtil
