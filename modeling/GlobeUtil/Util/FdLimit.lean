import Mathlib.Data.Int.Defs

/-!
# Raising the file descriptor limit

`RaiseFileDescriptorLimit(nMinFD)` reads the limits on open files (`getrlimit`), raises the soft
limit to `nMinFD` where it is below, never above the hard limit (`setrlimit`), reads the limits
again and returns the soft limit. Two conversions sit in it: `nMinFD` is an `int` compared with
and stored in an `rlim_t`, 64 bits, and the soft limit, an `rlim_t`, is returned as an `int`.

Where the kernel applies every soft limit up to the hard limit, the soft limit ends at
`max cur (min nMinFD max)` and that is what is returned (`raiseFileDescriptorLimit_spec`). The
returned `int` is the soft limit modulo 2^32 in two's complement, so a soft limit of
`RLIM_INFINITY` is returned as `-1`.

## Main definitions

* `Rlimit`, `RlimitEnv`: `struct rlimit`, and `getrlimit` and `setrlimit` over kernel states
* `rlimOfInt`, `intOfRlim`: the two conversions
* `raiseFileDescriptorLimit`: `RaiseFileDescriptorLimit`

## Main results

* `raiseFileDescriptorLimit_spec`: the soft limit it leaves and returns
-/

namespace GlobeUtil

/-- `struct rlimit` of `RLIMIT_NOFILE`: the soft and the hard limit; `rlim_t` is 64 bits. -/
structure Rlimit where
  cur : UInt64
  max : UInt64
  deriving DecidableEq, Repr

/-- What `RaiseFileDescriptorLimit` asks of the kernel, over kernel states `K`. -/
structure RlimitEnv (K : Type) where
  /-- `getrlimit(RLIMIT_NOFILE, &limitFD)`: the limits, or `none` where it returns `-1`. -/
  getrlimit : K → Option Rlimit
  /-- `setrlimit(RLIMIT_NOFILE, &limitFD)`: the kernel after it; the code does not read what
  it returns. -/
  setrlimit : K → Rlimit → K

/-- An `int` converted to `rlim_t`: modulo 2^64. -/
def rlimOfInt (n : Int) : UInt64 :=
  UInt64.ofNat (n % UInt64.size).toNat

/-- An `rlim_t` converted to `int`: modulo 2^32, read in two's complement. -/
def intOfRlim (x : UInt64) : Int :=
  Int.bmod x.toNat 4294967296

variable {K : Type}

/-- `RaiseFileDescriptorLimit`, as built for the platforms other than WIN32: the `int` it
returns and the kernel after it. The second `getrlimit` is not checked: where it fails,
`limitFD` keeps what was set. -/
def raiseFileDescriptorLimit (ke : RlimitEnv K) (nMinFD : Int) (k : K) : Int × K :=
  match ke.getrlimit k with
  | none => (nMinFD, k)
  | some limitFD =>
    if limitFD.cur < rlimOfInt nMinFD then
      let cur := if rlimOfInt nMinFD > limitFD.max then limitFD.max else rlimOfInt nMinFD
      let k := ke.setrlimit k ⟨cur, limitFD.max⟩
      (intOfRlim ((ke.getrlimit k).getD ⟨cur, limitFD.max⟩).cur, k)
    else (intOfRlim limitFD.cur, k)

/-- What POSIX promises where the kernel allows every soft limit up to the hard limit:
`setrlimit` applies such a soft limit with the hard limit kept, and `getrlimit` reads it
back. -/
def RlimitEnv.Applies (ke : RlimitEnv K) : Prop :=
  ∀ k l r, ke.getrlimit k = some l → r.cur ≤ r.max → r.max = l.max →
    ke.getrlimit (ke.setrlimit k r) = some r

/-- `rlim_t` comparisons as comparisons of the counts. -/
theorem rlim_lt_iff {a b : UInt64} : a < b ↔ a.toNat < b.toNat := UInt64.lt_def

theorem rlim_le_iff {a b : UInt64} : a ≤ b ↔ a.toNat ≤ b.toNat := UInt64.le_def

/-- An `int` from 0 up converts to the same `rlim_t`. -/
theorem toNat_rlimOfInt {n : Int} (h0 : 0 ≤ n) (h32 : n < 2147483648) :
    (rlimOfInt n).toNat = n.toNat := by
  have hsize : (UInt64.size : Int) = 18446744073709551616 := rfl
  rw [rlimOfInt, hsize, Int.emod_eq_of_lt h0 (by omega)]
  show (n.toNat) % 18446744073709551616 = n.toNat
  omega

/-- **The soft limit raised and returned**: where the kernel applies every soft limit up to
the hard limit, an `nMinFD` from 0 up leaves the soft limit at `max cur (min nMinFD max)`, the
hard limit as it was, and returns the soft limit, modulo 2^32. -/
theorem raiseFileDescriptorLimit_spec {ke : RlimitEnv K} (hke : ke.Applies) {k : K}
    {l : Rlimit} (hget : ke.getrlimit k = some l) (hl : l.cur ≤ l.max) {nMinFD : Int}
    (h0 : 0 ≤ nMinFD) (h32 : nMinFD < 2147483648) :
    ∃ cur : UInt64, ke.getrlimit (raiseFileDescriptorLimit ke nMinFD k).2 = some ⟨cur, l.max⟩ ∧
      cur.toNat = max l.cur.toNat (min nMinFD.toNat l.max.toNat) ∧
      (raiseFileDescriptorLimit ke nMinFD k).1 = intOfRlim cur := by
  have hn := toNat_rlimOfInt h0 h32
  rw [rlim_le_iff] at hl
  unfold raiseFileDescriptorLimit
  rw [hget]
  dsimp only
  split_ifs with hlt hmax
  · -- raised to the hard limit
    simp only [gt_iff_lt, rlim_lt_iff] at hlt hmax
    have hset := hke k l ⟨l.max, l.max⟩ hget (rlim_le_iff.2 (Nat.le_refl _)) rfl
    exact ⟨l.max, hset, by omega, by simp only [hset, Option.getD_some]⟩
  · -- raised to `nMinFD`
    simp only [gt_iff_lt, rlim_lt_iff] at hlt hmax
    have hset := hke k l ⟨rlimOfInt nMinFD, l.max⟩ hget (rlim_le_iff.2 (by dsimp only; omega)) rfl
    exact ⟨rlimOfInt nMinFD, hset, by omega, by simp only [hset, Option.getD_some]⟩
  · -- already at least `nMinFD`
    rw [rlim_lt_iff] at hlt
    exact ⟨l.cur, hget, by omega, by simp only⟩

/-- The kernel state as the limits themselves, with every soft limit up to the hard limit
applied. -/
def limitsKernel : RlimitEnv Rlimit where
  getrlimit := some
  setrlimit := fun k r => if r.cur ≤ r.max ∧ r.max = k.max then r else k

theorem limitsKernel_applies : limitsKernel.Applies := by
  intro k l r hget hr hmax
  cases hget
  show some (if r.cur ≤ r.max ∧ r.max = k.max then r else k) = some r
  rw [if_pos ⟨hr, hmax⟩]

/-- With the soft limit 256 and the hard limit 10240, asking for 1000 descriptors raises the
soft limit to 1000 and returns it. -/
theorem raiseFileDescriptorLimit_spec_raise :
    ∃ cur : UInt64,
      limitsKernel.getrlimit (raiseFileDescriptorLimit limitsKernel 1000 ⟨256, 10240⟩).2 =
        some ⟨cur, 10240⟩ ∧
      cur.toNat = max (256 : UInt64).toNat (min (1000 : Int).toNat (10240 : UInt64).toNat) ∧
      (raiseFileDescriptorLimit limitsKernel 1000 ⟨256, 10240⟩).1 = intOfRlim cur :=
  raiseFileDescriptorLimit_spec limitsKernel_applies rfl (by decide) (by decide) (by decide)

end GlobeUtil
