import GlobeUtil.Data.Str

/-!
# Hexadecimal strings

`CheckHex` accepts a string of hexadecimal digits after an optional `0x` or `0X`, which it
skips only when something follows it. It recognises exactly the language `H+ | 0[xX]H+`,
`H` the class `[0-9a-fA-F]` (`checkHex_iff`).

## Main definitions

* `findFirstNotOf`: `std::string::find_first_not_of`
* `checkHex`: `CheckHex`
* `HexString`: the language `H+ | 0[xX]H+`

## Main results

* `checkHex_iff`: `CheckHex` decides `HexString`
-/

namespace GlobeUtil

/-- The characters `CheckHex` accepts after the prefix. -/
def hexChars : Str := "0123456789abcdefABCDEF"

/-- `std::string::find_first_not_of(chars, pos)`: the first index from `pos` on whose
character is not among `chars`, `none` for `npos`. -/
def findFirstNotOf (chars : Str) (pos : Nat) (str : Str) : Option Nat :=
  ((str.drop pos).findIdx? fun c => !decide (c ∈ chars)).map (pos + ·)

/-- `CheckHex`. -/
def checkHex (str : Str) : Bool :=
  let data := if str.length > 2 && (str.take 2 == "0x" || str.take 2 == "0X") then 2 else 0
  decide (str.length > data) && findFirstNotOf hexChars data str == none

theorem findFirstNotOf_eq_none {chars : Str} {pos : Nat} {str : Str} :
    findFirstNotOf chars pos str = none ↔ ∀ c ∈ str.drop pos, c ∈ chars := by
  simp [findFirstNotOf, List.findIdx?_eq_none_iff]

/-! ## The language -/

/-- `[0-9a-fA-F]`, by code point. -/
def IsHexDigit (c : Char) : Prop :=
  ('0'.toNat ≤ c.toNat ∧ c.toNat ≤ '9'.toNat) ∨ ('a'.toNat ≤ c.toNat ∧ c.toNat ≤ 'f'.toNat) ∨
    ('A'.toNat ≤ c.toNat ∧ c.toNat ≤ 'F'.toNat)

instance (c : Char) : Decidable (IsHexDigit c) := by unfold IsHexDigit; infer_instance

/-- The language `H+ | 0[xX]H+`. -/
def HexString (s : Str) : Prop :=
  (s ≠ [] ∧ ∀ c ∈ s, IsHexDigit c) ∨
    ∃ x t, (x = 'x' ∨ x = 'X') ∧ s = '0' :: x :: t ∧ t ≠ [] ∧ ∀ c ∈ t, IsHexDigit c

theorem mem_hexChars {c : Char} : c ∈ hexChars ↔ IsHexDigit c := by
  have hinj : Function.Injective Char.toNat := fun a b h => by
    rw [← Char.ofNat_toNat a, h, Char.ofNat_toNat]
  have hmap : hexChars.map Char.toNat =
      List.range' 48 10 ++ List.range' 97 6 ++ List.range' 65 6 := by decide
  change _ ↔ (48 ≤ c.toNat ∧ c.toNat ≤ 57) ∨ (97 ≤ c.toNat ∧ c.toNat ≤ 102) ∨
    (65 ≤ c.toNat ∧ c.toNat ≤ 70)
  rw [← List.mem_map_of_injective hinj, hmap]
  simp only [List.mem_append, List.mem_range'_1]
  omega

/-- **`CheckHex` recognises exactly `H+ | 0[xX]H+`.** -/
theorem checkHex_iff (s : Str) : checkHex s = true ↔ HexString s := by
  rcases s with _ | ⟨a, _ | ⟨b, _ | ⟨c, t⟩⟩⟩
  · simp [checkHex, HexString]
  · simp [checkHex, HexString, findFirstNotOf_eq_none, mem_hexChars, and_assoc]
  · simp [checkHex, HexString, findFirstNotOf_eq_none, mem_hexChars, and_assoc]
  · by_cases hp : a = '0' ∧ (b = 'x' ∨ b = 'X')
    · have hx : ¬ IsHexDigit 'x' ∧ ¬ IsHexDigit 'X' := by decide
      obtain ⟨rfl, rfl | rfl⟩ := hp <;>
        simp [checkHex, HexString, findFirstNotOf_eq_none, mem_hexChars, and_assoc, hx]
    · have hp' : ¬(a = '0' ∧ b = 'x' ∨ a = '0' ∧ b = 'X') := by rwa [← and_or_left]
      simp [checkHex, HexString, findFirstNotOf_eq_none, mem_hexChars, hp']
      tauto

end GlobeUtil
