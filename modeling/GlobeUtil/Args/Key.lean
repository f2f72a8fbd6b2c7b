import GlobeUtil.Settings.Value

/-!
# Setting keys and their values

How util/system.cpp reads one `key=value` item, whether it comes from the command line or
from a configuration file: `InterpretKey` splits a section name off at the first `.` and a
negation off at a leading `no`, and `InterpretValue` turns the value into what is stored,
under the argument's registered flags.

The one fact about keys the rest of the development needs is `splitSection_split`: a key
with a section is that section, a `.`, and the rest of the key, with no `.` in the
section. What `InterpretValue` stores reads back, through `SettingToBool`, as the flag the
option means (`settingToBool_interpretValue`).

## Main definitions

* `Flags`: the `ArgsManager::Flags` bits
* `KeyInfo`, `interpretKey`: `InterpretKey`
* `interpretValue`: `InterpretValue`
* `settingName`: `SettingName`

## Main results

* `interpretValue_eq_ok`: a negation stores a boolean, anything else a string
* `settingToBool_interpretValue`: the boolean reading of a stored value
-/

namespace GlobeUtil

/-! The `ArgsManager::Flags` enumerators of util/system.h, which is not among the sources:
the bits the upstream header gives them. -/

namespace Flags

def allowAny : Nat := 0x01
def disallowNegation : Nat := 0x20
def disallowElision : Nat := 0x40
def debugOnly : Nat := 0x100
def networkOnly : Nat := 0x200
def sensitive : Nat := 0x400
def command : Nat := 0x800

end Flags

/-- `flags & bit`, read as a condition. -/
def hasFlag (flags bit : Nat) : Bool :=
  flags &&& bit != 0

/-- `KeyInfo`: a settings key split into section, name and negation. -/
structure KeyInfo where
  name : Str
  sectionName : Str
  negated : Bool
  deriving DecidableEq, Repr

/-- The first half of `InterpretKey`: the section before the first `.`, and the key after
it. -/
def splitSection (key : Str) : Str × Str :=
  match Str.find '.' key with
  | some i => (key.take i, key.drop (i + 1))
  | none => ([], key)

/-- `InterpretKey`: parse `name`, `section.name`, `noname` and `section.noname`. -/
def interpretKey (key : Str) : KeyInfo :=
  let p := splitSection key
  if p.2.take 2 = "no" then { name := p.2.drop 2, sectionName := p.1, negated := true }
  else { name := p.2, sectionName := p.1, negated := false }

/-- The key after its section, with its `no` put back. -/
def KeyInfo.rawName (k : KeyInfo) : Str :=
  if k.negated then "no".toList ++ k.name else k.name

theorem mem_rawName {k : KeyInfo} {c : Char} (hc : c ∉ "no".toList) :
    c ∈ k.rawName ↔ c ∈ k.name := by
  unfold KeyInfo.rawName
  split <;> simp_all

@[simp] theorem sectionName_interpretKey (key : Str) :
    (interpretKey key).sectionName = (splitSection key).1 := by
  simp only [interpretKey]; split <;> rfl

@[simp] theorem rawName_interpretKey (key : Str) :
    (interpretKey key).rawName = (splitSection key).2 := by
  by_cases h : (splitSection key).2.take 2 = "no".toList
  · simp only [interpretKey, KeyInfo.rawName, if_pos h]
    rw [if_pos trivial, ← h, List.take_append_drop]
  · simp only [interpretKey, KeyInfo.rawName, if_neg h]; rfl

/-- **A key with a section** is the section, a `.`, and the rest of the key; the section
holds no `.`. -/
theorem splitSection_split {key : Str} (h : (splitSection key).1 ≠ []) :
    key = (splitSection key).1 ++ '.' :: (splitSection key).2 ∧ '.' ∉ (splitSection key).1 := by
  unfold splitSection at *
  cases hf : Str.find '.' key with
  | none => simp [hf] at h
  | some i =>
    obtain ⟨a, b, rfl, ha, rfl⟩ := Str.find_eq_some_iff.1 hf
    simpa using ha

/-- `InterpretValue`: a negation is stored as `false` (as `true` for a double negative such
as `-nofoo=0`), anything else as its string; the two flag checks fail with their
messages. -/
def interpretValue (key : KeyInfo) (value : Option Str) (flags : Nat) :
    Except Str SettingsValue :=
  if key.negated then
    if hasFlag flags Flags.disallowNegation then
      .error ("Negating of -".toList ++ key.name ++ " is meaningless and therefore forbidden".toList)
    else
      match value with
      | some v => if !interpretBool v then .ok (.bool true) else .ok (.bool false)
      | none => .ok (.bool false)
  else if value.isNone && hasFlag flags Flags.disallowElision then
    .error ("Can not set -".toList ++ key.name ++ " with no value. Please specify value with -".toList ++
      key.name ++ "=value.".toList)
  else .ok (.str (value.getD []))

/-- What `InterpretValue` stores: for a negation the boolean `!InterpretBool(value)`, and
`false` without a value; for anything else the value's string, empty without a value. -/
theorem interpretValue_eq_ok {key : KeyInfo} {value : Option Str} {flags : Nat}
    {v : SettingsValue} (h : interpretValue key value flags = .ok v) :
    (key.negated = true ∧ v = .bool (!(value.map interpretBool).getD true)) ∨
      (key.negated = false ∧ v = .str (value.getD [])) := by
  unfold interpretValue at h
  split at h
  · next hn =>
    split at h
    · cases h
    · refine .inl ⟨hn, ?_⟩
      cases value with
      | none => cases h; rfl
      | some str => cases hb : interpretBool str <;> simp_all
  · next hn =>
    split at h
    · cases h
    · cases h; exact .inr ⟨by simpa using hn, rfl⟩

/-- **A stored value reads as the flag its option means**: `-foo` is `true`, `-foo=v` is
`InterpretBool(v)`, `-nofoo` is `false`, and the double negative `-nofoo=v` is the negation of
`InterpretBool(v)`. -/
theorem settingToBool_interpretValue {key : KeyInfo} {value : Option Str} {flags : Nat}
    {v : SettingsValue} (h : interpretValue key value flags = .ok v) :
    settingToBool v = .ok (some (key.negated != (value.map interpretBool).getD true)) := by
  rcases interpretValue_eq_ok h with ⟨hn, rfl⟩ | ⟨hn, rfl⟩
  · simp [settingToBool, hn]
  · cases value <;> simp [settingToBool, SettingsValue.getStr, Except.map, interpretBool, hn]

/-- The double negative `-nofoo=0` stores `true`, which reads as `true`. -/
theorem settingToBool_double_negative :
    interpretValue (interpretKey "nofoo") (some "0") Flags.allowAny = .ok (.bool true) ∧
      settingToBool (.bool true) = .ok (some true) :=
  ⟨rfl, (@settingToBool_interpretValue (interpretKey "nofoo") (some "0") Flags.allowAny _ rfl).trans
    rfl⟩

/-- `SettingName`: an argument name without its leading `-`. -/
def settingName (arg : Str) : Str :=
  if arg.head? = some '-' then arg.drop 1 else arg

@[simp] theorem settingName_dash (name : Str) : settingName ('-' :: name) = name := by
  simp [settingName]

end GlobeUtil
