import GlobeUtil.Data.Str

/-!
# Settings values

The values the argument manager stores — `util::SettingsValue`, a JSON value — and the
two readings of them that util/system.cpp relies on: util/settings.h's `SettingsSpan`
view of a list of values, which skips everything up to the last negation, and
`InterpretBool`, which reads a string as a flag.

A negated option (`-nofoo`) is stored as the value `false`, so "the last negation" of a
list is its last `false`: `SettingsSpan::negated()` finds it with a loop from the end, and a
span is empty exactly when nothing is stored or the last value is a negation
(`spanEmpty_iff`).

## Main definitions

* `SettingsValue`, with `UniValue`'s `isFalse`, `isTrue`, `get_str` and `write`
* `negated`, `lastNegated`, `spanEmpty`, `spanBegin`: util/settings.h's `SettingsSpan`
* `interpretBool`: `InterpretBool`, over `localeIndependentAtoi`
* `settingToString`, `settingToBool`: `SettingToString` and `SettingToBool`
-/

namespace GlobeUtil

/-- `util::SettingsValue`, a `UniValue`: null, a boolean, a number kept as its text, as
`UniValue` keeps it, or a string. The arrays and objects that only settings.json can hold
are left out, and with them the `std::runtime_error` of `get_str` on one of them. -/
inductive SettingsValue
  | null
  | bool (b : Bool)
  | num (text : Str)
  | str (s : Str)
  deriving DecidableEq, Repr

namespace SettingsValue

/-- `UniValue::isFalse`. -/
def isFalse : SettingsValue → Bool
  | bool false => true
  | _ => false

/-- `UniValue::isTrue`. -/
def isTrue : SettingsValue → Bool
  | bool true => true
  | _ => false

/-- `UniValue::get_str`: the string, or the `std::runtime_error` it throws. -/
def getStr : SettingsValue → Except Str Str
  | str s => .ok s
  | _ => .error "JSON value is not a string as expected"

/-- The text `UniValue::write` gives a character of a string, from univalue_escapes.h (not
among the sources): the quote and the backslash after a backslash, the short escapes of
backspace, tab, line feed, form feed and carriage return, `\u00XX` in lower-case hex for the
other control characters and DEL, and any other character as it is. -/
def jsonEscapeChar (c : Char) : Str :=
  let hex := fun n : Nat => "0123456789abcdef".toList.getD n '0'
  if c = Char.ofNat 34 ∨ c = Char.ofNat 92 then [Char.ofNat 92, c]
  else if c = Char.ofNat 8 then [Char.ofNat 92, 'b']
  else if c = Char.ofNat 9 then [Char.ofNat 92, 't']
  else if c = Char.ofNat 10 then [Char.ofNat 92, 'n']
  else if c = Char.ofNat 12 then [Char.ofNat 92, 'f']
  else if c = Char.ofNat 13 then [Char.ofNat 92, 'r']
  else if c.toNat < 32 ∨ c.toNat = 127 then
    [Char.ofNat 92, 'u', '0', '0', hex (c.toNat / 16), hex (c.toNat % 16)]
  else [c]

/-- JSON string escaping as `UniValue::write` does it. -/
def jsonEscape (s : Str) : Str :=
  s.flatMap jsonEscapeChar

example : jsonEscape "a\tb\x7f\"".toList = "a\\tb\\u007f\\\"".toList := by decide

/-- `UniValue::write()`: the JSON text of a value. -/
def write : SettingsValue → Str
  | null => "null"
  | bool true => "true"
  | bool false => "false"
  | num text => text
  | str s => Char.ofNat 34 :: jsonEscape s ++ [Char.ofNat 34]

@[simp] theorem isFalse_iff (v : SettingsValue) : v.isFalse = true ↔ v = bool false := by
  rcases v with _ | (_ | _) | _ | _ <;> simp [isFalse]

end SettingsValue

open SettingsValue

/-- A bind of `Except` that succeeded: both of its steps did. -/
theorem except_bind_eq_ok {ε α β : Type} {x : Except ε α} {f : α → Except ε β} {b : β}
    (h : (x >>= f) = .ok b) : ∃ a, x = .ok a ∧ f a = .ok b := by
  cases x with
  | error e => cases h
  | ok a => exact ⟨a, rfl, h⟩


/-! ## `SettingsSpan` -/

section Span

/-- The loop of `SettingsSpan::negated()`: from position `i` down, the position just past
the last negation. -/
def negatedFrom (vs : List SettingsValue) : Nat → Nat
  | 0 => 0
  | i + 1 => if (vs.getD i .null).isFalse then i + 1 else negatedFrom vs i

/-- `SettingsSpan::negated()`: the number of values up to and including the last negation. -/
def negated (vs : List SettingsValue) : Nat :=
  negatedFrom vs vs.length

/-- `SettingsSpan::last_negated()`: the last value is a negation. -/
def lastNegated (vs : List SettingsValue) : Bool :=
  match vs.getLast? with
  | some v => v.isFalse
  | none => false

/-- `SettingsSpan::empty()`: no value survives the last negation. -/
def spanEmpty (vs : List SettingsValue) : Bool :=
  vs.length == 0 || lastNegated vs

/-- The values from `SettingsSpan::begin()` to `end()`: those after the last negation. -/
def spanBegin (vs : List SettingsValue) : List SettingsValue :=
  vs.drop (negated vs)

@[simp] theorem negated_nil : negated [] = 0 := rfl

/-- A span is empty exactly when nothing is stored, or the last value is a negation. -/
theorem spanEmpty_iff (vs : List SettingsValue) :
    spanEmpty vs = true ↔ vs = [] ∨ vs.getLast? = some (bool false) := by
  unfold spanEmpty lastNegated
  cases h : vs.getLast? with
  | none => simp [List.getLast?_eq_none_iff.1 h]
  | some v =>
    have hne : vs ≠ [] := by rintro rfl; simp at h
    simp [hne]

end Span

/-! ## Reading a string as a flag -/

/-- The white space `TrimStringView` removes by default. -/
def whitespace : Str := [' ', Char.ofNat 12, '\n', '\r', '\t', Char.ofNat 11]

/-- The value of a run of decimal digits. -/
def digitsValue (ds : Str) : Nat :=
  ds.foldl (fun n d => 10 * n + (d.toNat - '0'.toNat)) 0

/-- `std::from_chars` for an `int`: an optional `-` and at least one digit; nothing when no
digit follows, or when the number is not representable. -/
def fromChars (s : Str) : Option Int :=
  let (neg, r) := match s with
    | '-' :: r => (true, r)
    | r => (false, r)
  let ds := r.takeWhile Char.isDigit
  let v : Int := if neg then -(digitsValue ds : Int) else digitsValue ds
  if ds = [] ∨ v < -2147483648 ∨ 2147483648 ≤ v then none else some v

/-- `LocaleIndependentAtoi<int>` of util/strencodings.h, which is not among the sources; the
comment on `InterpretBool` says what it returns: atoi's reading of the
leading decimal integer (white space and a `+` skipped), and 0 for text that is not numeric
or not representable as an `int`. -/
def localeIndependentAtoi (s : Str) : Int :=
  match trimString s whitespace with
  | '+' :: '-' :: _ => 0
  | '+' :: r => (fromChars r).getD 0
  | r => (fromChars r).getD 0

/-- `InterpretBool`: the empty string and non-zero integers are `true`. -/
def interpretBool (strValue : Str) : Bool :=
  strValue.isEmpty || localeIndependentAtoi strValue != 0

example : interpretBool "" = true ∧ interpretBool "0" = false ∧ interpretBool "foo" = false ∧
    interpretBool " +7" = true := by decide

/-- `SettingToString`: the text of a setting, `nullopt` for null. -/
def settingToString : SettingsValue → Option Str
  | .null => none
  | .bool false => some "0"
  | .bool true => some "1"
  | .num text => some text
  | .str s => some s

/-- `SettingToBool`: the flag a setting stands for, `nullopt` for null; `get_str` throws on a
number. -/
def settingToBool : SettingsValue → Except Str (Option Bool)
  | .null => .ok none
  | .bool b => .ok (some b)
  | v => v.getStr.map fun s => some (interpretBool s)

end GlobeUtil
