import Mathlib.Data.List.DropRight
import Mathlib.Data.List.Infix

/-!
# Byte strings

`std::string` as util/system.cpp uses it: a list of characters, one per byte. The
operations are the few of `<string>` the code calls — `find` and `rfind` of one
character, `substr` (which is `take` and `drop`) — util/string.h's `TrimString`, the
order `std::map` keeps string keys in, and the joining of paths.

`find` and `rfind` are characterised once, by the split of the string around the
character they find (`find_eq_some_iff`, `rfind_eq_some_iff`); every parser of the
development reads `substr(0, pos)` and `substr(pos + 1)` through these two lemmas and
never unfolds `find` again.

## Main definitions

* `Str`: a byte string
* `Str.find`, `Str.rfind`: the first and the last index of a character; `npos` is `none`
* `trimString`: util/string.h's `TrimString`
* `pathJoin`: fs.h's `operator/` of paths
* `Str.lt`: `std::string`'s `operator<`
-/

namespace GlobeUtil

/-- A `std::string`: one `Char` per byte. -/
abbrev Str := List Char

instance : Coe String Str := ⟨String.toList⟩

namespace Str

/-- `s.find(c)`: the index of the first `c` in `s`; `npos` is `none`. -/
def find (c : Char) : Str → Option Nat
  | [] => none
  | d :: s => if d = c then some 0 else (find c s).map (· + 1)

/-- `s.rfind(c)`: the index of the last `c` in `s`. -/
def rfind (c : Char) (s : Str) : Option Nat :=
  (find c s.reverse).map (s.length - 1 - ·)

/-- `std::string`'s `operator<`: lexicographic, bytes compared as `unsigned char`. -/
def lt : Str → Str → Bool
  | _, [] => false
  | [], _ :: _ => true
  | a :: s, b :: t => a.val < b.val || (a == b && lt s t)

theorem find_eq_none_iff {c : Char} {s : Str} : find c s = none ↔ c ∉ s := by
  induction s with
  | nil => simp [find]
  | cons d s ih =>
    by_cases h : d = c
    · simp [find, h]
    · simp [find, h, ih, Ne.symm h]

/-- What `find` returns splits the string around the first occurrence. -/
theorem find_eq_some_iff {c : Char} {s : Str} {i : Nat} :
    find c s = some i ↔ ∃ a b, s = a ++ c :: b ∧ c ∉ a ∧ i = a.length := by
  induction s generalizing i with
  | nil => simp [find]
  | cons d s ih =>
    by_cases h : d = c
    · subst h
      rw [find, if_pos rfl, Option.some.injEq]
      constructor
      · rintro rfl; exact ⟨[], s, rfl, by simp, rfl⟩
      · rintro ⟨a, b, hs, ha, rfl⟩
        cases a with
        | nil => rfl
        | cons x a => simp only [List.cons_append, List.cons.injEq] at hs; simp [hs.1] at ha
    · simp only [find, if_neg h, Option.map_eq_some']
      constructor
      · rintro ⟨j, hj, rfl⟩
        obtain ⟨a, b, rfl, ha, rfl⟩ := ih.1 hj
        exact ⟨d :: a, b, rfl, by simp [Ne.symm h, ha], rfl⟩
      · rintro ⟨a, b, hs, ha, rfl⟩
        cases a with
        | nil => simp only [List.nil_append, List.cons.injEq] at hs; exact absurd hs.1 h
        | cons x a =>
          simp only [List.cons_append, List.cons.injEq] at hs
          obtain ⟨rfl, rfl⟩ := hs
          exact ⟨a.length, ih.2 ⟨a, b, rfl, fun hm => ha (List.mem_cons_of_mem _ hm), rfl⟩, rfl⟩

/-- The split of a string around the first occurrence of `c` is unique. -/
theorem find_split (c : Char) (a b : Str) (ha : c ∉ a) : find c (a ++ c :: b) = some a.length :=
  find_eq_some_iff.2 ⟨a, b, rfl, ha, rfl⟩

/-- What `rfind` returns splits the string around the last occurrence. -/
theorem rfind_eq_some_iff {c : Char} {s : Str} {i : Nat} :
    rfind c s = some i ↔ ∃ a b, s = a ++ c :: b ∧ c ∉ b ∧ i = a.length := by
  simp only [rfind, Option.map_eq_some', find_eq_some_iff]
  constructor
  · rintro ⟨_, ⟨a, b, hs, ha, rfl⟩, rfl⟩
    refine ⟨b.reverse, a.reverse, ?_, by simpa using ha, ?_⟩
    · simpa using congrArg List.reverse hs
    · have := congrArg List.length hs
      simp only [List.length_reverse, List.length_append, List.length_cons] at this
      simp only [List.length_reverse]; omega
  · rintro ⟨a, b, rfl, hb, rfl⟩
    exact ⟨b.length, ⟨b.reverse, a.reverse, by simp, by simpa using hb, by simp⟩, by simp⟩

/-- With a single `c` in the string, `rfind` finds what `find` finds. -/
theorem rfind_split (c : Char) (a b : Str) (hb : c ∉ b) : rfind c (a ++ c :: b) = some a.length :=
  rfind_eq_some_iff.2 ⟨a, b, rfl, hb, rfl⟩

/-- `substr(0, pos)` at the first `c` is the text before it. -/
theorem take_of_find {c : Char} {s : Str} {i : Nat} (h : find c s = some i) :
    s.take i = s.takeWhile (· ≠ c) := by
  obtain ⟨a, b, rfl, ha, rfl⟩ := find_eq_some_iff.1 h
  rw [List.take_left, List.takeWhile_append_of_pos (fun x hx => by simpa using ne_of_mem_of_not_mem hx ha)]
  simp

/-- `substr(pos + 1)` at the first `c` is the text after it. -/
theorem drop_of_find {c : Char} {s : Str} {i : Nat} (h : find c s = some i) :
    s.drop (i + 1) = (s.dropWhile (· ≠ c)).drop 1 := by
  obtain ⟨a, b, rfl, ha, rfl⟩ := find_eq_some_iff.1 h
  rw [List.dropWhile_append_of_pos (fun x hx => by simpa using ne_of_mem_of_not_mem hx ha)]
  simp [List.drop_append_eq_append_drop]

theorem takeWhile_of_find_none {c : Char} {s : Str} (h : find c s = none) :
    s.takeWhile (· ≠ c) = s :=
  List.takeWhile_eq_self_iff.2 fun x hx => by
    simpa using ne_of_mem_of_not_mem hx (find_eq_none_iff.1 h)

/-- A string with a single `c` splits around it in one way only. -/
theorem split_unique {c : Char} {a b a' b' : Str} (h : a ++ c :: b = a' ++ c :: b') (ha : c ∉ a)
    (hb : c ∉ b) : a = a' ∧ b = b' := by
  have hc := congrArg (List.count c) h
  simp only [List.count_append, List.count_cons_self, List.count_eq_zero_of_not_mem ha,
    List.count_eq_zero_of_not_mem hb] at hc
  have ha' : c ∉ a' := List.count_eq_zero.1 (by omega)
  have hl : a.length = a'.length := by
    have := find_split c a b ha
    rw [h, find_split c a' b' ha'] at this
    exact (Option.some.inj this).symm
  exact (List.append_inj h hl).imp id fun h => (List.cons.inj h).2

end Str

/-- util/string.h's `TrimString(str, pattern)`: `str` without the characters of `pattern`
at either end. -/
def trimString (s pattern : Str) : Str :=
  (s.dropWhile (fun c => decide (c ∈ pattern))).rdropWhile (fun c => decide (c ∈ pattern))

/-- `fs::path::operator/=` of fs.h, which is not among the sources, on POSIX paths: an
absolute right side replaces the left; otherwise a separator is added unless the left is
empty or ends in one. -/
def pathJoin (p q : Str) : Str :=
  if q.head? = some '/' then q
  else if p = [] ∨ p.getLast? = some '/' then p ++ q
  else p ++ '/' :: q

end GlobeUtil
