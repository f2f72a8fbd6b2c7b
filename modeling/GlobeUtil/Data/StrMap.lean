import GlobeUtil.Data.Str

/-!
# `std::map` with string keys

A `std::map<std::string, V>` as the list of its entries in key order. Every map of the
modelled code is built from the empty map by the operations here, which insert a key only
where it is absent, so a key is never listed twice; iteration (`for (const auto& e : m)`)
is iteration over the list.

Each operation comes with its `find?` equations (`find?_modify_self`, `find?_modify_ne`,
…): the later modules reason about maps only through them.

## Main definitions

* `StrMap.find?`: `m.find(k)`, util/settings.h's `FindKey`
* `StrMap.modify`: `m[k] = f(m[k])`; `StrMap.push` is `m[k].push_back(x)`
* `StrMap.emplace`, `StrMap.erase`: `std::map::emplace` and `std::map::erase`
* `appendValues`: what pushing several values does to the list stored under a key
-/

namespace GlobeUtil

/-- A `std::map<std::string, V>`: its entries in key order. -/
abbrev StrMap (V : Type) := List (Str × V)

namespace StrMap

variable {V : Type}

/-- `m.find(k)`: the value at `k`, if any. -/
def find? (k : Str) : StrMap V → Option V
  | [] => none
  | (k', v) :: m => if k' = k then some v else find? k m

/-- A key that is not in the map, inserted at its place in key order. -/
def insertNew (k : Str) (v : V) : StrMap V → StrMap V
  | [] => [(k, v)]
  | (k', v') :: m => if Str.lt k k' then (k, v) :: (k', v') :: m else (k', v') :: insertNew k v m

/-- The value at an existing key, rewritten in place. -/
def update (k : Str) (f : V → V) : StrMap V → StrMap V
  | [] => []
  | (k', v) :: m => if k' = k then (k', f v) :: m else (k', v) :: update k f m

/-- `m[k] = f(m[k])`: `operator[]` inserts the key when it is absent (`f none`). -/
def modify (k : Str) (f : Option V → V) (m : StrMap V) : StrMap V :=
  match find? k m with
  | some _ => update k (fun v => f (some v)) m
  | none => insertNew k (f none) m

/-- `m[k].push_back(x)` on a map of vectors. -/
def push (k : Str) (x : V) (m : StrMap (List V)) : StrMap (List V) :=
  modify k (fun vs => vs.getD [] ++ [x]) m

/-- `m.emplace(k, v)`: inserts only an absent key, and says whether it did. -/
def emplace (k : Str) (v : V) (m : StrMap V) : StrMap V × Bool :=
  match find? k m with
  | some _ => (m, false)
  | none => (insertNew k v m, true)

/-- `m.erase(k)`. -/
def erase (k : Str) (m : StrMap V) : StrMap V :=
  m.filter fun e => !decide (e.1 = k)

@[simp] theorem find?_nil (k : Str) : find? k ([] : StrMap V) = none := rfl

theorem find?_cons (k k' : Str) (v : V) (m : StrMap V) :
    find? k ((k', v) :: m) = if k' = k then some v else find? k m := rfl

/-- A key has a value exactly when some entry has it. -/
theorem isSome_find?_iff {k : Str} {m : StrMap V} : (find? k m).isSome ↔ k ∈ m.map Prod.fst := by
  induction m with
  | nil => simp
  | cons e m ih =>
    obtain ⟨k', v⟩ := e
    by_cases hk : k' = k
    · subst hk
      simp only [find?, if_true, Option.isSome_some, List.map_cons, List.mem_cons, true_or]
    · simp only [find?, if_neg hk, ih, List.map_cons, List.mem_cons, Ne.symm hk, false_or]

theorem find?_insertNew_ne {k k' : Str} (h : k' ≠ k) (v : V) (m : StrMap V) :
    find? k' (insertNew k v m) = find? k' m := by
  induction m with
  | nil => simp [insertNew, find?, Ne.symm h]
  | cons e m ih =>
    obtain ⟨k'', v''⟩ := e
    unfold insertNew
    split <;> simp [find?, ih, Ne.symm h]

theorem find?_insertNew_self {k : Str} {m : StrMap V} (h : find? k m = none) (v : V) :
    find? k (insertNew k v m) = some v := by
  induction m with
  | nil => simp [insertNew, find?]
  | cons e m ih =>
    obtain ⟨k', v'⟩ := e
    have hk : k' ≠ k := fun hk => by simp [find?, hk] at h
    have hm : find? k m = none := by simpa [find?, hk] using h
    unfold insertNew
    split <;> simp [find?, hk, ih hm]

theorem find?_update_self (k : Str) (f : V → V) (m : StrMap V) :
    find? k (update k f m) = (find? k m).map f := by
  induction m with
  | nil => rfl
  | cons e m ih =>
    obtain ⟨k', v⟩ := e
    by_cases hk : k' = k <;> simp [update, find?, hk, ih]

theorem find?_update_ne {k k' : Str} (h : k' ≠ k) (f : V → V) (m : StrMap V) :
    find? k' (update k f m) = find? k' m := by
  induction m with
  | nil => rfl
  | cons e m ih =>
    obtain ⟨k'', v⟩ := e
    by_cases hk : k'' = k
    · subst hk; simp [update, find?, ih, Ne.symm h]
    · simp [update, find?, hk, ih]

@[simp] theorem find?_modify_self (k : Str) (f : Option V → V) (m : StrMap V) :
    find? k (modify k f m) = some (f (find? k m)) := by
  unfold modify
  split
  · next v hv => simp [find?_update_self, hv]
  · next hv => rw [find?_insertNew_self hv, hv]

theorem find?_modify_ne {k k' : Str} (h : k' ≠ k) (f : Option V → V) (m : StrMap V) :
    find? k' (modify k f m) = find? k' m := by
  unfold modify
  split
  · exact find?_update_ne h _ m
  · exact find?_insertNew_ne h _ m

@[simp] theorem find?_push_self (k : Str) (x : V) (m : StrMap (List V)) :
    find? k (push k x m) = some ((find? k m).getD [] ++ [x]) :=
  find?_modify_self k _ m

theorem find?_push_ne {k k' : Str} (h : k' ≠ k) (x : V) (m : StrMap (List V)) :
    find? k' (push k x m) = find? k' m :=
  find?_modify_ne h _ m

theorem find?_erase (k j : Str) (m : StrMap V) :
    find? k (erase j m) = if k = j then none else find? k m := by
  induction m with
  | nil => simp [erase]
  | cons d m ih =>
    obtain ⟨k', v⟩ := d
    by_cases hj : k' = j
    · have he : erase j ((k', v) :: m) = erase j m := by simp [erase, hj]
      subst hj
      by_cases hk : k = k'
      · subst hk; simpa [he] using ih
      · simp [he, ih, hk, find?_cons, Ne.symm hk]
    · have he : erase j ((k', v) :: m) = (k', v) :: erase j m := by simp [erase, hj]
      rw [he, find?_cons, find?_cons, ih]
      by_cases hk : k' = k
      · subst hk; simp [hj]
      · simp [hk]

theorem find?_emplace (k k' : Str) (v : V) (m : StrMap V) :
    find? k' (emplace k v m).1 = (find? k' m).or (if k' = k then some v else none) := by
  unfold emplace
  split
  · next w hw =>
    by_cases hk : k' = k
    · subst hk; simp [hw]
    · simp [hk]
  · next hw =>
    by_cases hk : k' = k
    · subst hk; simp [find?_insertNew_self hw, hw]
    · simp [find?_insertNew_ne hk, hk]

end StrMap

/-! ## Pushing several values

`appendValues o values` is what pushing `values` one by one does to the list `o` stored
under a key: the key gains an entry only when there is a value to push. -/

/-- A stored list with `values` pushed one by one: the key is added only by a value. -/
def appendValues {V : Type} (o : Option (List V)) (values : List V) : Option (List V) :=
  if values.isEmpty then o else some (o.getD [] ++ values)

@[simp] theorem appendValues_nil {V : Type} (o : Option (List V)) : appendValues o [] = o := rfl

theorem appendValues_append {V : Type} (o : Option (List V)) (a b : List V) :
    appendValues (appendValues o a) b = appendValues o (a ++ b) := by
  unfold appendValues
  cases a <;> cases b <;> simp

theorem find?_push_appendValues {V : Type} (k name : Str) (x : V) (m : StrMap (List V)) :
    StrMap.find? name (StrMap.push k x m) =
      appendValues (StrMap.find? name m) (if k = name then [x] else []) := by
  by_cases h : k = name
  · subst h; simp [appendValues]
  · rw [StrMap.find?_push_ne (Ne.symm h), if_neg h, appendValues_nil]

theorem appendValues_none_eq_some {V : Type} {vs ws : List V} :
    appendValues none vs = some ws ↔ vs ≠ [] ∧ ws = vs := by
  cases vs <;> simp [appendValues, eq_comm]

end GlobeUtil
