import GlobeUtil.Data.StrMap

/-!
# Directory locks

`dir_locks` maps the path of each lock file `LockDirectory` stored to its `FileLock`; its
comment calls it the map of "all the currently held directory locks". The lock of a
`FileLock` is a POSIX `fcntl` record lock: it belongs to the process and the file, not to a
descriptor, and closing any descriptor of the file drops it. `LockDirectory` opens and closes
the lock file (`fopen(path, "a")`, `fclose`) before it makes its `FileLock`, and a `FileLock`
closes its descriptor when it is destroyed: when `UnlockDirectory` or `ReleaseDirectoryLocks`
erases it from the map, or, for a lock that never entered the map, when `LockDirectory`
returns. The map is keyed by the path's text, and two texts can name one file (`d/.lock`,
`d/./.lock`): `fileOf` is the file the system resolves a path to.

With `probe_only = true`, `LockDirectory` makes sure the lock can be taken and returns
`true` having released it (`lockDirectory_probe_unheld`). Two other calls break the comment
by slips: with `try_lock = false` it stores a `FileLock` it never tried to take, and a call
through another path to a stored lock file closes that file and so releases the stored lock.
What holds is that over runs whose storing calls try the lock and whose paths name distinct
files, every entry is held; `LockDirectory(d, f, false, true)` then returns `true` only
holding the lock, and a probe leaves the map as it was (`dirLocks_held`).

## Main definitions

* `LockState`: `dir_locks` and the files the process holds a lock on
* `lockDirectory`, `unlockDirectory`, `releaseDirectoryLocks`
* `LockCall`, `lockRun`: runs of the three calls
* `AllHeld`: every entry of the map holds the lock on its file

## Main results

* `lockDirectory_cases`: what one `LockDirectory` can do
* `lockCall_allHeld`: one call keeps `AllHeld`, unless it stores without trying or meets
  another path to a stored file
* `dirLocks_held`: over such runs every entry is held
* `lockDirectory_probe_unheld`: a probe returns `true` holding nothing
-/

namespace GlobeUtil

variable {F : Type} [DecidableEq F]

/-- The process's directory locks, over files `F`: `dir_locks`, each entry with the file its
`FileLock` has open, and the files the process holds an `fcntl` lock on. -/
structure LockState (F : Type) where
  dirLocks : StrMap F := []
  locked : List F := []
  deriving DecidableEq, Repr

/-- A descriptor of `file` closed (`fclose`, or a `FileLock` destroyed): the process's lock
on the file is dropped. -/
def LockState.close (st : LockState F) (file : F) : LockState F :=
  { st with locked := st.locked.filter (· ≠ file) }

/-- `FileLock::TryLock` succeeded: the process holds the lock on `file`. -/
def LockState.lock (st : LockState F) (file : F) : LockState F :=
  { st with locked := file :: st.locked }

@[simp] theorem LockState.close_dirLocks (st : LockState F) (file : F) :
    (st.close file).dirLocks = st.dirLocks := rfl

omit [DecidableEq F] in
@[simp] theorem LockState.lock_dirLocks (st : LockState F) (file : F) :
    (st.lock file).dirLocks = st.dirLocks := rfl

@[simp] theorem LockState.mem_close {st : LockState F} {file g : F} :
    g ∈ (st.close file).locked ↔ g ∈ st.locked ∧ g ≠ file := by
  simp [LockState.close]

omit [DecidableEq F] in
@[simp] theorem LockState.mem_lock {st : LockState F} {file g : F} :
    g ∈ (st.lock file).locked ↔ g = file ∨ g ∈ st.locked := by
  simp [LockState.lock]

section Calls

variable (fileOf : Str → F)

/-- `LockDirectory`, with `fileOf` the file a path names and `tryLockOk` the outcome
`FileLock::TryLock` has when it is called: whether it returned `true`, and the state after
it. -/
def lockDirectory (directory lockfileName : Str) (probeOnly tryLock tryLockOk : Bool)
    (st : LockState F) : Bool × LockState F :=
  let pathLockFile := pathJoin directory lockfileName
  let file := fileOf pathLockFile
  if (st.dirLocks.find? pathLockFile).isSome then (true, st) else
  let st := st.close file
  if tryLock && !tryLockOk then (false, st) else
  let st := if tryLock then st.lock file else st
  if !probeOnly then
    (true, { st with dirLocks := (StrMap.emplace pathLockFile file st.dirLocks).1 })
  else (true, st.close file)

/-- `UnlockDirectory`: the `FileLock` erased closes its descriptor. -/
def unlockDirectory (directory lockfileName : Str) (st : LockState F) : LockState F :=
  let pathLockFile := pathJoin directory lockfileName
  match st.dirLocks.find? pathLockFile with
  | some file => { st.close file with dirLocks := StrMap.erase pathLockFile st.dirLocks }
  | none => st

/-- `ReleaseDirectoryLocks`: every `FileLock` of the map closes its descriptor. -/
def releaseDirectoryLocks (st : LockState F) : LockState F :=
  { dirLocks := [], locked := st.locked.filter fun file => file ∉ st.dirLocks.map Prod.snd }

/-- The calls on `dir_locks`. -/
inductive LockCall where
  | lockDirectory (directory lockfileName : Str) (probeOnly tryLock tryLockOk : Bool)
  | unlockDirectory (directory lockfileName : Str)
  | releaseDirectoryLocks
  deriving DecidableEq, Repr

/-- One call on `dir_locks`. -/
def lockCall (st : LockState F) : LockCall → LockState F
  | .lockDirectory d f probeOnly tryLock tryLockOk =>
    (lockDirectory fileOf d f probeOnly tryLock tryLockOk st).2
  | .unlockDirectory d f => unlockDirectory d f st
  | .releaseDirectoryLocks => releaseDirectoryLocks st

/-- A run of calls on `dir_locks`. -/
def lockRun : LockState F → List LockCall → LockState F
  | st, [] => st
  | st, c :: cs => lockRun (lockCall fileOf st c) cs

end Calls

/-- A call that can store a lock tries it first: `probe_only` or `try_lock`. -/
def LockCall.triesLock : LockCall → Bool
  | .lockDirectory _ _ probeOnly tryLock _ => probeOnly || tryLock
  | _ => true

/-- The lock-file path a call names. -/
def LockCall.path : LockCall → Option Str
  | .lockDirectory d f .. | .unlockDirectory d f => some (pathJoin d f)
  | .releaseDirectoryLocks => none

section Held

variable (fileOf : Str → F)

/-- Every entry of the map has its path's file open, and the process holds the lock on it. -/
def AllHeld (st : LockState F) : Prop :=
  ∀ p file, st.dirLocks.find? p = some file → file = fileOf p ∧ file ∈ st.locked

/-- No two of the paths name one file. -/
def NoAliases (paths : List Str) : Prop :=
  ∀ p ∈ paths, ∀ q ∈ paths, fileOf p = fileOf q → p = q

/-- Every key of the map is one of the paths. -/
def KeysIn (paths : List Str) (st : LockState F) : Prop :=
  ∀ p file, st.dirLocks.find? p = some file → p ∈ paths

/-- What `LockDirectory` can do: return at a stored entry; close the lock file and return,
failing to take the lock or probing; or close it and store a `FileLock`, holding the lock
where it tried it. -/
theorem lockDirectory_cases (d f : Str) (probeOnly tryLock tryLockOk : Bool) (st : LockState F) :
    (lockDirectory fileOf d f probeOnly tryLock tryLockOk st = (true, st) ∧
        (st.dirLocks.find? (pathJoin d f)).isSome) ∨
      (st.dirLocks.find? (pathJoin d f) = none ∧
        (lockDirectory fileOf d f probeOnly tryLock tryLockOk st).2.dirLocks = st.dirLocks ∧
        (∀ g, g ∈ (lockDirectory fileOf d f probeOnly tryLock tryLockOk st).2.locked ↔
          g ∈ st.locked ∧ g ≠ fileOf (pathJoin d f)) ∧
        ((lockDirectory fileOf d f probeOnly tryLock tryLockOk st).1 = false ∧ tryLock = true ∧
            tryLockOk = false ∨
          (lockDirectory fileOf d f probeOnly tryLock tryLockOk st).1 = true ∧ probeOnly = true)) ∨
      (st.dirLocks.find? (pathJoin d f) = none ∧ probeOnly = false ∧
        (tryLock = true → tryLockOk = true) ∧
        (lockDirectory fileOf d f probeOnly tryLock tryLockOk st).1 = true ∧
        (lockDirectory fileOf d f probeOnly tryLock tryLockOk st).2.dirLocks =
          (StrMap.emplace (pathJoin d f) (fileOf (pathJoin d f)) st.dirLocks).1 ∧
        ∀ g, g ∈ (lockDirectory fileOf d f probeOnly tryLock tryLockOk st).2.locked ↔
          (tryLock = true ∧ g = fileOf (pathJoin d f)) ∨
            (g ∈ st.locked ∧ g ≠ fileOf (pathJoin d f))) := by
  by_cases hhit : (st.dirLocks.find? (pathJoin d f)).isSome
  · exact .inl ⟨by simp [lockDirectory, hhit], hhit⟩
  have hnone := Option.not_isSome_iff_eq_none.1 hhit
  cases probeOnly <;> cases tryLock <;> cases tryLockOk <;> simp [lockDirectory, hnone]
  -- the probe that took the lock: it was closed again
  exact fun g hg => by simp [hg]

variable {fileOf}

omit [DecidableEq F] in
/-- Where a path is not in the map, closing its file keeps the lock of every entry. -/
theorem AllHeld.ne_of_none {paths : List Str} {st : LockState F} (hst : AllHeld fileOf st)
    (hkeys : KeysIn paths st) (hS : NoAliases fileOf paths) {p : Str} (hp : p ∈ paths)
    (hnone : st.dirLocks.find? p = none) {q : Str} {g : F} (hq : st.dirLocks.find? q = some g) :
    g ≠ fileOf p := by
  rintro rfl
  have hqp : q = p := hS q (hkeys q _ hq) p hp (hst q _ hq).1.symm
  rw [hqp, hnone] at hq
  cases hq

/-- **One call keeps every entry held**, unless it stores a lock without trying it, or names
another path to a stored file. -/
theorem lockCall_allHeld {paths : List Str} (hS : NoAliases fileOf paths) {st : LockState F}
    (hst : AllHeld fileOf st) (hkeys : KeysIn paths st) {c : LockCall} (hc : c.triesLock)
    (hcS : ∀ p ∈ c.path, p ∈ paths) :
    AllHeld fileOf (lockCall fileOf st c) ∧ KeysIn paths (lockCall fileOf st c) := by
  cases c with
  | lockDirectory d f probeOnly tryLock tryLockOk =>
    have hp : pathJoin d f ∈ paths := hcS _ rfl
    rcases lockDirectory_cases fileOf d f probeOnly tryLock tryLockOk st with
      ⟨h, -⟩ | ⟨hnone, hdir, hmem, -⟩ | ⟨hnone, rfl, -, -, hdir, hmem⟩ <;>
      simp only [lockCall]
    · rw [h]; exact ⟨hst, hkeys⟩
    · refine ⟨fun q g hq => ?_, fun q g hq => hkeys q g (hdir ▸ hq)⟩
      rw [hdir] at hq
      exact ⟨(hst q g hq).1, (hmem g).2 ⟨(hst q g hq).2, hst.ne_of_none hkeys hS hp hnone hq⟩⟩
    · have htry : tryLock = true := by simpa [LockCall.triesLock] using hc
      refine ⟨fun q g hq => ?_, fun q g hq => ?_⟩ <;> rw [hdir, StrMap.find?_emplace] at hq
      · cases hfq : st.dirLocks.find? q with
        | some g' =>
          rw [hfq] at hq
          cases hq
          exact ⟨(hst q g hfq).1, (hmem g).2 (.inr ⟨(hst q g hfq).2,
            hst.ne_of_none hkeys hS hp hnone hfq⟩)⟩
        | none =>
          rw [hfq, Option.none_or] at hq
          split at hq
          · next hqp => cases hq; subst hqp; exact ⟨rfl, (hmem _).2 (.inl ⟨htry, rfl⟩)⟩
          · cases hq
      · cases hfq : st.dirLocks.find? q with
        | some g' => exact hkeys q g' hfq
        | none =>
          rw [hfq, Option.none_or] at hq
          split at hq
          · next hqp => exact hqp ▸ hp
          · cases hq
  | unlockDirectory d f =>
    have hp : pathJoin d f ∈ paths := hcS _ rfl
    simp only [lockCall, unlockDirectory]
    split
    · next file hfile =>
      refine ⟨fun q g hq => ?_, fun q g hq => ?_⟩ <;> rw [StrMap.find?_erase] at hq <;>
        split at hq
      · cases hq
      · next hqp =>
        refine ⟨(hst q g hq).1, LockState.mem_close.2 ⟨(hst q g hq).2, ?_⟩⟩
        rw [(hst _ _ hfile).1]
        exact fun hg => hqp (hS q (hkeys q g hq) _ hp ((hst q g hq).1.symm.trans hg))
      · cases hq
      · exact hkeys q g hq
    · exact ⟨hst, hkeys⟩
  | releaseDirectoryLocks => exact ⟨fun _ _ hq => (by cases hq), fun _ _ hq => (by cases hq)⟩

theorem lockRun_allHeld {paths : List Str} (hS : NoAliases fileOf paths) :
    ∀ {st : LockState F} {calls : List LockCall}, AllHeld fileOf st → KeysIn paths st →
      (∀ c ∈ calls, c.triesLock ∧ ∀ p ∈ c.path, p ∈ paths) →
      AllHeld fileOf (lockRun fileOf st calls) ∧ KeysIn paths (lockRun fileOf st calls)
  | _, [], hst, hkeys, _ => ⟨hst, hkeys⟩
  | _, c :: cs, hst, hkeys, hc => by
    have h := lockCall_allHeld hS hst hkeys (hc c (List.mem_cons_self _ _)).1
      (hc c (List.mem_cons_self _ _)).2
    exact @lockRun_allHeld paths hS (lockCall fileOf _ c) cs h.1 h.2
      fun c' hc' => hc c' (List.mem_cons_of_mem _ hc')

/-- A call with `try_lock = true` that may store returns `true` only holding the lock. -/
theorem lockDirectory_holds {st : LockState F} (hst : AllHeld fileOf st) (d f : Str)
    (tryLockOk : Bool) (h : (lockDirectory fileOf d f false true tryLockOk st).1 = true) :
    fileOf (pathJoin d f) ∈ (lockDirectory fileOf d f false true tryLockOk st).2.locked := by
  rcases lockDirectory_cases fileOf d f false true tryLockOk st with
    ⟨he, hs⟩ | ⟨-, -, -, ⟨hf, -⟩ | ⟨-, ⟨⟩⟩⟩ | ⟨-, -, -, -, -, hmem⟩
  · obtain ⟨file, hfile⟩ := Option.isSome_iff_exists.1 hs
    rw [he]
    exact (hst _ _ hfile).1 ▸ (hst _ _ hfile).2
  · rw [hf] at h; cases h
  · exact (hmem _).2 (.inl ⟨rfl, rfl⟩)

/-- A probe leaves `dir_locks` alone, and holds the lock on its file after it only where the
map has an entry for its path. -/
theorem lockDirectory_probe {st : LockState F} (hst : AllHeld fileOf st) (d f : Str)
    (tryLock tryLockOk : Bool) :
    (lockDirectory fileOf d f true tryLock tryLockOk st).2.dirLocks = st.dirLocks ∧
      (fileOf (pathJoin d f) ∈ (lockDirectory fileOf d f true tryLock tryLockOk st).2.locked ↔
        (st.dirLocks.find? (pathJoin d f)).isSome) := by
  rcases lockDirectory_cases fileOf d f true tryLock tryLockOk st with
    ⟨he, hs⟩ | ⟨hnone, hdir, hmem, -⟩ | ⟨-, ⟨⟩, -⟩
  · obtain ⟨file, hfile⟩ := Option.isSome_iff_exists.1 hs
    rw [he]
    exact ⟨rfl, iff_of_true ((hst _ _ hfile).1 ▸ (hst _ _ hfile).2) hs⟩
  · exact ⟨hdir, by simp [hmem, hnone]⟩

/-- **Over runs that try each lock before storing it, through paths that name distinct files,
`dir_locks` holds only held locks**; then `LockDirectory(d, f, false, true)` returns `true`
only holding the lock on `d/f`, and a probe leaves the map as it was and holds the lock on
`d/f` after it only where the map has it. -/
theorem dirLocks_held {calls : List LockCall} (hcalls : ∀ c ∈ calls, c.triesLock)
    (hpaths : NoAliases fileOf (calls.filterMap LockCall.path)) :
    AllHeld fileOf (lockRun fileOf {} calls) ∧
      (∀ d f tryLockOk, (lockDirectory fileOf d f false true tryLockOk (lockRun fileOf {} calls)).1 =
          true →
        fileOf (pathJoin d f) ∈
          (lockDirectory fileOf d f false true tryLockOk (lockRun fileOf {} calls)).2.locked) ∧
      ∀ d f tryLock tryLockOk,
        (lockDirectory fileOf d f true tryLock tryLockOk (lockRun fileOf {} calls)).2.dirLocks =
            (lockRun fileOf {} calls).dirLocks ∧
          (fileOf (pathJoin d f) ∈
              (lockDirectory fileOf d f true tryLock tryLockOk (lockRun fileOf {} calls)).2.locked ↔
            ((lockRun fileOf {} calls).dirLocks.find? (pathJoin d f)).isSome) := by
  have h := (@lockRun_allHeld F _ fileOf _ hpaths {} calls (fun _ _ hp => by cases hp)
    (fun _ _ hp => by cases hp) fun c hc => ⟨hcalls c hc, fun p hp =>
      List.mem_filterMap.2 ⟨c, hc, hp⟩⟩).1
  exact ⟨h, lockDirectory_holds h, lockDirectory_probe h⟩

/-- A run that locks `d/.lock`, probes `d/.probe`, and locks and unlocks `e/.lock`, ends
holding the lock on `d/.lock`. -/
theorem dirLocks_held_lock_probe_unlock :
    (∀ c ∈ [LockCall.lockDirectory "d" ".lock" false true true,
        .lockDirectory "d" ".probe" true true true, .lockDirectory "e" ".lock" false true true,
        .unlockDirectory "e" ".lock"], c.triesLock) ∧
      NoAliases id ([LockCall.lockDirectory "d" ".lock" false true true,
        .lockDirectory "d" ".probe" true true true, .lockDirectory "e" ".lock" false true true,
        .unlockDirectory "e" ".lock"].filterMap LockCall.path) ∧
      (lockRun id {} [.lockDirectory "d" ".lock" false true true,
        .lockDirectory "d" ".probe" true true true, .lockDirectory "e" ".lock" false true true,
        .unlockDirectory "e" ".lock"]).dirLocks = [("d/.lock".toList, "d/.lock".toList)] ∧
      AllHeld id (lockRun id {} [.lockDirectory "d" ".lock" false true true,
        .lockDirectory "d" ".probe" true true true, .lockDirectory "e" ".lock" false true true,
        .unlockDirectory "e" ".lock"]) :=
  ⟨by decide, fun _ _ _ _ h => h, by decide, (dirLocks_held (by decide) fun _ _ _ _ h => h).1⟩

/-- With `try_lock = false` the map stores a lock nobody took, and a later
`LockDirectory(d, f, false, true)` returns `true` on it without the lock. -/
example : (lockDirectory id "d" ".lock" false true false
      (lockRun id {} [.lockDirectory "d" ".lock" false false true])).1 = true ∧
    "d/.lock".toList ∉ (lockDirectory id "d" ".lock" false true false
      (lockRun id {} [.lockDirectory "d" ".lock" false false true])).2.locked := by
  decide

/-- A probe through `d/.` of the lock file stored through `d` closes that file: the stored
entry no longer holds its lock. -/
example : (lockRun (fun p => if p = "d/./.lock".toList then "d/.lock".toList else p) {}
      [.lockDirectory "d" ".lock" false true true,
        .lockDirectory "d/." ".lock" true true true]).locked = [] := by
  decide

/-- **A probe returns `true` holding nothing**: `LockDirectory(d, f, true, true)` on an empty
map, with `TryLock` succeeding, takes the lock and releases it before it returns. -/
theorem lockDirectory_probe_unheld :
    (lockDirectory id "d" ".lock" true true true ({} : LockState Str)).1 = true ∧
      pathJoin "d" ".lock" ∉ (lockDirectory id "d" ".lock" true true true ({} : LockState Str)).2.locked := by
  decide

end Held

end GlobeUtil
