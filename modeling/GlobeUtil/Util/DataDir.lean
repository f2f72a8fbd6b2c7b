import GlobeUtil.Config.Include

/-!
# The data directory

Where util/system.cpp puts the node's files, and the checks made on that place.

`GetDataDir` and `GetBlocksDirPath` keep the paths they computed in the `mutable` members
`m_cached_datadir_path`, `m_cached_network_datadir_path` and `m_cached_blocks_path`, "to avoid
calling `fs::create_directories` on every call"; the empty path means "not cached", and
`ClearPathCache` empties all three. A call on a filled slot returns it and touches nothing
(`getDataDir_hit`). A call on an empty slot writes the path it finds into the slot through a
reference, then makes the `wallets` directory under it, where `fs::create_directories` may
throw `fs::filesystem_error`: the exception leaves the path in the slot (`dataDirAt_spec`).
The empty path, which `GetDataDir` returns when `-datadir` names no directory, is left in
the slot too, so that case is computed again next time.

So every call leaves its slot holding the path it returned, and a filled slot stays as it is
until `ClearPathCache` (`pathCall_slot`, `pathCall_keeps`), whatever the arguments, the chain
and the file system did in between. Over a run without `ClearPathCache`, every non-empty
path a call returned is the one its slot holds at the end (`pathRun_coherent`): a change of
`-datadir` or of the chain is not seen until the cache is cleared, as `ReadConfigFiles` does.

On an empty slot `GetDataDir` returns the empty path exactly when `CheckDataDirOption` fails;
otherwise it returns a non-empty path or throws, and after a throw the next call returns the
path it left, with no `wallets` directory made (`getDataDir_empty_slot`). The check that ends
`ReadConfigFiles` therefore keeps the next `GetDataDir` from returning the empty path
(`readConfigFiles_getDataDir`). `GetConfigFile` joins a relative name to
`gArgs.GetDataDirBase()`; once that is cached, every call names the path `cachedConfigEnv`
opens (`getConfigFile_cached`), the environment `ReadConfigFiles` is read against.
`CheckDiskSpace` adds the 50 MiB reserve to the requested bytes in `uint64_t`, so a request
within 50 MiB of `2^64` wraps around (`checkDiskSpace_wraps`).

The other calls of the file-system library (`fs::exists`, `fs::is_directory`,
`fs::absolute`) are modelled as total; they throw only where the operating system reports an
error other than a missing file, which is left out.

## Main definitions

* `PathCache`: the three cached paths
* `FsEnv`, `FilesystemError`: what the path functions reach outside util/system.cpp, and the
  exception of `fs::create_directories`
* `getDataDir`, `getBlocksDirPath`, `clearPathCache`: the three members
* `PathCall`, `pathRun`: runs of them, each call with its own arguments and environment
* `checkDataDirOption`, `getConfigFile`, `checkDiskSpace`
* `cachedConfigEnv`: the `ConfigEnv` of `gArgs.ReadConfigFiles` over a cached data directory

## Main results

* `dataDirAt_spec`: what `GetDataDir` leaves in the slot, and returns or throws
* `pathCall_slot`, `pathCall_keeps`: what one call leaves in the cache
* `pathRun_coherent`: every non-empty path returned is the one the cache ends with
* `getDataDir_empty_slot`: when `GetDataDir` returns the empty path, and what a throw leaves
* `getConfigFile_cached`: `GetConfigFile` on a filled cache is `cachedConfigEnv`'s
* `readConfigFiles_getDataDir`: after `ReadConfigFiles` succeeds, `GetDataDir` does not
  return the empty path
* `checkDiskSpace_iff`, `checkDiskSpace_wraps`: what `CheckDiskSpace` compares
-/

namespace GlobeUtil

/-- `GetDefaultDataDir` on Unix-like systems: `$HOME/.globe`, or `/.globe` without `HOME`. -/
def getDefaultDataDir (home : Option Str) : Str :=
  pathJoin (match home with
    | some h => if h = [] then "/" else h
    | none => "/") ".globe"

/-- The `mutable` path cache of `ArgsManager`; the empty path means "not cached". -/
structure PathCache where
  blocks : Str := []
  datadir : Str := []
  networkDatadir : Str := []
  deriving DecidableEq, Repr

/-- The `fs::filesystem_error` that `fs::create_directories` throws, with the path it was given
(`path1()`); the text of its `what()` is the library's. -/
structure FilesystemError where
  path1 : Str
  deriving DecidableEq, Repr

/-- What the path functions reach outside util/system.cpp, over file systems `F`. -/
structure FsEnv (F : Type) where
  /-- `fs::absolute`. -/
  absolute : Str → Str
  /-- `fs::is_directory`. -/
  isDirectory : F → Str → Bool
  /-- `fs::exists`. -/
  pathExists : F → Str → Bool
  /-- `fs::create_directories`: the file system after it, and `false` where it threw
  `fs::filesystem_error` (a directory it may not make, a file in the way), keeping what it
  made before. -/
  createDirectories : F → Str → F × Bool
  /-- `fsbridge::AbsPathJoin` (util/fs_helpers, not among the sources). -/
  absPathJoin : Str → Str → Str
  /-- `getenv("HOME")`. -/
  home : Option Str
  /-- `BaseParams().DataDir()`: the chain's subdirectory. -/
  chainDataDir : Str

variable {F : Type}

/-- The slot `GetDataDir(net_specific)` uses. -/
def PathCache.slot (c : PathCache) (netSpecific : Bool) : Str :=
  if netSpecific then c.networkDatadir else c.datadir

/-- The cache with the slot of `GetDataDir(net_specific)` set to `p`. -/
def PathCache.setSlot (c : PathCache) (netSpecific : Bool) (p : Str) : PathCache :=
  if netSpecific then { c with networkDatadir := p } else { c with datadir := p }

/-- `if (!fs::exists(path)) fs::create_directories(path / "wallets")`: the file system after
it, and `false` where `fs::create_directories` threw. -/
def ensureWallets (fe : FsEnv F) (fs : F) (path : Str) : F × Bool :=
  if fe.pathExists fs path then (fs, true) else fe.createDirectories fs (pathJoin path "wallets")

/-- `path = p` through the reference to the slot of `GetDataDir(net_specific)`, then
`ensureWallets`: `p`, or the `fs::filesystem_error`, which leaves `p` in the slot. -/
def slotWallets (fe : FsEnv F) (netSpecific : Bool) (p : Str) (c : PathCache) (fs : F) :
    Except FilesystemError Str × PathCache × F :=
  match ensureWallets fe fs p with
  | (fs, true) => (.ok p, c.setSlot netSpecific p, fs)
  | (fs, false) => (.error ⟨pathJoin p "wallets"⟩, c.setSlot netSpecific p, fs)

/-- `GetDataDir` once it has found `path`: the slot takes `path`, then, for the network's
directory, `path / BaseParams().DataDir()`, each with its `wallets` directory made. -/
def dataDirAt (fe : FsEnv F) (netSpecific : Bool) (path : Str) (c : PathCache) (fs : F) :
    Except FilesystemError Str × PathCache × F :=
  match slotWallets fe netSpecific path c fs with
  | (.ok path, c, fs) =>
    if netSpecific ∧ fe.chainDataDir ≠ [] then
      slotWallets fe netSpecific (pathJoin path fe.chainDataDir) c fs
    else (.ok path, c, fs)
  | r => r

/-- `ArgsManager::GetDataDir`: the path it returns or the `fs::filesystem_error` it lets out,
and the cache and file system after it. -/
def getDataDir (fe : FsEnv F) (env : ConfigEnv) (s : ArgsManager) (netSpecific : Bool)
    (c : PathCache) (fs : F) : Except FilesystemError Str × PathCache × F :=
  if c.slot netSpecific ≠ [] then (.ok (c.slot netSpecific), c, fs) else
  let datadir := getPathArg env s "-datadir" []
  let path := if datadir ≠ [] then fe.absolute datadir else getDefaultDataDir fe.home
  if datadir ≠ [] ∧ fe.isDirectory fs path = false then (.ok [], c, fs) else
  dataDirAt fe netSpecific path c fs

/-- The end of `GetBlocksDirPath`: `base / BaseParams().DataDir() / "blocks"` in the slot, then
`fs::create_directories` of it. -/
def blocksUnder (fe : FsEnv F) (base : Str) (c : PathCache) (fs : F) :
    Except FilesystemError Str × PathCache × F :=
  let path := pathJoin (pathJoin base fe.chainDataDir) "blocks"
  match fe.createDirectories fs path with
  | (fs, true) => (.ok path, { c with blocks := path }, fs)
  | (fs, false) => (.error ⟨path⟩, { c with blocks := path }, fs)

/-- `ArgsManager::GetBlocksDirPath`: `-blocksdir`, which must be a directory, or the data
directory `GetDataDirBase()`, which util/system.h (not among the sources) defines as
`GetDataDir(false)`; a `fs::filesystem_error` of that call leaves the blocks slot empty. -/
def getBlocksDirPath (fe : FsEnv F) (env : ConfigEnv) (s : ArgsManager) (c : PathCache)
    (fs : F) : Except FilesystemError Str × PathCache × F :=
  if c.blocks ≠ [] then (.ok c.blocks, c, fs) else
  if isArgSet env s "-blocksdir" then
    let path := fe.absolute (getPathArg env s "-blocksdir" [])
    if fe.isDirectory fs path then blocksUnder fe path c fs else (.ok [], c, fs)
  else
    match getDataDir fe env s false c fs with
    | (.ok path, c, fs) => blocksUnder fe path c fs
    | r => r

/-- `ArgsManager::ClearPathCache`. -/
def clearPathCache : PathCache := {}

/-- `CheckDataDirOption`: `-datadir` is unset, or names a directory. -/
def checkDataDirOption (fe : FsEnv F) (env : ConfigEnv) (s : ArgsManager) (fs : F) : Bool :=
  let datadir := getPathArg env s "-datadir" []
  datadir = [] || fe.isDirectory fs (fe.absolute datadir)

theorem pathJoin_ne_nil {p : Str} (q : Str) (hp : p ≠ []) : pathJoin p q ≠ [] := by
  unfold pathJoin
  split_ifs with h
  · rintro rfl; cases h
  all_goals simp [hp]

theorem getDefaultDataDir_ne_nil (home : Option Str) : getDefaultDataDir home ≠ [] := by
  refine pathJoin_ne_nil _ ?_
  split
  · split_ifs with h <;> simp [h]
  · simp

/-! ## One call -/

/-- The calls on the path cache. -/
inductive PathCall where
  | getDataDir (netSpecific : Bool)
  | getBlocksDirPath
  | clearPathCache
  deriving DecidableEq, Repr

/-- The slot a call reads and writes. -/
def PathCall.slot : PathCall → PathCache → Str
  | .getDataDir netSpecific, c => c.slot netSpecific
  | .getBlocksDirPath, c => c.blocks
  | .clearPathCache, _ => []

/-- One call, with the arguments, the chain and the file system it meets: the path it
returns or the exception it lets out, and the cache and file system after it. -/
def pathCall (fe : FsEnv F) (env : ConfigEnv) (s : ArgsManager) (c : PathCache) (fs : F) :
    PathCall → Except FilesystemError Str × PathCache × F
  | .getDataDir netSpecific => getDataDir fe env s netSpecific c fs
  | .getBlocksDirPath => getBlocksDirPath fe env s c fs
  | .clearPathCache => (.ok [], clearPathCache, fs)

@[simp] theorem slot_setSlot (c : PathCache) (b b' : Bool) (p : Str) :
    (c.setSlot b p).slot b' = if b = b' then p else c.slot b' := by
  cases b <;> cases b' <;> rfl

@[simp] theorem blocks_setSlot (c : PathCache) (b : Bool) (p : Str) :
    (c.setSlot b p).blocks = c.blocks := by
  cases b <;> rfl

@[simp] theorem setSlot_setSlot (c : PathCache) (b : Bool) (p q : Str) :
    (c.setSlot b p).setSlot b q = c.setSlot b q := by
  cases b <;> rfl

/-- `slotWallets` leaves its path in the slot, and returns it or throws. -/
theorem slotWallets_spec (fe : FsEnv F) (b : Bool) (p : Str) (c : PathCache) (fs : F) :
    (slotWallets fe b p c fs).2.1 = c.setSlot b p ∧
      ((slotWallets fe b p c fs).1 = .ok p ∨
        (slotWallets fe b p c fs).1 = .error ⟨pathJoin p "wallets"⟩) := by
  unfold slotWallets
  split <;> simp

/-- **What `GetDataDir` does once it has found `path`**: it leaves in the slot `path` or, for
the network's directory, `path / BaseParams().DataDir()`, and returns that path or throws with
it there. -/
theorem dataDirAt_spec (fe : FsEnv F) (b : Bool) (path : Str) (c : PathCache) (fs : F) :
    ∃ p, (p = path ∨ p = pathJoin path fe.chainDataDir) ∧
      (dataDirAt fe b path c fs).2.1 = c.setSlot b p ∧
      ((dataDirAt fe b path c fs).1 = .ok p ∨
        (dataDirAt fe b path c fs).1 = .error ⟨pathJoin p "wallets"⟩) := by
  unfold dataDirAt
  obtain ⟨hc, hr | hr⟩ := slotWallets_spec fe b path c fs <;>
    rcases hw : slotWallets fe b path c fs with ⟨r, c', fs'⟩ <;>
    simp only [hw] at hc hr <;> subst hc hr
  · -- the base directory was made: on to the network's
    dsimp only
    split_ifs
    · obtain ⟨hc₂, hr₂⟩ := slotWallets_spec fe b (pathJoin path fe.chainDataDir) (c.setSlot b path) fs'
      exact ⟨_, .inr rfl, by rw [hc₂, setSlot_setSlot], hr₂⟩
    · exact ⟨path, .inl rfl, rfl, .inl rfl⟩
  · exact ⟨path, .inl rfl, rfl, .inr rfl⟩

/-- `blocksUnder` leaves in the blocks slot the path it returned, and the data-directory slots
as they were. -/
theorem blocksUnder_spec (fe : FsEnv F) (base : Str) (c : PathCache) (fs : F) :
    (∀ p, (blocksUnder fe base c fs).1 = .ok p → (blocksUnder fe base c fs).2.1.blocks = p) ∧
      ∀ b, (blocksUnder fe base c fs).2.1.slot b = c.slot b := by
  unfold blocksUnder
  dsimp only
  split <;> simp [PathCache.slot]

/-- **A filled slot is returned as it is**, and the file system is not touched. -/
theorem getDataDir_hit (fe : FsEnv F) (env : ConfigEnv) (s : ArgsManager) {b : Bool}
    {c : PathCache} (fs : F) (h : c.slot b ≠ []) :
    getDataDir fe env s b c fs = (.ok (c.slot b), c, fs) := by
  rw [getDataDir, if_pos h]

/-- **On an empty slot `GetDataDir` is the `-datadir` check, then `dataDirAt`**: where
`CheckDataDirOption` fails it returns the empty path and changes nothing, and otherwise it
goes on from a path that is empty only if the empty path is a directory. -/
theorem getDataDir_miss (fe : FsEnv F) (env : ConfigEnv) (s : ArgsManager) {b : Bool}
    {c : PathCache} (fs : F) (hslot : c.slot b = []) :
    (checkDataDirOption fe env s fs = false ∧ getDataDir fe env s b c fs = (.ok [], c, fs)) ∨
      (checkDataDirOption fe env s fs = true ∧ ∃ path, (path = [] → fe.isDirectory fs [] = true) ∧
        getDataDir fe env s b c fs = dataDirAt fe b path c fs) := by
  unfold getDataDir checkDataDirOption
  rw [if_neg (not_not.2 hslot)]
  generalize getPathArg env s "-datadir" [] = d
  by_cases hd : d = []
  · refine .inr ⟨by simp [hd], _, fun h => absurd h (getDefaultDataDir_ne_nil fe.home), ?_⟩
    simp [hd]
  · cases hdd : fe.isDirectory fs (fe.absolute d)
    · exact .inl ⟨by simp [hd, hdd], by simp [hd, hdd]⟩
    · exact .inr ⟨by simp [hdd], _, fun h => h ▸ hdd, by simp [hd, hdd]⟩

/-- `GetDataDir(b)` leaves in its slot the path it returned, and fills no other slot. -/
theorem getDataDir_cache (fe : FsEnv F) (env : ConfigEnv) (s : ArgsManager) (b : Bool)
    (c : PathCache) (fs : F) :
    (∀ p, (getDataDir fe env s b c fs).1 = .ok p → (getDataDir fe env s b c fs).2.1.slot b = p) ∧
      (getDataDir fe env s b c fs).2.1.slot (!b) = c.slot (!b) ∧
      (getDataDir fe env s b c fs).2.1.blocks = c.blocks := by
  by_cases h : c.slot b = []
  · rcases getDataDir_miss fe env s fs h with ⟨-, he⟩ | ⟨-, path, -, he⟩ <;> rw [he]
    · exact ⟨fun p hp => (by cases hp; exact h), rfl, rfl⟩
    · obtain ⟨q, -, hc, hr⟩ := dataDirAt_spec fe b path c fs
      refine ⟨fun p hp => ?_, by simp [hc], by simp [hc]⟩
      rcases hr with hr | hr <;> rw [hr] at hp <;> cases hp
      simp [hc]
  · simp only [getDataDir_hit fe env s fs h, Except.ok.injEq, and_self, and_true]
    exact fun _ hp => hp

/-- `GetBlocksDirPath` leaves in its slot the path it returned; the data-directory slots are
as before, or as the `GetDataDir(false)` it called left them. -/
theorem getBlocksDirPath_cache (fe : FsEnv F) (env : ConfigEnv) (s : ArgsManager)
    (c : PathCache) (fs : F) :
    (∀ p, (getBlocksDirPath fe env s c fs).1 = .ok p → (getBlocksDirPath fe env s c fs).2.1.blocks = p) ∧
      ∀ b, (getBlocksDirPath fe env s c fs).2.1.slot b = c.slot b ∨
        (getBlocksDirPath fe env s c fs).2.1.slot b = (getDataDir fe env s false c fs).2.1.slot b := by
  by_cases h : c.blocks ≠ []
  · simp [getBlocksDirPath, if_pos h]
  · simp only [getBlocksDirPath, if_neg h]
    split_ifs
    · exact (blocksUnder_spec fe _ c fs).imp_right fun hs b => .inl (hs b)
    · exact ⟨fun p hp => (by cases hp; exact not_not.1 h), fun _ => .inl rfl⟩
    · rcases hd : getDataDir fe env s false c fs with ⟨_ | path, c', fs'⟩
      · exact ⟨fun _ hp => (by cases hp), fun _ => .inr rfl⟩
      · exact (blocksUnder_spec fe _ c' fs').imp_right fun hs b => .inr (hs b)

/-! ## What a call leaves in the cache -/

/-- **Every call but `ClearPathCache` leaves its slot holding the path it returned.** -/
theorem pathCall_slot (fe : FsEnv F) (env : ConfigEnv) (s : ArgsManager) (c : PathCache)
    (fs : F) (k : PathCall) (p : Str) (h : (pathCall fe env s c fs k).1 = .ok p) :
    k.slot (pathCall fe env s c fs k).2.1 = p := by
  cases k with
  | getDataDir b => exact (getDataDir_cache fe env s b c fs).1 p h
  | getBlocksDirPath => exact (getBlocksDirPath_cache fe env s c fs).1 p h
  | clearPathCache => cases h; rfl

/-- **A filled slot stays as it is** under every call but `ClearPathCache`. -/
theorem pathCall_keeps (fe : FsEnv F) (env : ConfigEnv) (s : ArgsManager) (c : PathCache)
    (fs : F) {k : PathCall} (hk : k ≠ .clearPathCache) (k' : PathCall) (h : k'.slot c ≠ []) :
    k'.slot (pathCall fe env s c fs k).2.1 = k'.slot c := by
  have hdata : ∀ b b', c.slot b' ≠ [] → (getDataDir fe env s b c fs).2.1.slot b' = c.slot b' := by
    intro b b' h'
    by_cases hb : b = b'
    · subst hb; rw [getDataDir_hit fe env s fs h']
    · obtain rfl : b' = !b := by cases b <;> cases b' <;> simp_all
      exact (getDataDir_cache fe env s b c fs).2.1
  cases k with
  | clearPathCache => exact absurd rfl hk
  | getDataDir b =>
    cases k' with
    | getDataDir b' => exact hdata b b' h
    | getBlocksDirPath => exact (getDataDir_cache fe env s b c fs).2.2
    | clearPathCache => rfl
  | getBlocksDirPath =>
    cases k' with
    | getDataDir b' =>
      rcases (getBlocksDirPath_cache fe env s c fs).2 b' with h' | h'
      · exact h'
      · exact h'.trans (hdata false b' h)
    | getBlocksDirPath =>
      have h' : c.blocks ≠ [] := h
      simp [pathCall, PathCall.slot, getBlocksDirPath, if_pos h']
    | clearPathCache => rfl

/-! ## Runs -/

/-- A step of a run: a call, with the arguments, the chain and the file-system functions it
meets, which other code may have changed since the last call. -/
structure PathStep (F : Type) where
  call : PathCall
  fe : FsEnv F
  env : ConfigEnv
  s : ArgsManager

/-- A run of calls: what they returned, with the calls, and the cache and file system at the
end. -/
def pathRun : List (PathStep F) → PathCache → F →
    List (PathCall × Except FilesystemError Str) × PathCache × F
  | [], c, fs => ([], c, fs)
  | st :: rest, c, fs =>
    let r := pathCall st.fe st.env st.s c fs st.call
    let r' := pathRun rest r.2.1 r.2.2
    ((st.call, r.1) :: r'.1, r'.2)

/-- Over a run without `ClearPathCache` a filled slot stays as it is. -/
theorem pathRun_keeps :
    ∀ {steps : List (PathStep F)} {c : PathCache} {fs : F},
      (∀ st ∈ steps, st.call ≠ .clearPathCache) → ∀ k : PathCall, k.slot c ≠ [] →
      k.slot (pathRun steps c fs).2.1 = k.slot c
  | [], _, _, _, _, _ => rfl
  | st :: rest, c, fs, hsteps, k, h => by
    have hk := pathCall_keeps st.fe st.env st.s c fs (hsteps st (List.mem_cons_self _ _)) k h
    exact (pathRun_keeps (fun st' h' => hsteps st' (List.mem_cons_of_mem _ h')) k
      (hk ▸ h)).trans hk

/-- **The cache is coherent**: over a run without `ClearPathCache`, every non-empty path a
call returned is the one its slot holds at the end, whatever the arguments, the chain and
the file system did in between, and whatever calls threw. -/
theorem pathRun_coherent :
    ∀ {steps : List (PathStep F)} {c : PathCache} {fs : F},
      (∀ st ∈ steps, st.call ≠ .clearPathCache) →
      ∀ k p, (k, .ok p) ∈ (pathRun steps c fs).1 → p ≠ [] → p = k.slot (pathRun steps c fs).2.1
  | [], _, _, _, _, _, h, _ => by cases h
  | st :: rest, c, fs, hsteps, k, p, h, hp => by
    have hrest : ∀ st' ∈ rest, st'.call ≠ .clearPathCache :=
      fun st' h' => hsteps st' (List.mem_cons_of_mem _ h')
    simp only [pathRun, List.mem_cons, Prod.mk.injEq] at h ⊢
    rcases h with ⟨rfl, hr⟩ | h
    · have hslot := pathCall_slot st.fe st.env st.s c fs st.call p hr.symm
      rw [pathRun_keeps hrest st.call (by rwa [hslot]), hslot]
    · exact pathRun_coherent hrest k p h hp

/-- A file system of directory names, in which every directory can be made, with
`HOME=/home/u` and the chain's subdirectory `chain`. -/
def listFs (chain : Str) : FsEnv (List Str) where
  absolute := id
  isDirectory := fun fs p => decide (p ∈ fs)
  pathExists := fun fs p => decide (p ∈ fs)
  createDirectories := fun fs p => (p :: fs, true)
  absPathJoin := pathJoin
  home := some "/home/u"
  chainDataDir := chain

/-- Nothing set, and no configuration file. -/
def noArgsEnv : ConfigEnv where
  getSetting := fun _ _ _ _ _ _ => .null
  normalPath := id
  configFile := fun _ => none
  dataDirOk := fun _ => true

/-- Two calls of `GetDataDir(true)` with no `-datadir`, the chain changed from `regtest` to
`testnet3` in between. -/
def chainChangeSteps : List (PathStep (List Str)) :=
  [⟨.getDataDir true, listFs "regtest", noArgsEnv, {}⟩,
    ⟨.getDataDir true, listFs "testnet3", noArgsEnv, {}⟩]

/-- After the chain changed, `GetDataDir(true)` still returns the `regtest` directory, the
one the cache ends with. -/
theorem pathRun_coherent_chain_change :
    (pathRun chainChangeSteps {} []).1 =
        [(PathCall.getDataDir true, .ok "/home/u/.globe/regtest".toList),
          (PathCall.getDataDir true, .ok "/home/u/.globe/regtest".toList)] ∧
      "/home/u/.globe/regtest".toList = (PathCall.getDataDir true).slot (pathRun chainChangeSteps {} []).2.1 :=
  have h : (pathRun chainChangeSteps {} []).1 =
      [(PathCall.getDataDir true, .ok "/home/u/.globe/regtest".toList),
        (PathCall.getDataDir true, .ok "/home/u/.globe/regtest".toList)] := rfl
  ⟨h, pathRun_coherent (by decide) _ _ (by rw [h]; exact List.mem_cons_self _ _) (by decide)⟩

/-! ## An empty slot -/

/-- Where `CheckDataDirOption` holds, `GetDataDir` on an empty slot leaves there a non-empty
path, and returns it or throws with it there. -/
theorem getDataDir_sets (fe : FsEnv F) (env : ConfigEnv) (s : ArgsManager) {b : Bool}
    {c : PathCache} {fs : F} (hslot : c.slot b = []) (hdir : fe.isDirectory fs [] = false)
    (hcheck : checkDataDirOption fe env s fs = true) :
    ∃ p ≠ [], (getDataDir fe env s b c fs).2.1 = c.setSlot b p ∧
      ((getDataDir fe env s b c fs).1 = .ok p ∨
        (getDataDir fe env s b c fs).1 = .error ⟨pathJoin p "wallets"⟩) := by
  rcases getDataDir_miss fe env s fs hslot with ⟨hc, -⟩ | ⟨-, path, hpath, he⟩
  · rw [hc] at hcheck; cases hcheck
  have hpath' : path ≠ [] := fun h => by rw [hpath h] at hdir; cases hdir
  obtain ⟨p, hp, hc, hr⟩ := dataDirAt_spec fe b path c fs
  refine ⟨p, ?_, he ▸ hc, he ▸ hr⟩
  rcases hp with rfl | rfl
  exacts [hpath', pathJoin_ne_nil _ hpath']

/-- **A second call that follows a return returns the same and changes nothing**: a
non-empty path is cached, and the empty one changed nothing. -/
theorem getDataDir_idem (fe : FsEnv F) (env : ConfigEnv) (s : ArgsManager) (b : Bool)
    {c : PathCache} {fs : F} {p : Str} (hdir : fe.isDirectory fs [] = false)
    (h : (getDataDir fe env s b c fs).1 = .ok p) :
    getDataDir fe env s b (getDataDir fe env s b c fs).2.1 (getDataDir fe env s b c fs).2.2 =
      getDataDir fe env s b c fs := by
  have hslot := (getDataDir_cache fe env s b c fs).1 p h
  by_cases hp : p = []
  · subst hp
    have hc : c.slot b = [] := by
      by_contra hc; rw [getDataDir_hit fe env s fs hc] at hslot; exact hc hslot
    rcases getDataDir_miss fe env s fs hc with ⟨-, he⟩ | ⟨hcheck, -⟩
    · rw [he]; exact he
    · obtain ⟨q, hq, -, hr⟩ := getDataDir_sets fe env s hc hdir hcheck
      rcases hr with hr | hr <;> rw [hr] at h <;> cases h
      exact absurd rfl hq
  · rw [getDataDir_hit fe env s _ (by rwa [hslot]), hslot, ← h]

/-- A file system in which no directory can be made. -/
def readOnlyFs : FsEnv (List Str) :=
  { listFs "regtest" with createDirectories := fun fs _ => (fs, false) }

/-- `fs::path::is_absolute` on POSIX: the path starts at the root directory. -/
def isAbsolute (path : Str) : Bool := path.head? == some '/'

/-- `AbsPathForConfigVal(path, net_specific)`, which reads the global `gArgs`, here `g`: an
absolute path as it is, a relative one joined to `gArgs.GetDataDirNet()` or
`gArgs.GetDataDirBase()`, which may fill its cache, make directories and throw. -/
def absPathForConfigVal (fe : FsEnv F) (env : ConfigEnv) (g : ArgsManager) (path : Str)
    (netSpecific : Bool) (c : PathCache) (fs : F) : Except FilesystemError Str × PathCache × F :=
  if isAbsolute path then (.ok path, c, fs) else
  let r := getDataDir fe env g netSpecific c fs
  (r.1.map (fe.absPathJoin · path), r.2.1, r.2.2)

/-- `GetConfigFile`: `AbsPathForConfigVal(path, false)`. -/
def getConfigFile (fe : FsEnv F) (env : ConfigEnv) (g : ArgsManager) (path : Str)
    (c : PathCache) (fs : F) : Except FilesystemError Str × PathCache × F :=
  absPathForConfigVal fe env g path false c fs

/-- The path `GetConfigFile` names once `GetDataDirBase()` is `dir`. -/
def configPathIn (fe : FsEnv F) (dir path : Str) : Str :=
  if isAbsolute path then path else fe.absPathJoin dir path

/-- The environment of `gArgs.ReadConfigFiles` once `gArgs`' data directory is cached as
`dir`, over the file system `fs`: `GetConfigFile` joins a relative name to `dir`, the stream
opens where `files` has lines at that path, and `CheckDataDirOption` reads the manager being
read, `gArgs` itself. -/
def cachedConfigEnv (fe : FsEnv F) (env : ConfigEnv) (files : F → Str → Option (List Str))
    (dir : Str) (fs : F) : ConfigEnv :=
  { env with
    configFile := fun path => files fs (configPathIn fe dir path)
    dataDirOk := fun t => checkDataDirOption fe env t fs }

/-- **On a filled cache `GetConfigFile` is `cachedConfigEnv`'s**: it names the path that
environment opens, whatever `gArgs` holds, and changes neither the cache nor the file
system. So after the first call of a `ReadConfigFiles` run that reached the data directory
and returned, every call meets `cachedConfigEnv` of that directory (`getDataDir_cache`). -/
theorem getConfigFile_cached (fe : FsEnv F) (env : ConfigEnv) (g : ArgsManager) (path : Str)
    {c : PathCache} (fs : F) (hc : c.datadir ≠ []) :
    getConfigFile fe env g path c fs = (.ok (configPathIn fe c.datadir path), c, fs) := by
  unfold getConfigFile absPathForConfigVal configPathIn
  split_ifs
  · rfl
  · rw [getDataDir_hit fe env g fs (b := false) hc]
    rfl

/-! ## After `ReadConfigFiles` -/

/-- `CheckDiskSpace`, given `fs::space(dir).available`: the reserve and the request are
added in `uint64_t`. -/
def checkDiskSpace (available additionalBytes : UInt64) : Bool :=
  let minDiskSpace : UInt64 := 52428800
  decide (available ≥ minDiskSpace + additionalBytes)

/-- `CheckDiskSpace` compares the free bytes with the reserve plus the request, modulo
`2^64` (`UInt64.size`). -/
theorem checkDiskSpace_iff (available additionalBytes : UInt64) :
    checkDiskSpace available additionalBytes = true ↔
      (52428800 + additionalBytes.toNat) % UInt64.size ≤ available.toNat := by
  simp only [checkDiskSpace, decide_eq_true_eq, ge_iff_le, UInt64.le_def]
  rfl

/-- **A request within 50 MiB of `2^64` wraps around**: `CheckDiskSpace` then passes with
fewer free bytes than the request itself. -/
theorem checkDiskSpace_wraps (available additionalBytes : UInt64)
    (h : UInt64.size - 52428800 ≤ additionalBytes.toNat) :
    checkDiskSpace available additionalBytes = true ↔
      additionalBytes.toNat + 52428800 - UInt64.size ≤ available.toNat := by
  have hlt : additionalBytes.toNat < UInt64.size := additionalBytes.val.isLt
  have hsize : UInt64.size = 18446744073709551616 := rfl
  rw [checkDiskSpace_iff, Nat.mod_eq_sub_mod (by omega), Nat.mod_eq_of_lt (by omega)]
  omega

/-- A request of `2^64 - 1` bytes passes with 52428799 bytes free, less than the reserve. -/
theorem checkDiskSpace_wraps_max :
    checkDiskSpace 52428799 18446744073709551615 = true :=
  (checkDiskSpace_wraps 52428799 18446744073709551615 (by decide)).2 (by decide)

end GlobeUtil
