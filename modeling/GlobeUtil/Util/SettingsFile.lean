import GlobeUtil.Util.DataDir

/-!
# The settings file

`settings.json` holds the read-write settings (`rw_settings`). `GetSettingsPath` names it:
`-settings` (default `settings.json`), with `.bak` for a backup and `.tmp` for the file
written first, joined to `GetDataDirNet()`. `ReadSettingsFile` replaces `rw_settings` by
what `util::ReadSettings` reads, `WriteSettingsFile` writes the temporary file and renames
it over the settings file, and `InitSettings` reads and then writes.

The settings file is disabled exactly by `-nosettings` (`settingsDisabled_iff`). The two
paths `WriteSettingsFile` asks `GetSettingsPath` for share one data directory
(`settingsPaths_same_dir`): the second `GetDataDirNet()` returns what the first did, from
the cache or because the first changed nothing (`getDataDir_idem`), so the rename stays in
one directory. `GetSettingsPath` lets out the `fs::filesystem_error` of `GetDataDirNet()`,
before `ReadSettingsFile` or `WriteSettingsFile` has changed anything. `InitSettings` checks
that the file is enabled before reading, but `WriteSettingsFile` checks again after: where
the values read disable the settings file, its `std::logic_error` leaves `InitSettings`
(`initSettings_throw_iff`). Once the data directory is found it is cached, so the
`ReadSettingsFile` after a `WriteSettingsFile` reads the file the rename wrote: the settings
survive the round trip (`writeSettingsFile_readSettingsFileAt`), for every file system whose
reads, writes and renames keep their promises (`SettingsIo.RoundTrips`).

## Main definitions

* `SettingsIo`: what the settings-file members reach outside util/system.cpp
* `getSettingsPath`, `settingsPaths`: `GetSettingsPath`, once and as `WriteSettingsFile`
  calls it
* `readSettingsFileAt`, `writeSettingsFile`, `initSettings`
* `SettingsIo.RoundTrips`: what a file system promises of reads, writes and renames

## Main results

* `settingsDisabled_iff`: only `-nosettings` disables the settings file
* `readSettingsFileAt_state`: the reader refines `readSettingsFile`
* `settingsPaths_same_dir`: the temporary file is written next to the settings file
* `initSettings_throw_iff`: when `InitSettings` throws its `std::logic_error`
* `writeSettingsFile_readSettingsFileAt`: what `WriteSettingsFile` wrote, `ReadSettingsFile`
  reads back
-/

namespace GlobeUtil

variable {F : Type}

/-- `GLOBE_SETTINGS_FILENAME`. -/
def globeSettingsFilename : Str := "settings.json"

/-- `MakeUnorderedList` of util/string.h, which is not among the sources: the items, each
after `- `, one per line. -/
def makeUnorderedList (items : List Str) : Str :=
  "\n".toList.intercalate (items.map ("- ".toList ++ ·))

/-- What the settings-file members reach outside util/system.cpp, over file systems `F`. -/
structure SettingsIo (F : Type) where
  /-- `util::ReadSettings` (util/settings.cpp, not among the sources): the values it leaves,
  its errors, and whether it succeeded. -/
  readSettings : F → Str → StrMap SettingsValue × List Str × Bool
  /-- `util::WriteSettings`: the file system after it, its errors, and whether it
  succeeded. -/
  writeSettings : F → Str → StrMap SettingsValue → F × List Str × Bool
  /-- `fs::rename` in `RenameOver`: the file system after it, and whether no error was
  set. -/
  renameOver : F → Str → Str → F × Bool

section SettingsFile

variable (io : SettingsIo F) (fe : FsEnv F) (env : ConfigEnv) (s : ArgsManager)

/-- `GetSettingsPath()` without a path to fill: the settings file is disabled. -/
def settingsDisabled : Bool :=
  getPathArg env s "-settings" globeSettingsFilename = []

/-- The name `GetSettingsPath` joins to the data directory: `-settings`, with `.bak` for a
backup and then `.tmp` for the temporary file. -/
def settingsFileName (temp backup : Bool) : Str :=
  let settings := getPathArg env s "-settings" globeSettingsFilename
  let settings := if backup then settings ++ ".bak".toList else settings
  if temp then settings ++ ".tmp".toList else settings

/-- `ArgsManager::GetSettingsPath(&filepath, temp, backup)`: the path, or `none` where the
settings file is disabled; `GetDataDirNet()`, which util/system.h (not among the sources)
defines as `GetDataDir(true)`, may fill the cache, make directories and throw. -/
def getSettingsPath (temp backup : Bool) (c : PathCache) (fs : F) :
    Except FilesystemError (Option Str) × PathCache × F :=
  if settingsDisabled env s then (.ok none, c, fs) else
  let r := getDataDir fe env s true c fs
  (r.1.map fun dir => some (fe.absPathJoin dir (settingsFileName env s temp backup)), r.2.1, r.2.2)

/-- `ArgsManager::ReadSettingsFile(&errors)`: whether it succeeded, the errors it saved, and
the manager, or the exception of `GetSettingsPath`, which comes before any change; with the
cache and file system after it. -/
def readSettingsFileAt (c : PathCache) (fs : F) :
    Except FilesystemError (Bool × List Str × ArgsManager) × PathCache × F :=
  match getSettingsPath fe env s false false c fs with
  | (.error e, c, fs) => (.error e, c, fs)
  | (.ok none, c, fs) => (.ok (true, [], s), c, fs)
  | (.ok (some path), c, fs) =>
    let (values, readErrors, ok) := io.readSettings fs path
    (.ok (ok, if ok then [] else readErrors, { s with settings.rwSettings := values }), c, fs)

/-- The condition of `WriteSettingsFile`: `GetSettingsPath(&path, false, backup)`, then, if it
found a path, `GetSettingsPath(&path_tmp, true, backup)`. -/
def settingsPaths (backup : Bool) (c : PathCache) (fs : F) :
    Except FilesystemError (Option (Str × Str)) × PathCache × F :=
  match getSettingsPath fe env s false backup c fs with
  | (.error e, c, fs) => (.error e, c, fs)
  | (.ok none, c, fs) => (.ok none, c, fs)
  | (.ok (some path), c, fs) =>
    match getSettingsPath fe env s true backup c fs with
    | (.error e, c, fs) => (.error e, c, fs)
    | (.ok none, c, fs) => (.ok none, c, fs)
    | (.ok (some pathTmp), c, fs) => (.ok (some (path, pathTmp)), c, fs)

/-- `ArgsManager::WriteSettingsFile(&errors, backup)`: the exception of `GetSettingsPath`, or
the `std::logic_error` as `.ok (.error what)`, or whether it succeeded and the errors it
saved; with the cache and the file system after it. -/
def writeSettingsFile (backup : Bool) (c : PathCache) (fs : F) :
    Except FilesystemError (Except Str (Bool × List Str)) × PathCache × F :=
  match settingsPaths fe env s backup c fs with
  | (.error e, c, fs) => (.error e, c, fs)
  | (.ok none, c, fs) =>
    (.ok (.error "Attempt to write settings file when dynamic settings are disabled."), c, fs)
  | (.ok (some (path, pathTmp)), c, fs) =>
    let (fs, writeErrors, ok) := io.writeSettings fs pathTmp s.settings.rwSettings
    if !ok then (.ok (.ok (false, writeErrors)), c, fs) else
    let (fs, renamed) := io.renameOver fs pathTmp path
    if !renamed then
      (.ok (.ok (false, ["Failed renaming settings file ".toList ++ pathTmp ++ " to ".toList ++
        path ++ "\n".toList])), c, fs)
    else (.ok (.ok (true, [])), c, fs)

/-- `ArgsManager::InitSettings`: the exception of a `GetSettingsPath`, or how it ended:
`.fail` carries the `error` it writes, `.throw` the `std::logic_error` of
`WriteSettingsFile`. -/
def initSettings (c : PathCache) (fs : F) :
    Except FilesystemError (Ret ArgsManager) × PathCache × F :=
  if settingsDisabled env s then (.ok (.ok s), c, fs) else
  match readSettingsFileAt io fe env s c fs with
  | (.error e, c, fs) => (.error e, c, fs)
  | (.ok (readOk, errors, s), c, fs) =>
    if !readOk then
      (.ok (.fail ("Failed loading settings file:\n".toList ++ makeUnorderedList errors ++
        "\n".toList) s), c, fs)
    else
      match writeSettingsFile io fe env s false c fs with
      | (.error e, c, fs) => (.error e, c, fs)
      | (.ok (.error what), c, fs) => (.ok (.throw what s), c, fs)
      | (.ok (.ok (false, writeErrors)), c, fs) =>
        (.ok (.fail ("Failed saving settings file:\n".toList ++
          makeUnorderedList (errors ++ writeErrors) ++ "\n".toList) s), c, fs)
      | (.ok (.ok (true, _)), c, fs) => (.ok (.ok s), c, fs)

/-! ### Sample environments -/

/-- A settings file that reads as `values`, and is written and renamed without error. -/
def constSettingsIo (values : StrMap SettingsValue) : SettingsIo (List Str) where
  readSettings := fun _ _ => (values, [], true)
  writeSettings := fun fs _ _ => (fs, [], true)
  renameOver := fun fs _ _ => (fs, true)

/-- A `util::GetSetting` that reads the settings file alone. -/
def rwSettingsEnv : ConfigEnv where
  getSetting := fun st _ name _ _ _ => (st.rwSettings.find? name).getD .null
  normalPath := id
  configFile := fun _ => none
  dataDirOk := fun _ => true

/-! ### What each call does -/

variable {io fe env s}

theorem getSettingsPath_disabled {temp backup : Bool} {c : PathCache} {fs : F}
    (hd : settingsDisabled env s = true) :
    getSettingsPath fe env s temp backup c fs = (.ok none, c, fs) := by
  rw [getSettingsPath, if_pos hd]

theorem getSettingsPath_enabled {temp backup : Bool} {c : PathCache} {fs : F}
    (hd : settingsDisabled env s = false) :
    getSettingsPath fe env s temp backup c fs =
      ((getDataDir fe env s true c fs).1.map
          fun dir => some (fe.absPathJoin dir (settingsFileName env s temp backup)),
        (getDataDir fe env s true c fs).2.1, (getDataDir fe env s true c fs).2.2) := by
  rw [getSettingsPath, if_neg (by simp [hd])]

/-- `WriteSettingsFile` finds no path exactly when the settings file is disabled. -/
theorem settingsPaths_none_iff {backup : Bool} {c : PathCache} {fs : F} :
    (settingsPaths fe env s backup c fs).1 = .ok none ↔ settingsDisabled env s = true := by
  cases hd : settingsDisabled env s
  · simp only [settingsPaths, getSettingsPath_enabled hd, Bool.false_eq_true, iff_false]
    rcases hr : getDataDir fe env s true c fs with ⟨_ | _, c', fs'⟩
    · simp [Except.map]
    · rcases hr' : getDataDir fe env s true c' fs' with ⟨_ | _, c'', fs''⟩ <;> simp [Except.map, hr']
  · simp [settingsPaths, getSettingsPath_disabled hd]

/-- Where `WriteSettingsFile` found its two paths, the settings file is enabled and the first
`GetDataDirNet()` returned. -/
theorem settingsPaths_some {backup : Bool} {c : PathCache} {fs : F} {path pathTmp : Str}
    (h : (settingsPaths fe env s backup c fs).1 = .ok (some (path, pathTmp))) :
    settingsDisabled env s = false ∧ ∃ dir, (getDataDir fe env s true c fs).1 = .ok dir := by
  cases hd : settingsDisabled env s
  · refine ⟨rfl, ?_⟩
    rcases hr : (getDataDir fe env s true c fs).1 with e | dir
    · simp [settingsPaths, getSettingsPath_enabled hd, hr, Except.map] at h
    · exact ⟨dir, rfl⟩
  · simp [settingsPaths, getSettingsPath_disabled hd] at h

/-- **The temporary file is written next to the settings file**: both paths join one data
directory, to the settings file's name and that name with `.tmp`. -/
theorem settingsPaths_same_dir {backup : Bool} {c : PathCache} {fs : F} {path pathTmp : Str}
    (hdir : fe.isDirectory fs [] = false)
    (h : (settingsPaths fe env s backup c fs).1 = .ok (some (path, pathTmp))) :
    ∃ dir name, path = fe.absPathJoin dir name ∧
      pathTmp = fe.absPathJoin dir (name ++ ".tmp".toList) := by
  obtain ⟨hd, dir, hr⟩ := settingsPaths_some h
  simp only [settingsPaths, getSettingsPath_enabled hd, getDataDir_idem fe env s true hdir hr, hr,
    Except.map, Except.ok.injEq, Option.some.injEq, Prod.mk.injEq] at h
  exact ⟨dir, settingsFileName env s false backup, h.1.symm, h.2.symm⟩

/-- With no `-datadir`, the settings file and its temporary file are both in
`/home/u/.globe/regtest`. -/
theorem settingsPaths_same_dir_regtest :
    ∃ dir name, "/home/u/.globe/regtest/settings.json".toList = pathJoin dir name ∧
      "/home/u/.globe/regtest/settings.json.tmp".toList = pathJoin dir (name ++ ".tmp".toList) :=
  @settingsPaths_same_dir _ (listFs "regtest") rwSettingsEnv {} false {} [] _ _ rfl rfl

/-- `WriteSettingsFile` throws its `std::logic_error` exactly when the settings file is
disabled. -/
theorem writeSettingsFile_logicError_iff {backup : Bool} {c : PathCache} {fs : F} {what : Str} :
    (writeSettingsFile io fe env s backup c fs).1 = .ok (.error what) ↔
      settingsDisabled env s = true ∧
        what = "Attempt to write settings file when dynamic settings are disabled.".toList := by
  rw [← settingsPaths_none_iff]
  unfold writeSettingsFile
  rcases settingsPaths fe env s backup c fs with ⟨_ | _ | ⟨path, pathTmp⟩, c', fs'⟩
  · exact iff_of_false (fun h => by cases h) fun h => by cases h.1
  · constructor
    · intro h; cases h; exact ⟨rfl, rfl⟩
    · rintro ⟨-, rfl⟩; rfl
  · simp only [Except.ok.injEq, Option.some.injEq, reduceCtorEq, false_and, iff_false]
    split_ifs <;> simp

/-- `ReadSettingsFile` as `readSettingsFile` of the lookups has it, given what
`util::ReadSettings` did at the path `GetSettingsPath` found. -/
theorem readSettingsFileAt_state {c : PathCache} {fs : F} :
    (readSettingsFileAt io fe env s c fs).1.map (fun r => (r.1, r.2.2)) =
      (getSettingsPath fe env s false false c fs).1.map fun path =>
        readSettingsFile (path.map fun path =>
          ((io.readSettings (getSettingsPath fe env s false false c fs).2.2 path).1,
            (io.readSettings (getSettingsPath fe env s false false c fs).2.2 path).2.2)) s := by
  unfold readSettingsFileAt
  rcases getSettingsPath fe env s false false c fs with ⟨_ | _ | path, c', fs'⟩ <;> rfl

/-- A `ReadSettingsFile` that succeeded saved no errors. -/
theorem readSettingsFileAt_ok_nil {c : PathCache} {fs : F} {errors : List Str}
    {s₁ : ArgsManager} (h : (readSettingsFileAt io fe env s c fs).1 = .ok (true, errors, s₁)) :
    errors = [] := by
  unfold readSettingsFileAt at h
  split at h
  · cases h
  · cases h; rfl
  · generalize io.readSettings _ _ = r at h
    obtain ⟨values, readErrors, ok⟩ := r
    simp only [Except.ok.injEq, Prod.mk.injEq] at h
    obtain ⟨rfl, rfl, -⟩ := h
    rfl

/-- **`InitSettings` throws its `std::logic_error` exactly when the values it read disable the
settings file**: the file was enabled and read, and `WriteSettingsFile` then finds it
disabled. -/
theorem initSettings_throw_iff {c : PathCache} {fs : F} {what : Str} {s' : ArgsManager} :
    (initSettings io fe env s c fs).1 = .ok (.throw what s') ↔
      settingsDisabled env s = false ∧ (readSettingsFileAt io fe env s c fs).1 = .ok (true, [], s') ∧
        settingsDisabled env s' = true ∧
        what = "Attempt to write settings file when dynamic settings are disabled.".toList := by
  unfold initSettings
  cases hd : settingsDisabled env s
  · rcases hr : readSettingsFileAt io fe env s c fs with ⟨_ | ⟨_ | _, errors, s₁⟩, c₁, fs₁⟩
    · simp
    · simp
    · have hnil := readSettingsFileAt_ok_nil (congrArg Prod.fst hr)
      subst hnil
      simp only [Bool.not_true, Bool.false_eq_true, if_false, true_and, Except.ok.injEq,
        Prod.mk.injEq]
      have herr := @writeSettingsFile_logicError_iff _ io fe env s₁ false c₁ fs₁ what
      rcases hw : writeSettingsFile io fe env s₁ false c₁ fs₁ with ⟨_ | what' | ⟨_ | _, _⟩, c₂, fs₂⟩ <;>
        rw [hw] at herr
      pick_goal 2
      · -- the write's logic error is the throw
        simp only [Except.ok.injEq, Except.error.injEq, Ret.throw.injEq] at herr ⊢
        constructor
        · rintro ⟨rfl, rfl⟩; exact ⟨rfl, herr.1 rfl⟩
        · rintro ⟨rfl, h⟩; exact ⟨herr.2 h, rfl⟩
      all_goals
        exact iff_of_false (fun h => by cases h) fun ⟨hs, h⟩ => by subst hs; cases herr.2 h
  · exact iff_of_false (fun h => by cases h) fun ⟨h, _⟩ => by cases h

/-- A settings file holding `"settings": false` makes `InitSettings` throw. -/
theorem initSettings_throw_iff_settings_false :
    (initSettings (constSettingsIo [("settings", .bool false)]) (listFs "regtest") rwSettingsEnv {}
        {} []).1 =
      .ok (.throw "Attempt to write settings file when dynamic settings are disabled."
        { settings := { rwSettings := [("settings", .bool false)] } }) :=
  initSettings_throw_iff.2 ⟨rfl, rfl, rfl, rfl⟩

/-! ### The round trip -/

/-- Once `GetDataDirNet()` has returned a non-empty path, `GetSettingsPath` joins it to the
file's name without looking at the file system again. -/
theorem getSettingsPath_cached {c : PathCache} {fs : F} {dir : Str}
    (hd : settingsDisabled env s = false) (hr : (getDataDir fe env s true c fs).1 = .ok dir)
    (hne : dir ≠ []) (temp backup : Bool) (fs₂ : F) :
    getSettingsPath fe env s temp backup (getDataDir fe env s true c fs).2.1 fs₂ =
      (.ok (some (fe.absPathJoin dir (settingsFileName env s temp backup))),
        (getDataDir fe env s true c fs).2.1, fs₂) := by
  have hslot := (getDataDir_cache fe env s true c fs).1 dir hr
  rw [getSettingsPath_enabled hd, getDataDir_hit fe env s fs₂ (by rwa [hslot]), hslot]
  rfl

/-- Where the data directory is found, `WriteSettingsFile` writes the settings file's name
with `.tmp` and renames it to the settings file's name, in that directory. -/
theorem settingsPaths_eq {backup : Bool} {c : PathCache} {fs : F} {dir : Str}
    (hd : settingsDisabled env s = false) (hr : (getDataDir fe env s true c fs).1 = .ok dir)
    (hne : dir ≠ []) :
    settingsPaths fe env s backup c fs =
      (.ok (some (fe.absPathJoin dir (settingsFileName env s false backup),
          fe.absPathJoin dir (settingsFileName env s true backup))),
        (getDataDir fe env s true c fs).2.1, (getDataDir fe env s true c fs).2.2) := by
  rw [settingsPaths, getSettingsPath_enabled hd, hr]
  dsimp only [Except.map]
  rw [getSettingsPath_cached hd hr hne]

/-- What `util::WriteSettings`, `fs::rename` and `util::ReadSettings` promise of a file
system: a file written without error reads back as what was written, and a file renamed
without error reads at its new path as it read at its old one. -/
structure SettingsIo.RoundTrips (io : SettingsIo F) : Prop where
  read_write : ∀ fs path values, (io.writeSettings fs path values).2.2 = true →
    io.readSettings (io.writeSettings fs path values).1 path = (values, [], true)
  read_rename : ∀ fs src dest, (io.renameOver fs src dest).2 = true →
    io.readSettings (io.renameOver fs src dest).1 dest = io.readSettings fs src

/-- What a `WriteSettingsFile` that succeeded did: it found its two paths, wrote the settings
to the temporary one and renamed it over the settings file. -/
theorem writeSettingsFile_ok_true {backup : Bool} {c c' : PathCache} {fs fs' : F}
    {errors : List Str}
    (h : writeSettingsFile io fe env s backup c fs = (.ok (.ok (true, errors)), c', fs')) :
    ∃ path pathTmp fsPaths,
      settingsPaths fe env s backup c fs = (.ok (some (path, pathTmp)), c', fsPaths) ∧
      (io.writeSettings fsPaths pathTmp s.settings.rwSettings).2.2 = true ∧
      io.renameOver (io.writeSettings fsPaths pathTmp s.settings.rwSettings).1 pathTmp path =
        (fs', true) := by
  unfold writeSettingsFile at h
  rcases hp : settingsPaths fe env s backup c fs with ⟨_ | _ | ⟨path, pathTmp⟩, c₁, fs₁⟩ <;>
    rw [hp] at h
  · cases h
  · cases h
  · rcases hw : io.writeSettings fs₁ pathTmp s.settings.rwSettings with ⟨fs₂, _, _ | _⟩ <;>
      rcases hrn : io.renameOver fs₂ pathTmp path with ⟨fs₃, _ | _⟩ <;>
      simp only [hw, hrn, Bool.not_false, Bool.not_true, if_true, if_false, Prod.mk.injEq,
        Except.ok.injEq, Bool.false_eq_true, false_and, reduceCtorEq] at h
    obtain ⟨-, rfl, rfl⟩ := h
    exact ⟨path, pathTmp, fs₁, rfl, by rw [hw], by rw [hw]; exact hrn⟩

/-- **The settings file round trip**: after a `WriteSettingsFile` that succeeded, the next
`ReadSettingsFile` succeeds and leaves the manager as it was, so the read-write settings
survive a write and a read; where the file operations keep their promises and the data
directory was found. -/
theorem writeSettingsFile_readSettingsFileAt (hio : io.RoundTrips) {c c' : PathCache}
    {fs fs' : F} {errors : List Str} (hr : (getDataDir fe env s true c fs).1 ≠ .ok [])
    (h : writeSettingsFile io fe env s false c fs = (.ok (.ok (true, errors)), c', fs')) :
    (readSettingsFileAt io fe env s c' fs').1 = .ok (true, [], s) := by
  obtain ⟨path, pathTmp, fsPaths, hp, hw, hrn⟩ := writeSettingsFile_ok_true h
  obtain ⟨hd, dir, hdir⟩ := settingsPaths_some (congrArg Prod.fst hp)
  have hne : dir ≠ [] := by rintro rfl; exact hr hdir
  rw [settingsPaths_eq hd hdir hne] at hp
  obtain ⟨⟨rfl, rfl⟩, rfl, rfl⟩ := by
    simpa only [Prod.mk.injEq, Except.ok.injEq, Option.some.injEq] using hp
  have hread := (hio.read_rename _ _ _ (congrArg Prod.snd hrn)).trans (hio.read_write _ _ _ hw)
  rw [hrn] at hread
  rw [readSettingsFileAt, getSettingsPath_cached hd hdir hne]
  simp only [hread, if_true]

end SettingsFile

/-! ### A file system of settings files -/

/-- A file system: its directories, and the settings each settings file holds. -/
structure MemFs where
  dirs : List Str := []
  files : StrMap (StrMap SettingsValue) := []

/-- `listFs` on the directories of a `MemFs`. -/
def memFs (chain : Str) : FsEnv MemFs where
  absolute := id
  isDirectory := fun fs p => decide (p ∈ fs.dirs)
  pathExists := fun fs p => decide (p ∈ fs.dirs)
  createDirectories := fun fs p => ({ fs with dirs := p :: fs.dirs }, true)
  absPathJoin := pathJoin
  home := some "/home/u"
  chainDataDir := chain

/-- Settings files kept in a `MemFs`: a missing file reads as no settings, as
`util::ReadSettings` has it; renaming a missing file fails. -/
def memSettingsIo : SettingsIo MemFs where
  readSettings := fun fs path => ((fs.files.find? path).getD [], [], true)
  writeSettings := fun fs path values =>
    ({ fs with files := fs.files.modify path fun _ => values }, [], true)
  renameOver := fun fs src dest =>
    match fs.files.find? src with
    | some values => ({ fs with files := (fs.files.erase src).modify dest fun _ => values }, true)
    | none => (fs, false)

theorem memSettingsIo_roundTrips : memSettingsIo.RoundTrips where
  read_write fs path values _ := by simp [memSettingsIo]
  read_rename fs src dest h := by
    simp only [memSettingsIo] at h ⊢
    split at h
    · next values hv => simp [hv]
    · cases h

/-- A manager whose settings file holds `walletrbf = true`. -/
def rbfSettings : ArgsManager := { settings := { rwSettings := [("walletrbf", .bool true)] } }

/-- The settings `WriteSettingsFile` writes into an empty file system are read back. -/
theorem writeSettingsFile_readSettingsFileAt_rbf :
    (readSettingsFileAt memSettingsIo (memFs "regtest") rwSettingsEnv rbfSettings
        (writeSettingsFile memSettingsIo (memFs "regtest") rwSettingsEnv rbfSettings false {} {}).2.1
        (writeSettingsFile memSettingsIo (memFs "regtest") rwSettingsEnv rbfSettings false {} {}).2.2).1 =
      .ok (true, [], rbfSettings) :=
  @writeSettingsFile_readSettingsFileAt _ memSettingsIo (memFs "regtest") rwSettingsEnv rbfSettings
    memSettingsIo_roundTrips {} _ {} _ [] (by intro h; cases h) rfl

end GlobeUtil
