import GlobeUtil.Args.Lookup
import GlobeUtil.Args.Parse
import GlobeUtil.Config.Options

/-!
# Reading the configuration files

`ReadConfigStream` stores the options of one stream in `ro_config`, under the section and
name `InterpretKey` finds in each key; `ReadConfigFiles` clears `ro_config`, reads the main
configuration file, then the files its `includeconf` values name, and warns about the
`includeconf` values the included files add.

`ReadConfigFiles` reaches outside util/system.cpp through `ConfigEnv`: the merge of the
settings sources, path normalisation, the file system and the data-directory check.
Everything else is modelled from the code.

## Main definitions

* `readConfigStream`: `ArgsManager::ReadConfigStream`
* `addIncludes`, `readIncludes`, `readConfigFiles`: `ArgsManager::ReadConfigFiles`
* `ConfigFilesRun`: the ways a run of `ReadConfigFiles` can go
* `ConfigInv`: registered names are dot-free and sections that hold settings are recorded

## Main results

* `readConfigFiles_run`: every run goes one of the ways `ConfigFilesRun` lists
* `readConfigStream_inv`, `readConfigFiles_holds`: what reading keeps
* `readConfigFiles_abort`: the assertion stops the process only on a command-line
  `includeconf` list whose last value is not a negation
* `includeconf_assert_holds`: after a successful parse it never does
-/

namespace GlobeUtil

/-! ## One stream -/

/-- `m_settings.ro_config[section][name].push_back(value)`. -/
def pushConfig (sec name : Str) (v : SettingsValue) (s : ArgsManager) : ArgsManager :=
  { s with settings.roConfig :=
      StrMap.modify sec (fun m => StrMap.push name v (m.getD [])) s.settings.roConfig }

/-- The loop of `ReadConfigStream` over the options `GetConfigOptions` returned: store each
known key, skip or refuse an unknown one. -/
def storeOptions (ignoreInvalidKeys : Bool) : List (Str × Str) → ArgsManager → Ret ArgsManager
  | [], s => .ok s
  | (name, value) :: rest, s =>
    match getArgFlags s ('-' :: (interpretKey name).name) with
    | some flags =>
      match interpretValue (interpretKey name) (some value) flags with
      | .error e => .fail e s
      | .ok v => storeOptions ignoreInvalidKeys rest
          (pushConfig (interpretKey name).sectionName (interpretKey name).name v s)
    | none =>
      if ignoreInvalidKeys then storeOptions ignoreInvalidKeys rest s
      else .fail ("Invalid configuration value ".toList ++ name) s

/-- `ArgsManager::ReadConfigStream`: parse the stream into `m_config_sections` and a list of
options, then store the options. -/
def readConfigStream (lines : List Str) (filepath : Str) (ignoreInvalidKeys : Bool)
    (s : ArgsManager) : Ret ArgsManager :=
  let r := getConfigOptions lines filepath { sections := s.configSections }
  if r.1 then storeOptions ignoreInvalidKeys r.2.options { s with configSections := r.2.sections }
  else .fail r.2.error { s with configSections := r.2.sections }

/-! ## The main file and its includes -/

/-- The `add_includes` lambda of `ReadConfigFiles`: the `includeconf` values of one section
from `max(skip, negated())` on, as strings (`get_str` throws on any other value), and the
number of values the section holds. -/
def addIncludes (s : ArgsManager) (network : Str) (skip : Nat) : Except Str (List Str × Nat) :=
  match s.settings.roConfig.find? network with
  | some sec =>
    match sec.find? "includeconf" with
    | some values => do
      let names ← (values.drop (max skip (negated values))).mapM SettingsValue.getStr
      return (names, values.length)
    | none => .ok ([], 0)
  | none => .ok ([], 0)

/-- The loop of `ReadConfigFiles` over the included files, each of which must open and
read; with the files it opened, in order. -/
def readIncludes (env : ConfigEnv) (ignoreInvalidKeys : Bool) :
    List Str → ArgsManager → Ret ArgsManager × List Str
  | [], s => (.ok s, [])
  | name :: rest, s =>
    match env.configFile name with
    | some lines =>
      match readConfigStream lines name ignoreInvalidKeys s with
      | .ok s' =>
        let r := readIncludes env ignoreInvalidKeys rest s'
        (r.1, name :: r.2)
      | r => (r, [name])
    | none => (.fail ("Failed to include configuration file ".toList ++ name) s, [name])

/-- The second pass of `ReadConfigFiles`: the `includeconf` values the included files added
to the chain's section and the default section, and all those of the final chain's section
when the included files changed the chain. -/
def recursiveIncludes (env : ConfigEnv) (s : ArgsManager) (chainId : Str)
    (chainIncludes defaultIncludes : Nat) : Except Str (List Str) := do
  let (chainNames, _) ← addIncludes s chainId chainIncludes
  let (defaultNames, _) ← addIncludes s [] defaultIncludes
  let chainIdFinal ← getChainName env s
  if chainIdFinal ≠ chainId then
    let (finalNames, _) ← addIncludes s chainIdFinal 0
    return chainNames ++ defaultNames ++ finalNames
  else return chainNames ++ defaultNames

/-- The warning `ReadConfigFiles` prints for an `includeconf` value of an included file. -/
def includeWarning (name : Str) : Str :=
  "warning: -includeconf cannot be used from included files; ignoring -includeconf=".toList ++ name

/-- What `ReadConfigFiles` does: how it ends, the included files it opened, and the warnings
it printed. -/
structure ConfigRead where
  ret : Ret ArgsManager
  opened : List Str := []
  warnings : List Str := []

/-- The end of `ReadConfigFiles`: the data-directory check. -/
def checkDataDir (env : ConfigEnv) (s : ArgsManager) : Ret ArgsManager :=
  if env.dataDirOk s then .ok s
  else .fail ("specified data directory \"".toList ++ getArg env s "-datadir" [] ++
    "\" does not exist.".toList) s

/-- The `includeconf` part of `ReadConfigFiles`, after the main file: open the includes of the
chain's section, then of the default section, then warn about what they added. -/
def includeConfFiles (env : ConfigEnv) (ignoreInvalidKeys : Bool) (s : ArgsManager) :
    ConfigRead :=
  match getChainName env s >>= fun chainId =>
      addIncludes s chainId 0 >>= fun c => addIncludes s [] 0 >>= fun d => pure (chainId, c, d) with
  | .error e => { ret := .throw e s }
  | .ok (chainId, (chainNames, chainIncludes), (defaultNames, defaultIncludes)) =>
    match readIncludes env ignoreInvalidKeys (chainNames ++ defaultNames) s with
    | (.ok s', opened) =>
      match recursiveIncludes env s' chainId chainIncludes defaultIncludes with
      | .error e => { ret := .throw e s', opened := opened }
      | .ok names =>
        { ret := checkDataDir env s', opened := opened, warnings := names.map includeWarning }
    | (r, opened) => { ret := r, opened := opened }

/-- The first block of `ReadConfigFiles`: clear `ro_config` and `m_config_sections`. -/
def clearConfig (s : ArgsManager) : ArgsManager :=
  { s with settings.roConfig := [], configSections := [] }

/-- `ArgsManager::ReadConfigFiles`. -/
def readConfigFiles (env : ConfigEnv) (ignoreInvalidKeys : Bool) (s : ArgsManager) :
    ConfigRead :=
  let s := clearConfig s
  let confPath := getPathArg env s "-conf" "globe.conf"
  match env.configFile confPath with
  | none =>
    if isArgSet env s "-conf" then
      { ret := .fail ("specified config file \"".toList ++ confPath ++
          "\" could not be opened.".toList) s }
    else { ret := checkDataDir env s }
  | some lines =>
    match readConfigStream lines confPath ignoreInvalidKeys s with
    | .ok s =>
      match s.settings.commandLineOptions.find? "includeconf" with
      | some includes =>
        if lastNegated includes then { ret := checkDataDir env s } else { ret := .abort }
      | none => includeConfFiles env ignoreInvalidKeys s
    | r => { ret := r }

/-! ## What a run of `ReadConfigFiles` does -/

/-- The ways a run of `ReadConfigFiles` can go, with what it returns: the main file does not
open, where `-conf` names it or not; it opens and fails to read; or it is read, and then a
command-line `includeconf` list ends the run with the data-directory check or with the
assertion, or its absence leads on to the included files. -/
inductive ConfigFilesRun (env : ConfigEnv) (ignoreInvalidKeys : Bool) (s : ArgsManager) :
    ConfigRead → Prop
  | confMissing :
      env.configFile (getPathArg env (clearConfig s) "-conf" "globe.conf") = none →
      isArgSet env (clearConfig s) "-conf" = true →
      ConfigFilesRun env ignoreInvalidKeys s
        { ret := .fail ("specified config file \"".toList ++
            getPathArg env (clearConfig s) "-conf" "globe.conf" ++ "\" could not be opened.".toList)
            (clearConfig s) }
  | noConf :
      env.configFile (getPathArg env (clearConfig s) "-conf" "globe.conf") = none →
      isArgSet env (clearConfig s) "-conf" = false →
      ConfigFilesRun env ignoreInvalidKeys s { ret := checkDataDir env (clearConfig s) }
  | mainFails {lines : List Str} {r : Ret ArgsManager} :
      env.configFile (getPathArg env (clearConfig s) "-conf" "globe.conf") = some lines →
      readConfigStream lines (getPathArg env (clearConfig s) "-conf" "globe.conf")
        ignoreInvalidKeys (clearConfig s) = r → (∀ s₁, r ≠ .ok s₁) →
      ConfigFilesRun env ignoreInvalidKeys s { ret := r }
  | cmdLineNegated {lines : List Str} {s₁ : ArgsManager} {includes : List SettingsValue} :
      env.configFile (getPathArg env (clearConfig s) "-conf" "globe.conf") = some lines →
      readConfigStream lines (getPathArg env (clearConfig s) "-conf" "globe.conf")
        ignoreInvalidKeys (clearConfig s) = .ok s₁ →
      s₁.settings.commandLineOptions.find? "includeconf" = some includes →
      lastNegated includes = true → ConfigFilesRun env ignoreInvalidKeys s { ret := checkDataDir env s₁ }
  | asserts {lines : List Str} {s₁ : ArgsManager} {includes : List SettingsValue} :
      env.configFile (getPathArg env (clearConfig s) "-conf" "globe.conf") = some lines →
      readConfigStream lines (getPathArg env (clearConfig s) "-conf" "globe.conf")
        ignoreInvalidKeys (clearConfig s) = .ok s₁ →
      s₁.settings.commandLineOptions.find? "includeconf" = some includes →
      lastNegated includes = false → ConfigFilesRun env ignoreInvalidKeys s { ret := .abort }
  | includes {lines : List Str} {s₁ : ArgsManager} :
      env.configFile (getPathArg env (clearConfig s) "-conf" "globe.conf") = some lines →
      readConfigStream lines (getPathArg env (clearConfig s) "-conf" "globe.conf")
        ignoreInvalidKeys (clearConfig s) = .ok s₁ →
      s₁.settings.commandLineOptions.find? "includeconf" = none →
      ConfigFilesRun env ignoreInvalidKeys s (includeConfFiles env ignoreInvalidKeys s₁)

/-- **Every run of `ReadConfigFiles` goes one of the ways `ConfigFilesRun` lists.** -/
theorem readConfigFiles_run (env : ConfigEnv) (ignoreInvalidKeys : Bool) (s : ArgsManager) :
    ConfigFilesRun env ignoreInvalidKeys s (readConfigFiles env ignoreInvalidKeys s) := by
  unfold readConfigFiles
  dsimp only
  split
  · next hf =>
    split
    · next hset => exact .confMissing hf hset
    · next hset => exact .noConf hf (by simpa using hset)
  · next lines hf =>
    split
    · next s₁ hs₁ =>
      split
      · next includes hinc =>
        split
        · next hneg => exact .cmdLineNegated hf hs₁ hinc hneg
        · next hneg => exact .asserts hf hs₁ hinc (by simpa using hneg)
      · next hinc => exact .includes hf hs₁ hinc
    · next hne => exact .mainFails hf rfl hne

end GlobeUtil

namespace GlobeUtil

/-! ## Every section that holds settings is recorded

`ReadConfigStream` stores a key under the section before its first `.`; that section is
recorded when the key's name is registered, because registered names hold no `.` and
`GetConfigOptions` records the section of every single-`.` key (`getConfigOptions_recorded`).
`ReadConfigFiles` clears both `ro_config` and `m_config_sections` before reading. -/

section Recorded

/-- Every non-empty section of `ro_config` is among `m_config_sections`. -/
def SectionsRecorded (s : ArgsManager) : Prop :=
  ∀ sec m, sec ≠ [] → s.settings.roConfig.find? sec = some m →
    sec ∈ s.configSections.map SectionInfo.name

/-- What the configuration code keeps: registered `-names` are dot-free, and the non-empty
sections of `ro_config` are recorded. -/
def ConfigInv (s : ArgsManager) : Prop :=
  DashNamesDotFree s ∧ SectionsRecorded s

/-- What storing the options can do: each known key of the list is pushed under its section,
so a property kept by every such push holds after the loop. -/
theorem storeOptions_holds {P : ArgsManager → Prop} (ignoreInvalidKeys : Bool) :
    ∀ (opts : List (Str × Str)), (∀ name value flags v t, (name, value) ∈ opts → P t →
      getArgFlags t ('-' :: (interpretKey name).name) = some flags →
      P (pushConfig (interpretKey name).sectionName (interpretKey name).name v t)) →
    ∀ s, P s → (storeOptions ignoreInvalidKeys opts s).Holds P
  | [], _, _, hs => hs
  | (name, value) :: rest, hpush, s, hs => by
    have hrest := storeOptions_holds ignoreInvalidKeys rest
      fun n v' f x t hm => hpush n v' f x t (List.mem_cons_of_mem _ hm)
    unfold storeOptions
    split
    · next flags hf =>
      split
      · exact hs
      · exact hrest _ (hpush _ _ _ _ _ (List.mem_cons_self _ _) hs hf)
    · split
      · exact hrest s hs
      · exact hs

/-- The section a known key is stored under was recorded by `GetConfigOptions`. -/
theorem stored_section_recorded {s : ArgsManager} (hs : DashNamesDotFree s) {name value : Str}
    {opts : List (Str × Str)} (hD : DotsRecorded s.configSections opts) (hm : (name, value) ∈ opts)
    {flags : Nat} (hf : getArgFlags s ('-' :: (interpretKey name).name) = some flags)
    (hsec : (interpretKey name).sectionName ≠ []) :
    (interpretKey name).sectionName ∈ s.configSections.map SectionInfo.name := by
  have hdot : '.' ∉ (interpretKey name).name := not_mem_of_getArgFlags hs hf
  rw [sectionName_interpretKey] at hsec ⊢
  obtain ⟨he, hs'⟩ := splitSection_split hsec
  refine hD _ hm _ _ he hs' ?_
  rwa [← rawName_interpretKey, mem_rawName (by decide)]

theorem pushConfig_recorded {s : ArgsManager} (hs : SectionsRecorded s) {sec name : Str}
    {v : SettingsValue} (hsec : sec ≠ [] → sec ∈ s.configSections.map SectionInfo.name) :
    SectionsRecorded (pushConfig sec name v s) := by
  intro sec' m hne hm
  by_cases h : sec' = sec
  · subst h; exact hsec hne
  · simp only [pushConfig, StrMap.find?_modify_ne h] at hm
    exact hs sec' m hne hm

/-- **Reading one stream keeps the sections of `ro_config` recorded.** -/
theorem readConfigStream_inv {lines : List Str} {filepath : Str} {ignoreInvalidKeys : Bool}
    {s : ArgsManager} (hs : ConfigInv s) {r : Ret ArgsManager}
    (hr : readConfigStream lines filepath ignoreInvalidKeys s = r) : r.Holds ConfigInv := by
  subst hr
  obtain ⟨hD, hpre⟩ := getConfigOptions_recorded lines filepath s.configSections
  simp only [readConfigStream]
  generalize getConfigOptions lines filepath { sections := s.configSections } = g at hD hpre ⊢
  have hs' : ConfigInv { s with configSections := g.2.sections } :=
    ⟨hs.1, fun sec m hne hm => List.map_subset _ hpre.subset (hs.2 sec m hne hm)⟩
  split
  · refine Ret.Holds.mono (fun _ h => h.1) (storeOptions_holds (P := fun t =>
      ConfigInv t ∧ t.configSections = g.2.sections) ignoreInvalidKeys _ ?_ _ ⟨hs', rfl⟩)
    rintro name value flags v t hm ⟨ht, hts⟩ hf
    rw [← hts] at hD
    exact ⟨⟨ht.1, pushConfig_recorded ht.2 (stored_section_recorded ht.1 hD hm hf)⟩, hts⟩
  · exact hs'

/-- Reading a stream leaves the command-line options alone. -/
theorem readConfigStream_cmdLine {c : StrMap (List SettingsValue)} {lines : List Str}
    {filepath : Str} {ignoreInvalidKeys : Bool} {s : ArgsManager}
    (hs : s.settings.commandLineOptions = c) {r : Ret ArgsManager}
    (hr : readConfigStream lines filepath ignoreInvalidKeys s = r) :
    r.Holds fun t => t.settings.commandLineOptions = c := by
  subst hr
  simp only [readConfigStream]
  split
  · exact storeOptions_holds ignoreInvalidKeys _ (fun _ _ _ _ _ _ ht _ => ht) _ hs
  · exact hs

end Recorded

/-! ## What the includes keep

A property that every stream read keeps, `ReadConfigFiles` keeps as well: its other steps
only look up settings. -/

section Holds

variable {P : ArgsManager → Prop} (env : ConfigEnv) (ignoreInvalidKeys : Bool)

theorem checkDataDir_holds {s : ArgsManager} (hs : P s) : (checkDataDir env s).Holds P := by
  unfold checkDataDir; split <;> exact hs

variable (hread : ∀ {lines name t r}, P t →
  readConfigStream lines name ignoreInvalidKeys t = r → r.Holds P)
include hread

theorem readIncludes_holds :
    ∀ (names : List Str) (s : ArgsManager), P s →
      (readIncludes env ignoreInvalidKeys names s).1.Holds P
  | [], _, hs => hs
  | name :: rest, s, hs => by
    unfold readIncludes
    split
    · next lines _ =>
      split
      · next s' hs' => exact readIncludes_holds rest s' (hread hs hs')
      · exact hread hs rfl
    · exact hs

theorem includeConfFiles_holds {s : ArgsManager} (hs : P s) :
    (includeConfFiles env ignoreInvalidKeys s).ret.Holds P := by
  unfold includeConfFiles
  split
  · exact hs
  · rename_i chainNames _ defaultNames _ _
    have h := readIncludes_holds env ignoreInvalidKeys hread (chainNames ++ defaultNames) s hs
    generalize readIncludes env ignoreInvalidKeys (chainNames ++ defaultNames) s = r at h ⊢
    obtain ⟨r, opened⟩ := r
    cases r with
    | ok s' =>
      dsimp only
      split
      · exact h
      · exact checkDataDir_holds env h
    | _ => exact h

/-- `ReadConfigFiles` keeps a property that holds once `ro_config` and the sections are
cleared: it holds at the end, unless the assertion on `includeconf` stopped the process. -/
theorem readConfigFiles_holds {s : ArgsManager}
    (hs : P (clearConfig s)) :
    (readConfigFiles env ignoreInvalidKeys s).ret = .abort ∨
      (readConfigFiles env ignoreInvalidKeys s).ret.Holds P := by
  have hrun := readConfigFiles_run env ignoreInvalidKeys s
  generalize readConfigFiles env ignoreInvalidKeys s = r at hrun ⊢
  cases hrun with
  | confMissing => exact .inr hs
  | noConf => exact .inr (checkDataDir_holds env hs)
  | mainFails _ hr => exact .inr (hread hs hr)
  | cmdLineNegated _ hs₁ => exact .inr (checkDataDir_holds env (hread hs hs₁))
  | asserts => exact .inl rfl
  | includes _ hs₁ => exact .inr (includeConfFiles_holds env ignoreInvalidKeys hread (hread hs hs₁))

end Holds

/-- **Reading the configuration files keeps the sections of `ro_config` recorded**, from any
manager whose registered `-names` are dot-free: it starts from an empty `ro_config`. -/
theorem readConfigFiles_inv (env : ConfigEnv) (ignoreInvalidKeys : Bool) {s : ArgsManager}
    (hs : DashNamesDotFree s) :
    (readConfigFiles env ignoreInvalidKeys s).ret = .abort ∨
      (readConfigFiles env ignoreInvalidKeys s).ret.Holds ConfigInv :=
  readConfigFiles_holds env ignoreInvalidKeys (fun h hr => readConfigStream_inv h hr)
    ⟨hs, fun _ _ _ hm => by cases hm⟩

/-! ## The `includeconf` assertion -/

/-- `ReadConfigFiles` stops at its assertion only on a command-line `includeconf` list whose
last value is not a negation. -/
theorem readConfigFiles_abort {env : ConfigEnv} {ignoreInvalidKeys : Bool} {s : ArgsManager}
    (h : (readConfigFiles env ignoreInvalidKeys s).ret = .abort) :
    ∃ vs, s.settings.commandLineOptions.find? "includeconf" = some vs ∧ lastNegated vs = false := by
  have hread : ∀ {lines name t r}, True →
      readConfigStream lines name ignoreInvalidKeys t = r → r.Holds fun _ => True :=
    fun _ hr => (readConfigStream_cmdLine rfl hr).mono fun _ _ => trivial
  have hcheck := fun t => (checkDataDir_holds (P := fun _ => True) env (s := t) trivial).ne_abort
  have hrun := readConfigFiles_run env ignoreInvalidKeys s
  generalize readConfigFiles env ignoreInvalidKeys s = r at hrun h
  cases hrun with
  | asserts _ hs₁ hinc hneg => exact ⟨_, readConfigStream_cmdLine rfl hs₁ ▸ hinc, hneg⟩
  | confMissing => cases h
  | noConf => exact (hcheck _ h).elim
  | mainFails _ hr => exact ((hread trivial hr).ne_abort h).elim
  | cmdLineNegated => exact (hcheck _ h).elim
  | includes => exact ((includeConfFiles_holds env ignoreInvalidKeys hread trivial).ne_abort h).elim

/-- **The `includeconf` assertion of `ReadConfigFiles` holds after a successful parse**: the
parse leaves a non-empty command-line `includeconf` list ending in the negation `false`, so
reading the configuration files that follows never stops at the assertion. -/
theorem includeconf_assert_holds {argv : List Str} {s s' : ArgsManager}
    (h : parseParameters argv s = .ok s') (env : ConfigEnv) (ignoreInvalidKeys : Bool) :
    (∀ vs, s'.settings.commandLineOptions.find? "includeconf" = some vs →
      vs ≠ [] ∧ vs.getLast? = some (.bool false)) ∧
    (readConfigFiles env ignoreInvalidKeys s').ret ≠ .abort := by
  refine ⟨fun vs hv => parseParameters_includeconf h hv, fun habort => ?_⟩
  obtain ⟨vs, hv, hneg⟩ := readConfigFiles_abort habort
  simp [lastNegated, (parseParameters_includeconf h hv).2, SettingsValue.isFalse] at hneg

/-- The command line alone as `util::GetSetting` reads it (the last value given to a name), a
main file `globe.conf` holding `includeconf=a`, and an empty file `a`. -/
def includeAEnv : ConfigEnv where
  getSetting := fun st _ name _ _ _ =>
    ((st.commandLineOptions.find? name).bind List.getLast?).getD .null
  normalPath := id
  configFile := fun path =>
    if path = "globe.conf".toList then some ["includeconf=a".toList]
    else if path = "a".toList then some [] else none
  dataDirOk := fun _ => true

/-- `globe -noincludeconf`, with `-includeconf` registered, then the configuration files: the
main file opens and the run reaches the assertion, which holds. -/
theorem includeconf_assert_holds_negated :
    ∃ s', parseParameters ["globe", "-noincludeconf"]
        { availableArgs := fun _ => [("-includeconf".toList, ⟨[], [], Flags.allowAny⟩)] } = .ok s' ∧
      (readConfigFiles includeAEnv false s').ret ≠ .abort :=
  let ⟨_, h⟩ : ∃ s', parseParameters ["globe", "-noincludeconf"]
      { availableArgs := fun _ => [("-includeconf".toList, ⟨[], [], Flags.allowAny⟩)] } = .ok s' :=
    ⟨_, rfl⟩
  ⟨_, h, (includeconf_assert_holds h _ _).2⟩


end GlobeUtil
