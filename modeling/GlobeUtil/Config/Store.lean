import GlobeUtil.Config.Include

/-!
# What the configuration files store

`ReadConfigStream` pushes, for each option `GetConfigOptions` returns, the value
`InterpretValue` gives under the section and name `InterpretKey` finds in its key; a key
that is not registered is skipped or refused. This module says what the loops compute
without the loops, through the lookup `ro_config[section][name]` (`configLookup`).

A stream is read exactly when every line is accepted and every option can be stored
(`readConfigStream_ok_iff`), and it then adds under each section and name the values of its
options that name them, in order (`readConfigStream_stores`). After a `ReadConfigFiles` that
returns `true`, `ro_config` holds the values of the options of the main file and then of
each included file, in the order the files were opened (`readConfigFiles_stores`): a file
opened twice gives its values twice.

## Main definitions

* `configLookup`: `ro_config[section][name]`
* `configValue`, `configValues`: what an option stores, and the values options give a key
* `optionStorable`: the options `ReadConfigStream` accepts
* `filesOptions`: the options of a list of configuration files

## Main results

* `storeOptions_ok_spec`, `storeOptions_ok_of_storable`: what the loop accepts and stores
* `readConfigStream_ok_iff`, `readConfigStream_stores`: the same for one stream
* `readIncludes_stores`: the same for the included files
* `readConfigFiles_stores`: what `ReadConfigFiles` stores
-/

namespace GlobeUtil

/-! ## What an option stores -/

/-- `ro_config[section][name]`, when both are present. -/
def configLookup (m : StrMap (StrMap (List SettingsValue))) (sec name : Str) :
    Option (List SettingsValue) :=
  (m.find? sec).bind (StrMap.find? name)

/-- The value an option of a configuration file stores, when its key is registered and its
flags allow the value. -/
def configValue (s : ArgsManager) (o : Str × Str) : Option SettingsValue :=
  (getArgFlags s ('-' :: (interpretKey o.1).name)).bind fun flags =>
    (interpretValue (interpretKey o.1) (some o.2) flags).toOption

/-- The values the options give to `name` in section `sec`, in order. -/
def configValues (s : ArgsManager) (opts : List (Str × Str)) (sec name : Str) :
    List SettingsValue :=
  opts.filterMap fun o =>
    if (interpretKey o.1).sectionName = sec ∧ (interpretKey o.1).name = name then configValue s o
    else none

/-- An option `ReadConfigStream` accepts: a registered key whose flags allow its value, or a
key that is not registered when such keys are ignored. -/
def optionStorable (ignoreInvalidKeys : Bool) (s : ArgsManager) (o : Str × Str) : Bool :=
  match getArgFlags s ('-' :: (interpretKey o.1).name) with
  | some flags => (interpretValue (interpretKey o.1) (some o.2) flags).toBool
  | none => ignoreInvalidKeys

/-- The options of the configuration files `names`, each read from its own first line; a
file that does not open has none. -/
def filesOptions (env : ConfigEnv) (names : List Str) : List (Str × Str) :=
  names.flatMap fun name => optionsFrom [] ((env.configFile name).getD [])

theorem configValues_cons (s : ArgsManager) (o : Str × Str) (opts : List (Str × Str))
    (sec name : Str) :
    configValues s (o :: opts) sec name =
      (if (interpretKey o.1).sectionName = sec ∧ (interpretKey o.1).name = name then
        configValue s o else none).toList ++ configValues s opts sec name := by
  rw [configValues, List.filterMap_cons]
  split <;> simp_all [configValues]

theorem configValues_append (s : ArgsManager) (opts opts' : List (Str × Str)) (sec name : Str) :
    configValues s (opts ++ opts') sec name = configValues s opts sec name ++
      configValues s opts' sec name :=
  List.filterMap_append _ _ _

/-- The values depend on the manager only through its registrations. -/
theorem configValues_congr {s t : ArgsManager} (h : s.availableArgs = t.availableArgs) :
    configValues s = configValues t := by
  unfold configValues configValue
  rw [getArgFlags_congr h]

theorem configLookup_pushConfig (s : ArgsManager) (sec name sec' name' : Str)
    (v : SettingsValue) :
    configLookup (pushConfig sec name v s).settings.roConfig sec' name' =
      appendValues (configLookup s.settings.roConfig sec' name')
        (if sec = sec' ∧ name = name' then [v] else []) := by
  unfold configLookup pushConfig
  by_cases hs : sec = sec'
  · subst hs
    rw [StrMap.find?_modify_self, Option.some_bind, find?_push_appendValues]
    cases s.settings.roConfig.find? sec <;> simp
  · rw [StrMap.find?_modify_ne (Ne.symm hs), if_neg (fun h => hs h.1), appendValues_nil]

/-! ## One step of the loop -/

section Step

variable {ignoreInvalidKeys : Bool} {o : Str × Str} {rest : List (Str × Str)} {s : ArgsManager}

/-- A registered option whose value is allowed is pushed, and the loop goes on. -/
theorem storeOptions_cons_value {v : SettingsValue} (hv : configValue s o = some v) :
    storeOptions ignoreInvalidKeys (o :: rest) s = storeOptions ignoreInvalidKeys rest
      (pushConfig (interpretKey o.1).sectionName (interpretKey o.1).name v s) := by
  obtain ⟨flags, hf, hval⟩ := Option.bind_eq_some.1 hv
  obtain ⟨key, value⟩ := o
  have hval' : interpretValue (interpretKey key) (some value) flags = .ok v := by
    revert hval
    cases interpretValue (interpretKey key) (some value) flags <;> simp [Except.toOption]
  simp only [storeOptions, hf, hval']

/-- A key that is not registered is skipped when such keys are ignored. -/
theorem storeOptions_cons_unknown (hf : getArgFlags s ('-' :: (interpretKey o.1).name) = none)
    (hig : ignoreInvalidKeys = true) :
    storeOptions ignoreInvalidKeys (o :: rest) s = storeOptions ignoreInvalidKeys rest s := by
  obtain ⟨key, value⟩ := o
  simp only [storeOptions, hf, hig, if_true]

/-- An option that cannot be stored ends the loop with an error, the manager unchanged. -/
theorem storeOptions_cons_rejected (ho : optionStorable ignoreInvalidKeys s o = false) :
    ∃ e, storeOptions ignoreInvalidKeys (o :: rest) s = .fail e s := by
  obtain ⟨key, value⟩ := o
  unfold optionStorable at ho
  simp only [storeOptions]
  split
  · next flags hf =>
    rw [hf] at ho
    split
    · exact ⟨_, rfl⟩
    · next v hv => simp [hv, Except.toBool] at ho
  · next hf =>
    have hig : ignoreInvalidKeys = false := by simpa [hf] using ho
    simp only [hig, Bool.false_eq_true, if_false]
    exact ⟨_, rfl⟩

/-- Whether an option is stored, skipped or refused. -/
theorem optionStorable_cases (ho : optionStorable ignoreInvalidKeys s o = true) :
    (∃ v, configValue s o = some v) ∨
      (getArgFlags s ('-' :: (interpretKey o.1).name) = none ∧ ignoreInvalidKeys = true ∧
        configValue s o = none) := by
  unfold optionStorable at ho
  unfold configValue
  split at ho
  · next flags hf =>
    refine .inl ?_
    rw [hf, Option.some_bind]
    cases hval : interpretValue (interpretKey o.1) (some o.2) flags with
    | error e => simp [hval, Except.toBool] at ho
    | ok v => exact ⟨v, rfl⟩
  · next hf => exact .inr ⟨hf, ho, by rw [hf, Option.none_bind]⟩

end Step

/-! ## What the loop accepts and stores -/

/-- **What a successful loop stores**: every option could be stored, and under each section
and name the loop pushed the values the options give them; nothing else changed. -/
theorem storeOptions_ok_spec {ignoreInvalidKeys : Bool} :
    ∀ {opts : List (Str × Str)} {s s' : ArgsManager},
      storeOptions ignoreInvalidKeys opts s = .ok s' →
      opts.all (optionStorable ignoreInvalidKeys s) = true ∧
        { s' with settings.roConfig := [] } = { s with settings.roConfig := [] } ∧
        ∀ sec name, configLookup s'.settings.roConfig sec name =
          appendValues (configLookup s.settings.roConfig sec name) (configValues s opts sec name)
  | [], s, s', h => by cases h; simp [configValues]
  | o :: rest, s, s', h => by
    cases ho : optionStorable ignoreInvalidKeys s o
    · obtain ⟨e, he⟩ : ∃ e, storeOptions ignoreInvalidKeys (o :: rest) s = .fail e s :=
        storeOptions_cons_rejected ho
      rw [he] at h; cases h
    · rcases optionStorable_cases ho with ⟨v, hv⟩ | ⟨hf, hig, hv⟩
      · rw [storeOptions_cons_value hv] at h
        obtain ⟨hall, hframe, hlook⟩ := storeOptions_ok_spec h
        refine ⟨by simpa [ho] using hall, hframe, fun sec name => ?_⟩
        rw [hlook, configLookup_pushConfig, appendValues_append, configValues_cons, hv]
        split <;> rfl
      · rw [storeOptions_cons_unknown hf hig] at h
        obtain ⟨hall, hframe, hlook⟩ := storeOptions_ok_spec h
        refine ⟨by simpa [ho] using hall, hframe, fun sec name => ?_⟩
        rw [hlook, configValues_cons, hv]
        simp

/-- **The loop stores every list of storable options.** -/
theorem storeOptions_ok_of_storable {ignoreInvalidKeys : Bool} :
    ∀ {opts : List (Str × Str)} {s : ArgsManager},
      opts.all (optionStorable ignoreInvalidKeys s) = true →
      ∃ s', storeOptions ignoreInvalidKeys opts s = .ok s'
  | [], s, _ => ⟨s, rfl⟩
  | o :: rest, s, h => by
    simp only [List.all_cons, Bool.and_eq_true] at h
    rcases optionStorable_cases h.1 with ⟨v, hv⟩ | ⟨hf, hig, -⟩
    · rw [storeOptions_cons_value hv]
      exact storeOptions_ok_of_storable h.2
    · rw [storeOptions_cons_unknown hf hig]
      exact storeOptions_ok_of_storable h.2

/-! ## One stream -/

/-- `ReadConfigStream` parses the stream, then stores its options in the manager with the
recorded sections. -/
theorem readConfigStream_eq (lines : List Str) (filepath : Str) (ignoreInvalidKeys : Bool)
    (s : ArgsManager) :
    readConfigStream lines filepath ignoreInvalidKeys s =
      let r := configLines filepath lines [] 1 { sections := s.configSections }
      if r.1 then storeOptions ignoreInvalidKeys r.2.options { s with configSections := r.2.sections }
      else .fail r.2.error { s with configSections := r.2.sections } := rfl

/-- **`ReadConfigStream` reads exactly the streams whose lines are all accepted and whose
options can all be stored.** -/
theorem readConfigStream_ok_iff (lines : List Str) (filepath : Str) (ignoreInvalidKeys : Bool)
    (s : ArgsManager) :
    (∃ s', readConfigStream lines filepath ignoreInvalidKeys s = .ok s') ↔
      (∀ i < lines.length, AcceptedAt [] lines i) ∧
        (optionsFrom [] lines).all (optionStorable ignoreInvalidKeys s) = true := by
  obtain ⟨hacc, hopts, -⟩ := configLines_spec filepath lines [] 1 { sections := s.configSections }
  rw [readConfigStream_eq]
  dsimp only
  constructor
  · rintro ⟨s', h⟩
    split at h
    · next hr =>
      refine ⟨hacc.1 hr, ?_⟩
      simpa [hopts hr] using (storeOptions_ok_spec h).1
    · cases h
  · rintro ⟨hl, hs⟩
    rw [if_pos (hacc.2 hl), hopts (hacc.2 hl)]
    exact storeOptions_ok_of_storable hs

/-- **What a stream stores**: under each section and name, the values of its options that
name them, after those stored before; it records its sections and changes nothing else. -/
theorem readConfigStream_stores {lines : List Str} {filepath : Str} {ignoreInvalidKeys : Bool}
    {s s' : ArgsManager} (h : readConfigStream lines filepath ignoreInvalidKeys s = .ok s') :
    clearConfig s' = clearConfig s ∧
      s'.configSections = (getConfigOptions lines filepath { sections := s.configSections }).2.sections ∧
      ∀ sec name, configLookup s'.settings.roConfig sec name =
        appendValues (configLookup s.settings.roConfig sec name)
          (configValues s (optionsFrom [] lines) sec name) := by
  obtain ⟨-, hopts, -⟩ := configLines_spec filepath lines [] 1 { sections := s.configSections }
  rw [readConfigStream_eq] at h
  dsimp only at h
  split at h
  · next hr =>
    obtain ⟨-, hframe, hlook⟩ := storeOptions_ok_spec h
    rw [hopts hr] at hlook
    have hsec := congrArg ArgsManager.configSections hframe
    have hclear := congrArg clearConfig hframe
    exact ⟨hclear, hsec, hlook⟩
  · cases h

/-! ## The configuration files -/

theorem filesOptions_cons (env : ConfigEnv) (name : Str) (names : List Str) :
    filesOptions env (name :: names) =
      optionsFrom [] ((env.configFile name).getD []) ++ filesOptions env names := by
  simp [filesOptions]

@[simp] theorem filesOptions_nil (env : ConfigEnv) : filesOptions env [] = [] := rfl

theorem availableArgs_of_clearConfig {s t : ArgsManager} (h : clearConfig s = clearConfig t) :
    s.availableArgs = t.availableArgs := by
  have ha := congrArg ArgsManager.availableArgs h
  exact ha

/-- **What the included files store**: the values of their options, file after file, after
those stored before; the registrations are unchanged. -/
theorem readIncludes_stores (env : ConfigEnv) (ignoreInvalidKeys : Bool) :
    ∀ {names : List Str} {s s' : ArgsManager},
      (readIncludes env ignoreInvalidKeys names s).1 = .ok s' →
      s'.availableArgs = s.availableArgs ∧
        ∀ sec name, configLookup s'.settings.roConfig sec name =
          appendValues (configLookup s.settings.roConfig sec name)
            (configValues s (filesOptions env names) sec name)
  | [], s, s', h => by cases h; simp [filesOptions, configValues]
  | file :: rest, s, s', h => by
    unfold readIncludes at h
    cases hf : env.configFile file with
    | none => simp [hf] at h
    | some lines =>
      cases hr : readConfigStream lines file ignoreInvalidKeys s with
      | ok s₁ =>
        simp only [hf, hr] at h
        obtain ⟨hframe, -, hlook⟩ := readConfigStream_stores hr
        obtain ⟨ha, hlook'⟩ := readIncludes_stores env ignoreInvalidKeys h
        have ha₁ := availableArgs_of_clearConfig hframe
        refine ⟨ha.trans ha₁, fun sec name => ?_⟩
        rw [hlook', hlook, appendValues_append, configValues_congr ha₁, filesOptions_cons, hf,
          Option.getD_some, configValues_append]
      | _ => simp [hf, hr] at h

/-- The main file, read into a manager whose configuration was cleared, stores the values
of its options and nothing else. -/
theorem readConfigStream_stores_cleared {lines : List Str} {filepath : Str}
    {ignoreInvalidKeys : Bool} {s s₁ : ArgsManager}
    (h : readConfigStream lines filepath ignoreInvalidKeys (clearConfig s) = .ok s₁) :
    s₁.availableArgs = s.availableArgs ∧ ∀ sec name, configLookup s₁.settings.roConfig sec name =
      appendValues none (configValues s (optionsFrom [] lines) sec name) := by
  obtain ⟨hframe, -, hlook⟩ := readConfigStream_stores h
  exact ⟨availableArgs_of_clearConfig hframe, hlook⟩

/-- **What `ReadConfigFiles` stores**: after a run that returns `true`, `ro_config` holds
under each section and name exactly the values that the options of the main file, and then
of each included file in the order it was opened, give them. -/
theorem readConfigFiles_stores {env : ConfigEnv} {ignoreInvalidKeys : Bool} {s s' : ArgsManager}
    (h : (readConfigFiles env ignoreInvalidKeys s).ret = .ok s') (sec name : Str) :
    configLookup s'.settings.roConfig sec name = appendValues none (configValues s
      (filesOptions env (getPathArg env (clearConfig s) "-conf" "globe.conf" ::
        (readConfigFiles env ignoreInvalidKeys s).opened)) sec name) := by
  have hrun := readConfigFiles_run env ignoreInvalidKeys s
  generalize readConfigFiles env ignoreInvalidKeys s = r at hrun h ⊢
  cases hrun with
  | confMissing | asserts => cases h
  | mainFails _ _ hne => exact absurd h (hne s')
  | noConf hf =>
    obtain ⟨-, rfl⟩ := checkDataDir_ok h
    rw [filesOptions_cons, hf]
    rfl
  | cmdLineNegated hf hs₁ =>
    obtain ⟨-, rfl⟩ := checkDataDir_ok h
    rw [filesOptions_cons, hf, Option.getD_some, filesOptions_nil, List.append_nil]
    exact (readConfigStream_stores_cleared hs₁).2 sec name
  | includes hf hs₁ =>
    obtain ⟨-, chainNames, -, defaultNames, -, -, -, -, -, hri, -, hop, -, -⟩ :=
      includeConfFiles_ok h
    obtain ⟨-, hlook⟩ := readIncludes_stores env ignoreInvalidKeys hri
    obtain ⟨ha, hmain⟩ := readConfigStream_stores_cleared hs₁
    rw [hop, hlook, hmain, appendValues_append, configValues_congr ha, filesOptions_cons, hf,
      Option.getD_some, configValues_append]

/-- The command line alone as `util::GetSetting` reads it, a main file that includes `a`, and
`a` setting `x`. -/
def includeXEnv : ConfigEnv :=
  { includeAEnv with
    configFile := fun path =>
      if path = "globe.conf".toList then some ["includeconf=a".toList]
      else if path = "a".toList then some ["x=1".toList] else none }

/-- A manager with `-chain`, `-includeconf` and `-x` registered. -/
def includeXManager : ArgsManager :=
  { availableArgs := fun c =>
      if c = .options then
        [("-chain".toList, ⟨"=<chain>".toList, [], Flags.allowAny⟩),
          ("-includeconf".toList, ⟨"=<file>".toList, [], Flags.allowAny⟩),
          ("-x".toList, ⟨[], [], Flags.allowAny⟩)]
      else [] }

/-- `includeXManager` with `-chain=` on the command line. -/
def emptyChainXManager : ArgsManager :=
  { includeXManager with settings.commandLineOptions := [("chain".toList, [.str []])] }

/-- `globe -chain=` leaves the empty chain name; `a` is then opened twice, and its value of
`x` is stored twice. -/
theorem readConfigFiles_stores_twice :
    parseParameters ["globe", "-chain="] includeXManager = .ok emptyChainXManager ∧
      ∃ s', (readConfigFiles includeXEnv false emptyChainXManager).ret = .ok s' ∧
        configLookup s'.settings.roConfig [] "x" = some [.str "1", .str "1"] :=
  let ⟨s', h⟩ : ∃ s', (readConfigFiles includeXEnv false emptyChainXManager).ret = .ok s' :=
    ⟨_, rfl⟩
  ⟨rfl, s', h, (readConfigFiles_stores h [] "x").trans rfl⟩

end GlobeUtil
