import GlobeUtil.Config.Read

/-!
# The included configuration files

After the main configuration file, `ReadConfigFiles` collects the `includeconf` values of
the chain's section and then of the default section, each from its last negation on, opens
the files they name in that order, and reads them. The values the included files add are
not opened: a second pass warns about those that no later negation cancels.

`readConfigFiles_includes` says all of this for every run that returns `true`, in terms of
the manager the main file leaves (`mainConfigState`). The chain's section and the default
section are looked up apart even when the chain name is empty and both are the default
section: then the default section's files are opened twice (`readConfigFiles_opens_twice`).

## Main definitions

* `includeconfOf`: the `includeconf` values of a section of `ro_config`
* `mainConfigState`: the manager after the main configuration file
* `IncludesRead`: what a run that returns `true` opens and warns about

## Main results

* `readConfigFiles_includes`: every run that returns `true` meets `IncludesRead`
* `readConfigFiles_opens_twice`: with an empty chain name, an included file is opened twice
-/

namespace GlobeUtil

/-- The `includeconf` values of a section of `ro_config`. -/
def includeconfOf (s : ArgsManager) (sec : Str) : List SettingsValue :=
  ((s.settings.roConfig.find? sec).bind (·.find? "includeconf")).getD []

/-- A list `get_str` reads whole is a list of strings. -/
theorem mapM_getStr_eq_ok :
    ∀ {xs : List SettingsValue} {names : List Str},
      xs.mapM SettingsValue.getStr = .ok names → xs = names.map .str
  | [], _, h => by cases h; rfl
  | x :: xs, names, h => by
    rw [List.mapM_cons] at h
    obtain ⟨n, hn, h⟩ := except_bind_eq_ok h
    obtain ⟨ns, hns, h⟩ := except_bind_eq_ok h
    cases h
    cases x <;> cases hn
    rw [mapM_getStr_eq_ok hns]; rfl

theorem addIncludes_eq (s : ArgsManager) (network : Str) (skip : Nat) :
    addIncludes s network skip =
      (((includeconfOf s network).drop (max skip (negated (includeconfOf s network)))).mapM
        SettingsValue.getStr >>= fun names => pure (names, (includeconfOf s network).length)) := by
  unfold addIncludes
  cases hsec : s.settings.roConfig.find? network with
  | none => simp only [includeconfOf, hsec, Option.none_bind, Option.getD_none, List.drop_nil]; rfl
  | some sec =>
    cases hv : sec.find? "includeconf" with
    | none => simp only [includeconfOf, hsec, hv, Option.some_bind, Option.getD_none, List.drop_nil]; rfl
    | some values => simp only [includeconfOf, hsec, hv, Option.some_bind, Option.getD_some]

/-- What `add_includes` returns: the values from `max(skip, negated())` on, all strings,
and how many values the section holds. -/
theorem addIncludes_ok {s : ArgsManager} {network : Str} {skip : Nat} {names : List Str}
    {n : Nat} (h : addIncludes s network skip = .ok (names, n)) :
    (includeconfOf s network).drop (max skip (negated (includeconfOf s network))) =
      names.map .str ∧ n = (includeconfOf s network).length := by
  rw [addIncludes_eq] at h
  obtain ⟨ns, hns, h⟩ := except_bind_eq_ok h
  cases h
  exact ⟨mapM_getStr_eq_ok hns, rfl⟩

/-! ## Opening the included files -/

/-- A loop over the included files that reads them all opens each once, in order. -/
theorem readIncludes_opened (env : ConfigEnv) (ignoreInvalidKeys : Bool) :
    ∀ (names : List Str) (s : ArgsManager) {s' : ArgsManager},
      (readIncludes env ignoreInvalidKeys names s).1 = .ok s' →
      (readIncludes env ignoreInvalidKeys names s).2 = names
  | [], _, _, _ => rfl
  | name :: rest, s, s', h => by
    unfold readIncludes at h ⊢
    cases hf : env.configFile name with
    | none => simp [hf] at h
    | some lines =>
      cases hr : readConfigStream lines name ignoreInvalidKeys s with
      | ok s1 =>
        simp only [hf, hr] at h ⊢
        rw [readIncludes_opened env ignoreInvalidKeys rest s1 h]
      | _ => simp [hf, hr] at h

/-- Storing a value only appends to the `includeconf` values of a section. -/
theorem includeconfOf_pushConfig (t : ArgsManager) (sec sec' name : Str) (v : SettingsValue) :
    includeconfOf t sec <+: includeconfOf (pushConfig sec' name v t) sec := by
  unfold includeconfOf pushConfig
  by_cases hs : sec = sec'
  · subst hs
    rw [StrMap.find?_modify_self]
    cases hsec : t.settings.roConfig.find? sec with
    | none => exact List.nil_prefix
    | some m =>
      by_cases hn : name = "includeconf".toList
      · subst hn; simp [hsec]
      · simp only [hsec, Option.some_bind, StrMap.find?_push_ne (Ne.symm hn)]
        exact List.prefix_refl _
  · rw [StrMap.find?_modify_ne hs]

/-- The `includeconf` values a manager had are a prefix of those after any number of
included files. -/
theorem readIncludes_prefix (env : ConfigEnv) (ignoreInvalidKeys : Bool) (s₀ : ArgsManager)
    (names : List Str) {s : ArgsManager} (hs : ∀ sec, includeconfOf s₀ sec <+: includeconfOf s sec) :
    (readIncludes env ignoreInvalidKeys names s).1.Holds
      fun t => ∀ sec, includeconfOf s₀ sec <+: includeconfOf t sec := by
  refine readIncludes_holds env ignoreInvalidKeys (fun {lines name t r} ht hr => ?_) names s hs
  subst hr
  simp only [readConfigStream]
  split
  · exact storeOptions_holds ignoreInvalidKeys _
      (fun _ _ _ _ u _ hu _ sec => (hu sec).trans (includeconfOf_pushConfig u _ _ _ _)) _ ht
  · exact ht

theorem checkDataDir_ok {env : ConfigEnv} {s s' : ArgsManager} (h : checkDataDir env s = .ok s') :
    env.dataDirOk s = true ∧ s' = s := by
  unfold checkDataDir at h
  split at h <;> cases h
  exact ⟨‹_›, rfl⟩

/-- What a pass over the includes that returns `true` did: it found the chain, the values of
both sections, read every file they name, and warned about what the second pass found. -/
theorem includeConfFiles_ok {env : ConfigEnv} {ignoreInvalidKeys : Bool} {s s' : ArgsManager}
    (h : (includeConfFiles env ignoreInvalidKeys s).ret = .ok s') :
    ∃ chainId chainNames chainIncludes defaultNames defaultIncludes names,
      getChainName env s = .ok chainId ∧
      addIncludes s chainId 0 = .ok (chainNames, chainIncludes) ∧
      addIncludes s [] 0 = .ok (defaultNames, defaultIncludes) ∧
      (readIncludes env ignoreInvalidKeys (chainNames ++ defaultNames) s).1 = .ok s' ∧
      recursiveIncludes env s' chainId chainIncludes defaultIncludes = .ok names ∧
      (includeConfFiles env ignoreInvalidKeys s).opened = chainNames ++ defaultNames ∧
      (includeConfFiles env ignoreInvalidKeys s).warnings = names.map includeWarning ∧
      env.dataDirOk s' = true := by
  unfold includeConfFiles at h ⊢
  split at h
  · cases h
  · next chainId chainNames ci defaultNames di heq =>
    obtain ⟨c, hc, heq'⟩ := except_bind_eq_ok heq
    obtain ⟨a1, ha1, heq'⟩ := except_bind_eq_ok heq'
    obtain ⟨a2, ha2, heq'⟩ := except_bind_eq_ok heq'
    cases heq'
    split at h
    · next _ s2 opened hri =>
      split at h
      · cases h
      · next _ names hnames =>
        obtain ⟨hdir, rfl⟩ := checkDataDir_ok h
        refine ⟨chainId, chainNames, ci, defaultNames, di, names, hc, ha1, ha2, by rw [hri],
          hnames, ?_, ?_, hdir⟩ <;> simp only [hri, hnames]
        have := readIncludes_opened env ignoreInvalidKeys _ s (by rw [hri])
        rwa [hri] at this
    · next hne _ => cases h; exact (hne _ rfl).elim

/-- A run of `ReadConfigFiles` that returns `true` passed `CheckDataDirOption` on the manager
it ends with. -/
theorem readConfigFiles_dataDirOk {env : ConfigEnv} {ignoreInvalidKeys : Bool}
    {s s' : ArgsManager} (h : (readConfigFiles env ignoreInvalidKeys s).ret = .ok s') :
    env.dataDirOk s' = true := by
  have hrun := readConfigFiles_run env ignoreInvalidKeys s
  generalize readConfigFiles env ignoreInvalidKeys s = r at hrun h
  cases hrun with
  | confMissing | asserts => cases h
  | mainFails _ _ hne => exact absurd h (hne s')
  | noConf | cmdLineNegated => obtain ⟨hok, rfl⟩ := checkDataDir_ok h; exact hok
  | includes =>
    obtain ⟨-, -, -, -, -, -, -, -, -, -, -, -, -, hok⟩ := includeConfFiles_ok h
    exact hok

/-- The warning pass finds, in the chain's section and in the default section, the values
after the count it was given and after the last negation (and may find more). -/
theorem recursiveIncludes_ok {env : ConfigEnv} {s : ArgsManager} {chainId : Str}
    {chainIncludes defaultIncludes : Nat} {names : List Str}
    (h : recursiveIncludes env s chainId chainIncludes defaultIncludes = .ok names) :
    ∃ chainNames n₁ defaultNames n₂,
      addIncludes s chainId chainIncludes = .ok (chainNames, n₁) ∧
      addIncludes s [] defaultIncludes = .ok (defaultNames, n₂) ∧
      chainNames ++ defaultNames <+: names := by
  obtain ⟨⟨chainNames, n₁⟩, h₁, h⟩ := except_bind_eq_ok h
  obtain ⟨⟨defaultNames, n₂⟩, h₂, h⟩ := except_bind_eq_ok h
  obtain ⟨chainIdFinal, -, h⟩ := except_bind_eq_ok h
  refine ⟨chainNames, n₁, defaultNames, n₂, h₁, h₂, ?_⟩
  split at h
  · obtain ⟨⟨finalNames, _⟩, -, h⟩ := except_bind_eq_ok h
    cases h; exact List.prefix_append _ _
  · cases h; exact List.prefix_refl _

/-! ## What `ReadConfigFiles` opens -/

/-- The manager the main configuration file leaves, when it opens and reads. -/
def mainConfigState (env : ConfigEnv) (ignoreInvalidKeys : Bool) (s : ArgsManager) :
    Option ArgsManager :=
  match env.configFile (getPathArg env (clearConfig s) "-conf" "globe.conf") with
  | some lines =>
    match readConfigStream lines (getPathArg env (clearConfig s) "-conf" "globe.conf")
        ignoreInvalidKeys (clearConfig s) with
    | .ok s₁ => some s₁
    | _ => none
  | none => none

/-- With no `includeconf` on the command line, `ReadConfigFiles` goes on from the main file
to the includes. -/
theorem readConfigFiles_of_main {env : ConfigEnv} {ignoreInvalidKeys : Bool} {s s₁ : ArgsManager}
    (hcl : s.settings.commandLineOptions.find? "includeconf" = none)
    (hmain : mainConfigState env ignoreInvalidKeys s = some s₁) :
    readConfigFiles env ignoreInvalidKeys s = includeConfFiles env ignoreInvalidKeys s₁ := by
  unfold mainConfigState at hmain
  have hrun := readConfigFiles_run env ignoreInvalidKeys s
  generalize readConfigFiles env ignoreInvalidKeys s = r at hrun ⊢
  cases hrun with
  | confMissing hf | noConf hf => rw [hf] at hmain; cases hmain
  | mainFails hf hr hne =>
    rw [hf] at hmain
    dsimp only at hmain
    rw [hr] at hmain
    split at hmain
    · next s₂ => exact absurd rfl (hne s₂)
    · cases hmain
  | cmdLineNegated _ hs₁ hinc | asserts _ hs₁ hinc =>
    have hc : _ = s.settings.commandLineOptions := readConfigStream_cmdLine rfl hs₁
    rw [hc, hcl] at hinc
    cases hinc
  | includes hf hs₁ =>
    rw [hf] at hmain
    dsimp only at hmain
    rw [hs₁] at hmain
    cases hmain
    rfl

/-- What a run of `ReadConfigFiles` that returns `true` in `s'` opens and warns about, after a
main file that left `s₁`: the files it opens are the main file's `includeconf` values after
the last negation, all strings, of the chain's section and then of the default section;
in both sections the values only grow, and those added after the main file and after the
last negation are named in warnings. -/
def IncludesRead (env : ConfigEnv) (r : ConfigRead) (s₁ s' : ArgsManager) : Prop :=
  ∃ chainId, getChainName env s₁ = .ok chainId ∧
    (∃ chainNames defaultNames,
      spanBegin (includeconfOf s₁ chainId) = chainNames.map .str ∧
      spanBegin (includeconfOf s₁ []) = defaultNames.map .str ∧
      r.opened = chainNames ++ defaultNames) ∧
    ∀ sec ∈ [chainId, []], includeconfOf s₁ sec <+: includeconfOf s' sec ∧
      ∀ v ∈ (includeconfOf s' sec).drop
          (max (includeconfOf s₁ sec).length (negated (includeconfOf s' sec))),
        ∃ name, v = .str name ∧ includeWarning name ∈ r.warnings

/-- **The files `ReadConfigFiles` includes**: every run without `includeconf` on the command
line that returns `true` opens the main file's `includeconf` values after the last
negation, of the chain's section and then of the default section, and warns about the
values the included files add after the last negation. -/
theorem readConfigFiles_includes {env : ConfigEnv} {ignoreInvalidKeys : Bool}
    {s s₁ s' : ArgsManager} (hcl : s.settings.commandLineOptions.find? "includeconf" = none)
    (hmain : mainConfigState env ignoreInvalidKeys s = some s₁)
    (hok : (readConfigFiles env ignoreInvalidKeys s).ret = .ok s') :
    IncludesRead env (readConfigFiles env ignoreInvalidKeys s) s₁ s' := by
  rw [readConfigFiles_of_main hcl hmain] at hok ⊢
  obtain ⟨chainId, chainNames, _, defaultNames, _, names, hc, hch, hdef, hri, hrec, hop, hw, -⟩ :=
    includeConfFiles_ok hok
  obtain ⟨hchs, rfl⟩ := addIncludes_ok hch
  obtain ⟨hdefs, rfl⟩ := addIncludes_ok hdef
  obtain ⟨chainNames', _, defaultNames', _, hch', hdef', hpre⟩ := recursiveIncludes_ok hrec
  have hgrow : ∀ sec, includeconfOf s₁ sec <+: includeconfOf s' sec := by
    have := readIncludes_prefix env ignoreInvalidKeys s₁ (chainNames ++ defaultNames)
      (fun _ => List.prefix_refl _)
    rwa [hri] at this
  have hwarn : ∀ n ∈ chainNames' ++ defaultNames',
      includeWarning n ∈ (includeConfFiles env ignoreInvalidKeys s₁).warnings :=
    fun n hn => hw ▸ List.mem_map_of_mem _ (hpre.subset hn)
  refine ⟨chainId, hc, ⟨chainNames, defaultNames, by simpa using hchs, by simpa using hdefs, hop⟩,
    fun sec hsec => ⟨hgrow sec, fun v hv => ?_⟩⟩
  simp only [List.mem_cons, List.mem_singleton, List.not_mem_nil, or_false] at hsec
  rcases hsec with rfl | rfl
  · rw [(addIncludes_ok hch').1] at hv
    obtain ⟨n, hn, rfl⟩ := List.mem_map.1 hv
    exact ⟨n, rfl, hwarn n (List.mem_append_left _ hn)⟩
  · rw [(addIncludes_ok hdef').1] at hv
    obtain ⟨n, hn, rfl⟩ := List.mem_map.1 hv
    exact ⟨n, rfl, hwarn n (List.mem_append_right _ hn)⟩

/-- A manager with `-chain` and `-includeconf` registered. -/
def includeconfManager : ArgsManager :=
  { availableArgs := fun c =>
      if c = .options then
        [("-chain".toList, ⟨"=<chain>".toList, [], Flags.allowAny⟩),
          ("-includeconf".toList, ⟨"=<file>".toList, [], Flags.allowAny⟩)]
      else [] }

/-- The run after `globe -chain=` meets `IncludesRead`. -/
theorem readConfigFiles_includes_empty_chain :
    ∃ s s₁ s', parseParameters ["globe", "-chain="] includeconfManager = .ok s ∧
      mainConfigState includeAEnv false s = some s₁ ∧
      (readConfigFiles includeAEnv false s).ret = .ok s' ∧
      IncludesRead includeAEnv (readConfigFiles includeAEnv false s) s₁ s' :=
  ⟨_, _, _, rfl, rfl, rfl, readConfigFiles_includes rfl rfl rfl⟩

/-- **With `-chain=` an included file is opened twice**: the chain name is empty, the main
file names `a` once, in the default section, which is then also the chain's section, and
`ReadConfigFiles` returns `true` having opened `a` twice. -/
theorem readConfigFiles_opens_twice :
    ∃ s s₁ s', parseParameters ["globe", "-chain="] includeconfManager = .ok s ∧
      mainConfigState includeAEnv false s = some s₁ ∧
      getChainName includeAEnv s₁ = .ok [] ∧
      includeconfOf s₁ [] = [.str "a"] ∧
      (readConfigFiles includeAEnv false s).ret = .ok s' ∧
      (readConfigFiles includeAEnv false s).opened = ["a".toList, "a".toList] :=
  ⟨_, _, _, rfl, rfl, rfl, rfl, rfl, rfl⟩

end GlobeUtil
