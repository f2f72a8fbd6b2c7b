import GlobeUtil.Args.Lookup

/-!
# Listing the arguments

`ArgsManager::getArgsList` gives every argument the node runs with, by name: a first loop
marks the names of the forced settings, of the command-line options and of the options of
every section of the configuration files, and a second loop gives each name its values —
`GetArgs` for a name the caller lists as a list parameter, and the one value
`GetArg(name, "")` otherwise.

What is listed is fixed by the first loop alone (`argNames_find?`): a setting that only the
settings file holds (`rw_settings`) is not listed, and an option of a configuration section
is listed whichever network is selected, while the value given for it is the merged one,
which may come from elsewhere. A name listed twice gets the same value both times, so the
second loop's map holds, for each listed name, exactly the value of that name
(`getArgsList_find?`).

## Main definitions

* `getSettingsListOf`, `getArgs`: `ArgsManager::GetSettingsList` and `GetArgs`
* `argNames`: the names of the first loop
* `Listed`: a name set by a forced setting, the command line or a configuration section
* `paramValue`, `getArgsList`: the value of one name, and the whole list

## Main results

* `argNames_find?`: the first loop marks exactly the `Listed` names
* `getArgsList_find?`: every listed name, and only those, with its value
-/

namespace GlobeUtil

section ArgsList

variable (env : ConfigEnv) (settingsList : Settings → Str → Str → Bool → List SettingsValue)
  (s : ArgsManager)

/-- `ArgsManager::GetSettingsList`, over `util::GetSettingsList` (util/settings.cpp, not among
the sources), `settingsList`: every value of a setting, from the settings, a section, a name
and whether to skip the default section. -/
def getSettingsListOf (arg : Str) : List SettingsValue :=
  settingsList s.settings s.network (settingName arg) (!useDefaultSection s arg)

/-- The text `GetArgs` gives a value: `0` and `1` for the booleans, else `get_str`, which
throws on a number. -/
def argText (v : SettingsValue) : Except Str Str :=
  if v.isFalse then .ok "0" else if v.isTrue then .ok "1" else v.getStr

/-- `ArgsManager::GetArgs`. -/
def getArgs (strArg : Str) : Except Str (List Str) :=
  (getSettingsListOf settingsList s strArg).mapM argText

/-- `args[arg.first] = true` for every entry of a map. -/
def markNames {V : Type} (m : StrMap V) (args : StrMap Bool) : StrMap Bool :=
  m.foldl (fun args a => StrMap.modify a.1 (fun _ => true) args) args

/-- The first loop of `getArgsList`: the names of the forced settings, the command-line
options and the options of every section of `ro_config`. -/
def argNames (st : Settings) : StrMap Bool :=
  st.roConfig.foldl (fun args sec => markNames sec.2 args)
    (markNames st.commandLineOptions (markNames st.forcedSettings []))

/-- The value `getArgsList` gives the name `name`: `GetArgs` for a list parameter, the one
value `GetArg(-name, "")` otherwise. -/
def paramValue (paramListType : List Str) (name : Str) : Except Str (List Str) :=
  let paramName := '-' :: name
  if paramName ∈ paramListType then getArgs settingsList s paramName
  else .ok [getArg env s paramName []]

/-- The body of the second loop of `getArgsList`: `ret[arg.first] = paramValue`. -/
def addParam (paramListType : List Str) (ret : StrMap (List Str)) (arg : Str × Bool) :
    Except Str (StrMap (List Str)) := do
  let v ← paramValue env settingsList s paramListType arg.1
  pure (StrMap.modify arg.1 (fun _ => v) ret)

/-- `ArgsManager::getArgsList`; a `get_str` that throws in `GetArgs` is the `.error`. -/
def getArgsList (paramListType : List Str) : Except Str (StrMap (List Str)) :=
  (argNames s.settings).foldlM (addParam env settingsList s paramListType) []

end ArgsList

/-! ## The names listed -/

/-- A name is listed when a forced setting, a command-line option or an option of some
section of the configuration files has it. -/
def Listed (st : Settings) (k : Str) : Prop :=
  k ∈ st.forcedSettings.map Prod.fst ∨ k ∈ st.commandLineOptions.map Prod.fst ∨
    ∃ sec ∈ st.roConfig, k ∈ sec.2.map Prod.fst

instance (st : Settings) (k : Str) : Decidable (Listed st k) :=
  inferInstanceAs (Decidable (_ ∨ _ ∨ _))

theorem find?_markNames {V : Type} (m : StrMap V) (args : StrMap Bool) (k : Str) :
    (markNames m args).find? k = if k ∈ m.map Prod.fst then some true else args.find? k := by
  induction m generalizing args with
  | nil => simp [markNames]
  | cons e m ih =>
    have hstep : markNames (e :: m) args = markNames m (StrMap.modify e.1 (fun _ => true) args) :=
      rfl
    rw [hstep, ih]
    by_cases hk : e.1 = k
    · subst hk
      simp only [List.map_cons, List.mem_cons, true_or, if_true, StrMap.find?_modify_self,
        ite_self]
    · simp only [List.map_cons, List.mem_cons, Ne.symm hk, false_or,
        StrMap.find?_modify_ne (Ne.symm hk)]

theorem find?_foldl_markNames (secs : StrMap (StrMap (List SettingsValue))) (args : StrMap Bool)
    (k : Str) :
    (secs.foldl (fun args sec => markNames sec.2 args) args).find? k =
      if ∃ sec ∈ secs, k ∈ sec.2.map Prod.fst then some true else args.find? k := by
  induction secs generalizing args with
  | nil => simp
  | cons sec secs ih =>
    rw [List.foldl_cons, ih, find?_markNames]
    simp only [List.exists_mem_cons_iff]
    by_cases h₁ : ∃ sec ∈ secs, k ∈ sec.2.map Prod.fst <;>
      by_cases h₂ : k ∈ sec.2.map Prod.fst <;> simp only [h₁, h₂, if_true, if_false, or_true, or_false]

/-- **The first loop marks exactly the listed names.** -/
theorem argNames_find? (st : Settings) (k : Str) :
    (argNames st).find? k = if Listed st k then some true else none := by
  unfold argNames Listed
  rw [find?_foldl_markNames, find?_markNames, find?_markNames]
  by_cases h₁ : k ∈ st.forcedSettings.map Prod.fst <;>
    by_cases h₂ : k ∈ st.commandLineOptions.map Prod.fst <;>
    simp only [h₁, h₂, if_true, if_false, true_or, or_true, false_or, ite_self, StrMap.find?_nil]

theorem listed_iff_mem_argNames {st : Settings} {k : Str} :
    Listed st k ↔ k ∈ (argNames st).map Prod.fst := by
  rw [← StrMap.isSome_find?_iff, argNames_find?]
  split_ifs with h <;> simp [h]

/-! ## The values listed -/

section Values

variable {env : ConfigEnv} {settingsList : Settings → Str → Str → Bool → List SettingsValue}
  {s : ArgsManager} {ps : List Str}

/-- One step of the second loop throws where the name's value does, and otherwise writes
it. -/
theorem addParam_eq_ok {ret ret' : StrMap (List Str)} {arg : Str × Bool}
    (h : addParam env settingsList s ps ret arg = .ok ret') :
    ∃ v, paramValue env settingsList s ps arg.1 = .ok v ∧
      ret' = StrMap.modify arg.1 (fun _ => v) ret := by
  obtain ⟨v, hv, h⟩ := except_bind_eq_ok h
  exact ⟨v, hv, (Except.ok.inj h).symm⟩

/-- After the second loop over `l`, each name of `l` holds its value; a name met twice is
written twice with the same value. -/
theorem foldlM_addParam :
    ∀ {l : List (Str × Bool)} {r₀ r : StrMap (List Str)},
      l.foldlM (addParam env settingsList s ps) r₀ = .ok r → ∀ k,
        r.find? k = if k ∈ l.map Prod.fst then (paramValue env settingsList s ps k).toOption
          else r₀.find? k
  | [], _, _, h, k => by cases h; simp
  | a :: l, r₀, r, h, k => by
    rw [List.foldlM_cons] at h
    obtain ⟨r₁, h₁, h⟩ := except_bind_eq_ok h
    obtain ⟨v, hv, rfl⟩ := addParam_eq_ok h₁
    rw [foldlM_addParam h k]
    by_cases hk : a.1 = k
    · subst hk; simp [hv, Except.toOption]
    · simp only [List.map_cons, List.mem_cons, Ne.symm hk, false_or,
        StrMap.find?_modify_ne (Ne.symm hk)]

/-- **`getArgsList` lists every listed name, and only those, each with its value.** -/
theorem getArgsList_find? {ret : StrMap (List Str)}
    (h : getArgsList env settingsList s ps = .ok ret) (k : Str) (vs : List Str) :
    ret.find? k = some vs ↔ Listed s.settings k ∧ paramValue env settingsList s ps k = .ok vs := by
  rw [foldlM_addParam h k]
  simp only [← listed_iff_mem_argNames]
  split_ifs with hk
  · cases paramValue env settingsList s ps k <;> simp [hk, Except.toOption]
  · simp [hk]

/-- A manager with the forced setting `a`, the command-line option `b`, the option `c` of a
`[test]` section and the settings-file value `d`. -/
def argsListSample : ArgsManager :=
  { settings :=
      { forcedSettings := [("a", .str "1")]
        commandLineOptions := [("b", [.str "x"])]
        rwSettings := [("d", .bool true)]
        roConfig := [("test", [("c", [.str "y"])])] } }

/-- With `-b` a list parameter, the `[test]` option `c` is listed with `GetArg`'s value; `d`,
only in the settings file, is not listed. -/
theorem getArgsList_find?_sample :
    (StrMap.find? "c" ([("a", [""]), ("b", ["x"]), ("c", [""])] : StrMap (List Str)) =
        some [[]] ↔
      Listed argsListSample.settings "c" ∧
        paramValue ⟨fun _ _ _ _ _ _ => .null, id, fun _ => none, fun _ => true⟩
          (fun _ _ _ _ => [.str "x"]) argsListSample ["-b"] "c" = .ok [[]]) ∧
      ¬ Listed argsListSample.settings "d" :=
  ⟨@getArgsList_find? ⟨fun _ _ _ _ _ _ => .null, id, fun _ => none, fun _ => true⟩
    (fun _ _ _ _ => [.str "x"]) argsListSample ["-b"] [("a", [""]), ("b", ["x"]), ("c", [""])] rfl
    "c" [[]], by decide⟩

end Values

end GlobeUtil
