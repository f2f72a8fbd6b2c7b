import GlobeUtil.Args.Key
import GlobeUtil.Data.StrMap

/-!
# The argument manager

`ArgsManager` as util/system.cpp keeps it: the registered arguments by category, the four
sources of settings (`util::Settings`), the positional command and its arguments, and the
sections the configuration files named. This module gives the state, the registration
calls `AddArg` and `AddCommand`, and the readers `GetArgFlags`, `GetCommand` and
`GetUnrecognizedSections`; parsing the command line and reading the configuration files
come after it.

Registration fixes which names a settings key can resolve to. `DashNamesDotFree` is the
fact later modules need about it — every registered name that starts with `-` holds no
`.` — and `addArg_dashNamesDotFree`, `addCommand_dashNamesDotFree` show that registering
dot-free arguments and any commands keeps it.

## Main definitions

* `ArgsManager`, `Settings`, `SectionInfo`, `Arg`, `OptionsCategory`
* `CategoryOrder`: the order `std::map` visits the categories in
* `Ret`: how a `bool` method with an `error` out-parameter ends
* `addArg`, `addCommand`, `getArgFlags`, `getCommand`, `getUnrecognizedSections`

## Main results

* `addArg_dashNamesDotFree`, `addCommand_dashNamesDotFree`
* `not_mem_of_getArgFlags`: a `-name` that resolves holds no `.`
-/

namespace GlobeUtil

/-- `OptionsCategory` of util/system.h, which is not among the sources: the enumerators
`GetHelpMessage` switches on, and `HIDDEN`. -/
inductive OptionsCategory
  | options | connection | zmq | debugTest | nodeRelay | blockCreation | rpc | wallet
  | walletDebugTest | chainparams | gui | commands | registerCommands | smsg | partWallet
  | partStaking | hidden
  deriving DecidableEq, Repr

/-- The order in which `std::map` visits the categories, their declaration order in
util/system.h: every category before `HIDDEN` once, then `HIDDEN` ("Always the last option to
avoid printing these in the help"). util/system.h is not among the sources, so the results
on the help message hold for every such order. -/
structure CategoryOrder where
  /-- The categories before `HIDDEN`, in order. -/
  visible : List OptionsCategory
  nodup : visible.Nodup
  hidden_not_mem : OptionsCategory.hidden ∉ visible
  complete : ∀ c, c ≠ .hidden → c ∈ visible

/-- The categories an order visits: the visible ones, then `HIDDEN`. -/
def CategoryOrder.cats (order : CategoryOrder) : List OptionsCategory :=
  order.visible ++ [.hidden]

/-- The categories in the order `GetHelpMessage`'s `switch` lists them, `HIDDEN` last: the order
`GetArgFlags` is read with, which matters only for a name registered in two categories
(`getArgFlags_of_unique`). -/
def OptionsCategory.all : List OptionsCategory :=
  [.options, .connection, .zmq, .debugTest, .nodeRelay, .blockCreation, .rpc, .wallet,
    .walletDebugTest, .chainparams, .gui, .commands, .registerCommands, .smsg, .partWallet,
    .partStaking, .hidden]

/-- `OptionsCategory.all` as a `CategoryOrder`. -/
def switchOrder : CategoryOrder where
  visible := OptionsCategory.all.dropLast
  nodup := by decide
  hidden_not_mem := by decide
  complete := by intro c; cases c <;> decide

/-- `ArgsManager::Arg`: a registered argument. -/
structure Arg where
  helpParam : Str
  helpText : Str
  flags : Nat
  deriving DecidableEq, Repr

/-- `util::Settings`: the four sources of settings, highest precedence first. -/
structure Settings where
  forcedSettings : StrMap SettingsValue := []
  commandLineOptions : StrMap (List SettingsValue) := []
  rwSettings : StrMap SettingsValue := []
  roConfig : StrMap (StrMap (List SettingsValue)) := []
  deriving DecidableEq, Repr

/-- `SectionInfo`: a section name a configuration file used, and where. -/
structure SectionInfo where
  name : Str
  file : Str
  line : Nat
  deriving DecidableEq, Repr

/-- `ArgsManager`: the members util/system.cpp reads and writes (the cached data
directories are left out with the file system). -/
structure ArgsManager where
  settings : Settings := {}
  command : List Str := []
  acceptAnyCommand : Bool := true
  availableArgs : OptionsCategory → StrMap Arg := fun _ => []
  networkOnlyArgs : List Str := []
  network : Str := []
  configSections : List SectionInfo := []

/-- How a call of a `bool` method with a `std::string& error` out-parameter ends. -/
inductive Ret (σ : Type) where
  /-- it returned `true` -/
  | ok (s : σ)
  /-- it returned `false`, having written `error` -/
  | fail (error : Str) (s : σ)
  /-- an exception (`std::runtime_error`, `std::logic_error`) left it -/
  | throw (what : Str) (s : σ)
  /-- an `assert` failed, and the process stopped -/
  | abort
  deriving Repr

/-- The call returned (`true`, `false` or by an exception) in a state with property `P`; an
abort returns nothing. -/
def Ret.Holds {σ : Type} (P : σ → Prop) : Ret σ → Prop
  | .ok s | .fail _ s | .throw _ s => P s
  | .abort => False

theorem Ret.Holds.mono {σ : Type} {P Q : σ → Prop} (h : ∀ s, P s → Q s) :
    ∀ {r : Ret σ}, r.Holds P → r.Holds Q
  | .ok s, hs | .fail _ s, hs | .throw _ s, hs => h s hs

theorem Ret.Holds.ne_abort {σ : Type} {P : σ → Prop} {r : Ret σ} (h : r.Holds P) :
    r ≠ .abort := by
  rintro rfl; exact h

/-! ## Registration -/

section Registration

/-- `std::set::emplace` on a set of names. -/
def setInsert (x : Str) (xs : List Str) : List Str :=
  if x ∈ xs then xs else xs ++ [x]

/-- Where `AddArg` splits a name from its help parameter: at the first `=`, if any. -/
def eqIndex (name : Str) : Nat :=
  (Str.find '=' name).getD name.length

/-- `ArgsManager::AddArg`: register the name before any `=`; `none` where one of its
assertions stops the process (a `COMMAND` flag, or a name already in the category). -/
def addArg (name help : Str) (flags : Nat) (cat : OptionsCategory) (s : ArgsManager) :
    Option ArgsManager :=
  if hasFlag flags Flags.command then none else
  match StrMap.emplace (name.take (eqIndex name)) ⟨name.drop (eqIndex name), help, flags⟩
      (s.availableArgs cat) with
  | (_, false) => none
  | (m, true) =>
    some { s with
      availableArgs := Function.update s.availableArgs cat m
      networkOnlyArgs :=
        if hasFlag flags Flags.networkOnly then setInsert (name.take (eqIndex name)) s.networkOnlyArgs
        else s.networkOnlyArgs }

/-- `ArgsManager::AddHiddenArgs`: `AddArg` each name with `ALLOW_ANY`, in `HIDDEN`. -/
def addHiddenArgs : List Str → ArgsManager → Option ArgsManager
  | [], s => some s
  | name :: names, s => (addArg name [] Flags.allowAny .hidden s).bind (addHiddenArgs names)

/-- `ArgsManager::AddCommand`: register a command and latch `m_accept_any_command` off;
`none` where an assertion stops the process (an `=`, a leading `-`, a duplicate) or
`cmd.at(0)` throws on the empty name. -/
def addCommand (cmd help : Str) (s : ArgsManager) : Option ArgsManager :=
  if (Str.find '=' cmd).isSome then none else
  match cmd with
  | [] => none
  | c :: _ =>
    if c = '-' then none else
    match StrMap.emplace cmd ⟨[], help, Flags.command⟩ (s.availableArgs .commands) with
    | (_, false) => none
    | (m, true) =>
      some { s with
        acceptAnyCommand := false
        availableArgs := Function.update s.availableArgs .commands m }

/-- `ArgsManager::GetArgFlags`: the flags of the first category that registers `name`. -/
def getArgFlags (s : ArgsManager) (name : Str) : Option Nat :=
  OptionsCategory.all.findSome? fun c => ((s.availableArgs c).find? name).map Arg.flags

/-- Every registered name that starts with `-` holds no `.`. -/
def DashNamesDotFree (s : ArgsManager) : Prop :=
  ∀ c k a, (s.availableArgs c).find? k = some a → k.head? = some '-' → '.' ∉ k

theorem getArgFlags_eq_some {s : ArgsManager} {name : Str} {f : Nat}
    (h : getArgFlags s name = some f) :
    ∃ c a, (s.availableArgs c).find? name = some a ∧ a.flags = f := by
  obtain ⟨c, -, hc⟩ := List.exists_of_findSome?_eq_some h
  obtain ⟨a, ha, rfl⟩ := Option.map_eq_some'.1 hc
  exact ⟨c, a, ha, rfl⟩

/-- Where one category alone registers `name`, `GetArgFlags` gives its flags, whatever order
the categories are visited in. -/
theorem getArgFlags_of_unique {s : ArgsManager} {name : Str} {c : OptionsCategory} {a : Arg}
    (h : (s.availableArgs c).find? name = some a)
    (hu : ∀ c', c' ≠ c → (s.availableArgs c').find? name = none) :
    getArgFlags s name = some a.flags := by
  have key : ∀ cats : List OptionsCategory, c ∈ cats →
      cats.findSome? (fun c => ((s.availableArgs c).find? name).map Arg.flags) = some a.flags := by
    intro cats hc
    induction cats with
    | nil => cases hc
    | cons d cats ih =>
      by_cases hd : d = c
      · subst hd; simp [h]
      · simp only [List.findSome?_cons, hu d hd, Option.map_none']
        exact ih ((List.mem_cons.1 hc).resolve_left (Ne.symm hd))
  exact key _ (by cases c <;> decide)

/-- A `-name` that resolves to flags holds no `.`. -/
theorem not_mem_of_getArgFlags {s : ArgsManager} (hs : DashNamesDotFree s) {name : Str}
    {f : Nat} (h : getArgFlags s ('-' :: name) = some f) : '.' ∉ name := by
  obtain ⟨c, a, ha, -⟩ := getArgFlags_eq_some h
  intro hm
  exact hs c _ a ha rfl (List.mem_cons_of_mem _ hm)

theorem dashNamesDotFree_empty : DashNamesDotFree {} := by
  intro c k a h; simp at h

/-- What a successful `AddArg` does: the emplace into `cat` inserted, and the manager gained
that map and, for a `NETWORK_ONLY` argument, the name. -/
theorem addArg_some {name help : Str} {flags : Nat} {cat : OptionsCategory} {s s' : ArgsManager}
    (h : addArg name help flags cat s = some s') :
    ∃ m, StrMap.emplace (name.take (eqIndex name)) ⟨name.drop (eqIndex name), help, flags⟩
        (s.availableArgs cat) = (m, true) ∧
      s' = { s with
        availableArgs := Function.update s.availableArgs cat m
        networkOnlyArgs :=
          if hasFlag flags Flags.networkOnly then setInsert (name.take (eqIndex name)) s.networkOnlyArgs
          else s.networkOnlyArgs } := by
  unfold addArg at h
  split at h
  · cases h
  · split at h
    · cases h
    · next m hm => cases h; exact ⟨m, hm, rfl⟩

/-- What a successful `AddCommand` does: the command is a non-empty name without `=` or a
leading `-`, the emplace into `COMMANDS` inserted, and `m_accept_any_command` is off. -/
theorem addCommand_some {cmd help : Str} {s s' : ArgsManager} (h : addCommand cmd help s = some s') :
    cmd.head?.isSome ∧ cmd.head? ≠ some '-' ∧
      ∃ m, StrMap.emplace cmd ⟨[], help, Flags.command⟩ (s.availableArgs .commands) = (m, true) ∧
        s' = { s with
          acceptAnyCommand := false
          availableArgs := Function.update s.availableArgs .commands m } := by
  cases cmd with
  | nil => simp [addCommand] at h
  | cons c0 rest =>
    simp only [addCommand] at h
    split at h
    · cases h
    · split at h
      · cases h
      · next hc =>
        split at h
        · cases h
        · next m hm => cases h; exact ⟨by simp, by simpa using hc, m, hm, rfl⟩

/-- An emplace that inserted adds one entry to its category, and none elsewhere. -/
theorem find?_update_emplace {m : OptionsCategory → StrMap Arg} {cat : OptionsCategory}
    {key : Str} {a : Arg} {m' : StrMap Arg} (hm : StrMap.emplace key a (m cat) = (m', true))
    (c : OptionsCategory) (k : Str) :
    (Function.update m cat m' c).find? k = (m c).find? k ∨ (c = cat ∧ k = key) := by
  by_cases hc : c = cat
  · subst hc
    have := StrMap.find?_emplace key k a (m c)
    rw [hm] at this
    simp only [Function.update_same, this]
    by_cases hk : k = key
    · exact .inr ⟨trivial, hk⟩
    · exact .inl (by simp [hk])
  · exact .inl (by simp [Function.update_noteq hc])

/-- What a successful `AddArg` does to the registered names: one new entry, in `cat`. -/
theorem addArg_find? {name help : Str} {flags : Nat} {cat : OptionsCategory}
    {s s' : ArgsManager} (h : addArg name help flags cat s = some s') (c : OptionsCategory)
    (k : Str) : (s'.availableArgs c).find? k = (s.availableArgs c).find? k ∨
      (c = cat ∧ k = name.take (eqIndex name)) := by
  obtain ⟨m, hm, rfl⟩ := addArg_some h
  exact find?_update_emplace hm c k

/-- What a successful `AddCommand` does to the registered names: one new command. -/
theorem addCommand_find? {cmd help : Str} {s s' : ArgsManager}
    (h : addCommand cmd help s = some s') (c : OptionsCategory) (k : Str) :
    (s'.availableArgs c).find? k = (s.availableArgs c).find? k ∨
      (k = cmd ∧ cmd.head? ≠ some '-') := by
  obtain ⟨-, hc, m, hm, rfl⟩ := addCommand_some h
  exact (find?_update_emplace hm c k).imp_right fun hk => ⟨hk.2, hc⟩

/-- Registering a name without a `.` keeps registered `-names` dot-free. -/
theorem addArg_dashNamesDotFree {name help : Str} {flags : Nat} {cat : OptionsCategory}
    {s s' : ArgsManager} (hname : '.' ∉ name) (h : addArg name help flags cat s = some s')
    (hs : DashNamesDotFree s) : DashNamesDotFree s' := by
  intro c k a hk hd
  rcases addArg_find? h c k with he | ⟨-, rfl⟩
  · exact hs c k a (he ▸ hk) hd
  · exact fun hm => hname (List.mem_of_mem_take hm)

/-- Commands never start with `-`, so registering one keeps registered `-names` dot-free. -/
theorem addCommand_dashNamesDotFree {cmd help : Str} {s s' : ArgsManager}
    (h : addCommand cmd help s = some s') (hs : DashNamesDotFree s) : DashNamesDotFree s' := by
  intro c k a hk hd
  rcases addCommand_find? h c k with he | ⟨rfl, hc⟩
  · exact hs c k a (he ▸ hk) hd
  · exact absurd hd hc

/-- `AddArg` writes only the registrations. -/
theorem addArg_frame {name help : Str} {flags : Nat} {cat : OptionsCategory}
    {s s' : ArgsManager} (h : addArg name help flags cat s = some s') :
    s'.settings = s.settings ∧ s'.configSections = s.configSections := by
  obtain ⟨m, -, rfl⟩ := addArg_some h
  exact ⟨rfl, rfl⟩

/-- `AddCommand` writes only the registrations. -/
theorem addCommand_frame {cmd help : Str} {s s' : ArgsManager}
    (h : addCommand cmd help s = some s') :
    s'.settings = s.settings ∧ s'.configSections = s.configSections := by
  obtain ⟨-, -, m, -, rfl⟩ := addCommand_some h
  exact ⟨rfl, rfl⟩

/-- A property that each `AddArg` of the list keeps holds after `AddHiddenArgs`. -/
theorem addHiddenArgs_induct {P : ArgsManager → Prop} :
    ∀ {names : List Str} {s s' : ArgsManager},
      (∀ name ∈ names, ∀ t t', addArg name [] Flags.allowAny .hidden t = some t' → P t → P t') →
      addHiddenArgs names s = some s' → P s → P s'
  | [], _, _, _, h, hs => by cases h; exact hs
  | name :: names, s, s', hstep, h, hs => by
    obtain ⟨t, ht, h⟩ := Option.bind_eq_some.1 h
    exact addHiddenArgs_induct (fun n hn => hstep n (List.mem_cons_of_mem _ hn)) h
      (hstep name (List.mem_cons_self _ _) _ _ ht hs)

end Registration

/-! ## The positional command and the configuration sections -/

/-- `ArgsManager::Command`: the registered command and the arguments after it. -/
structure Command where
  command : Str
  args : List Str
  deriving DecidableEq, Repr

/-- `ArgsManager::GetCommand`: with registered commands the first positional argument is the
command; otherwise all of them are its arguments. -/
def getCommand (s : ArgsManager) : Option Command :=
  match s.command with
  | [] => none
  | c :: rest => if !s.acceptAnyCommand then some ⟨c, rest⟩ else some ⟨[], c :: rest⟩

/-- The chain names of `CBaseChainParams` (chainparamsbase.cpp, which is not among the
sources). -/
def chainMain : Str := "main"
def chainTestnet : Str := "test"
def chainSignet : Str := "signet"
def chainRegtest : Str := "regtest"

/-- `ArgsManager::GetUnrecognizedSections`: the sections used that name no chain. -/
def getUnrecognizedSections (s : ArgsManager) : List SectionInfo :=
  s.configSections.filter fun si =>
    !decide (si.name ∈ [chainRegtest, chainSignet, chainTestnet, chainMain])

/-- `ArgsManager::SelectConfigNetwork`. -/
def selectConfigNetwork (network : Str) (s : ArgsManager) : ArgsManager :=
  { s with network := network }

/-- `ArgsManager::ForceSetArg`. -/
def forceSetArg (strArg strValue : Str) (s : ArgsManager) : ArgsManager :=
  { s with settings.forcedSettings :=
      StrMap.modify (settingName strArg) (fun _ => .str strValue) s.settings.forcedSettings }

/-- `ArgsManager::ClearForced`. -/
def clearForced (strArg : Str) (s : ArgsManager) : ArgsManager :=
  { s with settings.forcedSettings := StrMap.erase (settingName strArg) s.settings.forcedSettings }

end GlobeUtil
