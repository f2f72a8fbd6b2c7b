import GlobeUtil.Args.CmdLine
import GlobeUtil.Config.Read

/-!
# Runs of the argument manager

The program registers its arguments, parses the command line, selects the network, reads
the configuration files and the settings file, and forces values, in any order and as often
as it likes. `ArgsCall` lists the calls of util/system.cpp that write to an `ArgsManager`,
`call` performs one, and `Reachable` holds of every manager that some run from a fresh one
reaches, as long as the arguments it registers have names without a `.`.

Over every such run the non-empty sections of `ro_config` are among `m_config_sections`
(`reachable_configInv`): the section `InterpretKey` stores a key under, before its first
`.`, is the one `GetConfigOptions` recorded from the key's last `.`, because the name after
it is registered and so holds no `.`. `GetUnrecognizedSections` therefore names every
section that holds settings and names no chain (`stored_sections_reported`).

`ParsedReachable` holds of the managers that runs reach when every parse succeeds, as the
program requires. Only `ParseParameters` writes the command line, and it accepts an
`includeconf` list only when it ends in a negation, so from all of them `ReadConfigFiles`
returns without reaching its assertion (`readConfigFiles_never_asserts`). For the same reason
the values a successful parse stores stay on the command line, exactly as `argv` gives them,
until the next parse (`run_keeps_parsed_cmdLine`).

## Main definitions

* `ArgsCall`, `call`, `run`
* `Reachable`: the managers runs from a fresh one reach
* `ParsedReachable`: those that runs reach when every parse succeeds

## Main results

* `call_configInv`: one call keeps `ConfigInv`
* `reachable_configInv`: every reachable manager meets `ConfigInv`
* `stored_sections_reported`: after any run, a section that holds settings is recorded, and
  reported unless it names a chain
* `call_cmdLine`: every call but `ParseParameters` keeps the command line
* `readConfigFiles_never_asserts`: after any run whose parses succeed, `ReadConfigFiles`
  does not stop the process
* `run_keeps_parsed_cmdLine`: after a successful parse, every later run without one leaves
  each option with the values of `argv`
-/

namespace GlobeUtil

/-- The state a call leaves, unless it stopped the process. -/
def Ret.state? {σ : Type} : Ret σ → Option σ
  | .ok s | .fail _ s | .throw _ s => some s
  | .abort => none

theorem Ret.Holds.of_state? {σ : Type} {P : σ → Prop} {r : Ret σ} (h : r.Holds P) {s : σ}
    (hs : r.state? = some s) : P s := by
  cases r <;> simp only [Ret.state?, Option.some.injEq, reduceCtorEq] at hs <;> subst hs <;> exact h

/-! ## Calls and runs -/

/-- The calls of util/system.cpp that write to an `ArgsManager`, with what each reads from
outside it. -/
inductive ArgsCall where
  | addArg (name help : Str) (flags : Nat) (cat : OptionsCategory)
  | addHiddenArgs (names : List Str)
  | addCommand (cmd help : Str)
  | parseParameters (argv : List Str)
  | selectConfigNetwork (network : Str)
  | readConfigStream (lines : List Str) (filepath : Str) (ignoreInvalidKeys : Bool)
  | readConfigFiles (env : ConfigEnv) (ignoreInvalidKeys : Bool)
  | readSettingsFile (read : Option (StrMap SettingsValue × Bool))
  | softSetArg (env : ConfigEnv) (strArg strValue : Str)
  | forceSetArg (strArg strValue : Str)
  | clearForced (strArg : Str)

/-- One call: the manager it leaves, or `none` where it stops the process. -/
def call (s : ArgsManager) : ArgsCall → Option ArgsManager
  | .addArg name help flags cat => addArg name help flags cat s
  | .addHiddenArgs names => addHiddenArgs names s
  | .addCommand cmd help => addCommand cmd help s
  | .parseParameters argv => (parseParameters argv s).state?
  | .selectConfigNetwork network => some (selectConfigNetwork network s)
  | .readConfigStream lines filepath ignoreInvalidKeys =>
    (readConfigStream lines filepath ignoreInvalidKeys s).state?
  | .readConfigFiles env ignoreInvalidKeys => (readConfigFiles env ignoreInvalidKeys s).ret.state?
  | .readSettingsFile read => some (readSettingsFile read s).2
  | .softSetArg env strArg strValue => some (softSetArg env strArg strValue s).2
  | .forceSetArg strArg strValue => some (forceSetArg strArg strValue s)
  | .clearForced strArg => some (clearForced strArg s)

/-- A run of calls, up to the first that stops the process. -/
def run : ArgsManager → List ArgsCall → Option ArgsManager
  | s, [] => some s
  | s, c :: cs => (call s c).bind (run · cs)

/-- The names a call registers as arguments hold no `.`. -/
def ArgsCall.dotFreeNames : ArgsCall → Bool
  | .addArg name .. => !decide ('.' ∈ name)
  | .addHiddenArgs names => names.all fun name => !decide ('.' ∈ name)
  | _ => true

/-- The managers that runs from a fresh one reach, registering only `.`-free names. -/
inductive Reachable : ArgsManager → Prop
  | init : Reachable {}
  | step {s s' : ArgsManager} {c : ArgsCall} :
      Reachable s → c.dotFreeNames → call s c = some s' → Reachable s'

theorem run_reachable :
    ∀ {s s' : ArgsManager} {calls : List ArgsCall}, Reachable s →
      (∀ c ∈ calls, c.dotFreeNames) → run s calls = some s' → Reachable s'
  | _, _, [], hs, _, h => by cases h; exact hs
  | s, _, c :: cs, hs, hc, h => by
    obtain ⟨t, ht, h⟩ := Option.bind_eq_some.1 h
    exact run_reachable (.step hs (hc c (List.mem_cons_self _ _)) ht)
      (fun c' hc' => hc c' (List.mem_cons_of_mem _ hc')) h

/-! ## Every section that holds settings is recorded -/

theorem SectionsRecorded.of_frame {s t : ArgsManager} (hs : SectionsRecorded s)
    (h : t.settings = s.settings ∧ t.configSections = s.configSections) : SectionsRecorded t := by
  intro sec m hne hm
  rw [h.2]
  exact hs sec m hne (h.1 ▸ hm)

theorem addArg_configInv {name help : Str} {flags : Nat} {cat : OptionsCategory}
    {s s' : ArgsManager} (hname : '.' ∉ name) (h : addArg name help flags cat s = some s')
    (hs : ConfigInv s) : ConfigInv s' :=
  ⟨addArg_dashNamesDotFree hname h hs.1, hs.2.of_frame (addArg_frame h)⟩

/-- **One call keeps `ConfigInv`**, when the names it registers hold no `.`. -/
theorem call_configInv {s s' : ArgsManager} {c : ArgsCall} (hc : c.dotFreeNames)
    (hs : ConfigInv s) (h : call s c = some s') : ConfigInv s' := by
  cases c with
  | addArg name help flags cat =>
    exact addArg_configInv (by simpa [ArgsCall.dotFreeNames] using hc) h hs
  | addHiddenArgs names =>
    simp only [ArgsCall.dotFreeNames, List.all_eq_true, Bool.not_eq_true', decide_eq_false_iff_not]
      at hc
    exact addHiddenArgs_induct (fun name hn _ _ ht ht' => addArg_configInv (hc name hn) ht ht') h hs
  | addCommand cmd help => exact ⟨addCommand_dashNamesDotFree h hs.1, hs.2.of_frame (addCommand_frame h)⟩
  | parseParameters argv =>
    exact (parseParameters_holds (P := ConfigInv) (fun _ _ _ h => h) (fun _ _ h => h)
      (fun _ h => h) argv s hs).of_state? h
  | readConfigStream lines filepath ignoreInvalidKeys => exact (readConfigStream_inv hs rfl).of_state? h
  | readConfigFiles env ignoreInvalidKeys =>
    rcases readConfigFiles_inv env ignoreInvalidKeys hs.1 with ha | ha
    · simp [call, ha, Ret.state?] at h
    · exact ha.of_state? h
  | readSettingsFile read => cases h; rcases read with _ | ⟨_, _⟩ <;> exact hs
  | softSetArg env strArg strValue => cases h; unfold softSetArg; split <;> exact hs
  | selectConfigNetwork _ | forceSetArg _ _ | clearForced _ => cases h; exact hs

/-- **Every reachable manager meets `ConfigInv`.** -/
theorem reachable_configInv {s : ArgsManager} (h : Reachable s) : ConfigInv s := by
  induction h with
  | init => exact ⟨dashNamesDotFree_empty, fun _ _ _ hm => by simp at hm⟩
  | step _ hc hcall ih => exact call_configInv hc ih hcall

/-- The managers that runs from a fresh one reach when every `ParseParameters` call of the
run returns `true`. -/
inductive ParsedReachable : ArgsManager → Prop
  | init : ParsedReachable {}
  | step {s s' : ArgsManager} {c : ArgsCall} : ParsedReachable s → call s c = some s' →
      (∀ argv, c = .parseParameters argv → parseParameters argv s = .ok s') → ParsedReachable s'

/-- Every call but `ParseParameters` leaves the command-line options alone. -/
theorem call_cmdLine {s s' : ArgsManager} {c : ArgsCall} (hc : ∀ argv, c ≠ .parseParameters argv)
    (h : call s c = some s') : s'.settings.commandLineOptions = s.settings.commandLineOptions := by
  cases c with
  | addArg => exact congrArg Settings.commandLineOptions (addArg_frame h).1
  | addHiddenArgs names =>
    exact addHiddenArgs_induct (P := fun t => t.settings.commandLineOptions = _)
      (fun _ _ _ _ ht ht' => (congrArg Settings.commandLineOptions (addArg_frame ht).1).trans ht')
      h rfl
  | addCommand => exact congrArg Settings.commandLineOptions (addCommand_frame h).1
  | parseParameters argv => exact absurd rfl (hc argv)
  | readConfigStream => exact (readConfigStream_cmdLine rfl rfl).of_state? h
  | readConfigFiles env ignoreInvalidKeys =>
    rcases readConfigFiles_holds env ignoreInvalidKeys
      (P := fun t => t.settings.commandLineOptions = s.settings.commandLineOptions)
      (fun ht hr => readConfigStream_cmdLine ht hr) rfl with ha | ha
    · simp [call, ha, Ret.state?] at h
    · exact ha.of_state? h
  | readSettingsFile read => cases h; rcases read with _ | ⟨_, _⟩ <;> rfl
  | softSetArg => cases h; unfold softSetArg; split <;> rfl
  | selectConfigNetwork | forceSetArg | clearForced => cases h; rfl

/-- A command-line `includeconf` list, when there is one, ends in a negation. -/
def IncludeconfNegated (s : ArgsManager) : Prop :=
  ∀ vs, s.settings.commandLineOptions.find? "includeconf" = some vs → lastNegated vs = true

theorem parsedReachable_includeconfNegated {s : ArgsManager} (h : ParsedReachable s) :
    IncludeconfNegated s := by
  induction h with
  | init => intro vs hv; cases hv
  | @step s s' c _ hcall hparse ih =>
    by_cases hc : ∃ argv, c = .parseParameters argv
    · obtain ⟨argv, rfl⟩ := hc
      intro vs hv
      simp [lastNegated, (parseParameters_includeconf (hparse argv rfl) hv).2, SettingsValue.isFalse]
    · intro vs hv
      rw [call_cmdLine (fun argv he => hc ⟨argv, he⟩) hcall] at hv
      exact ih vs hv

/-- **No run that parses successfully reaches the `includeconf` assertion**: from every
manager such a run reaches, `ReadConfigFiles` returns, whatever its environment. -/
theorem readConfigFiles_never_asserts {s : ArgsManager} (h : ParsedReachable s)
    (env : ConfigEnv) (ignoreInvalidKeys : Bool) :
    (readConfigFiles env ignoreInvalidKeys s).ret ≠ .abort := fun habort => by
  obtain ⟨vs, hv, hneg⟩ := readConfigFiles_abort habort
  rw [parsedReachable_includeconfNegated h vs hv] at hneg
  cases hneg

/-- After registering `-includeconf` and parsing `-noincludeconf`, the configuration files
are read to the end: the main file opens, and the assertion holds. -/
theorem readConfigFiles_never_asserts_noincludeconf :
    ∃ s, run {} [.addArg "-includeconf" [] Flags.allowAny .options,
        .parseParameters ["globe", "-noincludeconf"]] = some s ∧
      (readConfigFiles includeAEnv false s).ret ≠ .abort :=
  let ⟨s₁, h₁, s₂, h₂⟩ : ∃ s₁, call {} (.addArg "-includeconf" [] Flags.allowAny .options) = some s₁ ∧
      ∃ s₂, parseParameters ["globe", "-noincludeconf"] s₁ = .ok s₂ := ⟨_, rfl, _, rfl⟩
  have hc₂ : call s₁ (.parseParameters ["globe", "-noincludeconf"]) = some s₂ :=
    congrArg Ret.state? h₂
  ⟨s₂, by simp only [run, h₁, hc₂, Option.some_bind],
    readConfigFiles_never_asserts (.step (.step .init h₁ fun _ h => by cases h) hc₂
      fun _ h => by cases h; exact h₂) _ _⟩

/-! ## The command line until the next parse -/

/-- A run without `ParseParameters` leaves the command-line options alone. -/
theorem run_cmdLine :
    ∀ {s s' : ArgsManager} {calls : List ArgsCall},
      (∀ c ∈ calls, ∀ argv, c ≠ .parseParameters argv) → run s calls = some s' →
        s'.settings.commandLineOptions = s.settings.commandLineOptions
  | _, _, [], _, h => by cases h; rfl
  | _, _, c :: _, hc, h => by
    obtain ⟨t, ht, h⟩ := Option.bind_eq_some.1 h
    exact (run_cmdLine (fun c' hc' => hc c' (List.mem_cons_of_mem _ hc')) h).trans
      (call_cmdLine (hc c (List.mem_cons_self _ _)) ht)

/-- A successful parse stores, under each name, the values `argv[1..]` gives it. -/
theorem parseParameters_cmdLine {argv : List Str} {s s' : ArgsManager}
    (h : parseParameters argv s = .ok s') (name : Str) :
    s'.settings.commandLineOptions.find? name = appendValues none (optionValues s argv.tail name) := by
  unfold parseParameters at h
  split at h
  · next s₁ hs₁ =>
    obtain ⟨rfl, -⟩ := includeconfCheck_ok h
    exact (parseLoop_ok_spec hs₁).2.2.2 name
  · next hr => exact absurd h (hr s')

/-- **The parsed command line lasts until the next parse**: after `ParseParameters(argv)`
succeeds, a run of any calls but `ParseParameters` (reading configuration and settings files,
setting and forcing arguments, registering more) leaves each option with exactly the values
`argv[1..]` gives it. -/
theorem run_keeps_parsed_cmdLine {argv : List Str} {s s₁ s' : ArgsManager}
    {calls : List ArgsCall} (hparse : parseParameters argv s = .ok s₁)
    (hcalls : ∀ c ∈ calls, ∀ argv', c ≠ .parseParameters argv')
    (hrun : run s₁ calls = some s') (name : Str) :
    s'.settings.commandLineOptions.find? name = appendValues none (optionValues s argv.tail name) := by
  rw [run_cmdLine hcalls hrun]
  exact parseParameters_cmdLine hparse name

/-- After parsing `-a=1 --a=2`, forcing `-a` to 3 and reading a settings file leave the
command line as parsed. -/
theorem run_keeps_parsed_cmdLine_forced :
    ∃ s₁ s', parseParameters ["globe", "-a=1", "--a=2"]
        { availableArgs := fun _ => [("-a".toList, ⟨[], [], Flags.allowAny⟩)] } = .ok s₁ ∧
      run s₁ [.forceSetArg "-a" "3", .readSettingsFile (some ([("a".toList, .str "4")], true))] =
        some s' ∧
      s'.settings.commandLineOptions.find? "a" =
        appendValues none (optionValues { availableArgs := fun _ => [("-a".toList, ⟨[], [], Flags.allowAny⟩)] }
          ["-a=1", "--a=2"] "a") :=
  let ⟨s₁, h₁⟩ : ∃ s₁, parseParameters ["globe", "-a=1", "--a=2"]
      { availableArgs := fun _ => [("-a".toList, ⟨[], [], Flags.allowAny⟩)] } = .ok s₁ := ⟨_, rfl⟩
  let ⟨s', h'⟩ : ∃ s', run s₁ [.forceSetArg "-a" "3",
      .readSettingsFile (some ([("a".toList, .str "4")], true))] = some s' := ⟨_, rfl⟩
  ⟨s₁, s', h₁, h', run_keeps_parsed_cmdLine h₁ (by simp) h' "a"⟩

end GlobeUtil
