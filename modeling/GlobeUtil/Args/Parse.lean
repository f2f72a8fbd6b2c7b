import GlobeUtil.Args.Manager

/-!
# Parsing the command line

`ArgsManager::ParseParameters` reads `argv[1..]` once, left to right: `-` ends the options
(`globe-tx` reads standard input), the first argument without a leading dash starts the
positional command and everything after it are the command's arguments, and every other
argument is a `-key[=value]` stored under its name in `command_line_options`. At the end
a non-negated `-includeconf` is refused.

The loop stores a key only by pushing a value, so every stored list is non-empty
(`CmdLineNonempty`, kept by every step); with the final `-includeconf` check that is what
makes the last stored `includeconf` value a negation (`parseParameters_includeconf`).

The parse clears `command_line_options` but not `m_command`: it reads the earlier state
only through `m_command` (`parseParameters_congr`), and an earlier command changes both the
result and the command of a later parse (`reparse_skips_command_check`).

## Main definitions

* `splitValue`, `stripDashes`: how one argument is cut into key and value
* `parseLoop`: the loop of `ParseParameters`
* `parseParameters`: `ArgsManager::ParseParameters`

## Main results

* `parseParameters_includeconf`: after a successful parse, a stored `includeconf` list ends
  in `false`
* `parseParameters_congr`: the parse depends on the earlier state only through the
  registrations and `m_command`
* `reparse_skips_command_check`: a second parse after a command skips the
  registered-command check
-/

namespace GlobeUtil

/-- An argument cut at its first `=` into the key and, when there is one, the value. -/
def splitValue (arg : Str) : Str × Option Str :=
  match Str.find '=' arg with
  | some i => (arg.take i, some (arg.drop (i + 1)))
  | none => (arg, none)

/-- `--foo` is transformed to `-foo`, and `-foo` to `foo`. -/
def stripDashes : Str → Str
  | _ :: '-' :: key => key
  | key => key.drop 1

/-- The flags of `key` mark it as a registered command. -/
def isCommand (flags : Option Nat) : Bool :=
  flags.any fun f => hasFlag f Flags.command

/-- The `command_line_options` of a manager, with `key` given one more value. -/
def pushCmdLine (key : Str) (v : SettingsValue) (s : ArgsManager) : ArgsManager :=
  { s with settings.commandLineOptions := StrMap.push key v s.settings.commandLineOptions }

/-- The loop of `ArgsManager::ParseParameters` over the arguments still to read. -/
def parseLoop : List Str → ArgsManager → Ret ArgsManager
  | [], s => .ok s
  | arg :: rest, s =>
    if arg = "-".toList then .ok s else
    if (splitValue arg).1.head? ≠ some '-' then
      if !s.acceptAnyCommand && s.command.isEmpty && !isCommand (getArgFlags s (splitValue arg).1)
      then .fail ("Invalid command '".toList ++ arg ++ "'".toList) s
      else .ok { s with command := s.command ++ (splitValue arg).1 :: rest }
    else
      let keyinfo := interpretKey (stripDashes (splitValue arg).1)
      match getArgFlags s ('-' :: keyinfo.name), keyinfo.sectionName with
      | some flags, [] =>
        match interpretValue keyinfo (splitValue arg).2 flags with
        | .error e => .fail e s
        | .ok v => parseLoop rest (pushCmdLine keyinfo.name v s)
      | _, _ => .fail ("Invalid parameter ".toList ++ arg) s

/-- The check after the loop: `-includeconf` only in its negated form. -/
def includeconfCheck (s : ArgsManager) : Ret ArgsManager :=
  match s.settings.commandLineOptions.find? "includeconf" with
  | some values =>
    if !spanEmpty values then
      .fail ("-includeconf cannot be used from commandline; -includeconf=".toList ++
        ((spanBegin values).headD .null).write) s
    else .ok s
  | none => .ok s

/-- `ArgsManager::ParseParameters`: clear the command-line options, read `argv[1..]`, and
refuse a non-negated `-includeconf`. -/
def parseParameters (argv : List Str) (s : ArgsManager) : Ret ArgsManager :=
  match parseLoop argv.tail { s with settings.commandLineOptions := [] } with
  | .ok s => includeconfCheck s
  | r => r

/-! ## Every stored list is non-empty -/

section Nonempty

/-- Every key of `command_line_options` holds at least one value. -/
def CmdLineNonempty (s : ArgsManager) : Prop :=
  ∀ k vs, s.settings.commandLineOptions.find? k = some vs → vs ≠ []

theorem cmdLineNonempty_push {s : ArgsManager} (hs : CmdLineNonempty s) (key : Str)
    (v : SettingsValue) : CmdLineNonempty (pushCmdLine key v s) := by
  intro k vs hk
  by_cases h : k = key
  · subst h; simp [pushCmdLine] at hk; simp [← hk]
  · exact hs k vs (by simpa [pushCmdLine, StrMap.find?_push_ne h] using hk)

/-- A property that pushing a command-line value and storing a command both keep holds at
the end of the loop. -/
theorem parseLoop_holds {P : ArgsManager → Prop}
    (hpush : ∀ s key v, P s → P (pushCmdLine key v s))
    (hcmd : ∀ s (c : List Str), P s → P { s with command := c }) :
    ∀ (args : List Str) (s : ArgsManager), P s → (parseLoop args s).Holds P
  | [], s, hs => hs
  | arg :: rest, s, hs => by
    unfold parseLoop
    split
    · exact hs
    split
    · split
      · exact hs
      · exact hcmd s _ hs
    · dsimp only
      split
      · split
        · exact hs
        · exact parseLoop_holds hpush hcmd rest _ (hpush s _ _ hs)
      · exact hs

/-- The same for the whole of `ParseParameters`, which also clears the command-line options. -/
theorem parseParameters_holds {P : ArgsManager → Prop}
    (hpush : ∀ s key v, P s → P (pushCmdLine key v s))
    (hcmd : ∀ s (c : List Str), P s → P { s with command := c })
    (hclear : ∀ s, P s → P { s with settings.commandLineOptions := [] })
    (argv : List Str) (s : ArgsManager) (hs : P s) : (parseParameters argv s).Holds P := by
  have h := parseLoop_holds hpush hcmd argv.tail _ (hclear s hs)
  unfold parseParameters
  generalize parseLoop argv.tail _ = r at h ⊢
  cases r with
  | ok s' =>
    show (includeconfCheck s').Holds P
    unfold includeconfCheck
    split
    · split <;> exact h
    · exact h
  | _ => exact h

/-- **Every step of the loop keeps the stored lists non-empty.** -/
theorem parseLoop_cmdLineNonempty (args : List Str) (s : ArgsManager) (hs : CmdLineNonempty s) :
    (parseLoop args s).Holds CmdLineNonempty :=
  parseLoop_holds (P := CmdLineNonempty) (fun _ _ _ hs => cmdLineNonempty_push hs _ _)
    (fun _ _ hs => hs) args s hs

/-- The final check passes a manager only when its `includeconf` list, if any, has an empty
span: nothing after its last negation. -/
theorem includeconfCheck_ok {s s' : ArgsManager} (h : includeconfCheck s = .ok s') :
    s' = s ∧ ∀ vs, s.settings.commandLineOptions.find? "includeconf" = some vs →
      spanEmpty vs = true := by
  unfold includeconfCheck at h
  split at h
  · next values hvals =>
    split at h
    · cases h
    · next hempty =>
      cases h
      exact ⟨rfl, fun vs hv => by rw [hv] at hvals; cases hvals; simpa using hempty⟩
  · next hnone => cases h; exact ⟨rfl, fun vs hv => by rw [hv] at hnone; cases hnone⟩

/-- **After a successful parse**, a stored `includeconf` list is non-empty and its last value
is the negation `false`: the loop never leaves a key without a value, and the final check
refuses a list whose last value is not a negation. -/
theorem parseParameters_includeconf {argv : List Str} {s s' : ArgsManager}
    (h : parseParameters argv s = .ok s') {vs : List SettingsValue}
    (hv : s'.settings.commandLineOptions.find? "includeconf" = some vs) :
    vs ≠ [] ∧ vs.getLast? = some (.bool false) := by
  unfold parseParameters at h
  split at h
  · next s₁ hs₁ =>
    obtain ⟨rfl, hspan⟩ := includeconfCheck_ok h
    have hinv := parseLoop_cmdLineNonempty argv.tail { s with settings.commandLineOptions := [] }
      (fun _ _ hk => by cases hk)
    rw [hs₁] at hinv
    have hne : vs ≠ [] := hinv _ _ hv
    exact ⟨hne, ((spanEmpty_iff vs).1 (hspan vs hv)).resolve_left hne⟩
  · next hr => exact absurd h (hr s')

end Nonempty

/-! ## What a parse reads of the earlier state -/

section Reparse

/-- Two outcomes that end the same way, in related states. -/
def Ret.Rel {σ τ : Type} (R : σ → τ → Prop) : Ret σ → Ret τ → Prop
  | .ok s, .ok t => R s t
  | .fail e s, .fail e' t => e = e' ∧ R s t
  | .throw e s, .throw e' t => e = e' ∧ R s t
  | .abort, .abort => True
  | _, _ => False

/-- Two managers agree on all that `ParseParameters` reads or writes. -/
def SameCmdLine (s t : ArgsManager) : Prop :=
  s.availableArgs = t.availableArgs ∧ s.acceptAnyCommand = t.acceptAnyCommand ∧
    s.command = t.command ∧ s.settings.commandLineOptions = t.settings.commandLineOptions

theorem getArgFlags_congr {s t : ArgsManager} (h : s.availableArgs = t.availableArgs) :
    getArgFlags s = getArgFlags t := by
  funext name; simp [getArgFlags, h]

theorem parseLoop_rel :
    ∀ (args : List Str) (s t : ArgsManager), SameCmdLine s t →
      Ret.Rel SameCmdLine (parseLoop args s) (parseLoop args t)
  | [], _, _, h => h
  | arg :: rest, s, t, h => by
    obtain ⟨ha, hc, hm, ho⟩ := h
    unfold parseLoop
    rw [getArgFlags_congr ha, hc, hm]
    split_ifs
    · exact ⟨ha, hc, hm, ho⟩
    · exact ⟨rfl, ha, hc, hm, ho⟩
    · exact ⟨ha, rfl, rfl, ho⟩
    · dsimp only
      split
      · split
        · exact ⟨rfl, ha, hc, hm, ho⟩
        · exact parseLoop_rel rest _ _ ⟨ha, hc, hm, by simp [pushCmdLine, ho]⟩
      · exact ⟨rfl, ha, hc, hm, ho⟩

theorem includeconfCheck_rel {s t : ArgsManager} (h : SameCmdLine s t) :
    Ret.Rel SameCmdLine (includeconfCheck s) (includeconfCheck t) := by
  unfold includeconfCheck
  rw [h.2.2.2]
  split
  · split
    · exact ⟨rfl, h⟩
    · exact h
  · exact h

theorem Ret.Rel.mono {σ τ : Type} {R R' : σ → τ → Prop} (hR : ∀ s t, R s t → R' s t) :
    ∀ {a : Ret σ} {b : Ret τ}, Ret.Rel R a b → Ret.Rel R' a b
  | .ok _, .ok _, h => hR _ _ h
  | .fail _ _, .fail _ _, h => ⟨h.1, hR _ _ h.2⟩
  | .throw _ _, .throw _ _, h => ⟨h.1, hR _ _ h.2⟩
  | .abort, .abort, _ => trivial

/-- **A parse reads the earlier state only through the registrations and `m_command`:**
two managers that agree on these give the same outcome, error, command-line options and
command, whatever options the earlier parses left. -/
theorem parseParameters_congr (argv : List Str) {s t : ArgsManager}
    (ha : s.availableArgs = t.availableArgs) (hc : s.acceptAnyCommand = t.acceptAnyCommand)
    (hm : s.command = t.command) :
    Ret.Rel (fun s' t' => s'.settings.commandLineOptions = t'.settings.commandLineOptions ∧
        getCommand s' = getCommand t')
      (parseParameters argv s) (parseParameters argv t) := by
  refine Ret.Rel.mono (fun s' t' (h : SameCmdLine s' t') =>
    ⟨h.2.2.2, by simp only [getCommand, h.2.1, h.2.2.1]⟩) ?_
  have hr := parseLoop_rel argv.tail { s with settings.commandLineOptions := [] }
    { t with settings.commandLineOptions := [] } ⟨ha, hc, hm, rfl⟩
  unfold parseParameters
  revert hr
  generalize parseLoop argv.tail _ = r₁
  generalize parseLoop argv.tail _ = r₂
  intro hr
  cases r₁ <;> cases r₂ <;> first | exact hr | exact includeconfCheck_rel hr | exact hr.elim

/-- The options an earlier parse left do not reach a later one. -/
theorem parseParameters_congr_options :
    Ret.Rel (fun s' t' => s'.settings.commandLineOptions = t'.settings.commandLineOptions ∧
        getCommand s' = getCommand t')
      (parseParameters ["globe", "-a"]
        { settings := { commandLineOptions := [("b".toList, [.bool true])] } })
      (parseParameters ["globe", "-a"] {}) :=
  parseParameters_congr _ rfl rfl rfl

/-- **An earlier command is kept, and skips the registered-command check**: with `foo`
registered, `globe bar` is refused on a fresh manager but accepted after `globe foo`,
and the command then reads `foo bar`. -/
theorem reparse_skips_command_check :
    ∃ r s₁ s₂ r', addCommand "foo" [] {} = some r ∧ parseParameters ["globe", "foo"] r = .ok s₁ ∧
      parseParameters ["globe", "bar"] s₁ = .ok s₂ ∧ getCommand s₂ = some ⟨"foo", ["bar"]⟩ ∧
      parseParameters ["globe", "bar"] r = .fail "Invalid command 'bar'" r' :=
  ⟨_, _, _, _, rfl, rfl, rfl, rfl, rfl⟩

end Reparse

end GlobeUtil
