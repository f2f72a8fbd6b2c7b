import GlobeUtil.Args.Parse

/-!
# What a parse accepts and stores

`ParseParameters` reads the command line in one loop; this module says what the loop
computes without the loop. The arguments after the program name are the options, up to the
first `-` or the first argument without a leading dash, and the command that argument starts.

A parse succeeds exactly when every option names a registered argument outside any section
and gives a value its flags allow, the command passes the registered-command check, and the
`includeconf` values end in a negation (`parseParameters_ok_iff`). It then stores under each
name the values of the options that name it, in command-line order, appends the command, and
changes nothing else (`parseParameters_stores`). Otherwise it stops at the first argument it
rejects, for one of the reasons `Rejects` lists and with its error, keeping the values of the
options before it, or at the `includeconf` check, keeping them all
(`parseParameters_fail_spec`): a failed parse can leave a non-negated `includeconf` stored.

## Main definitions

* `endsOptions`, `optionArgs`, `commandArgs`: the parts of a command line
* `optionKey`, `optionValue`, `optionValues`: what an option names and gives
* `loopAccepted`, `cmdLineAccepted`: the command lines the loop and the parse accept
* `Rejects`, `ParseFailure`: why the loop rejects an argument, and how a parse fails

## Main results

* `parseLoop_cons_cases`: what one step of the loop does
* `parseLoop_ok_spec`, `parseLoop_ok_of_accepted`, `parseLoop_fail_spec`: what the loop
  accepts, stores and rejects
* `parseParameters_ok_iff`: the command lines `ParseParameters` accepts
* `parseParameters_stores`: what it stores
* `parseParameters_fail_spec`: how it fails
-/

namespace GlobeUtil

/-! ## The parts of a command line -/

/-- An argument that ends the options: `-`, or one whose key has no leading dash. -/
def endsOptions (arg : Str) : Bool :=
  decide (arg = "-".toList ∨ (splitValue arg).1.head? ≠ some '-')

/-- The options of a command line: the arguments before the first that ends them. -/
def optionArgs (args : List Str) : List Str :=
  args.takeWhile fun arg => !endsOptions arg

/-- The command of a command line: the argument that ends the options, cut at its `=`, and
every argument after it; none when that argument is `-`. -/
def commandArgs (args : List Str) : List Str :=
  match args.dropWhile fun arg => !endsOptions arg with
  | arg :: rest => if arg = "-".toList then [] else (splitValue arg).1 :: rest
  | [] => []

/-- The key an option names. -/
def optionKey (arg : Str) : KeyInfo :=
  interpretKey (stripDashes (splitValue arg).1)

/-- The value an option gives, when its key is registered and its flags allow the value. -/
def optionValue (s : ArgsManager) (arg : Str) : Option SettingsValue :=
  (getArgFlags s ('-' :: (optionKey arg).name)).bind fun flags =>
    (interpretValue (optionKey arg) (splitValue arg).2 flags).toOption

/-- The values the options of a command line give to `name`, in order. -/
def optionValues (s : ArgsManager) (args : List Str) (name : Str) : List SettingsValue :=
  (optionArgs args).filterMap fun arg =>
    if (optionKey arg).name = name then optionValue s arg else none

/-- An option the loop accepts: its key names no section and gives a value. -/
def optionAccepted (s : ArgsManager) (arg : Str) : Bool :=
  (optionKey arg).sectionName.isEmpty && (optionValue s arg).isSome

/-- A command the check passes: there is none, any command is accepted, one was given
before, or it is registered. -/
def commandAccepted (s : ArgsManager) (args : List Str) : Bool :=
  match commandArgs args with
  | [] => true
  | cmd :: _ => s.acceptAnyCommand || !s.command.isEmpty || isCommand (getArgFlags s cmd)

/-- The arguments the loop of `ParseParameters` accepts. -/
def loopAccepted (s : ArgsManager) (args : List Str) : Bool :=
  (optionArgs args).all (optionAccepted s) && commandAccepted s args

/-- The arguments `ParseParameters` accepts: the loop's, whose `includeconf` values end in a
negation. -/
def cmdLineAccepted (s : ArgsManager) (args : List Str) : Bool :=
  loopAccepted s args && spanEmpty (optionValues s args "includeconf")

/-- Why the loop rejects an argument, with the error it reports. -/
inductive Rejects (s : ArgsManager) : Str → Str → Prop
  /-- A command that is not registered, where the check applies. -/
  | command {arg : Str} : endsOptions arg = true → arg ≠ "-".toList →
      (s.acceptAnyCommand || !s.command.isEmpty || isCommand (getArgFlags s (splitValue arg).1)) =
        false →
      Rejects s arg ("Invalid command '".toList ++ arg ++ "'".toList)
  /-- An option whose key is not registered or names a section. -/
  | parameter {arg : Str} : endsOptions arg = false →
      getArgFlags s ('-' :: (optionKey arg).name) = none ∨ (optionKey arg).sectionName ≠ [] →
      Rejects s arg ("Invalid parameter ".toList ++ arg)
  /-- An option whose value its flags refuse, with `InterpretValue`'s error. -/
  | value {arg e : Str} {flags : Nat} : endsOptions arg = false →
      getArgFlags s ('-' :: (optionKey arg).name) = some flags → (optionKey arg).sectionName = [] →
      interpretValue (optionKey arg) (splitValue arg).2 flags = .error e → Rejects s arg e

/-- A manager with its command-line options and command erased: what a parse keeps. -/
def eraseCmdLine (s : ArgsManager) : ArgsManager :=
  { s with settings.commandLineOptions := [], command := [] }

theorem optionArgs_cons_of_ends {arg : Str} (h : endsOptions arg = true) (rest : List Str) :
    optionArgs (arg :: rest) = [] := by
  simp [optionArgs, List.takeWhile_cons, h]

theorem optionArgs_cons {arg : Str} (h : endsOptions arg = false) (rest : List Str) :
    optionArgs (arg :: rest) = arg :: optionArgs rest := by
  simp [optionArgs, List.takeWhile_cons, h]

theorem commandArgs_cons_of_ends {arg : Str} (h : endsOptions arg = true) (rest : List Str) :
    commandArgs (arg :: rest) = if arg = "-".toList then [] else (splitValue arg).1 :: rest := by
  simp [commandArgs, List.dropWhile_cons, h]

theorem commandArgs_cons {arg : Str} (h : endsOptions arg = false) (rest : List Str) :
    commandArgs (arg :: rest) = commandArgs rest := by
  simp [commandArgs, List.dropWhile_cons, h]

theorem optionValues_cons {s : ArgsManager} {arg : Str} (h : endsOptions arg = false)
    (rest : List Str) (name : Str) :
    optionValues s (arg :: rest) name =
      (if (optionKey arg).name = name then optionValue s arg else none).toList ++
        optionValues s rest name := by
  rw [optionValues, optionArgs_cons h, List.filterMap_cons]
  split <;> simp_all [optionValues]

/-- The value of an option, from `interpretValue` at the flags its key is registered with. -/
theorem optionValue_eq_some {s : ArgsManager} {arg : Str} {v : SettingsValue}
    (h : optionValue s arg = some v) :
    ∃ flags, getArgFlags s ('-' :: (optionKey arg).name) = some flags ∧
      interpretValue (optionKey arg) (splitValue arg).2 flags = .ok v := by
  obtain ⟨flags, hf, hv⟩ := Option.bind_eq_some.1 h
  refine ⟨flags, hf, ?_⟩
  revert hv
  cases interpretValue (optionKey arg) (splitValue arg).2 flags <;>
    simp [Except.toOption]

/-! ## One step of the loop -/

section Step

variable {arg : Str} {rest : List Str} {s : ArgsManager}

/-- An accepted option pushes its value and the loop goes on. -/
theorem parseLoop_cons_option (hend : endsOptions arg = false)
    (hsec : (optionKey arg).sectionName = []) {v : SettingsValue}
    (hv : optionValue s arg = some v) :
    parseLoop (arg :: rest) s = parseLoop rest (pushCmdLine (optionKey arg).name v s) := by
  obtain ⟨hdash, hhead⟩ : arg ≠ "-".toList ∧ (splitValue arg).1.head? = some '-' := by
    simpa [endsOptions] using hend
  obtain ⟨flags, hf, hval⟩ := optionValue_eq_some hv
  unfold optionKey at hsec hf hval
  simp only [parseLoop, if_neg hdash, hhead, ne_eq, not_true_eq_false, if_false, hf, hsec, hval,
    optionKey]

/-- A rejected option ends the loop with its error, the manager unchanged. -/
theorem parseLoop_cons_rejected (hend : endsOptions arg = false)
    (hacc : optionAccepted s arg = false) :
    ∃ e, parseLoop (arg :: rest) s = .fail e s ∧ Rejects s arg e := by
  obtain ⟨hdash, hhead⟩ : arg ≠ "-".toList ∧ (splitValue arg).1.head? = some '-' := by
    simpa [endsOptions] using hend
  simp only [parseLoop, if_neg hdash, hhead, ne_eq, not_true_eq_false, if_false]
  split
  · next flags hf hsec =>
    cases hval : interpretValue (interpretKey (stripDashes (splitValue arg).1))
        (splitValue arg).2 flags with
    | error e => exact ⟨e, rfl, .value hend hf hsec hval⟩
    | ok v =>
      simp only [optionAccepted, optionKey, optionValue, hsec, hf, hval, Option.some_bind,
        Except.toOption, List.isEmpty_nil, Option.isSome_some, Bool.and_self,
        Bool.true_eq_false] at hacc
  · next hne =>
    refine ⟨_, rfl, .parameter hend ?_⟩
    cases hf : getArgFlags s ('-' :: (optionKey arg).name) with
    | none => exact .inl rfl
    | some flags => exact .inr fun hsec => hne flags hf hsec

/-- The argument that ends the options ends the loop: it stores the command when the check
passes it. -/
theorem parseLoop_cons_ends (hend : endsOptions arg = true) :
    parseLoop (arg :: rest) s =
      if commandAccepted s (arg :: rest) then
        .ok { s with command := s.command ++ commandArgs (arg :: rest) }
      else .fail ("Invalid command '".toList ++ arg ++ "'".toList) s := by
  by_cases hdash : arg = "-".toList
  · subst hdash
    rw [commandAccepted, commandArgs_cons_of_ends hend, if_pos rfl]
    simp [parseLoop]
  · have hhead : (splitValue arg).1.head? ≠ some '-' :=
      (by simpa [endsOptions] using hend : _ ∨ _).resolve_left hdash
    simp only [parseLoop, commandAccepted, commandArgs_cons_of_ends hend, if_neg hdash,
      if_pos hhead]
    cases s.acceptAnyCommand <;> cases s.command.isEmpty <;>
      cases isCommand (getArgFlags s (splitValue arg).1) <;> rfl

/-- The argument that ends the options and fails the check is rejected as a command. -/
theorem Rejects.of_commandAccepted (hend : endsOptions arg = true)
    (hc : commandAccepted s (arg :: rest) = false) :
    Rejects s arg ("Invalid command '".toList ++ arg ++ "'".toList) := by
  have hdash : arg ≠ "-".toList := by
    rintro rfl
    rw [commandAccepted, commandArgs_cons_of_ends hend, if_pos rfl] at hc
    cases hc
  rw [commandAccepted, commandArgs_cons_of_ends hend, if_neg hdash] at hc
  exact .command hend hdash hc

/-- **What one step of the loop does**: the argument that ends the options stores the
command or fails the check; an accepted option pushes its value; a rejected one fails with
its error. -/
theorem parseLoop_cons_cases (arg : Str) (rest : List Str) (s : ArgsManager) :
    (endsOptions arg = true ∧ parseLoop (arg :: rest) s =
        if commandAccepted s (arg :: rest) then
          .ok { s with command := s.command ++ commandArgs (arg :: rest) }
        else .fail ("Invalid command '".toList ++ arg ++ "'".toList) s) ∨
      (endsOptions arg = false ∧ optionAccepted s arg = true ∧ ∃ v, optionValue s arg = some v ∧
        parseLoop (arg :: rest) s = parseLoop rest (pushCmdLine (optionKey arg).name v s)) ∨
      (endsOptions arg = false ∧ optionAccepted s arg = false ∧
        ∃ e, parseLoop (arg :: rest) s = .fail e s ∧ Rejects s arg e) := by
  cases hend : endsOptions arg
  · cases hacc : optionAccepted s arg
    · exact .inr (.inr ⟨rfl, rfl, parseLoop_cons_rejected hend hacc⟩)
    · obtain ⟨hsec, v, hv⟩ : (optionKey arg).sectionName = [] ∧ ∃ v, optionValue s arg = some v := by
        simpa [optionAccepted, Option.isSome_iff_exists] using hacc
      exact .inr (.inl ⟨rfl, rfl, v, hv, parseLoop_cons_option hend hsec hv⟩)
  · exact .inl ⟨rfl, parseLoop_cons_ends hend⟩

end Step

/-! ## What the loop accepts and stores -/

/-- Rejection reads only the registrations, `m_accept_any_command` and `m_command`. -/
theorem Rejects.congr {s t : ArgsManager} {arg e : Str} (h : Rejects s arg e)
    (ha : s.availableArgs = t.availableArgs) (hc : s.acceptAnyCommand = t.acceptAnyCommand)
    (hm : s.command = t.command) : Rejects t arg e := by
  cases h with
  | command hend hdash hcmd =>
    exact .command hend hdash (by rwa [← getArgFlags_congr ha, ← hc, ← hm])
  | parameter hend hf => exact .parameter hend (by rwa [← getArgFlags_congr ha])
  | value hend hf hsec hval => exact .value hend (by rwa [← getArgFlags_congr ha]) hsec hval

/-- Pushing the value of an accepted option, then the values of the options after it, pushes
the values of all of them. -/
theorem appendValues_pushCmdLine {s : ArgsManager} {arg : Str} {v : SettingsValue}
    (hend : endsOptions arg = false) (hv : optionValue s arg = some v) (rest : List Str)
    (name : Str) :
    appendValues ((pushCmdLine (optionKey arg).name v s).settings.commandLineOptions.find? name)
        (optionValues s rest name) =
      appendValues (s.settings.commandLineOptions.find? name) (optionValues s (arg :: rest) name) := by
  rw [optionValues_cons hend, hv]
  simp only [pushCmdLine, find?_push_appendValues, appendValues_append]
  split <;> rfl


/-- **What a successful loop stores**: the loop accepted its arguments, changed only the
command-line options and the command, appended the command, and pushed under each name the
values the options give it. -/
theorem parseLoop_ok_spec :
    ∀ {args : List Str} {s s' : ArgsManager}, parseLoop args s = .ok s' →
      loopAccepted s args = true ∧ eraseCmdLine s' = eraseCmdLine s ∧
        s'.command = s.command ++ commandArgs args ∧
        ∀ name, s'.settings.commandLineOptions.find? name =
          appendValues (s.settings.commandLineOptions.find? name) (optionValues s args name)
  | [], s, s', h => by
    cases h
    simp [loopAccepted, commandAccepted, commandArgs, optionValues, optionArgs]
  | arg :: rest, s, s', h => by
    rcases parseLoop_cons_cases arg rest s with
      ⟨hend, heq⟩ | ⟨hend, hacc, v, hv, heq⟩ | ⟨-, -, e, heq, -⟩ <;> rw [heq] at h
    · split at h
      · next hc =>
        cases h
        refine ⟨by simpa [loopAccepted, optionArgs_cons_of_ends hend] using hc, rfl, rfl, ?_⟩
        simp [optionValues, optionArgs_cons_of_ends hend]
      · cases h
    · obtain ⟨hacc', hframe, hcmd, hfind⟩ := parseLoop_ok_spec h
      refine ⟨?_, hframe, ?_, fun name => (hfind name).trans
        (appendValues_pushCmdLine hend hv rest name)⟩
      · simpa [loopAccepted, optionArgs_cons hend, commandAccepted, commandArgs_cons hend, hacc]
          using hacc'
      · rw [hcmd, commandArgs_cons hend]; rfl
    · cases h

/-- **The loop accepts what `loopAccepted` describes.** -/
theorem parseLoop_ok_of_accepted :
    ∀ {args : List Str} {s : ArgsManager}, loopAccepted s args = true →
      ∃ s', parseLoop args s = .ok s'
  | [], s, _ => ⟨s, rfl⟩
  | arg :: rest, s, h => by
    rcases parseLoop_cons_cases arg rest s with
      ⟨hend, heq⟩ | ⟨hend, -, v, -, heq⟩ | ⟨hend, hacc, -⟩
    · have hc : commandAccepted s (arg :: rest) = true := by
        simpa [loopAccepted, optionArgs_cons_of_ends hend] using h
      rw [heq, if_pos hc]
      exact ⟨_, rfl⟩
    · rw [heq]
      refine parseLoop_ok_of_accepted ?_
      simp only [loopAccepted, optionArgs_cons hend, List.all_cons, commandAccepted,
        commandArgs_cons hend, Bool.and_eq_true] at h ⊢
      exact ⟨h.1.2, h.2⟩
    · simp [loopAccepted, optionArgs_cons hend, hacc] at h

/-- **How the loop fails**: at the first argument it rejects, with that argument's error,
after pushing the values of the options before it; the command is unchanged. -/
theorem parseLoop_fail_spec :
    ∀ {args : List Str} {s s' : ArgsManager} {e : Str}, parseLoop args s = .fail e s' →
      ∃ pre arg post, args = pre ++ arg :: post ∧
        (∀ a ∈ pre, endsOptions a = false ∧ optionAccepted s a = true) ∧ Rejects s arg e ∧
        (∀ name, s'.settings.commandLineOptions.find? name =
          appendValues (s.settings.commandLineOptions.find? name) (optionValues s pre name)) ∧
        s'.command = s.command ∧ eraseCmdLine s' = eraseCmdLine s
  | [], _, _, _, h => by cases h
  | arg :: rest, s, s', e, h => by
    rcases parseLoop_cons_cases arg rest s with
      ⟨hend, heq⟩ | ⟨hend, hacc, v, hv, heq⟩ | ⟨-, -, e', heq, hrej⟩ <;> rw [heq] at h
    · split at h
      · cases h
      · next hc =>
        cases h
        exact ⟨[], arg, rest, rfl, by simp, .of_commandAccepted hend (by simpa using hc),
          by simp [optionValues, optionArgs], rfl, rfl⟩
    · obtain ⟨pre, a, post, rfl, hpre, hrej, hfind, hcmd, hframe⟩ := parseLoop_fail_spec h
      exact ⟨arg :: pre, a, post, rfl, List.forall_mem_cons.2 ⟨⟨hend, hacc⟩, hpre⟩,
        hrej.congr rfl rfl rfl, fun name => (hfind name).trans
          (appendValues_pushCmdLine hend hv pre name), hcmd, hframe⟩
    · cases h
      exact ⟨[], arg, rest, rfl, by simp, hrej, by simp [optionValues, optionArgs], rfl, rfl⟩

/-! ## What a parse accepts and stores -/

/-- The final check passes a manager whose `includeconf` list, if any, has an empty span. -/
theorem includeconfCheck_eq_ok {s : ArgsManager}
    (h : ∀ vs, s.settings.commandLineOptions.find? "includeconf" = some vs → spanEmpty vs = true) :
    includeconfCheck s = .ok s := by
  unfold includeconfCheck
  split
  · next values hvals => rw [if_neg (by simpa using h values hvals)]
  · rfl

theorem spanEmpty_of_appendValues {vs : List SettingsValue} :
    (∀ ws, appendValues none vs = some ws → spanEmpty ws = true) ↔ spanEmpty vs = true := by
  cases vs <;> simp [appendValues, spanEmpty, lastNegated]

/-- **`ParseParameters` accepts exactly the command lines `cmdLineAccepted` describes.** -/
theorem parseParameters_ok_iff (argv : List Str) (s : ArgsManager) :
    (∃ s', parseParameters argv s = .ok s') ↔ cmdLineAccepted s argv.tail = true := by
  unfold parseParameters cmdLineAccepted
  constructor
  · rintro ⟨s', h⟩
    split at h
    · next s₁ hs₁ =>
      obtain ⟨hloop, -, -, hfind⟩ := parseLoop_ok_spec hs₁
      obtain ⟨rfl, hspan⟩ := includeconfCheck_ok h
      refine Bool.and_eq_true_iff.2 ⟨hloop, spanEmpty_of_appendValues.1 fun ws hws => ?_⟩
      exact hspan ws ((hfind _).trans hws)
    · next hr => exact absurd h (hr s')
  · intro h
    obtain ⟨hloop, hspan⟩ := Bool.and_eq_true_iff.1 h
    obtain ⟨s₁, hs₁⟩ : ∃ s₁, parseLoop argv.tail { s with settings.commandLineOptions := [] } =
      .ok s₁ := parseLoop_ok_of_accepted hloop
    obtain ⟨-, -, -, hfind⟩ := parseLoop_ok_spec hs₁
    refine ⟨s₁, ?_⟩
    rw [hs₁]
    exact includeconfCheck_eq_ok fun vs hvs =>
      spanEmpty_of_appendValues.2 hspan vs ((hfind _).symm.trans hvs)

/-- **What a successful parse stores**: under each name, the values the options on the
command line give it, in order, and nothing under a name no option names; the command is
appended to the earlier one, and nothing else changes. -/
theorem parseParameters_stores {argv : List Str} {s s' : ArgsManager}
    (h : parseParameters argv s = .ok s') :
    (∀ name, s'.settings.commandLineOptions.find? name =
        appendValues none (optionValues s argv.tail name)) ∧
      s'.command = s.command ++ commandArgs argv.tail ∧ eraseCmdLine s' = eraseCmdLine s := by
  unfold parseParameters at h
  split at h
  · next s₁ hs₁ =>
    obtain ⟨-, hframe, hcmd, hfind⟩ := parseLoop_ok_spec hs₁
    obtain ⟨rfl, -⟩ := includeconfCheck_ok h
    exact ⟨hfind, hcmd, hframe⟩
  · next hr => exact absurd h (hr s')

/-- A registered `-a` given twice before the command `run -b`: both values are stored, in
order, and the command keeps the dash argument after it. -/
theorem parseParameters_stores_two_values :
    ∃ s', parseParameters ["globe", "-a=1", "--a=2", "run", "-b"]
        { availableArgs := fun _ => [("-a".toList, ⟨[], [], Flags.allowAny⟩)] } = .ok s' ∧
      s'.settings.commandLineOptions.find? "a" = some [.str "1", .str "2"] ∧
      s'.command = ["run", "-b"] :=
  let ⟨s', h⟩ : ∃ s', parseParameters ["globe", "-a=1", "--a=2", "run", "-b"]
      { availableArgs := fun _ => [("-a".toList, ⟨[], [], Flags.allowAny⟩)] } = .ok s' := ⟨_, rfl⟩
  ⟨s', h, ((parseParameters_stores h).1 "a").trans rfl, (parseParameters_stores h).2.1.trans rfl⟩

/-- How a parse can fail: at the first argument it rejects, keeping the values of the
options before it, or, every argument accepted, at `includeconf` values that do not end in a
negation, keeping all the values and the command. -/
inductive ParseFailure (s : ArgsManager) (args : List Str) : Str → ArgsManager → Prop
  /-- The loop stopped at `arg`. -/
  | rejected {pre post : List Str} {arg e : Str} {s' : ArgsManager} : args = pre ++ arg :: post →
      (∀ a ∈ pre, endsOptions a = false ∧ optionAccepted s a = true) → Rejects s arg e →
      (∀ name, s'.settings.commandLineOptions.find? name =
        appendValues none (optionValues s pre name)) →
      s'.command = s.command → eraseCmdLine s' = eraseCmdLine s → ParseFailure s args e s'
  /-- The final check refused `includeconf`, naming its first value after the last negation. -/
  | includeconf {s' : ArgsManager} : loopAccepted s args = true →
      spanEmpty (optionValues s args "includeconf") = false →
      (∀ name, s'.settings.commandLineOptions.find? name =
        appendValues none (optionValues s args name)) →
      s'.command = s.command ++ commandArgs args → eraseCmdLine s' = eraseCmdLine s →
      ParseFailure s args ("-includeconf cannot be used from commandline; -includeconf=".toList ++
        ((spanBegin (optionValues s args "includeconf")).headD .null).write) s'

/-- The final check refuses a manager whose `includeconf` list has a non-empty span, naming
the first value of the span, and leaves it unchanged. -/
theorem includeconfCheck_fail {s s' : ArgsManager} {e : Str} (h : includeconfCheck s = .fail e s') :
    s' = s ∧ ∃ vs, s.settings.commandLineOptions.find? "includeconf" = some vs ∧
      spanEmpty vs = false ∧
      e = "-includeconf cannot be used from commandline; -includeconf=".toList ++
        ((spanBegin vs).headD .null).write := by
  unfold includeconfCheck at h
  split at h
  · next values hvals =>
    split at h
    · next hne => cases h; exact ⟨rfl, values, hvals, by simpa using hne, rfl⟩
    · cases h
  · cases h

/-- **How a parse fails**: at the first argument it rejects, with that argument's error and
the values of the options before it stored, or at a non-negated `includeconf` with every
value stored. -/
theorem parseParameters_fail_spec {argv : List Str} {s s' : ArgsManager} {e : Str}
    (h : parseParameters argv s = .fail e s') : ParseFailure s argv.tail e s' := by
  unfold parseParameters at h
  split at h
  · next s₁ hs₁ =>
    obtain ⟨hloop, hframe, hcmd, hfind⟩ := parseLoop_ok_spec hs₁
    obtain ⟨rfl, vs, hvs, hspan, rfl⟩ := includeconfCheck_fail h
    obtain ⟨-, rfl⟩ := appendValues_none_eq_some.1 ((hfind _).symm.trans hvs)
    exact .includeconf hloop hspan hfind hcmd hframe
  · obtain ⟨pre, arg, post, hargs, hpre, hrej, hfind, hcmd, hframe⟩ := parseLoop_fail_spec h
    exact .rejected hargs hpre (hrej.congr rfl rfl rfl) hfind hcmd hframe

/-- With only `-a` registered, `-b` is rejected after `-a=1`, whose value stays stored. -/
theorem parseParameters_fail_spec_unknown :
    ∃ s', parseParameters ["globe", "-a=1", "-b"]
        { availableArgs := fun _ => [("-a".toList, ⟨[], [], Flags.allowAny⟩)] } =
        .fail "Invalid parameter -b" s' ∧
      ParseFailure { availableArgs := fun _ => [("-a".toList, ⟨[], [], Flags.allowAny⟩)] }
        ["-a=1", "-b"] "Invalid parameter -b" s' :=
  let ⟨s', h⟩ : ∃ s', parseParameters ["globe", "-a=1", "-b"]
      { availableArgs := fun _ => [("-a".toList, ⟨[], [], Flags.allowAny⟩)] } =
      .fail "Invalid parameter -b" s' := ⟨_, rfl⟩
  ⟨s', h, parseParameters_fail_spec h⟩

end GlobeUtil
