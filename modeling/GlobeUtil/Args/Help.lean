import GlobeUtil.Args.Lookup

/-!
# The help message

`ArgsManager::GetHelpMessage` walks `m_available_args`, the registered arguments by category,
in the declaration order of the categories in util/system.h, which is not among the sources:
every result here holds for every such order (`CategoryOrder`). For each category it writes a
heading (`HelpMessageGroup`),
then a paragraph for each argument (`HelpMessageOpt`), and it stops at `HIDDEN`. `-help-debug`
decides two things: whether the heading of `WALLET_DEBUG_TEST` is written, and whether the
arguments flagged `DEBUG_ONLY` are.

`std::map` holds an entry for a category once `AddArg` or `AddCommand` has registered an
argument in it, and neither leaves an entry empty: the loop visits exactly the categories that
have an argument.

The text is the concatenation of a list of pieces, each a heading or an argument's name and
help text (`helpPieces`: a filter and a map over the registrations). `getHelpMessage_lists`
says the loop writes exactly those pieces, in that order, and which pieces there are: an
argument is listed exactly when it is registered outside `HIDDEN` and `-help-debug` is on or
it is not `DEBUG_ONLY`. So `AddHiddenArgs` never changes the help
(`addHiddenArgs_getHelpMessage`). The heading of `WALLET_DEBUG_TEST` and the filter on
`DEBUG_ONLY` are separate conditions: without `-help-debug`, an argument of that category
registered without `DEBUG_ONLY` is listed under no heading of its own
(`getHelpMessage_walletDebugTest`).

## Main definitions

* `helpMessageGroup`, `helpMessageOpt`: `HelpMessageGroup` and `HelpMessageOpt`
* `helpHeading`: the heading of a category
* `getHelpMessage`: `ArgsManager::GetHelpMessage`, over `FormatParagraph`
* `setupHelpOptions`: `SetupHelpOptions`
* `HelpPiece`, `helpPieces`: what the help lists

## Main results

* `getHelpMessage_lists`: the help is the text of `helpPieces`, and what they list
* `addHiddenArgs_getHelpMessage`: hidden arguments never change the help
* `getHelpMessage_walletDebugTest`: an argument of `WALLET_DEBUG_TEST` without `DEBUG_ONLY`
  is listed without `-help-debug`, under no heading of its own
-/

namespace GlobeUtil

/-! ## The help text -/

/-- `HelpMessageGroup`. -/
def helpMessageGroup (message : Str) : Str :=
  message ++ "\n\n".toList

def screenWidth : Nat := 79
def optIndent : Nat := 2
def msgIndent : Nat := 7

/-- `HelpMessageOpt`, over `FormatParagraph` (util/string.h, not among the sources),
`formatParagraph`: a text wrapped to a width, its lines after the first indented. -/
def helpMessageOpt (formatParagraph : Str → Nat → Nat → Str) (option message : Str) : Str :=
  List.replicate optIndent ' ' ++ option ++ "\n".toList ++ List.replicate msgIndent ' ' ++
    formatParagraph message (screenWidth - msgIndent) msgIndent ++ "\n\n".toList

/-- The heading `GetHelpMessage` writes for a category: none for `HIDDEN`, and for
`WALLET_DEBUG_TEST` only with `-help-debug`. -/
def helpHeading (showDebug : Bool) : OptionsCategory → Option Str
  | .options => some "Options:"
  | .connection => some "Connection options:"
  | .zmq => some "ZeroMQ notification options:"
  | .debugTest => some "Debugging/Testing options:"
  | .nodeRelay => some "Node relay options:"
  | .blockCreation => some "Block creation options:"
  | .rpc => some "RPC server options:"
  | .wallet => some "Wallet options:"
  | .walletDebugTest => if showDebug then some "Wallet debugging/testing options:" else none
  | .chainparams => some "Chain selection options:"
  | .gui => some "UI Options:"
  | .commands => some "Commands:"
  | .registerCommands => some "Register Commands:"
  | .smsg => some "SMSG Commands:"
  | .partWallet => some "Globe wallet Commands:"
  | .partStaking => some "Staking Commands:"
  | .hidden => none

/-- Whether `GetHelpMessage` writes an argument: with `-help-debug` always, else when it is
not `DEBUG_ONLY`. -/
def helpShown (showDebug : Bool) (arg : Arg) : Bool :=
  showDebug || !hasFlag arg.flags Flags.debugOnly

/-- The name an argument is listed under: its name, followed by its help parameter if it has
one. -/
def helpName (name : Str) (arg : Arg) : Str :=
  if arg.helpParam.isEmpty then name else name ++ arg.helpParam

@[simp] theorem helpName_eq (name : Str) (arg : Arg) : helpName name arg = name ++ arg.helpParam := by
  unfold helpName
  split_ifs with h
  · rw [List.isEmpty_iff.1 h, List.append_nil]
  · rfl

section Loop

variable (formatParagraph : Str → Nat → Nat → Str) (showDebug : Bool)

/-- The inner loop of `GetHelpMessage`: a paragraph for each argument of a category that is
shown. -/
def helpOptionsLoop (usage : Str) (args : StrMap Arg) : Str :=
  args.foldl (fun usage arg =>
    if helpShown showDebug arg.2 then
      usage ++ helpMessageOpt formatParagraph (helpName arg.1 arg.2) arg.2.helpText
    else usage) usage

/-- The outer loop of `GetHelpMessage`, over the categories, from the text `usage`: a category
without arguments has no entry in the map; the loop stops after `HIDDEN`'s heading. -/
def helpMessageLoop (availableArgs : OptionsCategory → StrMap Arg) :
    List OptionsCategory → Str → Str
  | [], usage => usage
  | cat :: cats, usage =>
    if (availableArgs cat).isEmpty then helpMessageLoop availableArgs cats usage else
    let usage := usage ++ ((helpHeading showDebug cat).map helpMessageGroup).getD []
    if cat = .hidden then usage
    else
      helpMessageLoop availableArgs cats
        (helpOptionsLoop formatParagraph showDebug usage (availableArgs cat))

end Loop

/-- `ArgsManager::GetHelpMessage`, over `FormatParagraph`; `GetBoolArg` throws where
`-help-debug` holds a number. -/
def getHelpMessage (order : CategoryOrder) (formatParagraph : Str → Nat → Nat → Str)
    (env : ConfigEnv) (s : ArgsManager) : Except Str Str := do
  let showDebug ← getBoolArg env s "-help-debug" false
  pure (helpMessageLoop formatParagraph showDebug s.availableArgs order.cats [])

/-- `SetupHelpOptions`: `-?` among the options, `-h` and `-help` hidden; `none` where an
assertion of `AddArg` stops the process. -/
def setupHelpOptions (args : ArgsManager) : Option ArgsManager :=
  (addArg "-?" "Print this help message and exit" Flags.allowAny .options args).bind
    (addHiddenArgs ["-h", "-help"])

/-! ## What the help lists -/

/-- A piece of the help: a category's heading, or an argument's name and help text. -/
inductive HelpPiece
  | group (message : Str)
  | opt (option message : Str)
  deriving DecidableEq, Repr

/-- The text of a piece. -/
def HelpPiece.text (formatParagraph : Str → Nat → Nat → Str) : HelpPiece → Str
  | .group message => helpMessageGroup message
  | .opt option message => helpMessageOpt formatParagraph option message

/-- The pieces for the arguments of a category that are shown. -/
def optPieces (showDebug : Bool) (args : StrMap Arg) : List HelpPiece :=
  (args.filter fun arg => helpShown showDebug arg.2).map fun arg =>
    .opt (arg.1 ++ arg.2.helpParam) arg.2.helpText

/-- The pieces of a category: none without arguments, else its heading if it has one and its
arguments that are shown. -/
def categoryPieces (showDebug : Bool) (availableArgs : OptionsCategory → StrMap Arg)
    (cat : OptionsCategory) : List HelpPiece :=
  if (availableArgs cat).isEmpty then []
  else (helpHeading showDebug cat).toList.map .group ++ optPieces showDebug (availableArgs cat)

/-- **What the help lists**: the pieces of every category outside `HIDDEN`, in order. -/
def helpPieces (order : CategoryOrder) (showDebug : Bool)
    (availableArgs : OptionsCategory → StrMap Arg) : List HelpPiece :=
  order.visible.flatMap (categoryPieces showDebug availableArgs)

section Pieces

variable {formatParagraph : Str → Nat → Nat → Str} {showDebug : Bool}

theorem helpOptionsLoop_eq (usage : Str) (args : StrMap Arg) :
    helpOptionsLoop formatParagraph showDebug usage args =
      usage ++ (optPieces showDebug args).flatMap (HelpPiece.text formatParagraph) := by
  induction args generalizing usage with
  | nil => simp [helpOptionsLoop, optPieces]
  | cons arg args ih =>
    have hstep : helpOptionsLoop formatParagraph showDebug usage (arg :: args) =
        helpOptionsLoop formatParagraph showDebug
          (if helpShown showDebug arg.2 then
            usage ++ helpMessageOpt formatParagraph (helpName arg.1 arg.2) arg.2.helpText
          else usage) args := rfl
    rw [hstep, ih]
    by_cases h : helpShown showDebug arg.2 <;>
      simp [h, optPieces, List.filter_cons, HelpPiece.text]

/-- The loop over categories that end with `HIDDEN` writes the pieces of the others. -/
theorem helpMessageLoop_eq (availableArgs : OptionsCategory → StrMap Arg) :
    ∀ (cats : List OptionsCategory) (usage : Str), .hidden ∉ cats →
      helpMessageLoop formatParagraph showDebug availableArgs (cats ++ [.hidden]) usage =
        usage ++ (cats.flatMap (categoryPieces showDebug availableArgs)).flatMap
          (HelpPiece.text formatParagraph)
  | [], usage, _ => by
    simp only [List.nil_append, helpMessageLoop, helpHeading, Option.map_none', Option.getD_none,
      List.append_nil, if_true, ite_self, List.flatMap_nil]
  | cat :: cats, usage, h => by
    have hcat : cat ≠ .hidden := by rintro rfl; exact h (List.mem_cons_self _ _)
    have hcats : .hidden ∉ cats := fun hm => h (List.mem_cons_of_mem _ hm)
    simp only [List.cons_append, helpMessageLoop, List.append_eq, hcat, if_false,
      List.flatMap_cons, List.flatMap_append, categoryPieces]
    split_ifs
    · rw [helpMessageLoop_eq availableArgs cats usage hcats]; rfl
    · rw [helpMessageLoop_eq availableArgs cats _ hcats, helpOptionsLoop_eq]
      cases helpHeading showDebug cat <;> simp [HelpPiece.text]

theorem getHelpMessage_eq (order : CategoryOrder) (env : ConfigEnv) (s : ArgsManager) :
    getHelpMessage order formatParagraph env s =
      (getBoolArg env s "-help-debug" false).map fun sd =>
        (helpPieces order sd s.availableArgs).flatMap (HelpPiece.text formatParagraph) := by
  unfold getHelpMessage helpPieces CategoryOrder.cats
  cases getBoolArg env s "-help-debug" false with
  | error e => rfl
  | ok sd =>
    show Except.ok _ = Except.ok _
    rw [helpMessageLoop_eq _ _ _ order.hidden_not_mem, List.nil_append]

theorem mem_helpPieces {order : CategoryOrder} {availableArgs : OptionsCategory → StrMap Arg}
    {p : HelpPiece} :
    p ∈ helpPieces order showDebug availableArgs ↔
      ∃ cat, cat ≠ .hidden ∧ p ∈ categoryPieces showDebug availableArgs cat := by
  simp only [helpPieces, List.mem_flatMap]
  constructor
  · rintro ⟨cat, hcat, hp⟩
    exact ⟨cat, fun h => order.hidden_not_mem (h ▸ hcat), hp⟩
  · rintro ⟨cat, hcat, hp⟩
    exact ⟨cat, order.complete cat hcat, hp⟩

theorem opt_mem_categoryPieces {availableArgs : OptionsCategory → StrMap Arg}
    {cat : OptionsCategory} {option message : Str} :
    .opt option message ∈ categoryPieces showDebug availableArgs cat ↔
      ∃ name arg, (name, arg) ∈ availableArgs cat ∧ helpShown showDebug arg ∧
        option = name ++ arg.helpParam ∧ message = arg.helpText := by
  unfold categoryPieces optPieces
  split_ifs with h
  · simp [List.isEmpty_iff.1 h]
  · simp only [List.mem_append, List.mem_map, Option.mem_toList, reduceCtorEq, and_false,
      exists_false, false_or, List.mem_filter, HelpPiece.opt.injEq, Prod.exists, and_assoc,
      eq_comm]

theorem group_mem_categoryPieces {availableArgs : OptionsCategory → StrMap Arg}
    {cat : OptionsCategory} {message : Str} :
    .group message ∈ categoryPieces showDebug availableArgs cat ↔
      availableArgs cat ≠ [] ∧ helpHeading showDebug cat = some message := by
  unfold categoryPieces optPieces
  split_ifs with h
  · simp [List.isEmpty_iff.1 h]
  · simp only [List.isEmpty_iff] at h
    simp only [List.mem_append, List.mem_map, Option.mem_toList, Option.mem_def,
      HelpPiece.group.injEq, reduceCtorEq, and_false, exists_false, or_false, exists_eq_right,
      ne_eq, h, not_false_eq_true, true_and]

end Pieces

/-- **The help message lists the registered arguments outside `HIDDEN` that are shown**: it
is the text of `helpPieces`, whose arguments are those registered outside `HIDDEN` that are
not `DEBUG_ONLY` or shown by `-help-debug`, and whose headings are those of the categories
outside `HIDDEN` that have arguments. -/
theorem getHelpMessage_lists (order : CategoryOrder) (formatParagraph : Str → Nat → Nat → Str)
    (env : ConfigEnv) (s : ArgsManager) :
    getHelpMessage order formatParagraph env s =
      (getBoolArg env s "-help-debug" false).map (fun sd =>
        (helpPieces order sd s.availableArgs).flatMap (HelpPiece.text formatParagraph)) ∧
    ∀ showDebug,
      (∀ option message, .opt option message ∈ helpPieces order showDebug s.availableArgs ↔
        ∃ cat name arg, cat ≠ .hidden ∧ (name, arg) ∈ s.availableArgs cat ∧
          (showDebug = true ∨ hasFlag arg.flags Flags.debugOnly = false) ∧
          option = name ++ arg.helpParam ∧ message = arg.helpText) ∧
      (∀ message, .group message ∈ helpPieces order showDebug s.availableArgs ↔
        ∃ cat, cat ≠ .hidden ∧ s.availableArgs cat ≠ [] ∧
          helpHeading showDebug cat = some message) := by
  refine ⟨getHelpMessage_eq order env s, fun sd => ⟨fun option message => ?_, fun message => ?_⟩⟩
  · simp only [mem_helpPieces, opt_mem_categoryPieces, helpShown, Bool.or_eq_true,
      Bool.not_eq_true', exists_and_left]
  · simp only [mem_helpPieces, group_mem_categoryPieces]

/-! ## Hidden arguments -/

/-- The help reads only the settings, the network, the network-only names and the arguments
outside `HIDDEN`. -/
theorem getHelpMessage_congr {order : CategoryOrder} {formatParagraph : Str → Nat → Nat → Str}
    {env : ConfigEnv} {s t : ArgsManager} (hset : t.settings = s.settings)
    (hnet : t.network = s.network) (honly : t.networkOnlyArgs = s.networkOnlyArgs)
    (hargs : ∀ cat, cat ≠ .hidden → t.availableArgs cat = s.availableArgs cat) :
    getHelpMessage order formatParagraph env t = getHelpMessage order formatParagraph env s := by
  have hpieces : ∀ sd, helpPieces order sd t.availableArgs = helpPieces order sd s.availableArgs :=
    fun sd => List.flatMap_congr fun cat hcat => by
      simp only [categoryPieces, hargs cat fun h => order.hidden_not_mem (h ▸ hcat)]
  simp only [getHelpMessage_eq, getBoolArg, getSettingOf, useDefaultSection, hset, hnet, honly,
    hpieces]

/-- `AddArg` of a hidden argument keeps the help. -/
theorem addArg_hidden_getHelpMessage {order : CategoryOrder}
    {formatParagraph : Str → Nat → Nat → Str} {env : ConfigEnv} {name : Str} {s s' : ArgsManager}
    (h : addArg name [] Flags.allowAny .hidden s = some s') :
    getHelpMessage order formatParagraph env s' = getHelpMessage order formatParagraph env s := by
  obtain ⟨m, -, rfl⟩ := addArg_some h
  have hflag : hasFlag Flags.allowAny Flags.networkOnly = false := rfl
  refine getHelpMessage_congr rfl rfl (by simp only [hflag, Bool.false_eq_true, if_false]) fun cat hcat => ?_
  exact Function.update_noteq hcat _ _

/-- **Hidden arguments never change the help**: `AddHiddenArgs` leaves the help message as it
was. -/
theorem addHiddenArgs_getHelpMessage {order : CategoryOrder}
    {formatParagraph : Str → Nat → Nat → Str} {env : ConfigEnv} {names : List Str}
    {s s' : ArgsManager} (h : addHiddenArgs names s = some s') :
    getHelpMessage order formatParagraph env s' = getHelpMessage order formatParagraph env s :=
  addHiddenArgs_induct (P := fun t => getHelpMessage order formatParagraph env t =
      getHelpMessage order formatParagraph env s)
    (fun _ _ _ _ ht hP => (addArg_hidden_getHelpMessage ht).trans hP) h rfl

/-- The setting reader that finds nothing set. -/
def unsetEnv : ConfigEnv :=
  ⟨fun _ _ _ _ _ _ => .null, id, fun _ => none, fun _ => true⟩

/-- The `-h` and `-help` of `SetupHelpOptions` leave a fresh manager's help as it was. -/
theorem addHiddenArgs_getHelpMessage_help :
    (addHiddenArgs ["-h", "-help"] {}).map (getHelpMessage switchOrder (fun m _ _ => m) unsetEnv) =
      some (getHelpMessage switchOrder (fun m _ _ => m) unsetEnv {}) := by
  obtain ⟨s', h⟩ := Option.isSome_iff_exists.1
    (rfl : (addHiddenArgs ["-h", "-help"] ({} : ArgsManager)).isSome = true)
  rw [h, Option.map_some', addHiddenArgs_getHelpMessage h]

/-! ## Wallet debugging options -/

/-- **A wallet debugging argument without `DEBUG_ONLY` is listed without `-help-debug`, under
no heading of its own**: the help is the text of `helpPieces false`, which holds the argument
and not the heading of `WALLET_DEBUG_TEST`. -/
theorem getHelpMessage_walletDebugTest {order : CategoryOrder}
    {formatParagraph : Str → Nat → Nat → Str} {env : ConfigEnv} {s : ArgsManager} {name : Str}
    {arg : Arg}
    (hreg : (name, arg) ∈ s.availableArgs .walletDebugTest)
    (hflag : hasFlag arg.flags Flags.debugOnly = false)
    (hdebug : getBoolArg env s "-help-debug" false = .ok false) :
    getHelpMessage order formatParagraph env s =
        .ok ((helpPieces order false s.availableArgs).flatMap (HelpPiece.text formatParagraph)) ∧
      .opt (name ++ arg.helpParam) arg.helpText ∈ helpPieces order false s.availableArgs ∧
      .group "Wallet debugging/testing options:" ∉ helpPieces order false s.availableArgs := by
  refine ⟨by rw [getHelpMessage_eq, hdebug]; rfl, ?_, ?_⟩
  · exact mem_helpPieces.2 ⟨.walletDebugTest, by decide,
      opt_mem_categoryPieces.2 ⟨name, arg, hreg, by simp [helpShown, hflag], rfl, rfl⟩⟩
  · rw [mem_helpPieces]
    rintro ⟨cat, -, hcat⟩
    have := (group_mem_categoryPieces.1 hcat).2
    cases cat <;> simp [helpHeading] at this

/-- A manager with one wallet debugging argument, registered without `DEBUG_ONLY`. -/
def walletDebugSample : ArgsManager :=
  { availableArgs := fun cat =>
      if cat = .walletDebugTest then [("-walletrbf", ⟨[], "Send transactions with RBF", 0⟩)]
      else [] }

theorem getHelpMessage_walletDebugTest_sample :
    getHelpMessage switchOrder (fun m _ _ => m) unsetEnv walletDebugSample =
        .ok ((helpPieces switchOrder false walletDebugSample.availableArgs).flatMap
          (HelpPiece.text fun m _ _ => m)) ∧
      .opt "-walletrbf" "Send transactions with RBF" ∈
        helpPieces switchOrder false walletDebugSample.availableArgs ∧
      .group "Wallet debugging/testing options:" ∉
        helpPieces switchOrder false walletDebugSample.availableArgs :=
  @getHelpMessage_walletDebugTest switchOrder (fun m _ _ => m) unsetEnv walletDebugSample
    "-walletrbf" ⟨[], "Send transactions with RBF", 0⟩ (by decide) rfl rfl

end GlobeUtil
