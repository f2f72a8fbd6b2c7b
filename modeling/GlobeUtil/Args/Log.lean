import GlobeUtil.Args.Manager

/-!
# Logging the arguments

`LogArgs` writes a line for each value of the configuration files, of the settings file
and of the command line. `logArgsPrefix`, which writes the first and the last, shows the
value of an argument registered `SENSITIVE` as `****`: what it shows of a map is its mask
(`maskSensitive`), and two maps with the same mask give the same lines
(`logArgsPrefix_congr`). The settings-file loop of `LogArgs` writes `setting.second.write()`
with no such check, so a `SENSITIVE` value stored in `rw_settings` reaches the log
(`logArgs_prints_rw_setting`).

## Main definitions

* `logArgsPrefix`, `logArgs`: the lines `LogPrintf` writes
* `maskSensitive`: what `logArgsPrefix` shows of a map

## Main results

* `logArgs_congr`: managers with the same registrations, the same settings file and the
  same masks of the configuration and the command line log the same lines
* `logArgs_prints_rw_setting`: a `SENSITIVE` value of the settings file is logged
-/

namespace GlobeUtil

/-- `ArgsManager::logArgsPrefix`: a line for each value of each registered key, with the
value of a `SENSITIVE` argument written `****`. -/
def logArgsPrefix (s : ArgsManager) (pre sec : Str) (args : StrMap (List SettingsValue)) :
    List Str :=
  let sectionStr := if sec.isEmpty then [] else "[".toList ++ sec ++ "] ".toList
  args.flatMap fun arg => arg.2.filterMap fun value =>
    (getArgFlags s ('-' :: arg.1)).map fun flags =>
      pre ++ " ".toList ++ sectionStr ++ arg.1 ++ "=".toList ++
        (if hasFlag flags Flags.sensitive then "****".toList else value.write) ++ "\n".toList

/-- `ArgsManager::LogArgs`: the configuration files by section, the settings file, then the
command line. -/
def logArgs (s : ArgsManager) : List Str :=
  s.settings.roConfig.flatMap (fun section_ => logArgsPrefix s "Config file arg:" section_.1 section_.2) ++
  s.settings.rwSettings.map (fun setting =>
    "Setting file arg: ".toList ++ setting.1 ++ " = ".toList ++ setting.2.write ++ "\n".toList) ++
  logArgsPrefix s "Command-line arg:" [] s.settings.commandLineOptions

/-! ## What the log shows -/

/-- Whether `logArgsPrefix` hides the values of a key: it names an argument registered
`SENSITIVE`. -/
def sensitiveKey (s : ArgsManager) (key : Str) : Bool :=
  (getArgFlags s ('-' :: key)).any (hasFlag · Flags.sensitive)

/-- What `logArgsPrefix` shows of a map: the values of a key, or only how many there are
when the key is `SENSITIVE`. -/
def maskSensitive (s : ArgsManager) (args : StrMap (List SettingsValue)) :
    StrMap (List SettingsValue) :=
  args.map fun arg => (arg.1, if sensitiveKey s arg.1 then arg.2.map fun _ => .null else arg.2)

theorem logArgsPrefix_mask (s : ArgsManager) (pre sec : Str) (args : StrMap (List SettingsValue)) :
    logArgsPrefix s pre sec (maskSensitive s args) = logArgsPrefix s pre sec args := by
  simp only [logArgsPrefix, maskSensitive, List.flatMap_map]
  refine List.flatMap_congr fun arg _ => ?_
  by_cases h : sensitiveKey s arg.1
  · rw [if_pos h, List.filterMap_map]
    congr 1
    funext v
    cases hf : getArgFlags s ('-' :: arg.1) with
    | none => rfl
    | some flags =>
      have : hasFlag flags Flags.sensitive := by simpa [sensitiveKey, hf] using h
      simp [this]
  · rw [if_neg h]

theorem logArgsPrefix_availableArgs {s t : ArgsManager} (ha : s.availableArgs = t.availableArgs) :
    logArgsPrefix s = logArgsPrefix t := by
  unfold logArgsPrefix getArgFlags; rw [ha]

/-- **`logArgsPrefix` shows only the mask**: two maps with the same mask give the same
lines. -/
theorem logArgsPrefix_congr {s t : ArgsManager} (ha : s.availableArgs = t.availableArgs)
    (pre sec : Str) {a b : StrMap (List SettingsValue)}
    (h : maskSensitive s a = maskSensitive t b) :
    logArgsPrefix s pre sec a = logArgsPrefix t pre sec b := by
  rw [← logArgsPrefix_mask s, h, logArgsPrefix_availableArgs ha, logArgsPrefix_mask]

theorem flatMap_logArgsPrefix_mask (s : ArgsManager) (pre : Str)
    (sections : StrMap (StrMap (List SettingsValue))) :
    sections.flatMap (fun section_ => logArgsPrefix s pre section_.1 section_.2) =
      (sections.map fun section_ => (section_.1, maskSensitive s section_.2)).flatMap
        fun section_ => logArgsPrefix s pre section_.1 section_.2 := by
  rw [List.flatMap_map]
  exact List.flatMap_congr fun section_ _ => (logArgsPrefix_mask s pre _ _).symm

/-- **The configuration files and the command line keep `SENSITIVE` values out of the
log**: managers with the same registrations and settings file, whose configuration
sections and command line have the same masks, log the same lines. -/
theorem logArgs_congr {s t : ArgsManager} (ha : s.availableArgs = t.availableArgs)
    (hrw : s.settings.rwSettings = t.settings.rwSettings)
    (hro : s.settings.roConfig.map (fun section_ => (section_.1, maskSensitive s section_.2)) =
      t.settings.roConfig.map (fun section_ => (section_.1, maskSensitive t section_.2)))
    (hcl : maskSensitive s s.settings.commandLineOptions =
      maskSensitive t t.settings.commandLineOptions) :
    logArgs s = logArgs t := by
  rw [logArgs, logArgs, hrw, flatMap_logArgsPrefix_mask s, flatMap_logArgsPrefix_mask t, hro,
    logArgsPrefix_congr ha _ _ hcl, logArgsPrefix_availableArgs ha]

/-- A manager with `-rpcpassword` registered `SENSITIVE`, one password in the configuration
file and on the command line, and another in the settings file. -/
def rpcPasswordManager (pwConfig pwSetting : Str) : ArgsManager :=
  { availableArgs := fun c =>
      if c = .rpc then [("-rpcpassword".toList, ⟨"=<pw>".toList, [], Flags.sensitive⟩)] else []
    settings :=
      { roConfig := [([], [("rpcpassword".toList, [.str pwConfig])])]
        commandLineOptions := [("rpcpassword".toList, [.str pwConfig])]
        rwSettings := [("rpcpassword".toList, .str pwSetting)] } }

/-- A password in the configuration file and on the command line stays out of the log. -/
theorem logArgs_congr_rpcpassword :
    logArgs (rpcPasswordManager "a" "x") = logArgs (rpcPasswordManager "b" "x") :=
  logArgs_congr rfl rfl (by decide) (by decide)

/-- **`LogArgs` writes a `SENSITIVE` value of the settings file**: two managers that differ
only in the password of the settings file log different lines, the first with its
password. -/
theorem logArgs_prints_rw_setting :
    logArgs (rpcPasswordManager "x" "a") ≠ logArgs (rpcPasswordManager "x" "b") ∧
      "Setting file arg: rpcpassword = \"a\"\n".toList ∈ logArgs (rpcPasswordManager "x" "a") := by
  decide

end GlobeUtil
