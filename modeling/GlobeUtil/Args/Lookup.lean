import GlobeUtil.Args.Manager

/-!
# Looking up and setting arguments

The readers of `ArgsManager` that go through the merged settings (`GetSetting`, `IsArgSet`,
`GetArg`, `GetBoolArg`, `GetPathArg`, `GetChainName`) and the writers `SoftSetArg`,
`SoftSetBoolArg` and `ReadSettingsFile`. The merge itself, `util::GetSetting`, lives in
util/settings.cpp, which is not among the sources: it is a field of `ConfigEnv`, with the other
things util/system.cpp takes from outside (path normalisation, the file system, the
data-directory check).

## Main definitions

* `ConfigEnv`: what util/system.cpp reads from outside itself
* `getSettingOf`, `isArgSet`, `isArgNegated`, `getArg`, `getBoolArg`, `getPathArg`: the
  lookups
* `getChainName`: `ArgsManager::GetChainName`
* `softSetArg`, `softSetBoolArg`, `readSettingsFile`: the writers of forced and
  read-write settings
-/

namespace GlobeUtil

/-! ## Lookups -/

/-- What `ReadConfigFiles` takes from outside util/system.cpp. -/
structure ConfigEnv where
  /-- `util::GetSetting` (util/settings.cpp, not among the sources): the merged value of a
  setting, from the settings, a section, a name and the three flags. -/
  getSetting : Settings → Str → Str → Bool → Bool → Bool → SettingsValue
  /-- `fs::path::lexically_normal` with the trailing separator removed, as `GetPathArg`
  applies them. -/
  normalPath : Str → Str
  /-- The file system: the lines of the file `GetConfigFile(path)` names, when the stream
  opens. -/
  configFile : Str → Option (List Str)
  /-- `CheckDataDirOption()`: it reads `gArgs` and the file system. -/
  dataDirOk : ArgsManager → Bool

section Lookups

variable (env : ConfigEnv) (s : ArgsManager)

/-- `ArgsManager::UseDefaultSection`. -/
def useDefaultSection (arg : Str) : Bool :=
  s.network == chainMain || !decide (arg ∈ s.networkOnlyArgs)

/-- `ArgsManager::GetSetting`. -/
def getSettingOf (arg : Str) : SettingsValue :=
  env.getSetting s.settings s.network (settingName arg) (!useDefaultSection s arg) false false

/-- `ArgsManager::IsArgSet`. -/
def isArgSet (arg : Str) : Bool :=
  getSettingOf env s arg != .null

/-- `ArgsManager::IsArgNegated`. -/
def isArgNegated (arg : Str) : Bool :=
  (getSettingOf env s arg).isFalse

/-- `ArgsManager::GetArg` with a default. -/
def getArg (arg default : Str) : Str :=
  (settingToString (getSettingOf env s arg)).getD default

/-- `ArgsManager::GetBoolArg` with a default; `get_str` throws on a number. -/
def getBoolArg (arg : Str) (fDefault : Bool) : Except Str Bool :=
  (settingToBool (getSettingOf env s arg)).map (·.getD fDefault)

/-- `ArgsManager::GetPathArg`. -/
def getPathArg (arg default : Str) : Str :=
  if isArgNegated env s arg then []
  else if getArg env s arg [] = [] then default
  else env.normalPath (getArg env s arg [])

/-- A path argument with a non-empty default is empty exactly when it is negated, where
path normalisation keeps a non-empty path non-empty. -/
theorem getPathArg_eq_nil_iff (hnorm : ∀ p, p ≠ [] → env.normalPath p ≠ []) {arg default : Str}
    (hdefault : default ≠ []) : getPathArg env s arg default = [] ↔ isArgNegated env s arg = true := by
  unfold getPathArg
  split_ifs with h₁ h₂ <;> simp_all

/-- The `get_net` lambda of `GetChainName`: the chain-name reading of a flag. -/
def getNet (arg : Str) : Except Str Bool :=
  match env.getSetting s.settings [] (settingName arg) false false true with
  | .null => .ok false
  | .bool b => .ok b
  | v => v.getStr.map interpretBool

/-- `ArgsManager::GetChainName`: at most one of `-regtest`, `-signet`, `-testnet` and
`-chain`; the `std::runtime_error` for more is the `.error`. -/
def getChainName : Except Str Str := do
  let fRegTest ← getNet env s "-regtest"
  let fSigNet ← getNet env s "-signet"
  let fTestNet ← getNet env s "-testnet"
  if (isArgSet env s "-chain").toNat + fRegTest.toNat + fSigNet.toNat + fTestNet.toNat > 1 then
    throw "Invalid combination of -regtest, -signet, -testnet and -chain. Can use at most one.".toList
  if fRegTest then return chainRegtest
  if fSigNet then return chainSignet
  if fTestNet then return chainTestnet
  return getArg env s "-chain" chainMain

end Lookups

/-! ## Setting values -/

/-- `ArgsManager::SoftSetArg`: force a value only where the argument is not set. -/
def softSetArg (env : ConfigEnv) (strArg strValue : Str) (s : ArgsManager) : Bool × ArgsManager :=
  if isArgSet env s strArg then (false, s) else (true, forceSetArg strArg strValue s)

/-- `ArgsManager::SoftSetBoolArg`. -/
def softSetBoolArg (env : ConfigEnv) (strArg : Str) (fValue : Bool) (s : ArgsManager) :
    Bool × ArgsManager :=
  softSetArg env strArg (if fValue then "1" else "0") s

/-- `ArgsManager::ReadSettingsFile`, given what `util::ReadSettings` (util/settings.cpp) left
in `rw_settings` and returned, or `none` where `GetSettingsPath` finds the settings file
disabled. The log lines about unknown keys are left out. -/
def readSettingsFile (read : Option (StrMap SettingsValue × Bool)) (s : ArgsManager) :
    Bool × ArgsManager :=
  match read with
  | none => (true, s)
  | some (values, ok) => (ok, { s with settings.rwSettings := values })

end GlobeUtil
