import ContractBuild.Host.Failure
import ContractBuild.Json.Basic
import ContractBuild.Number.Numeral
import ContractBuild.Settings.Basic
import ContractBuild.Settings.EnvFile

/-!
# Where settings come from

A setting is taken from values that are given by name, else from the environment, else from a
file of variables, else from its default. Each value is checked, and all faults are reported
together: first those of the settings in their order, then the keys that name no setting.
-/

set_option autoImplicit false

namespace ContractBuild

/-- What settings can be taken from. Names in the environment and in the file of variables
are compared in small letters. -/
structure SettingSources where
  values : List (Text × Json) := []
  environment : List (Text × Text) := []
  file : Text := []

namespace SettingSources

/-- What stands before the name of a setting in the environment. -/
def envMark : Text := "stylus_forge_"

/-- The variables of the file, with names in small letters. -/
def fileVariables (s : SettingSources) : List (Text × Option Text) :=
  (EnvFile.assignments s.environment s.file).foldl
    (fun vars v => EnvFile.assign vars (Text.lower v.1) v.2) []

/-- The last value given under a name, whatever the case of the letters. -/
def value? (s : SettingSources) (name : Text) : Option Json :=
  (s.values.reverse.find? fun v => Text.lower v.1 = name).map (·.2)

/-- The last variable of the environment under a name. -/
def environmentValue? (s : SettingSources) (name : Text) : Option Text :=
  (s.environment.reverse.find? fun v => Text.lower v.1 = envMark ++ name).map (·.2)

/-- The variable of the file under a name. -/
def fileValue? (s : SettingSources) (name : Text) : Option Text :=
  (s.fileVariables.lookup (envMark ++ name)).bind id

/-- What is given for a setting. -/
def given? (s : SettingSources) (name : Text) : Option Json :=
  match s.value? name with
  | some v => some v
  | none =>
    match s.environmentValue? name with
    | some t => some (.text t)
    | none => (s.fileValue? name).map .text

/-! ## Checking values -/

/-- Checks one by one, collecting the faults. -/
abbrev Checking := StateM (List SettingFault)

/-- Notes a fault, and goes on with a default. -/
def fault {α : Type} (key kind message : Text) (fallback : α) : Checking α := do
  modify (· ++ [⟨key, kind, message⟩])
  return fallback

/-- A setting that is a text. -/
def text (s : SettingSources) (key default : Text) : Checking Text :=
  match s.given? key with
  | none => return default
  | some (.text t) => return t
  | some _ => fault key "string_type" "Input should be a valid string" default

/-- A setting that is a path. -/
def path (s : SettingSources) (key : Text) (default : Path) : Checking Path :=
  match s.given? key with
  | none => return default
  | some (.text t) => return Path.ofText t
  | some _ =>
    fault key "path_type" "Input is not a valid path for <class 'pathlib.Path'>" default

/-- A setting that is a path or null. -/
def optionalPath (s : SettingSources) (key : Text) (default : Option Path) :
    Checking (Option Path) :=
  match s.given? key with
  | none => return default
  | some .null => return none
  | some _ => some <$> s.path key Path.here

/-- The number that a value stands for; a truth value is one or zero. -/
def number? : Json → Except SettingFault Binary64
  | .bool b => .ok (Binary64.ofNat b.toNat)
  | .real x => .ok x
  | .int n =>
    match Binary64.ofInt? n with
    | some x => .ok x
    | none => .error ⟨[], "float_type", "Input should be a valid number"⟩
  | .text t =>
    match Numeral.read? t with
    | some x => .ok x
    | none =>
      .error ⟨[], "float_parsing",
        "Input should be a valid number, unable to parse string as a number"⟩
  | _ => .error ⟨[], "float_type", "Input should be a valid number"⟩

/-- A setting that is a number within a limit. -/
def number (s : SettingSources) (key : Text) (default : Binary64) (within : Binary64 → Bool)
    (kind message : Text) : Checking Binary64 :=
  match s.given? key with
  | none => return default
  | some v =>
    match number? v with
    | .error e => fault key e.kind e.message default
    | .ok x => if within x then return x else fault key kind message default

/-- A setting that is a number greater than zero. -/
def positive (s : SettingSources) (key : Text) (default : Binary64) : Checking Binary64 :=
  s.number key default Binary64.isPositive "greater_than" "Input should be greater than 0"

/-- A setting that is a number not less than zero. -/
def nonnegative (s : SettingSources) (key : Text) (default : Binary64) : Checking Binary64 :=
  s.number key default Binary64.isNonnegative "greater_than_equal"
    "Input should be greater than or equal to 0"

/-- The settings, each one checked. -/
def checked (s : SettingSources) (d : Settings) : Checking Settings := do
  let cargo ← s.text "cargo_binary" d.cargo
  let tempRoot ← s.path "temp_root" d.tempRoot
  let probeTimeout ← s.positive "probe_timeout" d.probeTimeout
  let checkTimeout ← s.positive "check_timeout" d.checkTimeout
  let buildTimeout ← s.positive "build_timeout" d.buildTimeout
  let abiTimeout ← s.positive "abi_timeout" d.abiTimeout
  let gasTimeout ← s.positive "gas_timeout" d.gasTimeout
  let syntaxTimeout ← s.positive "syntax_timeout" d.syntaxTimeout
  let sandboxUrl ← s.text "playground_url" d.sandboxUrl
  let sandboxTimeout ← s.positive "playground_timeout" d.sandboxTimeout
  let sandboxChannel ← s.text "playground_channel" d.sandboxChannel
  let sandboxMode ← s.text "playground_mode" d.sandboxMode
  let sandboxEdition ← s.text "playground_edition" d.sandboxEdition
  let gasPriceGwei ← s.nonnegative "gas_price_gwei" d.gasPriceGwei
  let ethPriceUsd ← s.nonnegative "eth_price_usd" d.ethPriceUsd
  let logDirectory ← s.optionalPath "log_dir" d.logDirectory
  return { cargo, tempRoot, probeTimeout, checkTimeout, buildTimeout, abiTimeout, gasTimeout
           syntaxTimeout, sandboxUrl, sandboxTimeout, sandboxChannel, sandboxMode
           sandboxEdition, gasPriceGwei, ethPriceUsd, logDirectory }

/-! ## Keys that name no setting -/

/-- The names of all settings. -/
def names : List Text :=
  ["cargo_binary", "temp_root", "probe_timeout", "check_timeout", "build_timeout",
   "abi_timeout", "gas_timeout", "syntax_timeout", "playground_url", "playground_timeout",
   "playground_channel", "playground_mode", "playground_edition", "gas_price_gwei",
   "eth_price_usd", "log_dir"]

/-- The variables of the file that name no setting. Those without a value are passed over,
and so are names of settings without the mark in front. -/
def strangeVariables (s : SettingSources) : List Text :=
  (s.fileVariables.filter fun v =>
    v.2.any (!·.isEmpty) && !names.contains v.1 && !(names.map (envMark ++ ·)).contains v.1).map
    (·.1)

/-- The given values that name no setting. -/
def strangeValues (s : SettingSources) : List Text :=
  (s.values.map (·.1)).filter fun key => !names.contains (Text.lower key)

/-- The faults for keys that name no setting, one for each key. -/
def strangeKeys (s : SettingSources) : List SettingFault :=
  (s.strangeVariables ++ s.strangeValues).eraseDups.map fun key =>
    ⟨key, "extra_forbidden", "Extra inputs are not permitted"⟩

/-- The settings from these sources, over given defaults. -/
def settings (s : SettingSources) (defaults : Settings) : Except (List SettingFault) Settings :=
  let r := (s.checked defaults).run []
  let faults := r.2 ++ s.strangeKeys
  if faults.isEmpty then .ok r.1 else .error faults

end SettingSources

/-! ## Listing -/

/-- All settings by name. -/
def Settings.report (s : Settings) : Json :=
  .object
    [("cargo_binary", .text s.cargo), ("temp_root", .text s.tempRoot.text),
     ("probe_timeout", .real s.probeTimeout), ("check_timeout", .real s.checkTimeout),
     ("build_timeout", .real s.buildTimeout), ("abi_timeout", .real s.abiTimeout),
     ("gas_timeout", .real s.gasTimeout), ("syntax_timeout", .real s.syntaxTimeout),
     ("playground_url", .text s.sandboxUrl), ("playground_timeout", .real s.sandboxTimeout),
     ("playground_channel", .text s.sandboxChannel), ("playground_mode", .text s.sandboxMode),
     ("playground_edition", .text s.sandboxEdition), ("gas_price_gwei", .real s.gasPriceGwei),
     ("eth_price_usd", .real s.ethPriceUsd),
     ("log_dir", Json.ofText? (s.logDirectory.map Path.text))]

end ContractBuild
