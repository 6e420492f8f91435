import ContractBuild.Gas.Profile
import ContractBuild.Host.Path
import ContractBuild.Number.Binary64

/-!
# Settings

What can be set from outside: the toolchain and where it works, how long each stage may take,
the remote sandbox, the prices of gas, and the log.
-/

set_option autoImplicit false

namespace ContractBuild

/-- All settings, with their defaults. -/
structure Settings where
  cargo : Text := "cargo"
  tempRoot : Path := Path.ofText "TMP/stylus-forge"
  probeTimeout : Binary64 := .literal 10 1
  checkTimeout : Binary64 := .literal 60 1
  buildTimeout : Binary64 := .literal 120 1
  abiTimeout : Binary64 := .literal 30 1
  gasTimeout : Binary64 := .literal 30 1
  syntaxTimeout : Binary64 := .literal 30 1
  sandboxUrl : Text := "https://play.rust-lang.org/execute"
  sandboxTimeout : Binary64 := .literal 30 1
  sandboxChannel : Text := "stable"
  sandboxMode : Text := "release"
  sandboxEdition : Text := "2021"
  gasPriceGwei : Binary64 := .literal 1 10
  ethPriceUsd : Binary64 := .literal 3500 1
  logDirectory : Option Path := none
  deriving DecidableEq, Repr

/-- The prices of gas. -/
def Settings.pricing (s : Settings) : Gas.Pricing :=
  ⟨s.gasPriceGwei, s.ethPriceUsd⟩

end ContractBuild
