import ContractBuild.Text.Template

/-!
# Manifests

The manifests that are written for a contract and for a crate that is only checked, as
templates in the name of the crate.
-/

set_option autoImplicit false

namespace ContractBuild.Manifest

/-- The target that contracts are built for. -/
def wasmTarget : Text := "wasm32-unknown-unknown"

/-- The manifest of a contract. -/
def contract : Text :=
  Text.join ['\n']
    ["[package]", "name = \"\x7bname\x7d\"", "version = \"0.1.0\"", "edition = \"2021\"", "",
     "[dependencies]", "alloy-primitives = \"0.7.6\"", "alloy-sol-types = \"0.7.6\"",
     "stylus-sdk = \"0.6.0\"", "hex = \"0.4.3\"", "",
     "[dev-dependencies]",
     "tokio = \x7b\x7b version = \"1.12.0\", features = [\"full\"] \x7d\x7d",
     "ethers = \"2.0.0\"", "",
     "[features]", "export-abi = [\"stylus-sdk/export-abi\"]", "",
     "[[bin]]", "name = \"\x7bname\x7d\"", "path = \"src/main.rs\"", "",
     "[profile.release]", "codegen-units = 1", "strip = true", "lto = true",
     "panic = \"abort\"", "opt-level = \"z\"", ""]

/-- The manifest of a crate that is only checked. -/
def validator : Text :=
  Text.join ['\n']
    ["[package]", "name = \"\x7bname\x7d\"", "version = \"0.1.0\"", "edition = \"2021\"", "",
     "[dependencies]", "stylus-sdk = \"0.6.0\"", "alloy-primitives = \"0.7.6\"", ""]

end ContractBuild.Manifest
