import ProtonVpnOmarchy.Agent.Json

/-!
# Errors of the native backend

The errors of `native_backend/mod.rs`, before they become errors of the backend.
-/

namespace ProtonVpnOmarchy.Agent.Native

/-- Source: `mod.rs` `NativeError` -/
structure NativeError where
  code : String
  message : String
  details : Option Value := none
  retryable : Bool := false
  source : Option String := none
  deriving DecidableEq

abbrev NativeResult := Except NativeError

/-- Source: `mod.rs` `impl fmt::Display for NativeError` -/
def NativeError.display (error : NativeError) : String :=
  match error.source with
  | some source => error.code ++ ": " ++ error.message ++ " (" ++ source ++ ")"
  | none => error.code ++ ": " ++ error.message

end ProtonVpnOmarchy.Agent.Native
