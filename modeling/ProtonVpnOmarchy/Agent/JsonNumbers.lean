import ProtonVpnOmarchy.Agent.Json

/-!
# Numbers in JSON values

The conversions between `serde_json::Number` and the integers of the agent, and the narrowing of an
integer that `try_from` allows.
-/

namespace ProtonVpnOmarchy.Agent

/-- `Value::as_i64` -/
def asI64 : Value → Option ℤ
  | .number (.posInt value) => if value.toNat < 2 ^ 63 then some value.toNat else none
  | .number (.negInt value) => some value.toInt
  | _ => none

/-- `Value::as_f64`, as the number that is rounded to one -/
def asF64 : Value → Option Number
  | .number value => some value
  | _ => none

/-- `json!` of an `i64` -/
def i64 (value : ℤ) : Value :=
  if 0 ≤ value then .u64 (.ofNat value.toNat) else .number (.negInt (.ofInt value))

/-- `u8::try_from` -/
def tryU8 (value : UInt64) : Option UInt8 := if value.toNat < 2 ^ 8 then some value.toUInt8 else none

/-- `u16::try_from` -/
def tryU16 (value : UInt64) : Option UInt16 :=
  if value.toNat < 2 ^ 16 then some value.toUInt16 else none

/-- `u32::try_from` -/
def tryU32 (value : UInt64) : Option UInt32 :=
  if value.toNat < 2 ^ 32 then some value.toUInt32 else none

/-- `i32::try_from` -/
def tryI32 (value : ℤ) : Option Int32 :=
  if -2 ^ 31 ≤ value ∧ value < 2 ^ 31 then some (.ofInt value) else none

end ProtonVpnOmarchy.Agent
