import ProtonVpnOmarchy.Agent.Json

/-!
# The length of JSON text

How many bytes `serde_json` writes for a value: `to_vec` puts no blanks between the parts, and
`to_vec_pretty` puts every item on a line of its own, indented by two blanks for each level. The
length of the text of a floating-point number is a parameter.

* `fieldsSize_append` — the text of an object, part by part.
* `stringSize_replicate` — letters are written as they are.
-/

namespace ProtonVpnOmarchy.Agent

/-- How the parts of a text are set apart. -/
inductive Layout where
  | compact
  | pretty
  deriving DecidableEq

/-- The break before an item at a depth. -/
def Layout.lineSize : Layout → ℕ → ℕ
  | .compact, _ => 0
  | .pretty, depth => 1 + 2 * depth

/-- What stands between a key and its value. -/
def Layout.colonSize : Layout → ℕ
  | .compact => 1
  | .pretty => 2

/-- The escapes of `serde_json`. -/
def escapedSize (c : Char) : ℕ :=
  if c ∈ ['"', '\\', '\x08', '\t', '\n', '\x0c', '\r'] then 2
  else if c.toNat < 0x20 then 6
  else c.utf8Size

/-- A string with its quotes. -/
def stringSize (text : String) : ℕ := 2 + (text.toList.map escapedSize).sum

section size

variable (floatSize : UInt64 → ℕ) (layout : Layout)

def Number.textSize : Number → ℕ
  | .posInt value => (toString value.toNat).length
  | .negInt value => (toString value.toInt).length
  | .float bits => floatSize bits

mutual

/-- The length of the text of a value at a depth. -/
def Value.textSize (depth : ℕ) : Value → ℕ
  | .null => 4
  | .bool value => if value then 4 else 5
  | .number value => value.textSize floatSize
  | .string text => stringSize text
  | .array values =>
    2 + itemsSize (depth + 1) values + if values.isEmpty then 0 else layout.lineSize depth
  | .object fields =>
    2 + fieldsSize (depth + 1) fields + if fields.isEmpty then 0 else layout.lineSize depth

/-- The items of an array, with commas between them. -/
def itemsSize (depth : ℕ) : List Value → ℕ
  | [] => 0
  | value :: values =>
    layout.lineSize depth + value.textSize depth + (if values.isEmpty then 0 else 1) +
      itemsSize depth values

/-- The fields of an object, with commas between them. -/
def fieldsSize (depth : ℕ) : List (String × Value) → ℕ
  | [] => 0
  | (key, value) :: fields =>
    layout.lineSize depth + stringSize key + layout.colonSize + value.textSize depth +
      (if fields.isEmpty then 0 else 1) + fieldsSize depth fields

end

/-- The text of an object, part by part. -/
theorem fieldsSize_append (depth : ℕ) (fields fields' : List (String × Value)) :
    fieldsSize floatSize layout depth (fields ++ fields') =
      fieldsSize floatSize layout depth fields + fieldsSize floatSize layout depth fields' +
        if fields.isEmpty ∨ fields'.isEmpty then 0 else 1 := by
  induction fields with
  | nil => simp [fieldsSize]
  | cons field fields ih =>
      obtain ⟨key, value⟩ := field
      rw [List.cons_append, fieldsSize, fieldsSize, ih]
      rcases fields with _ | ⟨field, fields⟩
      · rcases fields' with _ | ⟨field', fields'⟩
        · simp [fieldsSize]
        · simp [fieldsSize]
          omega
      · simp
        omega

theorem itemsSize_replicate (depth n : ℕ) (value : Value) :
    itemsSize floatSize layout depth (List.replicate (n + 1) value) =
      (n + 1) * (layout.lineSize depth + value.textSize floatSize layout depth) + n := by
  induction n with
  | zero => simp [itemsSize]
  | succ n ih =>
      rw [List.replicate_succ, itemsSize, ih]
      simp
      ring

end size

/-- Letters are written as they are. -/
theorem stringSize_replicate (n : ℕ) :
    stringSize (String.ofList (List.replicate n 'a')) = 2 + n := by
  have hone : escapedSize 'a' = 1 := by decide
  unfold stringSize
  rw [String.toList_ofList, List.map_replicate, List.sum_replicate, hone, smul_eq_mul, mul_one]

end ProtonVpnOmarchy.Agent
