import Mathlib

/-!
# JSON values

`serde_json::Value` and `serde_json::Map`, as far as the agent uses them. A map is the list of its
entries; `Map.insert` keeps the order of the keys, as the tree behind `serde_json::Map` does.
-/

namespace ProtonVpnOmarchy.Agent

/-- `serde_json::Number` -/
inductive Number where
  | posInt (value : UInt64)
  | negInt (value : Int64)
  | float (bits : UInt64)
  deriving DecidableEq

/-- `serde_json::Value` -/
inductive Value where
  | null
  | bool (value : Bool)
  | number (value : Number)
  | string (value : String)
  | array (values : List Value)
  | object (fields : List (String × Value))

/-- `serde_json::Map` -/
abbrev Map := List (String × Value)

mutual

/-- The derived equality of `Value`. -/
def Value.decEq : (a b : Value) → Decidable (a = b)
  | .null, .null => isTrue rfl
  | .bool a, .bool b => decidable_of_iff (a = b) (by rw [Value.bool.injEq])
  | .number a, .number b => decidable_of_iff (a = b) (by rw [Value.number.injEq])
  | .string a, .string b => decidable_of_iff (a = b) (by rw [Value.string.injEq])
  | .array a, .array b =>
    match Value.decEqList a b with
    | isTrue h => isTrue (by rw [h])
    | isFalse h => isFalse (by rwa [Value.array.injEq])
  | .object a, .object b =>
    match Value.decEqFields a b with
    | isTrue h => isTrue (by rw [h])
    | isFalse h => isFalse (by rwa [Value.object.injEq])
  | .null, .bool _ | .null, .number _ | .null, .string _ | .null, .array _ | .null, .object _
  | .bool _, .null | .bool _, .number _ | .bool _, .string _ | .bool _, .array _
  | .bool _, .object _ | .number _, .null | .number _, .bool _ | .number _, .string _
  | .number _, .array _ | .number _, .object _ | .string _, .null | .string _, .bool _
  | .string _, .number _ | .string _, .array _ | .string _, .object _ | .array _, .null
  | .array _, .bool _ | .array _, .number _ | .array _, .string _ | .array _, .object _
  | .object _, .null | .object _, .bool _ | .object _, .number _ | .object _, .string _
  | .object _, .array _ => isFalse nofun

def Value.decEqList : (a b : List Value) → Decidable (a = b)
  | [], [] => isTrue rfl
  | [], _ :: _ => isFalse nofun
  | _ :: _, [] => isFalse nofun
  | a :: as, b :: bs =>
    match Value.decEq a b, Value.decEqList as bs with
    | isTrue h, isTrue hs => isTrue (by rw [h, hs])
    | isFalse h, _ => isFalse fun heq => h (List.cons_eq_cons.mp heq).1
    | _, isFalse hs => isFalse fun heq => hs (List.cons_eq_cons.mp heq).2

def Value.decEqFields : (a b : List (String × Value)) → Decidable (a = b)
  | [], [] => isTrue rfl
  | [], _ :: _ => isFalse nofun
  | _ :: _, [] => isFalse nofun
  | (k, a) :: as, (l, b) :: bs =>
    if hkey : k = l then
      match Value.decEq a b, Value.decEqFields as bs with
      | isTrue h, isTrue hs => isTrue (by rw [hkey, h, hs])
      | isFalse h, _ => isFalse fun heq => h (Prod.mk.inj (List.cons_eq_cons.mp heq).1).2
      | _, isFalse hs => isFalse fun heq => hs (List.cons_eq_cons.mp heq).2
    else isFalse fun heq => hkey (Prod.mk.inj (List.cons_eq_cons.mp heq).1).1

end

instance : DecidableEq Value := Value.decEq

namespace Map

/-- `Map::get` -/
def get (map : Map) (key : String) : Option Value := map.lookup key

/-- `Map::insert` -/
def insert (map : Map) (key : String) (value : Value) : Map :=
  match map with
  | [] => [(key, value)]
  | (key', value') :: rest =>
    if key = key' then (key, value) :: rest
    else if key < key' then (key, value) :: (key', value') :: rest
    else (key', value') :: insert rest key value

/-- Insert entries one after the other. -/
def insertAll (map : Map) (entries : List (String × Value)) : Map :=
  entries.foldl (fun map entry => map.insert entry.1 entry.2) map

/-- `Map::remove` -/
def remove (map : Map) (key : String) : Map := map.filter fun entry => entry.1 ≠ key

@[simp] theorem get_nil (key : String) : get [] key = none := rfl

theorem get_cons (key key' : String) (value : Value) (map : Map) :
    get ((key', value) :: map) key = if key = key' then some value else get map key := by
  unfold get
  rw [List.lookup_cons]
  by_cases h : key = key'
  · simp [h]
  · simp [h, beq_false_of_ne h]

@[simp] theorem get_insert_self (map : Map) (key : String) (value : Value) :
    (map.insert key value).get key = some value := by
  induction map with
  | nil => simp [insert, get_cons]
  | cons entry map ih =>
      unfold insert
      split_ifs with heq hlt
      · rw [get_cons, if_pos rfl]
      · rw [get_cons, if_pos rfl]
      · rw [get_cons, if_neg heq, ih]

theorem get_insert_of_ne {key key' : String} (hne : key' ≠ key) (map : Map) (value : Value) :
    (map.insert key value).get key' = map.get key' := by
  induction map with
  | nil => simp [insert, get_cons, hne]
  | cons entry map ih =>
      unfold insert
      split_ifs with heq hlt
      · rw [get_cons, if_neg hne, get_cons, ← heq, if_neg hne]
      · rw [get_cons, if_neg hne]
      · rw [get_cons, ih, get_cons]

/-- What an insertion leaves under a key. -/
theorem get_insert (map : Map) (key key' : String) (value : Value) :
    (map.insert key value).get key' = if key' = key then some value else map.get key' := by
  by_cases h : key' = key
  · rw [if_pos h, h, get_insert_self]
  · rw [if_neg h, get_insert_of_ne h]

theorem get_remove (map : Map) (key key' : String) :
    (map.remove key).get key' = if key' = key then none else map.get key' := by
  induction map with
  | nil => simp [remove]
  | cons entry map ih =>
      obtain ⟨k, value⟩ := entry
      unfold remove at ih ⊢
      by_cases hk : k = key
      · rw [List.filter_cons_of_neg (by simpa using hk), ih, get_cons, hk]
        split_ifs with h
        · rfl
        · rfl
      · rw [List.filter_cons_of_pos (by simpa using hk), get_cons, ih, get_cons]
        split_ifs with h h'
        · exact absurd (h.symm.trans h') hk
        · rfl
        · rfl
        · rfl

theorem get_insertAll (map : Map) (entries : List (String × Value)) (key : String) :
    (map.insertAll entries).get key = (get entries.reverse key).or (map.get key) := by
  unfold insertAll
  induction entries generalizing map with
  | nil => rfl
  | cons entry entries ih =>
      rw [List.foldl_cons, ih, List.reverse_cons]
      have happend : get (entries.reverse ++ [entry]) key =
          (get entries.reverse key).or (get [entry] key) := List.lookup_append
      rw [happend, Option.or_assoc]
      congr 1
      rw [get_insert, get_cons, get_nil]
      split_ifs
      · rfl
      · rfl

/-- The entries that are inserted last. -/
theorem get_insertAll_append {map : Map} {entries last : List (String × Value)} {key : String}
    {value : Value} (h : get last.reverse key = some value) :
    (map.insertAll (entries ++ last)).get key = some value := by
  rw [get_insertAll, List.reverse_append]
  have happend : get (last.reverse ++ entries.reverse) key =
      (get last.reverse key).or (get entries.reverse key) := List.lookup_append
  rw [happend, h]
  rfl

end Map

namespace Value

/-- `Value::get` of a key -/
def get (value : Value) (key : String) : Option Value :=
  match value with
  | .object fields => Map.get fields key
  | _ => none

/-- `Value::as_str` -/
def asStr : Value → Option String
  | .string value => some value
  | _ => none

/-- `Value::as_bool` -/
def asBool : Value → Option Bool
  | .bool value => some value
  | _ => none

/-- `Value::as_u64` -/
def asU64 : Value → Option UInt64
  | .number (.posInt value) => some value
  | _ => none

/-- `Value::as_array` -/
def asArray : Value → Option (List Value)
  | .array values => some values
  | _ => none

/-- `Value::as_object` -/
def asObject : Value → Option Map
  | .object fields => some fields
  | _ => none

/-- `json!` of a number -/
def u64 (value : UInt64) : Value := .number (.posInt value)

/-- `json!` of an object -/
def obj (entries : List (String × Value)) : Value :=
  .object (Map.insertAll [] entries)

@[simp] theorem get_object (map : Map) (key : String) : (Value.object map).get key = map.get key :=
  rfl

theorem get_obj (entries : List (String × Value)) (key : String) :
    (obj entries).get key = Map.get entries.reverse key := by
  rw [obj, get_object, Map.get_insertAll, Map.get_nil, Option.or_none]

@[simp] theorem asObject_object (map : Map) : (Value.object map).asObject = some map := rfl

@[simp] theorem asStr_string (text : String) : (Value.string text).asStr = some text := rfl

end Value

/-- Source: `backend.rs` `BackendError` -/
structure BackendError where
  code : String
  message : String
  retryable : Bool
  details : Option Value := none
  deriving DecidableEq

/-- Source: `backend.rs` `BackendError::new` -/
def BackendError.new (code message : String) : BackendError :=
  { code := code, message := message, retryable := false }

end ProtonVpnOmarchy.Agent
