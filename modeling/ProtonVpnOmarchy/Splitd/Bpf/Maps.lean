import ProtonVpnOmarchy.Lib.Fallible
import ProtonVpnOmarchy.Lib.LongestPrefix
import ProtonVpnOmarchy.Splitd.Model

/-!
# The kernel maps of the socket marker

`SocketMarker` keeps the configurations it last wrote into the kernel's policy maps. The model has
the five maps `sync_configs` works on, the keys as the kernel sees them, and every map operation
under a fault plan: `Faults` decides which operation of a pass is refused.
-/

namespace ProtonVpnOmarchy.Splitd.Bpf

open Std (ExtTreeMap)
open Lib Lib.Fallible

def MAX_TRACKED_PIDS : ℕ := 65536
def MAX_USER_POLICIES : ℕ := 64
def MAX_DESTINATIONS : ℕ := 64 * 256

/-- `io::ErrorKind`, as far as the daemon tells kinds apart. -/
inductive ErrorKind where
  | invalidData
  | invalidInput
  | unsupported
  | notFound
  | alreadyExists
  | other
  | os (code : ℕ)
  deriving DecidableEq, Repr

/-- `io::Error` -/
structure IoError where
  kind : ErrorKind
  message : String
  deriving DecidableEq, Repr

/-! ## Keys -/

/-- Source: `bpf.rs` `Ipv4LpmKey`, `Ipv6LpmKey` -/
structure LpmKey where
  prefixLen : ℕ
  uid : UInt32
  address : List Byte
  deriving DecidableEq

/-- The prefix a key stands for: the kernel compares the bytes behind the length. -/
def LpmKey.bits (key : LpmKey) : List Bool :=
  (Lib.bits (leBytes 4 key.uid.toNat ++ key.address)).take key.prefixLen

/-- Source: `bpf.rs` `ipv4_key` -/
def ipv4Key (uid : UInt32) (address : Ipv4Addr) (prefixLen : ℕ) : LpmKey :=
  { prefixLen := 32 + prefixLen, uid := uid, address := beBytes 4 address }

/-- Source: `bpf.rs` `ipv6_key` -/
def ipv6Key (uid : UInt32) (address : Ipv6Addr) (prefixLen : ℕ) : LpmKey :=
  { prefixLen := 32 + prefixLen, uid := uid, address := beBytes 16 address }

/-! ## Maps -/

/-- An entry's place: the map and the key. -/
inductive Cell where
  | mode (uid : UInt32)
  | range (ipv6 : Bool) (key : List Bool)
  | bypass (ipv6 : Bool) (key : List Bool)
  deriving DecidableEq

/-- The mode map, the range tries and the bypass tries. -/
structure PolicyMaps where
  mode : ExtTreeMap UInt32 UInt32 := {}
  ipv4 : LpmTrie UInt32 := {}
  ipv6 : LpmTrie UInt32 := {}
  bypassIpv4 : LpmTrie UInt32 := {}
  bypassIpv6 : LpmTrie UInt32 := {}

namespace PolicyMaps

def get (maps : PolicyMaps) : Cell → Option UInt32
  | .mode uid => maps.mode[uid]?
  | .range false key => maps.ipv4[key]?
  | .range true key => maps.ipv6[key]?
  | .bypass false key => maps.bypassIpv4[key]?
  | .bypass true key => maps.bypassIpv6[key]?

def put (maps : PolicyMaps) (cell : Cell) (value : UInt32) : PolicyMaps :=
  match cell with
  | .mode uid => { maps with mode := maps.mode.insert uid value }
  | .range false key => { maps with ipv4 := maps.ipv4.insert key value }
  | .range true key => { maps with ipv6 := maps.ipv6.insert key value }
  | .bypass false key => { maps with bypassIpv4 := maps.bypassIpv4.insert key value }
  | .bypass true key => { maps with bypassIpv6 := maps.bypassIpv6.insert key value }

def remove (maps : PolicyMaps) : Cell → PolicyMaps
  | .mode uid => { maps with mode := maps.mode.erase uid }
  | .range false key => { maps with ipv4 := maps.ipv4.erase key }
  | .range true key => { maps with ipv6 := maps.ipv6.erase key }
  | .bypass false key => { maps with bypassIpv4 := maps.bypassIpv4.erase key }
  | .bypass true key => { maps with bypassIpv6 := maps.bypassIpv6.erase key }

@[ext] theorem ext_get {a b : PolicyMaps} (h : ∀ cell, a.get cell = b.get cell) : a = b := by
  have hmode : a.mode = b.mode := ExtTreeMap.ext_getElem? fun uid => h (.mode uid)
  have h4 : a.ipv4 = b.ipv4 := ExtTreeMap.ext_getElem? fun key => h (.range false key)
  have h6 : a.ipv6 = b.ipv6 := ExtTreeMap.ext_getElem? fun key => h (.range true key)
  have hb4 : a.bypassIpv4 = b.bypassIpv4 := ExtTreeMap.ext_getElem? fun key => h (.bypass false key)
  have hb6 : a.bypassIpv6 = b.bypassIpv6 := ExtTreeMap.ext_getElem? fun key => h (.bypass true key)
  cases a
  cases b
  simp_all

@[simp] theorem get_empty (cell : Cell) : ({} : PolicyMaps).get cell = none := by
  rcases cell with uid | ⟨_ | _, key⟩ | ⟨_ | _, key⟩ <;> simp [get]

theorem get_put (maps : PolicyMaps) (cell cell' : Cell) (value : UInt32) :
    (maps.put cell value).get cell' = if cell = cell' then some value else maps.get cell' := by
  rcases cell with uid | ⟨_ | _, key⟩ | ⟨_ | _, key⟩ <;>
    rcases cell' with uid' | ⟨_ | _, key'⟩ | ⟨_ | _, key'⟩ <;>
      simp [get, put, ExtTreeMap.getElem?_insert]

theorem get_remove (maps : PolicyMaps) (cell cell' : Cell) :
    (maps.remove cell).get cell' = if cell = cell' then none else maps.get cell' := by
  rcases cell with uid | ⟨_ | _, key⟩ | ⟨_ | _, key⟩ <;>
    rcases cell' with uid' | ⟨_ | _, key'⟩ | ⟨_ | _, key'⟩ <;>
      simp [get, remove, ExtTreeMap.getElem?_erase]

/-- Put all entries. -/
def fill (maps : PolicyMaps) (entries : List (Cell × UInt32)) : PolicyMaps :=
  entries.foldl (fun maps entry => maps.put entry.1 entry.2) maps

theorem fill_cons (maps : PolicyMaps) (entry : Cell × UInt32) (entries : List (Cell × UInt32)) :
    maps.fill (entry :: entries) = (maps.put entry.1 entry.2).fill entries := rfl

variable {entries : List (Cell × UInt32)} {cell : Cell} {value : UInt32}

/-- Filled entries hide what was there before. -/
theorem get_fill (maps : PolicyMaps) (entries : List (Cell × UInt32)) (cell : Cell) :
    (maps.fill entries).get cell = ((fill {} entries).get cell).or (maps.get cell) := by
  induction entries generalizing maps with
  | nil => simp [fill]
  | cons entry entries ih =>
      rw [fill_cons, fill_cons, ih, ih (put {} entry.1 entry.2), get_put, get_put, Option.or_assoc]
      by_cases h : entry.1 = cell <;> simp [h]

theorem mem_of_get_fill (h : (fill {} entries).get cell = some value) :
    (cell, value) ∈ entries := by
  induction entries with
  | nil => simp [fill] at h
  | cons entry entries ih =>
      rw [fill_cons, get_fill, Option.or_eq_some_iff, get_put] at h
      rcases h with h | ⟨-, h⟩
      · exact List.mem_cons_of_mem _ (ih h)
      · split_ifs at h with hcell
        · simp only [Option.some.injEq] at h
          subst hcell h
          exact List.mem_cons_self
        · simp at h

theorem get_fill_isSome (h : (cell, value) ∈ entries) : ((fill {} entries).get cell).isSome := by
  induction entries with
  | nil => simp at h
  | cons entry entries ih =>
      rw [fill_cons, get_fill, Option.isSome_or]
      rcases List.mem_cons.mp h with rfl | h
      · simp [get_put]
      · simp [ih h]

/-- Filling with entries that do not contradict each other stores exactly these. -/
theorem get_fill_eq_some_iff
    (hfun : ∀ c v v', (c, v) ∈ entries → (c, v') ∈ entries → v = v') :
    (fill {} entries).get cell = some value ↔ (cell, value) ∈ entries := by
  constructor
  · exact mem_of_get_fill
  · intro h
    obtain ⟨value', hvalue'⟩ := Option.isSome_iff_exists.mp (get_fill_isSome h)
    rw [hvalue', hfun cell value' value (mem_of_get_fill hvalue') h]

end PolicyMaps

/-! ## Operations -/

/-- A map operation. -/
inductive MapOp where
  | update (cell : Cell) (value : UInt32)
  | delete (cell : Cell)
  deriving DecidableEq

/-- The effect of an operation that is not refused; deleting an absent entry is no error. -/
def MapOp.apply : MapOp → PolicyMaps → PolicyMaps
  | .update cell value, maps => maps.put cell value
  | .delete cell, maps => maps.remove cell

/-- Which map operation of a pass the kernel refuses. -/
abbrev PolicyFaults := Faults MapOp IoError

/-- Code that works on the policy maps. -/
abbrev Kernel := Fallible IoError (Pass PolicyMaps)

section operations

variable (text : IpNetText) (faults : PolicyFaults)

/-- Source: `bpf.rs` `map_update` -/
def mapUpdate (cell : Cell) (value : UInt32) : Kernel Unit :=
  (Step.attempt (.update cell value)).perform MapOp.apply faults

/-- Source: `bpf.rs` `map_delete` -/
def mapDelete (cell : Cell) : Kernel Unit :=
  (Step.attempt (.delete cell)).perform MapOp.apply faults

/-- `let _ = map_delete(..)` -/
def mapDeleteIgnoringErrors (cell : Cell) : Kernel Unit :=
  (Step.ignore (.delete cell)).perform MapOp.apply faults

/-- Source: `bpf.rs` `parsed_range` -/
def parsedRange (value : String) : Kernel IpNet :=
  match parseIpRange text value with
  | .ok network => pure network
  | .error error => throw { kind := .invalidData, message := error }

/-- The common part of the four range functions: parse, build the key of the family, and perform
an operation on the entry. -/
def onRange (cell : Bool → List Bool → Cell) (perform : Cell → Kernel Unit) (uid : UInt32)
    (value : String) : Kernel Unit := do
  match ← parsedRange text value with
  | .v4 network => perform (cell false (ipv4Key uid network.network network.prefixLen).bits)
  | .v6 network => perform (cell true (ipv6Key uid network.network network.prefixLen).bits)

/-- Source: `bpf.rs` `SocketMarker::update_range` -/
def updateRange : UInt32 → String → Kernel Unit := onRange text .range (mapUpdate faults · 1)

/-- Source: `bpf.rs` `SocketMarker::delete_range` -/
def deleteRange : UInt32 → String → Kernel Unit := onRange text .range (mapDelete faults)

/-- Source: `bpf.rs` `SocketMarker::update_bypass_range` -/
def updateBypassRange : UInt32 → String → Kernel Unit := onRange text .bypass (mapUpdate faults · 1)

/-- Source: `bpf.rs` `SocketMarker::delete_bypass_range` -/
def deleteBypassRange : UInt32 → String → Kernel Unit := onRange text .bypass (mapDelete faults)

/-- The value of the mode map. -/
def modeValue (config : SplitConfig) : UInt32 := if config.mode = .include then 1 else 0

/-- Source: `bpf.rs` `SocketMarker::replace_maps` -/
def replaceMaps (oldConfigs : ConfigMap) (oldPolicies : PolicyMap) (newConfigs : ConfigMap)
    (newPolicies : PolicyMap) : Kernel Unit := do
  forM oldConfigs.toList fun (uid, config) => do
    mapDeleteIgnoringErrors faults (.mode uid.toUInt32)
    forM config.ipRanges (deleteRange text faults uid.toUInt32)
  forM oldPolicies.toList fun (uid, ranges) =>
    forM ranges (deleteBypassRange text faults uid.toUInt32)
  forM (newConfigs.toList.filter fun (_, config) => config.hasRules) fun (uid, config) => do
    mapUpdate faults (.mode uid.toUInt32) (modeValue config)
    forM config.ipRanges (updateRange text faults uid.toUInt32)
  forM newPolicies.toList fun (uid, ranges) =>
    forM ranges (updateBypassRange text faults uid.toUInt32)

end operations

/-! ## The marker -/

/-- The kernel's maps and what the marker recorded about them. Source: `bpf.rs` `SocketMarker` -/
structure SocketMarker where
  pidMap : ExtTreeMap UInt32 UInt32 := {}
  policy : PolicyMaps := {}
  configs : ConfigMap := {}
  destinationPolicies : PolicyMap := {}

/-- Which operations of a call are refused, in the replacement and in its rollback. -/
structure SyncFaults where
  replace : PolicyFaults
  rollback : PolicyFaults

instance : DecidableEq ConfigMap := fun a b => decidable_of_iff (a == b) (by simp)

instance : DecidableEq PolicyMap := fun a b => decidable_of_iff (a == b) (by simp)

/-- Source: `bpf.rs` `SocketMarker::sync_configs` -/
def syncConfigs (text : IpNetText) (faults : SyncFaults) (configs : ConfigMap)
    (destinationPolicies : PolicyMap) : Fallible IoError SocketMarker Unit := ofFun fun marker =>
  if configs = marker.configs ∧ destinationPolicies = marker.destinationPolicies then
    (.ok (), marker)
  else
    match (replaceMaps text faults.replace marker.configs marker.destinationPolicies configs
        destinationPolicies).exec ⟨0, marker.policy⟩ with
    | (.ok (), p) =>
      (.ok (), { marker with
        policy := p.state, configs := configs, destinationPolicies := destinationPolicies })
    | (.error error, p) =>
      match (replaceMaps text faults.rollback configs destinationPolicies marker.configs
          marker.destinationPolicies).exec ⟨0, p.state⟩ with
      | (.ok (), p) => (.error error, { marker with policy := p.state })
      | (.error rollback, p) =>
        (.error { kind := error.kind
                  message := error.message ++ "; kernel policy rollback also failed: " ++
                    rollback.message },
          { marker with policy := p.state })

/-! ## A replacement as a sequence of steps -/

section steps

variable (text : IpNetText)

/-- The entry of a range. -/
def rangeCell (cell : Bool → List Bool → Cell) (uid : UInt32) : IpNet → Cell
  | .v4 network => cell false (ipv4Key uid network.network network.prefixLen).bits
  | .v6 network => cell true (ipv6Key uid network.network network.prefixLen).bits

/-- The step of a range function: an operation on its entry, or an error if it does not parse. -/
def rangeStep (cell : Bool → List Bool → Cell) (op : Cell → MapOp) (uid : UInt32)
    (value : String) : Step MapOp IoError :=
  match parseIpRange text value with
  | .ok network => .attempt (op (rangeCell cell uid network))
  | .error error => .fail { kind := .invalidData, message := error }

def deletionSteps (configs : ConfigMap) (policies : PolicyMap) : List (Step MapOp IoError) :=
  (configs.toList.flatMap fun (uid, config) => .ignore (.delete (.mode uid.toUInt32)) ::
      config.ipRanges.map (rangeStep text .range .delete uid.toUInt32)) ++
    policies.toList.flatMap fun (uid, ranges) =>
      ranges.map (rangeStep text .bypass .delete uid.toUInt32)

def insertionSteps (configs : ConfigMap) (policies : PolicyMap) : List (Step MapOp IoError) :=
  ((configs.toList.filter fun (_, config) => config.hasRules).flatMap fun (uid, config) =>
      .attempt (.update (.mode uid.toUInt32) (modeValue config)) ::
        config.ipRanges.map (rangeStep text .range (.update · 1) uid.toUInt32)) ++
    policies.toList.flatMap fun (uid, ranges) =>
      ranges.map (rangeStep text .bypass (.update · 1) uid.toUInt32)

variable {text} {faults : PolicyFaults}

theorem onRange_eq_perform (cell : Bool → List Bool → Cell) (op : Cell → MapOp) (uid : UInt32)
    (value : String) :
    onRange text cell (fun c => (Step.attempt (op c)).perform MapOp.apply faults) uid value =
      (rangeStep text cell op uid value).perform MapOp.apply faults := by
  unfold onRange parsedRange rangeStep
  cases parseIpRange text value with
  | error error => rfl
  | ok network => cases network <;> rfl

/-- The loops of a replacement are one sequence of steps. -/
theorem replaceMaps_eq (oldConfigs : ConfigMap) (oldPolicies : PolicyMap) (newConfigs : ConfigMap)
    (newPolicies : PolicyMap) :
    replaceMaps text faults oldConfigs oldPolicies newConfigs newPolicies = (do
      forM (deletionSteps text oldConfigs oldPolicies) (Step.perform MapOp.apply faults)
      forM (insertionSteps text newConfigs newPolicies) (Step.perform MapOp.apply faults)) := by
  unfold replaceMaps deletionSteps insertionSteps
  simp only [List.forM_append, forM_flatMap, List.forM_cons, List.forM_map, ← onRange_eq_perform,
    bind_assoc]
  rfl

end steps

end ProtonVpnOmarchy.Splitd.Bpf
