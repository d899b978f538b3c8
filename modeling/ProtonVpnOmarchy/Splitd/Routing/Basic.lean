import ProtonVpnOmarchy.Lib.Text
import ProtonVpnOmarchy.Splitd.AddressText
import ProtonVpnOmarchy.Splitd.Bpf.Maps
import ProtonVpnOmarchy.Splitd.Bpf.Program

/-!
# Policy routes for excluded traffic

`routing.rs`: while the kill switch is active, marked traffic of a user is routed by a rule and a
table of the user's own. The daemon changes the kernel's routing database through `ip`; the model
has the commands it issues (`IpCommand`, with the words of each), what they do to the database
(`IpCommand.exec`) and the daemon's two operations, `enable` and `disable`.

What is not the daemon's is a parameter: which `ip` command fails (`IpEnv.fails`), what `ip` prints,
and the texts of the answers for what is absent (`IpAnswers`).
-/

namespace ProtonVpnOmarchy.Splitd

open Lib Lib.Fallible Bpf

/-! ## Physical routes -/

/-- Source: `routing.rs` `AddressFamily` -/
inductive AddressFamily where
  | ipv4
  | ipv6
  deriving DecidableEq, Repr

/-- Tables are looked up by their family and number. -/
instance : LawfulBEq (AddressFamily × ℕ) := inferInstance

/-- Source: `routing.rs` `PhysicalRoute` -/
structure PhysicalRoute where
  family : AddressFamily
  gateway : Option IpAddr
  interface : String
  deriving DecidableEq

/-- Source: `routing.rs` `is_proton_interface` -/
def isProtonInterface (interface : String) : Bool :=
  interface ∈ ["proton0", "pvpnksintrf0", "pvpnksintrf1", "ipv6leakintrf0", "ipv6leakintrf1"] ||
    "pvpnrouteintrf".toList.isPrefixOf interface.toList

/-- A character of an interface name. -/
def isInterfaceChar (c : Char) : Bool := c.isAlphanum || c ∈ ['_', '-', '.', ':']

/-- `libc::IFNAMSIZ` -/
def IFNAMSIZ : ℕ := 16

/-- The gateway is an address of the other family. -/
def familyMismatch : AddressFamily → Option IpAddr → Bool
  | .ipv4, some (.v6 _) => true
  | .ipv6, some (.v4 _) => true
  | _, _ => false

namespace PhysicalRoute

/-- The gateway of a route; a blank text is none. -/
def parseGateway (gateway : String) : Except String (Option IpAddr) :=
  if trim gateway = "" then .ok none
  else
    match IpAddr.fromStr gateway with
    | some gateway => .ok (some gateway)
    | none => .error "route gateway is not an IP address"

def parseFamily (family : String) : Except String AddressFamily :=
  if family = "ipv4" then .ok .ipv4
  else if family = "ipv6" then .ok .ipv6
  else .error "route family must be ipv4 or ipv6"

/-- Source: `routing.rs` `PhysicalRoute::parse` -/
def parse (family gateway interface : String) : Except String PhysicalRoute := do
  let family ← parseFamily family
  if interface = "" ∨ IFNAMSIZ - 1 < interface.utf8ByteSize ∨
      ¬ interface.toList.all isInterfaceChar then
    .error "route interface name is invalid"
  else if isProtonInterface interface then .error "the bypass route must use a physical interface"
  else do
    let gateway ← parseGateway gateway
    if familyMismatch family gateway then .error "route gateway family does not match"
    else return { family := family, gateway := gateway, interface := interface }

def familyText : AddressFamily → String
  | .ipv4 => "ipv4"
  | .ipv6 => "ipv6"

/-- Source: `routing.rs` `PhysicalRoute::validated` -/
def validated (route : PhysicalRoute) : Except String PhysicalRoute :=
  parse (familyText route.family) ((route.gateway.map IpAddr.display).getD "") route.interface

/-- The name of an interface a route may use. -/
structure InterfaceName (interface : String) : Prop where
  ne_empty : interface ≠ ""
  size_le : interface.utf8ByteSize ≤ IFNAMSIZ - 1
  chars : interface.toList.all isInterfaceChar = true
  physical : isProtonInterface interface = false

theorem parseFamily_familyText (family : AddressFamily) :
    parseFamily (familyText family) = .ok family := by
  cases family with
  | ipv4 => rfl
  | ipv6 => rfl

theorem familyText_of_parseFamily {text : String} {family : AddressFamily}
    (h : parseFamily text = .ok family) : familyText family = text := by
  unfold parseFamily at h
  split_ifs at h with h4 h6
  · obtain rfl := Except.ok.inj h
    exact h4.symm
  · obtain rfl := Except.ok.inj h
    exact h6.symm

theorem parse_eq_ok_iff {family gateway interface : String} {route : PhysicalRoute} :
    parse family gateway interface = .ok route ↔ familyText route.family = family ∧
      InterfaceName interface ∧ route.interface = interface ∧
      parseGateway gateway = .ok route.gateway ∧
      familyMismatch route.family route.gateway = false := by
  unfold parse
  constructor
  · intro h
    obtain ⟨family', hfamily, h⟩ := Except.bind_eq_ok.mp h
    split_ifs at h with hname hphysical
    obtain ⟨gateway', hgateway, h⟩ := Except.bind_eq_ok.mp h
    split_ifs at h with hmismatch
    obtain rfl := Except.ok.inj h
    rw [not_or, not_or, not_not, not_lt] at hname
    exact ⟨familyText_of_parseFamily hfamily,
      ⟨hname.1, hname.2.1, hname.2.2, by simpa using hphysical⟩, rfl, hgateway,
      by simpa using hmismatch⟩
  · rintro ⟨rfl, ⟨hempty, hsize, hchars, hphysical⟩, rfl, hgateway, hmismatch⟩
    have hname : ¬ (route.interface = "" ∨ IFNAMSIZ - 1 < route.interface.utf8ByteSize ∨
        ¬ route.interface.toList.all isInterfaceChar = true) := by
      rw [not_or, not_or, not_not, not_lt]
      exact ⟨hempty, hsize, hchars⟩
    rw [parseFamily_familyText, hgateway]
    change (if _ then _ else if _ then _ else
      if familyMismatch route.family route.gateway = true then _ else _) = _
    rw [if_neg hname, if_neg (by simp [hphysical])]
    rw [if_neg (by simp [hmismatch])]
    rfl

/-- The text of a gateway is read as the gateway. -/
theorem parseGateway_display (gateway : Option IpAddr) :
    parseGateway ((gateway.map IpAddr.display).getD "") = .ok gateway := by
  unfold parseGateway
  cases gateway with
  | none => rfl
  | some gateway =>
      have htrim : trim gateway.display ≠ "" := by
        rw [IpAddr.trim_display]
        exact IpAddr.display_ne_empty gateway
      rw [Option.map_some, Option.getD_some, if_neg htrim, IpAddr.fromStr_display]

/-- **A route that was parsed is a validated one.** -/
theorem validated_of_parse {family gateway interface : String} {route : PhysicalRoute}
    (h : parse family gateway interface = .ok route) : route.validated = .ok route := by
  obtain ⟨-, hname, rfl, -, hmismatch⟩ := parse_eq_ok_iff.mp h
  exact parse_eq_ok_iff.mpr ⟨rfl, hname, rfl, parseGateway_display _, hmismatch⟩

/-- Interface names have no blanks. -/
theorem not_blank_of_validated {route : PhysicalRoute} (h : route.validated = .ok route) :
    ' ' ∉ route.interface.toList := by
  obtain ⟨-, hname, -⟩ := parse_eq_ok_iff.mp h
  intro hblank
  have := List.all_eq_true.mp hname.chars ' ' hblank
  exact absurd this (by decide)

end PhysicalRoute

namespace Routing

def ROUTE_TABLE_BASE : ℕ := 30000
def RULE_PRIORITY_BASE : ℕ := 12000
def ROUTE_PROTOCOL : ℕ := 242

/-- The derived order of `Option<IpAddr>`. -/
def gatewayKey : Option IpAddr → ℕ ×ₗ ℕ
  | none => toLex (0, 0)
  | some (.v4 address) => toLex (1, address.toNat)
  | some (.v6 address) => toLex (2, address.toNat)

/-- The derived order of `PhysicalRoute` within a family. -/
def routeKey (route : PhysicalRoute) : (ℕ ×ₗ ℕ) ×ₗ String :=
  toLex (gatewayKey route.gateway, route.interface)

/-- The least route of each family. Source: `routing.rs` `preferred_routes` -/
def preferredRoutes (routes : List PhysicalRoute) : List PhysicalRoute :=
  [.ipv4, .ipv6].filterMap fun family =>
    (routes.filter fun route => route.family = family).argmin routeKey

/-- Source: `routing.rs` `route_families` -/
def routeFamilies (routes : List PhysicalRoute) : List AddressFamily :=
  [.ipv4, .ipv6].filter fun family => routes.any fun route => route.family = family

/-! ## The kernel's routing database -/

/-- A rule; the kernel's own have no selectors. -/
structure Rule where
  family : AddressFamily
  priority : ℕ
  fwmark : Option (BitVec 32 × BitVec 32)
  uidRange : Option (ℕ × ℕ)
  table : ℕ
  deriving DecidableEq

/-- A route; without a destination it is a default route. -/
structure Route where
  family : AddressFamily
  table : ℕ
  destination : Option IpAddr
  gateway : Option IpAddr
  interface : String
  scopeLink : Bool
  protocol : ℕ
  deriving DecidableEq

/-- The rules of a family stand in the order in which the kernel consults them. A table the kernel
has may be empty. -/
structure RoutingDb where
  rules : AddressFamily → List Rule
  routes : List Route
  tables : List (AddressFamily × ℕ)
  interfaces : List String

/-- Nothing stands twice, and routes stand in tables the kernel has, over interfaces it has. -/
structure RoutingDb.WellFormed (db : RoutingDb) : Prop where
  rules_nodup : ∀ family, (db.rules family).Nodup
  routes_nodup : db.routes.Nodup
  table_mem : ∀ route ∈ db.routes, (route.family, route.table) ∈ db.tables
  interface_mem : ∀ route ∈ db.routes, route.interface ∈ db.interfaces

/-- A new rule goes behind those of the same priority. -/
def insertRule (rule : Rule) : List Rule → List Rule
  | [] => [rule]
  | other :: rules =>
    if rule.priority < other.priority then rule :: other :: rules
    else other :: insertRule rule rules

/-! ## The commands of the daemon -/

/-- Source: `routing.rs` `rule_spec`, the table -/
def userTable (uid : UInt16) : ℕ := ROUTE_TABLE_BASE + uid.toNat

/-- Source: `routing.rs` `rule_priority` -/
def rulePriority (uid : UInt16) : ℕ := RULE_PRIORITY_BASE + uid.toNat

/-- Source: `routing.rs` `rule_spec` -/
def ruleSpec (uid : UInt16) (family : AddressFamily) : Rule :=
  { family := family
    priority := rulePriority uid
    fwmark := some (FWMARK_VALUE, 0xffffffff)
    uidRange := some (uid.toNat, uid.toNat)
    table := userTable uid }

/-- The routes a physical route needs: one to the gateway and one over it.
Source: `routing.rs` `route_commands` -/
def routeCommands (uid : UInt16) (route : PhysicalRoute) : List Route :=
  let command (destination gateway : Option IpAddr) (scopeLink : Bool) : Route :=
    { family := route.family
      table := userTable uid
      destination := destination
      gateway := gateway
      interface := route.interface
      scopeLink := scopeLink
      protocol := ROUTE_PROTOCOL }
  match route.gateway with
  | some gateway => [command (some gateway) none true, command none (some gateway) false]
  | none => [command none none false]

inductive IpCommand where
  | ruleAdd (rule : Rule)
  | ruleDelete (rule : Rule)
  | ruleShow (family : AddressFamily) (priority : ℕ)
  | routeAdd (route : Route)
  | routeDelete (route : Route)
  | routeShow (family : AddressFamily) (table : ℕ)

/-- `-4` or `-6` -/
def familyOption : AddressFamily → String
  | .ipv4 => "-4"
  | .ipv6 => "-6"

/-- A rule as arguments of `ip rule`. -/
def Rule.words (rule : Rule) : List String :=
  ["priority", toString rule.priority] ++
    (match rule.fwmark with
      | some (value, mask) =>
        ["fwmark", "0x" ++ String.ofList (Nat.toDigits 16 value.toNat) ++ "/0x" ++
          String.ofList (Nat.toDigits 16 mask.toNat)]
      | none => []) ++
    (match rule.uidRange with
      | some (first, last) => ["uidrange", toString first ++ "-" ++ toString last]
      | none => []) ++
    ["lookup", toString rule.table]

/-- A route as arguments of `ip route`. -/
def Route.words (route : Route) : List String :=
  [match route.destination with
    | some (.v4 address) => IpAddr.display (.v4 address) ++ "/32"
    | some (.v6 address) => IpAddr.display (.v6 address) ++ "/128"
    | none => "default"] ++
    (match route.gateway with
      | some gateway => ["via", gateway.display]
      | none => []) ++
    ["dev", route.interface] ++ (if route.scopeLink then ["scope", "link"] else []) ++
    ["proto", toString route.protocol]

/-- The arguments of `/usr/bin/ip`. -/
def IpCommand.words : IpCommand → List String
  | .ruleAdd rule => [familyOption rule.family, "rule", "add"] ++ rule.words
  | .ruleDelete rule => [familyOption rule.family, "rule", "delete"] ++ rule.words
  | .ruleShow family priority =>
    [familyOption family, "-json", "rule", "show", "priority", toString priority]
  | .routeAdd route =>
    [familyOption route.family, "route", "add", "table", toString route.table] ++ route.words
  | .routeDelete route =>
    [familyOption route.family, "route", "delete", "table", toString route.table] ++ route.words
  | .routeShow family table =>
    [familyOption family, "-json", "route", "show", "table", toString table]

example : (IpCommand.ruleAdd (ruleSpec 1000 .ipv4)).words = ["-4", "rule", "add", "priority",
    "13000", "fwmark", "0xea13b2c/0xffffffff", "uidrange", "1000-1000", "lookup", "31000"] := by
  decide +kernel

/-- A field of an inventory, as far as the daemon looks at it. -/
inductive JsonScalar where
  | number (value : ℕ)
  | text (value : String)
  | other

/-- One entry of `ip -json .. show`: its field `protocol`. -/
abbrev Item := Option JsonScalar

/-! ## The answers of `ip` -/

/-- Source: `routing.rs` `command_state_absent` -/
def commandStateAbsent (error : IoError) : Bool :=
  SplitConfig.mentions (toAsciiLowercase error.message) "no such file" ||
    SplitConfig.mentions (toAsciiLowercase error.message) "no such process"

/-- Source: `routing.rs` `routing_table_absent` -/
def routingTableAbsent (error : IoError) : Bool :=
  SplitConfig.mentions (toAsciiLowercase error.message) "fib table does not exist"

/-- `io::Error::other`, the error of `run_ip`. -/
def ipError (detail : String) : IoError := { kind := .other, message := detail }

/-- What `ip` says about what is absent: a rule or a route, its table, its interface. -/
structure IpAnswers where
  ruleAbsent : Rule → String
  routeAbsent : Route → String
  tableAbsent : AddressFamily → String
  interfaceAbsent : String → String
  ruleAbsent_text : ∀ rule, commandStateAbsent (ipError (ruleAbsent rule)) = true
  routeAbsent_text : ∀ route, commandStateAbsent (ipError (routeAbsent route)) = true
  tableAbsent_text : ∀ family, routingTableAbsent (ipError (tableAbsent family)) = true ∧
    commandStateAbsent (ipError (tableAbsent family)) = false
  interfaceAbsent_text : ∀ interface, ' ' ∉ interface.toList →
    commandStateAbsent (ipError (interfaceAbsent interface)) = false

theorem toLower_ne_blank {c : Char} (h : c ≠ ' ') : c.toLower ≠ ' ' := by
  by_cases hupper : c.isUpper = true
  · intro hblank
    have halpha : c.toLower.isLower = true := by
      rw [Char.isLower_toLower_eq_isAlpha, Char.isAlpha, hupper, Bool.true_or]
    rw [hblank] at halpha
    exact absurd halpha (by decide)
  · rwa [Char.toLower_eq_of_not_isUpper hupper]

/-- The message about a missing device says nothing of missing files or processes. -/
theorem commandStateAbsent_device {interface : String} (h : ' ' ∉ interface.toList) :
    commandStateAbsent (ipError ("Cannot find device \"" ++ interface ++ "\"")) = false := by
  have htext : (toAsciiLowercase ("Cannot find device \"" ++ interface ++ "\"")).toList =
      "cannot find device \"".toList ++ (interface.toList.map Char.toLower ++ ['\"']) := by
    simp [toAsciiLowercase, String.toList_map]
  have hblank : ' ' ∉ interface.toList.map Char.toLower ++ ['\"'] := by
    simp only [List.mem_append, List.mem_map, List.mem_singleton, not_or, not_exists, not_and]
    refine ⟨fun c hc hlower => ?_, by decide⟩
    exact toLower_ne_blank (fun heq => h (heq ▸ hc)) hlower
  have hnone : ∀ tail, ¬ ("no such".toList ++ ' ' :: tail <:+:
      (toAsciiLowercase ("Cannot find device \"" ++ interface ++ "\"")).toList) := by
    intro tail hinfix
    rw [htext] at hinfix
    exact absurd (infix_of_infix_append hblank hinfix) (by decide +kernel)
  unfold commandStateAbsent
  rw [Bool.or_eq_false_iff, Bool.eq_false_iff, Bool.eq_false_iff]
  exact ⟨fun hfile => hnone "file".toList (SplitConfig.mentions_iff.mp hfile),
    fun hprocess => hnone "process".toList (SplitConfig.mentions_iff.mp hprocess)⟩

/-- The answers of iproute2. -/
def iproute2Answers : IpAnswers where
  ruleAbsent _ := "RTNETLINK answers: No such file or directory"
  routeAbsent _ := "RTNETLINK answers: No such process"
  tableAbsent
    | .ipv4 => "Error: ipv4: FIB table does not exist."
    | .ipv6 => "Error: ipv6: FIB table does not exist."
  interfaceAbsent interface := "Cannot find device \"" ++ interface ++ "\""
  ruleAbsent_text _ := by decide +kernel
  routeAbsent_text _ := by decide +kernel
  tableAbsent_text
    | .ipv4 => by decide +kernel
    | .ipv6 => by decide +kernel
  interfaceAbsent_text _ h := commandStateAbsent_device h

/-- The rest of the system while `ip` is used. -/
structure IpEnv where
  answers : IpAnswers
  /-- The `n`-th command fails for a reason other than that something is absent. -/
  fails : ℕ → Option IoError
  fails_text : ∀ n error, fails n = some error → routingTableAbsent error = false
  /-- The output of the `n`-th command is no JSON, with the error of the parser. -/
  garbled : ℕ → Option String
  /-- How `ip` prints a protocol number. -/
  protocolField : ℕ → JsonScalar

/-- No command fails of itself, and a protocol is printed as its number. -/
def iproute2 : IpEnv where
  answers := iproute2Answers
  fails _ := none
  fails_text _ _ h := nomatch h
  garbled _ := none
  protocolField := .number

/-- The routing database and the number of commands so far. -/
structure IpState where
  count : ℕ
  db : RoutingDb

/-- Another route of the table has the destination. -/
def RoutingDb.conflicts (db : RoutingDb) (route : Route) : Bool :=
  db.routes.any fun other =>
    other.family = route.family && other.table = route.table &&
      other.destination = route.destination

/-- The effect of a command: what it prints and the database it leaves. A command that fails leaves
the database alone. -/
def IpCommand.exec (env : IpEnv) (db : RoutingDb) :
    IpCommand → Except IoError (List Item × RoutingDb)
  | .ruleAdd rule =>
    if rule ∈ db.rules rule.family then .error (ipError "RTNETLINK answers: File exists")
    else .ok ([], { db with
      rules := Function.update db.rules rule.family (insertRule rule (db.rules rule.family)) })
  | .ruleDelete rule =>
    if rule ∈ db.rules rule.family then .ok ([], { db with
      rules := Function.update db.rules rule.family ((db.rules rule.family).erase rule) })
    else .error (ipError (env.answers.ruleAbsent rule))
  | .ruleShow family priority =>
    .ok (((db.rules family).filter fun rule => rule.priority = priority).map fun _ => none, db)
  | .routeAdd route =>
    if route.interface ∉ db.interfaces then
      .error (ipError (env.answers.interfaceAbsent route.interface))
    else if db.conflicts route then .error (ipError "RTNETLINK answers: File exists")
    else .ok ([], { db with
      routes := db.routes ++ [route]
      tables := (route.family, route.table) :: db.tables })
  | .routeDelete route =>
    if route ∈ db.routes then .ok ([], { db with routes := db.routes.erase route })
    else if route.interface ∉ db.interfaces then
      .error (ipError (env.answers.interfaceAbsent route.interface))
    else if (route.family, route.table) ∉ db.tables then
      .error (ipError (env.answers.tableAbsent route.family))
    else .error (ipError (env.answers.routeAbsent route))
  | .routeShow family table =>
    if (family, table) ∈ db.tables then
      .ok ((db.routes.filter fun route => route.family = family && route.table = table).map
        fun route => some (env.protocolField route.protocol), db)
    else .error (ipError (env.answers.tableAbsent family))

def IpCommand.isDelete : IpCommand → Bool
  | .ruleDelete _ => true
  | .routeDelete _ => true
  | _ => false

/-- Source: `routing.rs` `run_ip`, `run_ip_json`. The output is what the parser of `inventory` makes
of it. -/
def runIp (env : IpEnv) (command : IpCommand) :
    Fallible IoError IpState (Except String (List Item)) := ofFun fun s =>
  match if command.isDelete then none else env.fails s.count with
  | some error => (.error error, { s with count := s.count + 1 })
  | none =>
    match command.exec env s.db with
    | .error error => (.error error, { s with count := s.count + 1 })
    | .ok (items, db) =>
      let output :=
        match env.garbled s.count with
        | some detail => .error detail
        | none => .ok items
      (.ok output, ⟨s.count + 1, db⟩)

/-! ## The operations of the daemon -/

/-- Source: `routing.rs` `inventory` -/
def inventory (output : Except String (List Item)) : Except IoError (List Item) :=
  match output with
  | .ok items => .ok items
  | .error detail =>
    .error { kind := .invalidData
             message := "ip returned an invalid JSON inventory: " ++ detail }

/-- Source: `routing.rs` `route_inventory` -/
def routeInventory (env : IpEnv) (family : AddressFamily) (table : ℕ) :
    Fallible IoError IpState (Except String (List Item)) := ofFun fun s =>
  match (runIp env (.routeShow family table)).exec s with
  | (.ok output, s) => (.ok output, s)
  | (.error error, s) => if routingTableAbsent error then (.ok (.ok []), s) else (.error error, s)

def ofExcept {α : Type} (result : Except IoError α) : Fallible IoError IpState α :=
  ofFun fun s => (result, s)

/-- Source: `routing.rs` `ensure_family_available` -/
def ensureFamilyAvailable (env : IpEnv) (uid : UInt16) (family : AddressFamily) :
    Fallible IoError IpState Unit := do
  let collision : IoError :=
    { kind := .alreadyExists
      message := "routing table or rule priority collision for UID " ++ toString uid.toNat ++
        "; no routes were changed" }
  let routes ← routeInventory env family (userTable uid)
  let rules ← runIp env (.ruleShow family (rulePriority uid))
  let routes ← ofExcept (inventory routes)
  if routes ≠ [] then throw collision
  else do
    let rules ← ofExcept (inventory rules)
    if rules ≠ [] then throw collision else pure ()

/-- Source: `routing.rs` `install_route`; what was installed is removed again on an error. -/
def installCommands (env : IpEnv) : (installed commands : List Route) → Fallible IoError IpState Unit
  | _, [] => pure ()
  | installed, command :: commands => do
    onError (discard (runIp env (.routeAdd command)))
      (forM installed.reverse fun route => ignoreError (discard (runIp env (.routeDelete route))))
    installCommands env (installed ++ [command]) commands

/-- Source: `routing.rs` `install_route` -/
def installRoute (env : IpEnv) (uid : UInt16) (route : PhysicalRoute) :
    Fallible IoError IpState Unit := installCommands env [] (routeCommands uid route)

/-- A deletion for which absence is no error. -/
def deletePresent (env : IpEnv) (command : IpCommand) : Fallible IoError IpState Unit :=
  ofFun fun s =>
    match (runIp env command).exec s with
    | (.ok _, s) => (.ok (), s)
    | (.error error, s) => if commandStateAbsent error then (.ok (), s) else (.error error, s)

/-- Source: `routing.rs` `disable` -/
def disable (env : IpEnv) (uid : UInt16) (routes : List PhysicalRoute) :
    Fallible IoError IpState Unit := do
  forM (routeFamilies routes) fun family => deletePresent env (.ruleDelete (ruleSpec uid family))
  forM routes.reverse fun route =>
    forM (routeCommands uid route).reverse fun command => deletePresent env (.routeDelete command)

/-- The printed protocol is the daemon's. -/
def JsonScalar.isRouteProtocol : JsonScalar → Bool
  | .number value => value = ROUTE_PROTOCOL
  | .text value => parseU32 value = some (.ofNat ROUTE_PROTOCOL)
  | .other => false

/-- Source: `routing.rs` `verify_family_ownership`, `route_inventory_is_owned` -/
def verifyFamilyOwnership (env : IpEnv) (uid : UInt16) (family : AddressFamily)
    (routes : List PhysicalRoute) : Fallible IoError IpState Unit := do
  let changed : IoError :=
    { kind := .alreadyExists
      message := "routing ownership changed while configuring UID " ++ toString uid.toNat }
  let routeItems ← routeInventory env family (userTable uid)
  let ruleItems ← runIp env (.ruleShow family (rulePriority uid))
  let expected := ((routes.filter fun route => route.family = family).map
    fun route => (routeCommands uid route).length).sum
  let routeItems ← ofExcept (inventory routeItems)
  if ¬ (routeItems.length = expected ∧
      routeItems.all fun item => item.any JsonScalar.isRouteProtocol) then throw changed
  else do
    let ruleItems ← ofExcept (inventory ruleItems)
    if ruleItems.length ≠ 1 then throw changed else pure ()

/-- Source: `routing.rs` `enable` -/
def enable (env : IpEnv) (uid : UInt16) (routes : List PhysicalRoute) :
    Fallible IoError IpState (List PhysicalRoute) :=
  let routes := preferredRoutes routes
  if routes = [] then
    throw { kind := .notFound
            message := "no physical default route is available for split tunneling" }
  else do
    let families := routeFamilies routes
    forM families (ensureFamilyAvailable env uid)
    onError (forM routes (installRoute env uid)) (disable env uid routes)
    onError (forM families fun family => discard (runIp env (.ruleAdd (ruleSpec uid family))))
      (disable env uid routes)
    onError (forM families fun family => verifyFamilyOwnership env uid family routes)
      (disable env uid routes)
    return routes

end Routing

end ProtonVpnOmarchy.Splitd
