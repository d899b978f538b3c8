import ProtonVpnOmarchy.Agent.Apps
import ProtonVpnOmarchy.Agent.Store.Params
import ProtonVpnOmarchy.Lib.Paging

/-!
# The list of applications

`apps.rs` `list`: the desktop files below the data directories are scanned for each request, one
application is kept for each executable, and a page of them is cut from the list sorted by name.
The applications come out of a hash map, in an order of its own for each request.

* `collectDesktopFiles`, `parseDesktopFile` — the scan.
* `list_eq` — a page is cut from an arrangement of the applications that match.
* `pagesWhole_iff` — the pages show every application once if no page ends between two with the
  same name.
-/

namespace ProtonVpnOmarchy.Agent.AppList

open Lib Splitd Store

def MAX_RESULTS : ℕ := 100
def MAX_QUERY_BYTES : ℕ := 256
def MAX_DESKTOP_FILES : ℕ := 10000
def MAX_DESKTOP_DEPTH : ℕ := 32
def MAX_DESKTOP_FILE_BYTES : ℕ := 1024 * 1024

/-- Source: `apps.rs` `InstalledApp` -/
structure InstalledApp where
  desktopId : String
  name : String
  executable : String
  deriving DecidableEq

/-! ## Desktop files -/

/-- An entry of a directory whose type can be read. -/
structure DirEntry where
  path : String
  isDirectory : Bool

/-- The files, the environment and the letters of a system. -/
structure System where
  host : Host
  canonicalize : String → Option String
  /-- The device and the inode of a directory. -/
  directory : String → Option (ℕ × ℕ)
  readDir : String → Option (List DirEntry)
  /-- The text of a regular file, if it is UTF-8. -/
  readFile : String → Option String
  xdgDataHome : Option String := none
  home : Option String := none
  xdgDataDirs : Option String := none
  lcMessages : Option String := none
  lang : Option String := none
  toLowercase : String → String

variable (system : System)

/-- The desktop files that were found, and what was seen on the way. -/
structure Scan where
  files : List String := []
  seenFiles : List String := []
  seenDirectories : List (ℕ × ℕ) := []

/-- `Path::file_name` -/
def fileName (path : String) : String := .ofList ((path.toList.splitOn '/').getLastD [])

/-- `Path::extension`: what stands behind the last dot of a name, unless the name begins with it. -/
def extension (path : String) : Option String :=
  match ((fileName path).toList.splitOn '.').reverse with
  | [] | [_] | [_, []] => none
  | last :: _ => some (.ofList last)

/-- A file of a directory. -/
def collectFile (scan : Scan) (path : String) : Scan :=
  if extension path = some "desktop" ∧ path ∉ scan.seenFiles then
    { scan with seenFiles := path :: scan.seenFiles, files := scan.files ++ [path] }
  else scan

/-- The number of levels that are left bounds the recursion.
Source: `apps.rs` `collect_desktop_files` -/
def collectDesktopFiles : (levels : ℕ) → (root : String) → Scan → Scan
  | 0, _, scan => scan
  | levels + 1, root, scan =>
    if MAX_DESKTOP_FILES ≤ scan.files.length then scan
    else
      match system.directory root with
      | none => scan
      | some id =>
        if id ∈ scan.seenDirectories then scan
        else
          let scan := { scan with seenDirectories := id :: scan.seenDirectories }
          ((system.readDir root).getD []).foldl (fun scan entry =>
            if MAX_DESKTOP_FILES ≤ scan.files.length then scan
            else if entry.isDirectory then collectDesktopFiles levels entry.path scan
            else collectFile scan entry.path) scan

/-- `Path::join` with a relative path -/
def joinText (directory name : String) : String :=
  if directory = "" ∨ directory.toList.getLast? = some '/' then directory ++ name
  else directory ++ "/" ++ name

/-- The directories with desktop files. -/
def dataRoots : List String :=
  let own := match system.xdgDataHome, system.home with
    | some dataHome, _ => [joinText dataHome "applications"]
    | none, some home => [joinText home ".local/share/applications"]
    | none, none => []
  let dataDirs := system.xdgDataDirs.getD "/usr/local/share:/usr/share"
  own ++ (dataDirs.toList.splitOn ':').map fun path => joinText (.ofList path) "applications"

/-- The roots, up to the one at which the files are too many. -/
def collectRoots : List String → Scan → Scan
  | [], scan => scan
  | root :: roots, scan =>
    let root := (system.canonicalize root).getD root
    let scan := collectDesktopFiles system (MAX_DESKTOP_DEPTH + 1) root scan
    if MAX_DESKTOP_FILES ≤ scan.files.length then scan else collectRoots roots scan

/-- Source: `apps.rs` `desktop_files` -/
def desktopFiles : List String := (collectRoots system (dataRoots system) {}).files

/-! ## Desktop entries -/

/-- Source: `apps.rs` `desktop_unescape` -/
def desktopUnescape : List Char → List Char
  | [] => []
  | ['\\'] => ['\\']
  | '\\' :: c :: text =>
    (match c with
      | 's' => ' '
      | 'n' => '\n'
      | 't' => '\t'
      | 'r' => '\r'
      | other => other) :: desktopUnescape text
  | c :: text => c :: desktopUnescape text

/-- The values of the group `Desktop Entry`; the last one of a key is the first of the list. -/
def entryValues : (inDesktopEntry : Bool) → List (List Char) → List (String × String) →
    List (String × String)
  | _, [], values => values
  | inDesktopEntry, rawLine :: lines, values =>
    let line := (trim (.ofList rawLine)).toList
    if line.head? = some '[' ∧ line.getLast? = some ']' then
      entryValues (line = "[Desktop Entry]".toList) lines values
    else if !inDesktopEntry ∨ line = [] ∨ line.head? = some '#' ∨ '=' ∉ line then
      entryValues inDesktopEntry lines values
    else
      let key := line.takeWhile (· ≠ '=')
      let value := desktopUnescape (line.drop (key.length + 1))
      entryValues inDesktopEntry lines ((.ofList key, .ofList value) :: values)

/-- Source: `apps.rs` `truthy` -/
def truthy (value : Option String) : Bool :=
  value.any fun value => toAsciiLowercase value = "true" || value = "1"

/-- Source: `apps.rs` `locale_preferences` -/
def localePreferences : List String :=
  let raw := ((system.lcMessages.filter (· ≠ "")).or system.lang).getD ""
  let locale := (raw.toList.takeWhile (· ≠ '.')).map fun c => if c = '-' then '_' else c
  if locale = [] ∨ locale = ['C'] ∨ locale = "POSIX".toList then []
  else if '_' ∈ locale then [.ofList locale, .ofList (locale.takeWhile (· ≠ '_'))]
  else [.ofList locale]

/-- Source: `apps.rs` `localized_name` -/
def localizedName (values : List (String × String)) : Option String :=
  (((localePreferences system).map fun locale => "Name[" ++ locale ++ "]") ++ ["Name"]).findSome?
    fun key => (values.lookup key).filter (· ≠ "")

/-- Source: `apps.rs` `parse_desktop_file` -/
def parseDesktopFile (path : String) : Option InstalledApp := do
  let raw ← system.readFile path
  if MAX_DESKTOP_FILE_BYTES < raw.utf8ByteSize then none
  else
    let values := entryValues false (raw.toList.splitOn '\n') []
    if (values.lookup "Type").getD "Application" ≠ "Application" ∨
        truthy (values.lookup "Hidden") ∨ truthy (values.lookup "NoDisplay") then none
    else
      let name ← localizedName system values
      let command ← values.lookup "Exec"
      let executable ← appExecutable system.host (trim command)
      return { desktopId := fileName path, name := name, executable := executable }

/-! ## Requests -/

/-- The order in which the applications come out of the hash map. -/
structure HashOrder where
  run : List InstalledApp → List InstalledApp
  perm : ∀ apps, (run apps).Perm apps

/-- Source: `apps.rs` `invalid_page` -/
def invalidPage (name : String) (max : ℕ) : BackendError :=
  invalidParams (name ++ " must be an integer between " ++ (if name = "limit" then "1" else "0") ++
    " and " ++ .ofList (Nat.toDigits 10 max))

/-- Source: `apps.rs` `unsigned_param` -/
def unsignedParam (params : Value) (name : String) (default : UInt64) (max : ℕ) :
    StoreResult ℕ := do
  let value := (((params.get name).bind Value.asU64).getD default).toNat
  reject (max < value ∨ (name = "limit" ∧ value = 0)) (invalidPage name max)
  return value

/-- An application is shown for a query in lower case. -/
def isShown (query : String) (app : InstalledApp) : Bool :=
  let probe := system.toLowercase (app.name ++ " " ++ app.executable)
  !SplitConfig.mentions probe "proton vpn" && !SplitConfig.mentions probe "proton-vpn" &&
    !SplitConfig.mentions probe "proton-omarchy" &&
    (query = "" || SplitConfig.mentions probe query)

/-- The installed applications that are shown for a query. -/
def shownApps (query : String) : List InstalledApp :=
  ((desktopFiles system).filterMap (parseDesktopFile system)).filter (isShown system query)

/-- The first application of each executable. -/
def byExecutable (apps : List InstalledApp) : List InstalledApp :=
  apps.foldl (fun found app =>
    if found.any fun other => other.executable = app.executable then found else found ++ [app]) []

structure AppPage where
  offset : ℕ
  limit : ℕ
  total : ℕ
  query : String
  apps : List InstalledApp

/-- The name that an application is sorted by. -/
def sortName (app : InstalledApp) : String := system.toLowercase app.name

/-- The applications of a query, sorted by name; the sort is stable, as `sort_by_key` is. -/
def sortedApps (order : HashOrder) (query : String) : List InstalledApp :=
  (order.run (byExecutable (shownApps system query))).insertionSort fun a b =>
    sortName system a ≤ sortName system b

/-- Source: `apps.rs` `list` -/
def list (order : HashOrder) (params : Value) : StoreResult AppPage := do
  let offset ← unsignedParam params "offset" 0 100000
  let limit ← unsignedParam params "limit" 100 MAX_RESULTS
  let query := trim (((params.get "query").bind Value.asStr).getD "")
  reject (MAX_QUERY_BYTES < query.utf8ByteSize) (invalidParams "query must be at most 256 bytes")
  let query := system.toLowercase query
  let apps := sortedApps system order query
  return {
    offset := offset
    limit := limit
    total := apps.length
    query := query
    apps := page apps offset limit }

/-- The answer to a request. -/
def AppPage.toValue (result : AppPage) : Value :=
  .obj [
    ("offset", .u64 (.ofNat result.offset)),
    ("limit", .u64 (.ofNat result.limit)),
    ("total", .u64 (.ofNat result.total)),
    ("query", .string result.query),
    ("apps", .array (result.apps.map fun app => .obj [
      ("id", .string app.desktopId),
      ("name", .string app.name),
      ("executable", .string app.executable)]))]

/-! ## The scan -/

section scan

variable {system}

theorem length_collectFile_le (scan : Scan) (path : String) :
    (collectFile scan path).files.length ≤ scan.files.length + 1 := by
  unfold collectFile
  split_ifs
  · simp
  · exact Nat.le_succ _

theorem length_collectDesktopFiles_le (levels : ℕ) (root : String) {scan : Scan}
    (h : scan.files.length ≤ MAX_DESKTOP_FILES) :
    (collectDesktopFiles system levels root scan).files.length ≤ MAX_DESKTOP_FILES := by
  induction levels generalizing root scan with
  | zero => exact h
  | succ levels ih =>
      unfold collectDesktopFiles
      split_ifs
      · exact h
      cases system.directory root with
      | none => exact h
      | some id =>
          dsimp only
          split_ifs
          · exact h
          refine List.foldlRecOn (motive := fun scan : Scan => scan.files.length ≤
            MAX_DESKTOP_FILES) _ _ h ?_
          intro scan hscan entry _
          split_ifs with hfull
          · exact hscan
          · exact ih _ hscan
          · have hstep := length_collectFile_le scan entry.path
            omega

theorem length_collectRoots_le (roots : List String) {scan : Scan}
    (h : scan.files.length ≤ MAX_DESKTOP_FILES) :
    (collectRoots system roots scan).files.length ≤ MAX_DESKTOP_FILES := by
  induction roots generalizing scan with
  | nil => exact h
  | cons root roots ih =>
      have hroot : (collectDesktopFiles system (MAX_DESKTOP_DEPTH + 1)
          ((system.canonicalize root).getD root) scan).files.length ≤ MAX_DESKTOP_FILES :=
        length_collectDesktopFiles_le _ _ h
      unfold collectRoots
      dsimp only
      split_ifs
      · exact hroot
      · exact ih hroot

theorem length_desktopFiles_le : (desktopFiles system).length ≤ MAX_DESKTOP_FILES :=
  length_collectRoots_le _ (Nat.zero_le _)

end scan

/-! ## One application for each executable -/

/-- A step of the map. -/
def keepFirst (found : List InstalledApp) (app : InstalledApp) : List InstalledApp :=
  if found.any fun other => other.executable = app.executable then found else found ++ [app]

theorem byExecutable_append (apps : List InstalledApp) (app : InstalledApp) :
    byExecutable (apps ++ [app]) = keepFirst (byExecutable apps) app := by
  unfold byExecutable
  rw [List.foldl_append]
  rfl

theorem any_executable_iff {found : List InstalledApp} {app : InstalledApp} :
    (found.any fun other => other.executable = app.executable) = true ↔
      app.executable ∈ found.map InstalledApp.executable := by
  rw [List.any_eq_true, List.mem_map]
  simp only [decide_eq_true_eq]

theorem mem_keepFirst {found : List InstalledApp} {app : InstalledApp} {executable : String} :
    executable ∈ (keepFirst found app).map InstalledApp.executable ↔
      executable ∈ found.map InstalledApp.executable ∨ executable = app.executable := by
  unfold keepFirst
  split_ifs with h
  · rw [any_executable_iff] at h
    constructor
    · exact Or.inl
    · rintro (hmem | rfl)
      · exact hmem
      · exact h
  · simp

theorem nodup_keepFirst {found : List InstalledApp} {app : InstalledApp}
    (h : (found.map InstalledApp.executable).Nodup) :
    ((keepFirst found app).map InstalledApp.executable).Nodup := by
  unfold keepFirst
  split_ifs with hany
  · exact h
  · rw [any_executable_iff] at hany
    rw [List.map_append, List.nodup_append_comm]
    exact List.nodup_cons.mpr ⟨hany, h⟩

theorem mem_byExecutable (apps : List InstalledApp) (executable : String) :
    executable ∈ (byExecutable apps).map InstalledApp.executable ↔
      executable ∈ apps.map InstalledApp.executable := by
  induction apps using List.reverseRecOn with
  | nil => rfl
  | append_singleton apps app ih =>
      rw [byExecutable_append, mem_keepFirst, ih]
      simp

theorem nodup_byExecutable (apps : List InstalledApp) :
    ((byExecutable apps).map InstalledApp.executable).Nodup := by
  induction apps using List.reverseRecOn with
  | nil => exact List.nodup_nil
  | append_singleton apps app ih =>
      rw [byExecutable_append]
      exact nodup_keepFirst ih

theorem length_byExecutable_le (apps : List InstalledApp) :
    (byExecutable apps).length ≤ apps.length := by
  induction apps using List.reverseRecOn with
  | nil => exact le_rfl
  | append_singleton apps app ih =>
      rw [byExecutable_append, List.length_append]
      unfold keepFirst
      split_ifs
      · exact ih.trans (Nat.le_succ _)
      · rw [List.length_append]
        exact Nat.add_le_add_right ih _

/-! ## Pages -/

section pages

variable {system}

/-- The applications that match a query, one for each executable. -/
def matching (system : System) (query : String) : List InstalledApp :=
  byExecutable (shownApps system (system.toLowercase (trim query)))

theorem length_matching_le (query : String) :
    (matching system query).length ≤ MAX_DESKTOP_FILES :=
  calc (matching system query).length
    _ ≤ (shownApps system (system.toLowercase (trim query))).length := length_byExecutable_le _
    _ ≤ ((desktopFiles system).filterMap (parseDesktopFile system)).length :=
      List.length_filter_le _ _
    _ ≤ (desktopFiles system).length := List.length_filterMap_le _ _
    _ ≤ MAX_DESKTOP_FILES := length_desktopFiles_le

/-- A request arranges the applications by their names. -/
theorem arranges_sortedApps (order : HashOrder) (query : String) :
    Arranges (sortName system) (matching system query)
      (sortedApps system order (system.toLowercase (trim query))) := by
  have h : Arranges (sortName system) (order.run (matching system query))
      (sortedApps system order (system.toLowercase (trim query))) := arranges_insertionSort _
  exact ⟨h.perm.trans (order.perm _), h.sorted⟩

/-- Every arrangement is the one of some request. -/
theorem exists_sortedApps_eq {query : String} {apps : List InstalledApp}
    (h : Arranges (sortName system) (matching system query) apps) :
    ∃ order, sortedApps system order (system.toLowercase (trim query)) = apps := by
  refine ⟨{
    run := fun entries => if entries = matching system query then apps else entries
    perm := fun entries => ?_ }, ?_⟩
  · split_ifs with heq
    · rw [heq]
      exact h.perm
    · exact List.Perm.refl _
  · change (if matching system query = matching system query then apps
      else _).insertionSort _ = apps
    rw [if_pos rfl]
    exact h.sorted.insertionSort_eq

theorem offset_le {query : String} {limit k : ℕ} (hpos : 0 < limit)
    (hk : k < pageCount (matching system query).length limit) : k * limit ≤ 100000 := by
  have hlt := mul_lt_of_lt_pageCount hpos hk
  have hle : (matching system query).length ≤ 10000 := length_matching_le query
  omega

/-- A request for a page. -/
def listParams (query : String) (offset limit : ℕ) : Value :=
  .obj [("query", .string query), ("offset", .u64 (.ofNat offset)), ("limit", .u64 (.ofNat limit))]

theorem unsignedParam_eq {params : Value} {name : String} {default : UInt64} {max n : ℕ}
    (hget : params.get name = some (.u64 (.ofNat n))) (hmax : max < 2 ^ 64) (hn : n ≤ max)
    (hpos : name = "limit" → n ≠ 0) : unsignedParam params name default max = .ok n := by
  have hvalue : (((params.get name).bind Value.asU64).getD default).toNat = n := by
    rw [hget]
    exact UInt64.toNat_ofNat_of_lt' (hn.trans_lt hmax)
  unfold unsignedParam
  rw [hvalue]
  unfold reject
  dsimp only
  rw [if_neg]
  · rfl
  · rintro (hlt | ⟨hname, hzero⟩)
    · omega
    · exact hpos hname hzero

theorem list_eq (order : HashOrder) {query : String} {offset limit : ℕ}
    (hquery : (trim query).utf8ByteSize ≤ MAX_QUERY_BYTES) (hoffset : offset ≤ 100000)
    (hpos : 0 < limit) (hlimit : limit ≤ MAX_RESULTS) :
    list system order (listParams query offset limit) = .ok {
      offset := offset
      limit := limit
      total := (matching system query).length
      query := system.toLowercase (trim query)
      apps := page (sortedApps system order (system.toLowercase (trim query))) offset limit } := by
  have hget : (listParams query offset limit).get "offset" = some (.u64 (.ofNat offset)) ∧
      (listParams query offset limit).get "limit" = some (.u64 (.ofNat limit)) ∧
      (listParams query offset limit).get "query" = some (.string query) := by
    unfold listParams
    rw [Value.get_obj, Value.get_obj, Value.get_obj]
    exact ⟨rfl, rfl, rfl⟩
  have hquery' : trim (((some (Value.string query)).bind Value.asStr).getD "") = trim query := rfl
  unfold list
  rw [unsignedParam_eq hget.1 (by decide) hoffset (fun h => absurd h (by decide)),
    unsignedParam_eq hget.2.1 (by decide) hlimit fun _ => hpos.ne', hget.2.2, hquery']
  have hreject : reject (MAX_QUERY_BYTES < (trim query).utf8ByteSize)
      (invalidParams "query must be at most 256 bytes") = .ok () := if_neg (not_lt.mpr hquery)
  rw [← (arranges_sortedApps order query).perm.length_eq]
  change (reject _ _ >>= fun _ => _) = _
  rw [hreject]
  rfl

/-- Whatever the orders of the requests are, the pages have one entry for each executable that
matches, sorted by the name, and say how many there are. -/
def PagesWhole (system : System) (query : String) (limit : ℕ) : Prop :=
  ∀ orders : ℕ → HashOrder, ∃ (pages : ℕ → AppPage) (total : ℕ),
    (∀ k, k * limit ≤ 100000 →
      list system (orders k) (listParams query (k * limit) limit) = .ok (pages k) ∧
        (pages k).total = total) ∧
    (((List.range (pageCount total limit)).flatMap fun k => (pages k).apps).map
      InstalledApp.executable).Nodup ∧
    (∀ executable, executable ∈ ((List.range (pageCount total limit)).flatMap fun k =>
        (pages k).apps).map InstalledApp.executable ↔
      ∃ app ∈ shownApps system (system.toLowercase (trim query)),
        app.executable = executable) ∧
    ((List.range (pageCount total limit)).flatMap fun k => (pages k).apps).Pairwise fun a b =>
      sortName system a ≤ sortName system b

theorem PagesWhole.not_cutsKey {query : String} {limit : ℕ}
    (hquery : (trim query).utf8ByteSize ≤ MAX_QUERY_BYTES) (hpos : 0 < limit)
    (hlimit : limit ≤ MAX_RESULTS) (h : PagesWhole system query limit) (k : ℕ) :
    ¬ CutsKey (sortedKeys (sortName system) (matching system query)) (k * limit) := by
  intro hcut
  obtain ⟨arrangement, harranges, hnodup⟩ := exists_not_nodup hpos hcut
  choose orders horders using fun k => exists_sortedApps_eq (harranges k)
  obtain ⟨pages, total, hpages, hwhole, -⟩ := h orders
  have hpage : ∀ k, k * limit ≤ 100000 → (pages k).total = (matching system query).length ∧
      (pages k).apps = page (arrangement k) (k * limit) limit := by
    intro k hk
    have hlist := (hpages k hk).1
    rw [list_eq (orders k) hquery hk hpos hlimit, horders k] at hlist
    rw [← Except.ok.inj hlist]
    exact ⟨rfl, rfl⟩
  have htotal : total = (matching system query).length := by
    rw [← (hpages 0 (by simp)).2]
    exact (hpage 0 (by simp)).1
  refine hnodup ?_
  rw [htotal] at hwhole
  have heq : ((List.range (pageCount (matching system query).length limit)).flatMap fun k =>
      (pages k).apps) = (List.range (pageCount (matching system query).length limit)).flatMap
        fun k => page (arrangement k) (k * limit) limit := by
    refine List.flatMap_congr fun k hk => (hpage k ?_).2
    exact offset_le hpos (List.mem_range.mp hk)
  rw [heq] at hwhole
  exact hwhole.of_map _

theorem pagesWhole_of_not_cutsKey {query : String} {limit : ℕ}
    (hquery : (trim query).utf8ByteSize ≤ MAX_QUERY_BYTES) (hpos : 0 < limit)
    (hlimit : limit ≤ MAX_RESULTS)
    (hcut : ∀ k, ¬ CutsKey (sortedKeys (sortName system) (matching system query)) (k * limit)) :
    PagesWhole system query limit := by
  intro orders
  have harranges : ∀ k, Arranges (sortName system) (matching system query)
      (sortedApps system (orders k) (system.toLowercase (trim query))) :=
    fun k => arranges_sortedApps (orders k) query
  have hperm := flatMap_page_perm hpos hcut harranges
  have hkeys := map_key_flatMap_page hpos harranges
  refine ⟨fun k => {
    offset := k * limit
    limit := limit
    total := (matching system query).length
    query := system.toLowercase (trim query)
    apps := page (sortedApps system (orders k) (system.toLowercase (trim query))) (k * limit)
      limit }, (matching system query).length, fun k hk => ⟨?_, rfl⟩, ?_,
    fun executable => ?_, ?_⟩
  · exact list_eq (orders k) hquery hk hpos hlimit
  · exact (hperm.map _).nodup_iff.mpr (nodup_byExecutable _)
  · rw [(hperm.map _).mem_iff, matching, mem_byExecutable, List.mem_map]
  · have hsorted : (sortedKeys (sortName system) (matching system query)).Pairwise (· ≤ ·) :=
      List.pairwise_insertionSort _ _
    rw [← hkeys] at hsorted
    exact List.pairwise_map.mp hsorted

/-- **The pages show each application once, in order,** exactly if no page ends between two
applications with the same name in lower case. -/
theorem pagesWhole_iff {query : String} {limit : ℕ}
    (hquery : (trim query).utf8ByteSize ≤ MAX_QUERY_BYTES) (hpos : 0 < limit)
    (hlimit : limit ≤ MAX_RESULTS) :
    PagesWhole system query limit ↔
      ∀ k, ¬ CutsKey (sortedKeys (sortName system) (matching system query)) (k * limit) :=
  ⟨fun h => h.not_cutsKey hquery hpos hlimit, pagesWhole_of_not_cutsKey hquery hpos hlimit⟩

end pages

/-! ## Two applications with one name -/

/-- Programs in `/usr/bin`. -/
def programs : Host where
  shellSplit command := some (splitWhitespace command)
  executableFile path := (utf8 "/usr/bin/").isPrefixOf path
  path := some (utf8 "/usr/bin")

/-- The text of a desktop file. -/
def desktopEntry (name command : String) : String :=
  "[Desktop Entry]\nType=Application\nName=" ++ name ++ "\nExec=" ++ command

/-- A system with two desktop files. -/
def twoApps (name name' : String) : System where
  host := programs
  canonicalize := some
  directory root := if root = "/usr/share/applications" then some (1, 1) else none
  readDir _ := some [⟨"/usr/share/applications/a.desktop", false⟩,
    ⟨"/usr/share/applications/b.desktop", false⟩]
  readFile path :=
    if path = "/usr/share/applications/a.desktop" then some (desktopEntry name "/usr/bin/a")
    else some (desktopEntry name' "/usr/bin/b")
  toLowercase := toAsciiLowercase

theorem sortedKeys_twoApps :
    sortedKeys (sortName (twoApps "Mail" "Notes")) (matching (twoApps "Mail" "Notes") "") =
      ["mail", "notes"] := by
  decide +kernel

theorem sortedKeys_twoApps_sameName :
    sortedKeys (sortName (twoApps "Notes" "notes")) (matching (twoApps "Notes" "notes") "") =
      ["notes", "notes"] := by
  decide +kernel

theorem pagesWhole_iff_twoApps : PagesWhole (twoApps "Mail" "Notes") "" 1 := by
  refine (pagesWhole_iff (by decide) (by decide) (by decide)).mpr ?_
  rw [sortedKeys_twoApps]
  rintro (_ | _ | k) ⟨hpos, a, ha, ha'⟩
  · exact absurd hpos (by decide)
  · exact absurd (ha.trans ha'.symm) (by decide)
  · cases ha'

/-- A page of one application ends between two with the name `notes`: a client that pages through
them may see one of them twice and the other one never. -/
theorem not_pagesWhole_sameName : ¬ PagesWhole (twoApps "Notes" "notes") "" 1 := by
  intro h
  refine h.not_cutsKey (by decide) (by decide) (by decide) 1 ?_
  rw [sortedKeys_twoApps_sameName]
  exact ⟨by decide, "notes", rfl, rfl⟩

end ProtonVpnOmarchy.Agent.AppList
