import ProtonVpnOmarchy.Splitd.Procfs

/-!
# Applications a user can pick

`apps.rs`: the agent turns the command of a desktop entry into the text that names the application
in a split-tunnel configuration (`appExecutable`), and the daemon compares that text with the
identities of processes.

* `StartedFrom` — the processes a launcher starts from an entry.
* `picked_application_split_iff` — the configuration matches all of them exactly if the entry is
  `Nameable`: a native command, or a Flatpak command that is spelled as its own words are joined.
* `snap_never_splits` — a snap that is picked and not matched.
-/

namespace ProtonVpnOmarchy.Agent

open Lib Splitd

/-! ## From a command to a name -/

/-- What the agent asks the system about a command. -/
structure Host where
  /-- `shell_words::split`, `none` on an error. -/
  shellSplit : String → Option (List String)
  /-- `executable_file`: the path names a regular file with an execute bit. -/
  executableFile : List UInt8 → Bool
  /-- The variable `PATH`. -/
  path : Option (List UInt8)

/-- `Path::join` with a relative path -/
def joinPath (directory command : List UInt8) : List UInt8 :=
  if directory = [] ∨ directory.getLast? = some 0x2f then directory ++ command
  else directory ++ 0x2f :: command

/-- Source: `apps.rs` `resolve_executable`; the path as bytes. -/
def resolvedPath (host : Host) (command : String) : Option (List UInt8) :=
  if '/' ∈ command.toList then
    if host.executableFile (utf8 command) then some (utf8 command) else none
  else host.path.bind fun path =>
    ((path.splitOn 0x3a).map (joinPath · (utf8 command))).find? host.executableFile

/-- Source: `apps.rs` `resolve_executable` -/
def resolveExecutable (host : Host) (command : String) : Option String :=
  (resolvedPath host command).map lossy

/-- `command.starts_with("flatpak ") || command.starts_with("/usr/bin/flatpak ")` -/
def isFlatpak (command : String) : Bool :=
  "flatpak ".toList.isPrefixOf command.toList || "/usr/bin/flatpak ".toList.isPrefixOf command.toList

/-- The text of a Flatpak command up to the marks around forwarded files. -/
def textBeforeMarks (command : String) : String :=
  trim (match command.toList.dropInfix? "@@".toList with
    | some (before, _) => String.ofList before
    | none => command)

/-- The snap a command under `/snap/bin/` runs. -/
def snapName (first : String) : Option String :=
  (first.toList.dropPrefix? "/snap/bin/".toList).map fun name =>
    (splitWhitespace (String.ofList name)).head?.getD (String.ofList name)

/-- Source: `apps.rs` `app_executable` -/
def appExecutable (host : Host) (command : String) : Option String :=
  if isFlatpak command then some (textBeforeMarks command)
  else do
    let argv ← host.shellSplit command
    let first ← argv.head?
    match snapName first with
    | some name => some ("/snap/" ++ name ++ "/")
    | none => resolveExecutable host first

/-! ## Processes started from an entry -/

/-- The words of an entry before its field codes. -/
def ownWords (argv : List String) : List String := argv.takeWhile fun word => '%' ∉ word.toList

/-- A process, as far as `/proc` tells it apart. -/
structure Launch where
  exe : List UInt8
  argv : List (List UInt8)
  argv_free : ∀ arg ∈ argv, (0 : UInt8) ∉ arg

/-- The identities the daemon reads. -/
def Launch.identities (launch : Launch) : List String :=
  readIdentities (some launch.exe) (some (launch.argv.flatMap (· ++ [0])))

/-- A file below the directory of a revision of the snap. -/
def BelowSnap (name : String) (file : List UInt8) : Prop :=
  ∃ (revision : String) (rest : List UInt8), revision ≠ "" ∧
    (∀ c ∈ revision.toList, isWhitespace c = false) ∧
    file = utf8 ("/snap/" ++ name ++ "/" ++ revision ++ "/") ++ rest

/-- The process was started from the entry: a Flatpak command with its own words before the field
codes, a snap from below its directory, any other command as the path it resolves to. -/
def StartedFrom (host : Host) (command : String) (launch : Launch) : Prop :=
  ∃ words, host.shellSplit command = some words ∧
    if isFlatpak command then ∃ further, launch.argv = (ownWords words).map utf8 ++ further
    else ∃ first, words.head? = some first ∧
      match snapName first with
      | some name => BelowSnap name launch.exe ∧ ∃ file further, launch.argv = file :: further ∧
          BelowSnap name file
      | none => resolvedPath host first = some launch.exe

/-- The entry is a native command, or a Flatpak command whose text up to the marks is the beginning
of its own words joined by single blanks; nothing can be started from words with a NUL. -/
def Nameable (host : Host) (command : String) : Prop :=
  ∀ words, host.shellSplit command = some words →
    if isFlatpak command then (∀ word ∈ ownWords words, '\x00' ∉ word.toList) →
      ∃ rest, (joinWords ((ownWords words).filter (· ≠ ""))).toList =
        (textBeforeMarks command).toList ++ rest ∧ ∀ c, rest.head? = some c → isWhitespace c = true
    else ∀ first name, words.head? = some first → snapName first = some name →
      '\x00' ∈ name.toList

/-! ## Names and identities -/

section names

variable {host : Host} {command path identity : String}

/-- An identity matches a path that it begins with, up to its end or a blank. -/
theorem identityMatchesPath_iff :
    SplitConfig.identityMatchesPath identity path = true ↔ ∃ rest, identity.toList = path.toList ++
      rest ∧ ∀ c, rest.head? = some c → isWhitespace c = true := by
  unfold SplitConfig.identityMatchesPath
  rw [Bool.or_eq_true, beq_iff_eq]
  constructor
  · rintro (rfl | h)
    · exact ⟨[], by simp, by simp⟩
    · cases hdrop : identity.toList.dropPrefix? path.toList with
      | none => simp [hdrop] at h
      | some rest =>
          rw [hdrop] at h
          refine ⟨rest, dropPrefix?_eq_some.mp hdrop, ?_⟩
          intro c hc
          simpa [hc] using h
  · rintro ⟨rest, hidentity, hrest⟩
    rcases rest with _ | ⟨c, rest⟩
    · left
      rw [List.append_nil] at hidentity
      exact String.toList_injective hidentity
    · right
      rw [dropPrefix?_eq_some.mpr hidentity]
      simpa using hrest c rfl

theorem isMatch_of_mem {config : SplitConfig} {identities : List String} (hpath : path ≠ "")
    (hmem : path ∈ config.appPaths) (hidentity : identity ∈ identities)
    (hmatch : SplitConfig.identityMatchesPath identity path = true) :
    config.isMatch identities = true := by
  unfold SplitConfig.isMatch
  split
  · rfl
  · rw [List.any_eq_true]
    refine ⟨path, List.mem_filter.mpr ⟨hmem, by simpa using hpath⟩, ?_⟩
    exact List.any_eq_true.mpr ⟨identity, hidentity, hmatch⟩

/-- A configuration with one path and nothing else. -/
def pickOnly (path : String) : SplitConfig :=
  { mode := .exclude, appPaths := [path], ipRanges := [] }

theorem exists_of_isMatch_pickOnly {identities : List String}
    (h : (pickOnly path).isMatch identities = true) :
    ∃ identity ∈ identities, SplitConfig.identityMatchesPath identity path = true := by
  unfold SplitConfig.isMatch at h
  rw [if_neg (by simp [pickOnly]), List.any_eq_true] at h
  obtain ⟨path', hmem, h⟩ := h
  obtain rfl : path' = path := by simpa [pickOnly] using (List.mem_filter.mp hmem).1
  simpa using h

/-- A text that does not begin with a blank is not trimmed away. -/
theorem trim_ne_empty {c : Char} {rest : List Char} (hc : isWhitespace c = false) :
    trim (String.ofList (c :: rest)) ≠ "" := by
  intro hempty
  unfold trim at hempty
  have hnil := congrArg String.toList hempty
  rw [String.toList_ofList, String.toList_ofList, List.dropWhile_cons_of_neg (by simp [hc]),
    String.toList_empty, List.reverse_eq_nil_iff, List.dropWhile_eq_nil_iff] at hnil
  have := hnil c (by simp)
  rw [hc] at this
  cases this

theorem textBeforeMarks_ne_empty (h : isFlatpak command = true) : textBeforeMarks command ≠ "" := by
  have hhead : ∃ c rest, command.toList = c :: rest ∧ isWhitespace c = false ∧ c ≠ '@' := by
    unfold isFlatpak at h
    rw [Bool.or_eq_true] at h
    rcases h with h | h
    · obtain ⟨rest, hrest⟩ := List.isPrefixOf_iff_prefix.mp h
      exact ⟨'f', _, hrest.symm, by decide, by decide⟩
    · obtain ⟨rest, hrest⟩ := List.isPrefixOf_iff_prefix.mp h
      exact ⟨'/', _, hrest.symm, by decide, by decide⟩
  obtain ⟨c, rest, hcommand, hblank, hmark⟩ := hhead
  unfold textBeforeMarks
  cases hdrop : command.toList.dropInfix? "@@".toList with
  | none =>
      have hself : command = String.ofList (c :: rest) := by rw [← hcommand, String.ofList_toList]
      rw [hself]
      exact trim_ne_empty hblank
  | some parts =>
      obtain ⟨before, after⟩ := parts
      obtain ⟨⟨marks, hsplit, hmarks⟩, -⟩ := List.dropInfix?_eq_some_iff.mp hdrop
      obtain rfl : marks = "@@".toList := by simpa using hmarks
      rw [hcommand] at hsplit
      rcases before with _ | ⟨c', before⟩
      · exact absurd (List.cons.inj hsplit).1 hmark
      · obtain rfl := (List.cons.inj hsplit).1
        exact trim_ne_empty hblank

/-! ### Command lines -/

/-- The command line of a process that was started with some words and further arguments. -/
theorem parseCmdline_words {words : List String} (further : List (List UInt8))
    (h : ∀ arg ∈ words.map utf8 ++ further, (0 : UInt8) ∉ arg) :
    parseCmdline ((words.map utf8 ++ further).flatMap (· ++ [0])) =
      joinWords (words.filter (· ≠ "") ++ (further.filter (· ≠ [])).map lossy) := by
  rw [parseCmdline_argv h, List.filter_append, List.map_append, List.filter_map, List.map_map]
  congr 2
  have hlossy : lossy ∘ utf8 = id := funext lossy_utf8
  have hfilter : ((fun arg : List UInt8 => decide (arg ≠ [])) ∘ utf8) =
      fun word : String => decide (word ≠ "") := by
    funext word
    simp [utf8_eq_nil_iff]
  rw [hlossy, List.map_id, hfilter]

/-- Further arguments come behind a blank. -/
theorem joinWords_append {words : List String} (further : List String) (hwords : words ≠ []) :
    ∃ rest, (joinWords (words ++ further)).toList = (joinWords words).toList ++ rest ∧
      ∀ c, rest.head? = some c → isWhitespace c = true := by
  rcases further with _ | ⟨first, further⟩
  · exact ⟨[], by simp, by simp⟩
  · unfold joinWords
    rw [String.intercalate_append_of_ne_nil hwords (List.cons_ne_nil _ _), String.toList_append,
      String.toList_append, List.append_assoc]
    refine ⟨_, rfl, ?_⟩
    intro c hc
    obtain rfl : ' ' = c := by simpa using hc
    decide

/-! ### The three kinds of commands -/

theorem mem_identities {launch : Launch} : identity ∈ launch.identities ↔ identity ≠ "" ∧
    (lossy launch.exe = identity ∨ parseCmdline (launch.argv.flatMap (· ++ [0])) = identity) := by
  unfold Launch.identities
  rw [mem_readIdentities]
  simp

/-- A native process runs the file that names it. -/
theorem native_isMatch {config : SplitConfig} {launch : Launch} {first : String}
    (hempty : host.executableFile [] = false) (hmem : lossy launch.exe ∈ config.appPaths)
    (hresolved : resolvedPath host first = some launch.exe) :
    config.isMatch launch.identities = true := by
  have hexe : launch.exe ≠ [] := by
    intro hnil
    have hfile : host.executableFile launch.exe = true := by
      unfold resolvedPath at hresolved
      split_ifs at hresolved with hslash hfile
      · rwa [← Option.some.inj hresolved]
      · obtain ⟨path, -, hfind⟩ := Option.bind_eq_some_iff.mp hresolved
        exact List.find?_some hfind
    rw [hnil, hempty] at hfile
    cases hfile
  have hname := lossy_ne_empty hexe
  refine isMatch_of_mem hname hmem (mem_identities.mpr ⟨hname, .inl rfl⟩) ?_
  exact identityMatchesPath_iff.mpr ⟨[], by simp, by simp⟩

/-- No process from below a snap's directory matches the directory. -/
theorem not_matches_snap {name : String} {rest : List Char} {c : Char}
    (hidentity : identity.toList = ("/snap/" ++ name ++ "/").toList ++ c :: rest)
    (hc : isWhitespace c = false) :
    SplitConfig.identityMatchesPath identity ("/snap/" ++ name ++ "/") = false := by
  by_contra h
  rw [Bool.not_eq_false] at h
  obtain ⟨rest', hrest', hblank⟩ := identityMatchesPath_iff.mp h
  rw [hidentity] at hrest'
  have := hblank c (by rw [← List.append_cancel_left hrest']; rfl)
  rw [hc] at this
  cases this

/-- Revision 1 of a snap is enough to see it. -/
theorem exists_unmatched_snap {name : String} (hnul : '\x00' ∉ name.toList) :
    ∃ launch : Launch, BelowSnap name launch.exe ∧
      (∃ file further, launch.argv = file :: further ∧ BelowSnap name file) ∧
      (pickOnly ("/snap/" ++ name ++ "/")).isMatch launch.identities = false := by
  obtain ⟨file, hfile, hbelow, hnul⟩ : ∃ file : String,
      file.toList = ("/snap/" ++ name ++ "/").toList ++ ['1', '/'] ∧ BelowSnap name (utf8 file) ∧
        '\x00' ∉ file.toList := by
    refine ⟨"/snap/" ++ name ++ "/" ++ "1" ++ "/", by simp, ?_, by simp [hnul]⟩
    refine ⟨"1", [], by simp, ?_, by rw [List.append_nil]⟩
    intro c hc
    obtain rfl : c = '1' := by simpa using hc
    decide
  have hfree : ∀ arg ∈ [utf8 file], (0 : UInt8) ∉ arg := by
    intro arg harg
    rwa [List.mem_singleton.mp harg, zero_mem_utf8_iff]
  have hne : utf8 file ≠ [] := by
    rw [ne_eq, utf8_eq_nil_iff]
    rintro rfl
    simp at hfile
  refine ⟨⟨utf8 file, [utf8 file], hfree⟩, hbelow, ⟨_, [], rfl, hbelow⟩, ?_⟩
  by_contra h
  rw [Bool.not_eq_false] at h
  obtain ⟨identity, hmem, hmatch⟩ := exists_of_isMatch_pickOnly h
  have hidentity : identity = file := by
    rcases (mem_identities.mp hmem).2 with hexe | hcmdline
    · rw [← hexe, lossy_utf8]
    · rw [parseCmdline_argv hfree] at hcmdline
      rw [← hcmdline]
      simp [hne, joinWords]
  rw [hidentity, not_matches_snap hfile (by decide)] at hmatch
  cases hmatch

/-- A Flatpak command that is spelled as its words are joined names its processes. -/
theorem flatpak_isMatch {config : SplitConfig} {launch : Launch} {words : List String}
    {further : List (List UInt8)} {rest : List Char} (hflatpak : isFlatpak command = true)
    (hmem : textBeforeMarks command ∈ config.appPaths)
    (hargv : launch.argv = words.map utf8 ++ further)
    (hwords : (joinWords (words.filter (· ≠ ""))).toList =
      (textBeforeMarks command).toList ++ rest)
    (hrest : ∀ c, rest.head? = some c → isWhitespace c = true) :
    config.isMatch launch.identities = true := by
  have hname := textBeforeMarks_ne_empty hflatpak
  have hne : words.filter (· ≠ "") ≠ [] := by
    intro hnil
    rw [hnil] at hwords
    have hnil : (textBeforeMarks command).toList = [] :=
      (List.append_eq_nil_iff.mp (by simpa [joinWords] using hwords.symm)).1
    exact hname (by simpa using hnil)
  have hcmdline := parseCmdline_words further (hargv ▸ launch.argv_free)
  obtain ⟨rest', hjoin, hrest'⟩ :=
    joinWords_append ((further.filter (· ≠ [])).map lossy) hne
  rw [hwords, List.append_assoc] at hjoin
  rw [← hargv] at hcmdline
  refine isMatch_of_mem hname hmem (mem_identities.mpr ⟨?_, .inr hcmdline⟩) ?_
  · intro hempty
    rw [hempty] at hjoin
    exact hname (by simpa using (List.append_eq_nil_iff.mp hjoin.symm).1)
  · refine identityMatchesPath_iff.mpr ⟨_, hjoin, ?_⟩
    intro c hc
    rcases rest with _ | ⟨c', rest⟩
    · exact hrest' c hc
    · exact hrest c hc

/-- A Flatpak command that names its processes is spelled as its words are joined. -/
theorem flatpak_spelled {words : List String} (hnul : ∀ word ∈ words, '\x00' ∉ word.toList)
    (h : ∀ launch : Launch, launch.argv = words.map utf8 →
      (pickOnly path).isMatch launch.identities = true) :
    ∃ rest, (joinWords (words.filter (· ≠ ""))).toList = path.toList ++ rest ∧
      ∀ c, rest.head? = some c → isWhitespace c = true := by
  have hfree : ∀ arg ∈ words.map utf8, (0 : UInt8) ∉ arg := by
    intro arg harg
    obtain ⟨word, hword, rfl⟩ := List.mem_map.mp harg
    rw [zero_mem_utf8_iff]
    exact hnul word hword
  obtain ⟨identity, hmem, hmatch⟩ := exists_of_isMatch_pickOnly (h ⟨utf8 "", _, hfree⟩ rfl)
  have hcmdline : parseCmdline ((words.map utf8).flatMap (· ++ [0])) =
      joinWords (words.filter (· ≠ "")) := by
    simpa using parseCmdline_words [] (by simpa using hfree)
  obtain ⟨hne, hexe | hidentity⟩ := mem_identities.mp hmem
  · rw [lossy_utf8] at hexe
    exact absurd hexe.symm hne
  · rw [hcmdline] at hidentity
    rw [hidentity]
    exact identityMatchesPath_iff.mp hmatch

theorem appExecutable_snap {words : List String} {first name : String}
    (hflatpak : isFlatpak command = false) (hsplit : host.shellSplit command = some words)
    (hfirst : words.head? = some first) (hname : snapName first = some name) :
    appExecutable host command = some ("/snap/" ++ name ++ "/") := by
  simp [appExecutable, hflatpak, hsplit, hfirst, hname]

theorem appExecutable_native {words : List String} {first : String}
    (hflatpak : isFlatpak command = false) (hsplit : host.shellSplit command = some words)
    (hfirst : words.head? = some first) (hname : snapName first = none) :
    appExecutable host command = resolveExecutable host first := by
  simp [appExecutable, hflatpak, hsplit, hfirst, hname]

/-- **A picked application is split, whatever its arguments, exactly if its entry is nameable.** -/
theorem picked_application_split_iff (hempty : host.executableFile [] = false)
    (hpath : appExecutable host command = some path) :
    (∀ (config : SplitConfig) (launch : Launch), path ∈ config.appPaths →
        StartedFrom host command launch → config.isMatch launch.identities = true) ↔
      Nameable host command := by
  by_cases hflatpak : isFlatpak command = true
  · obtain rfl : textBeforeMarks command = path := by
      simpa [appExecutable, hflatpak] using hpath
    constructor
    · intro h words hsplit
      rw [if_pos hflatpak]
      intro hnul
      refine flatpak_spelled hnul fun launch hargv => ?_
      refine h (pickOnly _) launch (List.mem_singleton_self _) ⟨words, hsplit, ?_⟩
      rw [if_pos hflatpak]
      exact ⟨[], by rw [hargv, List.append_nil]⟩
    · rintro h config launch hmem ⟨words, hsplit, hstarted⟩
      rw [if_pos hflatpak] at hstarted
      obtain ⟨further, hargv⟩ := hstarted
      have hnameable := h words hsplit
      rw [if_pos hflatpak] at hnameable
      obtain ⟨rest, hwords, hrest⟩ := hnameable fun word hword hzero => by
        refine launch.argv_free (utf8 word) ?_ (zero_mem_utf8_iff.mpr hzero)
        rw [hargv]
        exact List.mem_append_left _ (List.mem_map_of_mem hword)
      exact flatpak_isMatch hflatpak hmem hargv hwords hrest
  · have hflatpak : isFlatpak command = false := by simpa using hflatpak
    constructor
    · intro h words hsplit
      rw [if_neg (by simp [hflatpak])]
      intro first name hfirst hname
      by_contra hnul
      obtain ⟨launch, hexe, hargv, hunmatched⟩ := exists_unmatched_snap hnul
      obtain rfl := Option.some.inj
        ((appExecutable_snap hflatpak hsplit hfirst hname).symm.trans hpath)
      have hstarted : StartedFrom host command launch := by
        refine ⟨words, hsplit, ?_⟩
        rw [if_neg (by simp [hflatpak])]
        refine ⟨first, hfirst, ?_⟩
        rw [hname]
        exact ⟨hexe, hargv⟩
      rw [h (pickOnly _) launch (List.mem_singleton_self _) hstarted] at hunmatched
      cases hunmatched
    · rintro h config launch hmem ⟨words, hsplit, hstarted⟩
      rw [if_neg (by simp [hflatpak])] at hstarted
      obtain ⟨first, hfirst, hstarted⟩ := hstarted
      have hnameable := h words hsplit
      rw [if_neg (by simp [hflatpak])] at hnameable
      cases hname : snapName first with
      | none =>
          rw [hname] at hstarted
          rw [appExecutable_native hflatpak hsplit hfirst hname, resolveExecutable, hstarted] at hpath
          obtain rfl := Option.some.inj hpath
          exact native_isMatch hempty hmem hstarted
      | some name =>
          -- The name holds a NUL, and no argument does.
          rw [hname] at hstarted
          obtain ⟨-, file, further, hargv, revision, rest, -, -, rfl⟩ := hstarted
          have hzero : (0 : UInt8) ∈ utf8 ("/snap/" ++ name ++ "/" ++ revision ++ "/") := by
            rw [zero_mem_utf8_iff]
            simp [hnameable first name hfirst hname]
          exact absurd (List.mem_append_left rest hzero)
            (launch.argv_free _ (by rw [hargv]; exact List.mem_cons_self))

/-! ### Two entries -/

/-- A system whose commands are plain words and where every path is an executable file. -/
def plainHost : Host :=
  { shellSplit := fun command => some (splitWhitespace command)
    executableFile := fun path => path ≠ []
    path := none }

theorem picked_application_split_firefox :
    appExecutable plainHost "/usr/bin/firefox %u" = some "/usr/bin/firefox" ∧
      ∀ (config : SplitConfig) (launch : Launch), "/usr/bin/firefox" ∈ config.appPaths →
        StartedFrom plainHost "/usr/bin/firefox %u" launch →
          config.isMatch launch.identities = true := by
  have hwords : splitWhitespace "/usr/bin/firefox %u" = ["/usr/bin/firefox", "%u"] := by
    decide +kernel
  have hname : snapName "/usr/bin/firefox" = none := by decide +kernel
  have hflatpak : isFlatpak "/usr/bin/firefox %u" = false := by decide +kernel
  have hpath : appExecutable plainHost "/usr/bin/firefox %u" = some "/usr/bin/firefox" := by
    have hfile : plainHost.executableFile (utf8 "/usr/bin/firefox") = true := by decide +kernel
    rw [appExecutable_native hflatpak (congrArg some hwords) rfl hname, resolveExecutable,
      resolvedPath, if_pos (by decide +kernel), if_pos hfile, Option.map_some, lossy_utf8]
  refine ⟨hpath, (picked_application_split_iff (by decide) hpath).mpr ?_⟩
  intro words hsplit
  obtain rfl := Option.some.inj ((congrArg some hwords).symm.trans hsplit)
  rw [if_neg (by simp [hflatpak])]
  intro first name hfirst hsnap
  obtain rfl := Option.some.inj hfirst
  rw [hname] at hsnap
  cases hsnap

/-- The daemon does not match the snap that the agent offers. -/
theorem snap_never_splits :
    appExecutable plainHost "/snap/bin/firefox %U" = some "/snap/firefox/" ∧
      ∃ launch, StartedFrom plainHost "/snap/bin/firefox %U" launch ∧
        (pickOnly "/snap/firefox/").isMatch launch.identities = false := by
  have hwords : splitWhitespace "/snap/bin/firefox %U" = ["/snap/bin/firefox", "%U"] := by
    decide +kernel
  have hname : snapName "/snap/bin/firefox" = some "firefox" := by decide +kernel
  have hflatpak : isFlatpak "/snap/bin/firefox %U" = false := by decide +kernel
  obtain ⟨launch, hexe, hargv, hunmatched⟩ :=
    exists_unmatched_snap (by decide : '\x00' ∉ "firefox".toList)
  refine ⟨appExecutable_snap hflatpak (congrArg some hwords) rfl hname, launch, ?_, hunmatched⟩
  refine ⟨_, congrArg some hwords, ?_⟩
  rw [if_neg (by simp [hflatpak])]
  refine ⟨_, rfl, ?_⟩
  rw [hname]
  exact ⟨hexe, hargv⟩

end names

end ProtonVpnOmarchy.Agent
