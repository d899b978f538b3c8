import ProtonVpnOmarchy.Lib.Text
import ProtonVpnOmarchy.Splitd.Engine.Basic

/-!
# Reading a process

`procfs.rs`: what the daemon knows about a process is what `/proc` says about it. Its identities
are the file it runs and its command line (`mem_readIdentities`, `parseCmdline_argv`).
-/

namespace ProtonVpnOmarchy.Splitd

open Lib Bpf

/-- The files of a process under `/proc`. -/
structure ProcFiles where
  status : Except IoError String
  stat : Except IoError String
  exe : Option (List UInt8)
  cmdline : Option (List UInt8)

/-- `str::split_whitespace` -/
def splitWhitespace (text : String) : List String :=
  (nonemptyParts isWhitespace text.toList).map String.ofList

/-- `str::lines` -/
def lines (text : String) : List (List Char) :=
  let body := if text.toList.getLast? = some '\n' then text.toList.dropLast else text.toList
  if text = "" then []
  else (body.splitOn '\n').map fun line =>
    if line.getLast? = some '\r' then line.dropLast else line

/-- Source: `procfs.rs` `parse_uid` -/
def parseUid (status : String) : Except IoError UInt16 :=
  match ((lines status).findSome? (·.dropPrefix? "Uid:".toList)).bind
      fun line => (splitWhitespace (String.ofList line)).head? with
  | none => .error { kind := .invalidData, message := "process UID missing" }
  | some raw =>
    match parseU32 raw with
    | some uid =>
      if uid.toNat < 2 ^ 16 then .ok (.ofNat uid.toNat)
      else .error { kind := .invalidData, message := "process UID unsupported" }
    | none => .error { kind := .invalidData, message := "process UID unsupported" }

/-- Source: `procfs.rs` `parse_ppid` -/
def parsePpid (stat : String) : Except IoError UInt32 :=
  match rsplitOnce ") ".toList stat.toList with
  | none => .error { kind := .invalidData, message := "process stat malformed" }
  | some (_, suffix) =>
    match ((splitWhitespace (String.ofList suffix))[1]?).bind parseU32 with
    | some ppid => .ok ppid
    | none => .error { kind := .invalidData, message := "process parent missing" }

/-- Words with one blank between any two. -/
def joinWords (words : List String) : String := " ".intercalate words

/-- Source: `procfs.rs` `parse_cmdline` -/
def parseCmdline (bytes : List UInt8) : String :=
  joinWords ((nonemptyParts (· == 0) bytes).map lossy)

/-- The identities `read_process` collects. -/
def readIdentities (exe cmdline : Option (List UInt8)) : List String :=
  let identities := (exe.map lossy).toList.filter (· ≠ "")
  match cmdline.map parseCmdline with
  | some value => if value ≠ "" ∧ value ∉ identities then identities ++ [value] else identities
  | none => identities

/-- Source: `procfs.rs` `read_process` -/
def readProcess (pid : UInt32) (files : ProcFiles) : Except IoError ProcessInfo := do
  let uid ← parseUid (← files.status)
  let ppid ← parsePpid (← files.stat)
  return { uid := uid, pid := pid, ppid := ppid
           identities := readIdentities files.exe files.cmdline }

/-- The identities are the file a process runs and its command line, unless they are empty. -/
theorem mem_readIdentities {exe cmdline : Option (List UInt8)} {identity : String} :
    identity ∈ readIdentities exe cmdline ↔ identity ≠ "" ∧
      (exe.map lossy = some identity ∨ cmdline.map parseCmdline = some identity) := by
  have hexe : identity ∈ (exe.map lossy).toList.filter (· ≠ "") ↔
      identity ≠ "" ∧ exe.map lossy = some identity := by
    rw [List.mem_filter, Option.mem_toList]
    simp [and_comm]
  unfold readIdentities
  rw [and_or_left, ← hexe]
  cases cmdline.map parseCmdline with
  | none => simp
  | some value =>
      dsimp only
      by_cases hvalue : value ≠ "" ∧ value ∉ (exe.map lossy).toList.filter (· ≠ "")
      · rw [if_pos hvalue, List.mem_append, List.mem_singleton, Option.some.injEq]
        refine or_congr_right ⟨?_, fun h => h.2.symm⟩
        rintro rfl
        exact ⟨hvalue.1, rfl⟩
      · rw [if_neg hvalue]
        refine ⟨Or.inl, ?_⟩
        rintro (h | ⟨hne, h⟩)
        · exact h
        · obtain rfl := Option.some.inj h
          by_contra hmem
          exact hvalue ⟨hne, hmem⟩

/-- The command line of a process is its arguments with one blank between any two. -/
theorem parseCmdline_argv {argv : List (List UInt8)} (h : ∀ arg ∈ argv, (0 : UInt8) ∉ arg) :
    parseCmdline (argv.flatMap (· ++ [0])) = joinWords ((argv.filter (· ≠ [])).map lossy) := by
  have hfree : ∀ arg ∈ argv, ∀ byte ∈ arg, (byte == 0) = false := by
    intro arg harg byte hbyte
    rw [beq_eq_false_iff_ne]
    rintro rfl
    exact h arg harg hbyte
  unfold parseCmdline nonemptyParts
  rw [splitOnP_terminated (by rfl) hfree, List.filter_append]
  simp

end ProtonVpnOmarchy.Splitd
