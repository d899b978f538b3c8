import ProtonVpnOmarchy.Agent.Protocol

/-!
# The stdio bridge

`ipc_bridge.rs`: bytes are read in chunks and forwarded as whole frames. A frame ends with a newline
and is at most `MAX_FRAME_BYTES` long. Reading and writing themselves do not fail here.

* `forwardFrames` — the loop over the chunks.
* `forwardBytes_eq` — what any bytes do to the bridge, in terms of the frames they spell.
* `forwardFrames_exact` — the frames written do not depend on the chunks.
-/

namespace ProtonVpnOmarchy.Agent.IpcBridge

/-- Source: `ipc_bridge.rs` -/
def READ_CHUNK_BYTES : ℕ := 8 * 1024

/-- The byte that ends a frame. -/
def newline : UInt8 := 10

/-- How the bridge fails. -/
inductive IoError where
  | unexpectedEof (message : String)
  | invalidData (message : String)
  deriving DecidableEq

def incompleteFrame : IoError := .unexpectedEof "IPC stream ended with an incomplete frame"
def frameTooLong : IoError := .invalidData "IPC frame exceeds 64 KiB"

/-- What the writer is asked for. -/
inductive WriterCall where
  | writeAll (bytes : List UInt8)
  | flush
  | shutdown
  deriving DecidableEq

/-- The buffer of the frame that is read, and the calls of the writer so far. -/
structure Bridge where
  frame : List UInt8 := []
  calls : List WriterCall := []
  deriving DecidableEq

/-- The calls that write a frame. -/
def frameCalls (frame : List UInt8) : List WriterCall :=
  [.writeAll frame, .writeAll [newline], .flush]

/-- The bytes of a chunk, one after the other. -/
def forwardBytes : List UInt8 → Bridge → Except IoError Unit × Bridge
  | [], bridge => (.ok (), bridge)
  | byte :: bytes, bridge =>
    if byte = newline then
      forwardBytes bytes { frame := [], calls := bridge.calls ++ frameCalls bridge.frame }
    else if bridge.frame.length = MAX_FRAME_BYTES then (.error frameTooLong, bridge)
    else forwardBytes bytes { bridge with frame := bridge.frame ++ [byte] }

/-- The reader has nothing more. -/
def endOfStream (bridge : Bridge) : Except IoError Unit × Bridge :=
  if bridge.frame ≠ [] then (.error incompleteFrame, bridge)
  else (.ok (), { bridge with calls := bridge.calls ++ [.shutdown] })

/-- The loop over what the reader returns; a chunk without bytes is the end of the stream.
Source: `ipc_bridge.rs` `forward_frames` -/
def forwardFrames : (chunks : List (List UInt8)) → Bridge → Except IoError Unit × Bridge
  | [], bridge => endOfStream bridge
  | chunk :: chunks, bridge =>
    if chunk = [] then endOfStream bridge
    else
      match forwardBytes chunk bridge with
      | (.ok (), bridge) => forwardFrames chunks bridge
      | failed => failed

/-! ## Chunks -/

/-- A way of splitting a stream into what the reader returns. -/
structure Splits (stream : List UInt8) (chunks : List (List UInt8)) : Prop where
  flatten : chunks.flatten = stream
  nonempty : ∀ chunk ∈ chunks, chunk ≠ []
  length_le : ∀ chunk ∈ chunks, chunk.length ≤ READ_CHUNK_BYTES

theorem forwardBytes_append (bytes bytes' : List UInt8) (bridge : Bridge) :
    forwardBytes (bytes ++ bytes') bridge =
      match forwardBytes bytes bridge with
      | (.ok (), bridge) => forwardBytes bytes' bridge
      | failed => failed := by
  induction bytes generalizing bridge with
  | nil => rfl
  | cons byte bytes ih =>
      rw [List.cons_append, forwardBytes, forwardBytes]
      split_ifs
      · exact ih _
      · rfl
      · exact ih _

/-- The loop over chunks is the loop over their bytes. -/
theorem forwardFrames_eq {chunks : List (List UInt8)} (h : ∀ chunk ∈ chunks, chunk ≠ [])
    (bridge : Bridge) :
    forwardFrames chunks bridge =
      match forwardBytes chunks.flatten bridge with
      | (.ok (), bridge) => endOfStream bridge
      | failed => failed := by
  induction chunks generalizing bridge with
  | nil => rfl
  | cons chunk chunks ih =>
      rw [forwardFrames, if_neg (h chunk List.mem_cons_self), List.flatten_cons,
        forwardBytes_append]
      rcases forwardBytes chunk bridge with ⟨_ | ⟨⟩, bridge'⟩
      · rfl
      · exact ih (fun chunk hmem => h chunk (List.mem_cons_of_mem _ hmem)) bridge'

/-! ## Frames -/

/-- The frames of a stream and what stands behind the last one. -/
def pieces (stream : List UInt8) : List (List UInt8) := stream.splitOn newline

/-- The frames of a stream, without their newlines. -/
def frames (stream : List UInt8) : List (List UInt8) := (pieces stream).dropLast

/-- What stands behind the last newline. -/
def rest (stream : List UInt8) : List UInt8 := (pieces stream).getLast (List.splitOn_ne_nil _ _)

/-- A frame that may be written. -/
def Fits (frame : List UInt8) : Prop := frame.length ≤ MAX_FRAME_BYTES

instance : DecidablePred Fits := fun _ => inferInstanceAs (Decidable (_ ≤ _))

/-- The frames before the first one that is too long. -/
def fitting (stream : List UInt8) : List (List UInt8) := (frames stream).takeWhile (Fits ·)

theorem pieces_cons (frame stream : List UInt8) (h : newline ∉ frame) :
    pieces (frame ++ newline :: stream) = frame :: pieces stream := by
  unfold pieces
  rw [List.splitOn_eq_splitOnP, List.splitOn_eq_splitOnP]
  refine List.splitOnP_append_cons_of_forall_mem (fun byte hbyte => ?_) newline (by simp) stream
  have hne : byte ≠ newline := fun heq => h (heq ▸ hbyte)
  simpa using hne

theorem frames_cons (frame stream : List UInt8) (h : newline ∉ frame) :
    frames (frame ++ newline :: stream) = frame :: frames stream := by
  unfold frames
  rw [pieces_cons frame stream h]
  exact List.dropLast_cons_of_ne_nil (List.splitOn_ne_nil _ _)

theorem rest_cons (frame stream : List UInt8) (h : newline ∉ frame) :
    rest (frame ++ newline :: stream) = rest stream := by
  unfold rest
  simp only [pieces_cons frame stream h]
  exact List.getLast_cons (List.splitOn_ne_nil _ _)

theorem pieces_of_not_mem {stream : List UInt8} (h : newline ∉ stream) :
    pieces stream = [stream] := by
  unfold pieces
  rw [List.splitOn_eq_splitOnP]
  refine List.splitOnP_eq_singleton fun byte hbyte => ?_
  have hne : byte ≠ newline := fun heq => h (heq ▸ hbyte)
  simpa using hne

theorem frames_of_not_mem {stream : List UInt8} (h : newline ∉ stream) : frames stream = [] := by
  unfold frames
  rw [pieces_of_not_mem h]
  rfl

theorem rest_of_not_mem {stream : List UInt8} (h : newline ∉ stream) : rest stream = stream := by
  unfold rest
  simp only [pieces_of_not_mem h]
  rfl

/-! ## What is written -/

/-- No frame and nothing behind the frames is too long. -/
def AllFit (stream : List UInt8) : Prop := (∀ frame ∈ frames stream, Fits frame) ∧ Fits (rest stream)

theorem allFit_cons {frame stream : List UInt8} (h : newline ∉ frame) (hfits : Fits frame) :
    AllFit (frame ++ newline :: stream) ↔ AllFit stream := by
  unfold AllFit
  rw [frames_cons frame stream h, rest_cons frame stream h, List.forall_mem_cons,
    and_iff_right hfits]

theorem fitting_cons {frame stream : List UInt8} (h : newline ∉ frame) (hfits : Fits frame) :
    fitting (frame ++ newline :: stream) = frame :: fitting stream := by
  unfold fitting
  rw [frames_cons frame stream h, List.takeWhile_cons, if_pos (decide_eq_true hfits)]

/-- Nothing is written of a stream whose first frame is too long. -/
theorem fitting_of_too_long {frame : List UInt8} (h : newline ∉ frame) (hlong : ¬ Fits frame)
    (stream : List UInt8) : fitting (frame ++ stream) = [] ∧ ¬ AllFit (frame ++ stream) := by
  have hlonger : ∀ back, ¬ Fits (frame ++ back) := by
    intro back hfits
    unfold Fits at hfits hlong
    rw [List.length_append] at hfits
    omega
  by_cases hmem : newline ∈ stream
  · obtain ⟨front, back, rfl, hfront⟩ := List.eq_append_cons_of_mem hmem
    have hnot : newline ∉ frame ++ front := by simp [h, hfront]
    rw [← List.append_assoc]
    unfold fitting AllFit
    rw [frames_cons _ back hnot]
    refine ⟨List.takeWhile_cons_of_neg (by simpa using hlonger front), fun hall => ?_⟩
    exact hlonger front (hall.1 _ List.mem_cons_self)
  · have hnot : newline ∉ frame ++ stream := by simp [h, hmem]
    unfold fitting AllFit
    rw [frames_of_not_mem hnot, rest_of_not_mem hnot]
    exact ⟨rfl, fun hall => hlonger stream hall.2⟩

theorem fitting_of_allFit {stream : List UInt8} (h : AllFit stream) :
    fitting stream = frames stream := by
  unfold fitting
  rw [List.takeWhile_eq_self_iff]
  exact fun frame hmem => decide_eq_true (h.1 frame hmem)

/-- What bytes do to the bridge: the frames that end in them are written, up to the first one that
is too long. -/
theorem forwardBytes_eq {stream : List UInt8} {bridge : Bridge} (hframe : newline ∉ bridge.frame)
    (hfits : Fits bridge.frame) :
    (AllFit (bridge.frame ++ stream) → forwardBytes stream bridge =
      (.ok (), { frame := rest (bridge.frame ++ stream)
                 calls := bridge.calls ++ (fitting (bridge.frame ++ stream)).flatMap frameCalls })) ∧
    (¬ AllFit (bridge.frame ++ stream) → ∃ frame, forwardBytes stream bridge =
      (.error frameTooLong, { frame := frame
                              calls := bridge.calls ++
                                (fitting (bridge.frame ++ stream)).flatMap frameCalls })) := by
  induction stream generalizing bridge with
  | nil =>
      have hall : AllFit bridge.frame := by
        unfold AllFit
        rw [frames_of_not_mem hframe, rest_of_not_mem hframe]
        exact ⟨fun frame hmem => absurd hmem List.not_mem_nil, hfits⟩
      rw [List.append_nil]
      refine ⟨fun _ => ?_, fun hnot => absurd hall hnot⟩
      rw [fitting_of_allFit hall, frames_of_not_mem hframe, rest_of_not_mem hframe]
      simp [forwardBytes]
  | cons byte stream ih =>
      rw [forwardBytes]
      split_ifs with hnewline hfull
      · -- the frame is complete
        subst hnewline
        have hnext := @ih { frame := [], calls := bridge.calls ++ frameCalls bridge.frame }
          (by simp) (by simp [Fits])
        rw [allFit_cons hframe hfits, fitting_cons hframe hfits, rest_cons _ _ hframe]
        simpa using hnext
      · -- one byte more than a frame may have
        have hlonger : newline ∉ bridge.frame ++ [byte] := by
          simp [hframe, Ne.symm hnewline]
        have hlong : ¬ Fits (bridge.frame ++ [byte]) := by
          unfold Fits
          rw [List.length_append, hfull]
          simp
        have happend : bridge.frame ++ byte :: stream = (bridge.frame ++ [byte]) ++ stream := by simp
        obtain ⟨hfitting, hnot⟩ := fitting_of_too_long hlonger hlong stream
        rw [happend, hfitting]
        refine ⟨fun hall => absurd hall hnot, fun _ => ⟨bridge.frame, ?_⟩⟩
        simp
      · have hlonger : newline ∉ bridge.frame ++ [byte] := by
          simp [hframe, Ne.symm hnewline]
        have hfits' : Fits (bridge.frame ++ [byte]) := by
          unfold Fits at hfits ⊢
          simp only [List.length_append, List.length_singleton]
          omega
        have hnext := @ih { bridge with frame := bridge.frame ++ [byte] } hlonger hfits'
        simpa using hnext

/-- **The frames that are written do not depend on the chunks.** They are the frames of the stream
in order, up to the first one that is too long, each with its newline; forwarding fails if a frame
is too long or the stream ends inside a frame. -/
theorem forwardFrames_exact {stream : List UInt8} {chunks : List (List UInt8)}
    (h : Splits stream chunks) :
    (forwardFrames chunks {}).2.calls = (fitting stream).flatMap frameCalls ++
        (if (forwardFrames chunks {}).1 = .ok () then [.shutdown] else []) ∧
      ((forwardFrames chunks {}).1 ≠ .ok () ↔
        (∃ frame ∈ frames stream, ¬ Fits frame) ∨ rest stream ≠ []) := by
  obtain ⟨hall, hnot⟩ := @forwardBytes_eq stream {} (by simp) (by simp [Fits])
  rw [forwardFrames_eq h.nonempty, h.flatten]
  change AllFit stream → forwardBytes stream {} = _ at hall
  change ¬ AllFit stream → ∃ frame, forwardBytes stream {} = _ at hnot
  by_cases hfit : AllFit stream
  · have hshort : ¬ ∃ frame ∈ frames stream, ¬ Fits frame := by
      rintro ⟨frame, hmem, hlong⟩
      exact hlong (hfit.1 frame hmem)
    rw [hall hfit, or_iff_right hshort]
    dsimp only
    unfold endOfStream
    by_cases hrest : rest stream = []
    · simp [hrest]
    · simp [hrest]
  · obtain ⟨frame, hframe⟩ := hnot hfit
    rw [hframe]
    refine ⟨by simp, iff_of_true (by simp) ?_⟩
    by_cases hshort : ∃ frame ∈ frames stream, ¬ Fits frame
    · exact .inl hshort
    · push Not at hshort
      refine .inr fun hrest => hfit ⟨hshort, ?_⟩
      rw [hrest]
      simp [Fits]

/-- Two frames in three chunks, and an unfinished one. -/
theorem forwardFrames_exact_unfinished :
    (forwardFrames [[111, 110], [101, 10, 116], [119, 111, 10, 120]] {}).2.calls =
      frameCalls [111, 110, 101] ++ frameCalls [116, 119, 111] := by
  have hsplits : Splits [111, 110, 101, 10, 116, 119, 111, 10, 120]
      [[111, 110], [101, 10, 116], [119, 111, 10, 120]] :=
    ⟨rfl, by decide, by decide⟩
  obtain ⟨hcalls, hfails⟩ := forwardFrames_exact hsplits
  rw [hcalls, if_neg (hfails.mpr (.inr (by decide)))]
  decide

end ProtonVpnOmarchy.Agent.IpcBridge
