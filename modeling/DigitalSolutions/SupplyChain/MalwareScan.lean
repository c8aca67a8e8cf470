import DigitalSolutions.Foundation.LengthFraming
import DigitalSolutions.Foundation.Machine
import DigitalSolutions.Foundation.Utf8
import DigitalSolutions.Platform.Text

namespace DigitalSolutions
namespace SupplyChain

open Foundation Platform

/-!
# Scanning an artifact for malware

An artifact is streamed to the scanner in frames, and the scanner answers with
a line of text.  The line may come in pieces and at any time, also before the
artifact has been read to its end.
-/

inductive ScanVerdict
  | clean | infected | failed
  deriving DecidableEq

structure MalwareScanResult where
  scannerId : String
  scannerVersion : String
  result : ScanVerdict
  reference : Option String
  failureReason : Option String
  deriving DecidableEq

structure ScannerEnvironment where
  provider : Option String
  host : Option String
  version : Option String
  maxBytes : Nat
  isTest : Bool

/-- The chunks of an artifact.  The source may throw where it should end. -/
structure ScanSource where
  chunks : List (List UInt8)
  throws : Bool

def failedScan (environment : ScannerEnvironment) (scannerId reason : String) : MalwareScanResult where
  scannerId
  scannerVersion := environment.version.getD "unknown"
  result := .failed
  reference := none
  failureReason := some reason

/-! ## The stream to the scanner -/

structure ScanState where
  connected : Bool
  /-- The loop over the source goes on. -/
  reading : Bool
  remaining : List (List UInt8)
  streamed : Nat
  /-- What the scanner is sent, behind the command. -/
  sent : List UInt8
  output : String
  result : Option MalwareScanResult
  deriving DecidableEq

inductive ScanStep
  | connect
  /-- The source yields, ends or throws. -/
  | source
  | data (packet : List UInt8)
  | error
  | close
  | timeout

def ScanState.opening (source : ScanSource) : ScanState := ⟨false, false, source.chunks, 0, [], "", none⟩

/-- Only the first result counts. -/
def ScanState.finish (result : MalwareScanResult) (state : ScanState) : ScanState :=
  { state with result := state.result.or (some result) }

/-- A socket that was destroyed takes no more. -/
def ScanState.write (bytes : List UInt8) (state : ScanState) : ScanState :=
  if state.result.isSome then state else { state with sent := state.sent ++ bytes }

variable (environment : ScannerEnvironment) (source : ScanSource) (sizeBytes : Nat)

def failedStream (reason : String) (state : ScanState) : ScanState :=
  { state with reading := false }.finish (failedScan environment "clamav" reason)

/-- What is wrong with a chunk, of which so much was streamed. -/
def chunkFailure (sizeBytes streamed : Nat) (chunk : List UInt8) : Option String :=
  if sizeBytes < streamed then some "OBJECT_SIZE_EXCEEDED"
  else if 256 ^ 4 ≤ chunk.length then some "OBJECT_STREAM_FAILED"
  else none

def endFailure (source : ScanSource) (sizeBytes streamed : Nat) : Option String :=
  if source.throws then some "OBJECT_STREAM_FAILED"
  else if streamed ≠ sizeBytes then some "OBJECT_SIZE_MISMATCH"
  else none

/-- The state behind a chunk. -/
def ScanState.pass (chunk : List UInt8) (state : ScanState) : ScanState :=
  { state with remaining := state.remaining.tail, streamed := state.streamed + chunk.length }

/-- The body of the loop over the source, and what stands behind it. -/
def readSource (state : ScanState) : ScanState :=
  match state.remaining with
  | chunk :: _ =>
    match chunkFailure sizeBytes (state.streamed + chunk.length) chunk with
    | some reason => failedStream environment reason (state.pass chunk)
    | none => (state.pass chunk).write (frame chunk)
  | [] =>
    match endFailure source sizeBytes state.streamed with
    | some reason => failedStream environment reason state
    | none => { state.write (frame []) with reading := false }

/-- `/word/i`, for a word in capital letters. -/
def matchesWord (word text : String) : Bool :=
  text.toList.tails.any fun rest =>
    word.toList.isPrefixOf ((rest.take word.length).map Char.toUpper)

/-- `output.replaceAll("\0", "").trim()`. -/
def replyReference (output : String) : String :=
  trim (String.ofList (output.toList.filter fun character => character ≠ Char.ofNat 0))

def isComplete (output : String) : Bool :=
  output.toList.any fun character => character = Char.ofNat 0 || character = '\n'

/-- What a complete reply is taken for. -/
def readReply (output : String) : MalwareScanResult :=
  if matchesWord "FOUND" output then
    { scannerId := "clamav", scannerVersion := environment.version.getD "configured", result := .infected
      reference := some (replyReference output), failureReason := none }
  else if matchesWord "OK" output then
    { scannerId := "clamav", scannerVersion := environment.version.getD "configured", result := .clean
      reference := some (replyReference output), failureReason := none }
  else failedScan environment "clamav" "MALFORMED_SCANNER_RESPONSE"

def readPacket (packet : List UInt8) (state : ScanState) : ScanState :=
  let answered := { state with output := state.output ++ utf8Text packet }
  if isComplete answered.output then answered.finish (readReply environment answered.output) else answered

def scanStep (state : ScanState) : ScanStep -> ScanState
  | .connect =>
    if state.connected || state.result.isSome then state else { state with connected := true, reading := true }
  | .source => if state.reading then readSource environment source sizeBytes state else state
  | .data packet =>
    if !state.connected || state.result.isSome then state else readPacket environment packet state
  | .error => state.finish (failedScan environment "clamav" "SCANNER_UNAVAILABLE")
  | .close => state.finish (failedScan environment "clamav" "SCANNER_ERROR")
  | .timeout => state.finish (failedScan environment "clamav" "SCANNER_TIMEOUT")

def clamScanStream : Machine ScanState ScanStep Empty where
  step state step := .ok (scanStep environment source sizeBytes state step)

/-! ## All scanners -/

def eicar : String := "X5O!P%@AP[4\\PZX54(P^)7CC)7\x7d$EICAR-STANDARD-ANTIVIRUS-TEST-FILE!"

def asciiText (bytes : List UInt8) : List Char := bytes.map fun byte => Char.ofNat (byte.toNat % 128)

/-- Nothing, where the source throws. -/
def deterministicScan : Option MalwareScanResult :=
  if sizeBytes < source.chunks.flatten.length then
    some (failedScan environment "deterministic-test" "OBJECT_SIZE_EXCEEDED")
  else if source.throws then none
  else if source.chunks.flatten.length ≠ sizeBytes then
    some (failedScan environment "deterministic-test" "OBJECT_SIZE_MISMATCH")
  else if (asciiText source.chunks.flatten).tails.any fun rest => eicar.toList.isPrefixOf rest then
    some ⟨"deterministic-test", "1", .infected, some "deterministic-eicar", none⟩
  else some ⟨"deterministic-test", "1", .clean, some "deterministic-test", none⟩

/-- The artifact is streamed to the scanner. -/
def Streams : Prop :=
  sizeBytes ≤ environment.maxBytes ∧ environment.provider = some "clamav" ∧ environment.host.getD "" ≠ ""

instance : Decidable (Streams environment sizeBytes) :=
  inferInstanceAs (Decidable (_ ∧ _ ∧ _))

/-- The state of the stream after some steps. -/
def scanned (steps : List ScanStep) : ScanState :=
  (clamScanStream environment source sizeBytes).run (ScanState.opening source) steps

/-- `scanArtifactStream`: its result, once it has one. -/
def scanArtifactStream (steps : List ScanStep) : Option MalwareScanResult :=
  let provider := environment.provider.getD ""
  if environment.maxBytes < sizeBytes then
    some (failedScan environment (environment.provider.getD "unconfigured") "ARTIFACT_TOO_LARGE")
  else if provider = "" then some (failedScan environment "unconfigured" "SCANNER_NOT_CONFIGURED")
  else if provider = "deterministic-test" then
    if environment.isTest then deterministicScan environment source sizeBytes
    else some (failedScan environment provider "TEST_SCANNER_FORBIDDEN")
  else if provider = "clamav" then
    if environment.host.getD "" = "" then some (failedScan environment "clamav" "SCANNER_NOT_CONFIGURED")
    else (scanned environment source sizeBytes steps).result
  else some (failedScan environment provider "SCANNER_ADAPTER_NOT_IMPLEMENTED")

/-! ## What is wanted of a clean result -/

/-- The reply of a scanner that has found nothing. -/
def isOkReply (output : String) : Bool := replyReference output = "stream: OK"

/-- The reply is taken for a clean one. -/
def readsClean (output : String) : Bool :=
  isComplete output && !matchesWord "FOUND" output && matchesWord "OK" output

def isClean (result : Option MalwareScanResult) : Prop :=
  result.map MalwareScanResult.result = some ScanVerdict.clean

/-- The scanner has got all there is, as much as was declared, and has said that
it found nothing. -/
structure ScannedWhole (source : ScanSource) (sizeBytes : Nat) (state : ScanState) : Prop where
  decoded : decodeStream state.sent = some source.chunks.flatten
  declared : source.chunks.flatten.length = sizeBytes
  reply : isOkReply state.output = true

/-- The chunks that have been read of the source. -/
def written (source : ScanSource) (state : ScanState) : List (List UInt8) :=
  source.chunks.take (source.chunks.length - state.remaining.length)

/-- A reply that is taken for a clean one is the reply to the whole: an empty
chunk or the end of the source has ended the stream, nothing but empty chunks
follows, and there is as much as was declared. -/
def SoundReply (source : ScanSource) (sizeBytes : Nat) (state : ScanState) (output : String) : Prop :=
  isOkReply output = true ∧ source.chunks.flatten.length = sizeBytes ∧
    (state.reading = false ∨ [] ∈ written source state) ∧
    forall chunk, chunk ∈ source.chunks.drop ((written source state).takeWhile fun chunk => chunk ≠ []).length ->
      chunk = []

/-- A step of a scan that goes on is no reply that is taken for a clean one
without being sound. -/
def SoundStep (source : ScanSource) (sizeBytes : Nat) (state : ScanState) : ScanStep -> Prop
  | .data packet => state.connected = true -> state.result = none ->
    readsClean (state.output ++ utf8Text packet) = true ->
      SoundReply source sizeBytes state (state.output ++ utf8Text packet)
  | _ => True

instance (state : ScanState) (output : String) : Decidable (SoundReply source sizeBytes state output) :=
  inferInstanceAs (Decidable (_ ∧ _ ∧ _ ∧ _))

instance (state : ScanState) (step : ScanStep) : Decidable (SoundStep source sizeBytes state step) :=
  match step with
  | .data _ => inferInstanceAs (Decidable (_ -> _ -> _ -> _))
  | .connect | .source | .error | .close | .timeout => isTrue trivial

/-! ## What the scanner has got -/

variable {environment source sizeBytes}
variable {state : ScanState}

/-- What is known while there is no result. -/
structure Streaming (source : ScanSource) (state : ScanState) : Prop where
  remaining : written source state ++ state.remaining = source.chunks
  waiting : state.connected = false -> state.reading = false ∧ state.sent = [] ∧ state.remaining = source.chunks
  sent : state.connected = true ->
    state.sent = (written source state ++ if state.reading then [] else [[]]).flatMap frame

theorem written_of_split {consumed remaining : List (List UInt8)} (split : source.chunks = consumed ++ remaining)
    (isRemaining : state.remaining = remaining) : written source state = consumed := by
  rw [written, isRemaining, split, List.length_append, Nat.add_sub_cancel, List.take_left]

theorem streaming_opening (source : ScanSource) : Streaming source (ScanState.opening source) where
  remaining := by
    have nothing : written source (ScanState.opening source) = [] :=
      @written_of_split source (ScanState.opening source) [] source.chunks rfl rfl
    rw [nothing]
    rfl
  waiting _ := ⟨rfl, rfl, rfl⟩
  sent := nofun

theorem finish_result (result : MalwareScanResult) (state : ScanState) : (state.finish result).result ≠ none := by
  rw [ScanState.finish]
  cases state.result with
  | none => nofun
  | some first => nofun

/-- A turn of the loop fails, passes a chunk, or ends the stream. -/
inductive SourceTurn (environment : ScannerEnvironment) (source : ScanSource) (state : ScanState) :
    ScanState -> Prop
  | failed (reason : String) (passed : ScanState) (sent : passed.sent = state.sent)
    (output : passed.output = state.output) (result : passed.result = state.result) :
    SourceTurn environment source state (failedStream environment reason passed)
  | passed (chunk : List UInt8) (remaining : List (List UInt8)) (isRemaining : state.remaining = chunk :: remaining) :
    SourceTurn environment source state ((state.pass chunk).write (frame chunk))
  | ended (isRemaining : state.remaining = []) :
    SourceTurn environment source state { state.write (frame []) with reading := false }

theorem readSource_turn (state : ScanState) :
    SourceTurn environment source state (readSource environment source sizeBytes state) := by
  unfold readSource
  split
  · rename_i chunk remaining isRemaining
    split
    · exact .failed _ _ rfl rfl rfl
    · exact .passed chunk remaining isRemaining
  · rename_i isRemaining
    split
    · exact .failed _ _ rfl rfl rfl
    · exact .ended isRemaining

theorem write_unsettled (bytes : List UInt8) (unsettled : state.result = none) :
    state.write bytes = { state with sent := state.sent ++ bytes } := by
  rw [ScanState.write, unsettled]
  rfl

theorem write_result (bytes : List UInt8) (state : ScanState) : (state.write bytes).result = state.result := by
  unfold ScanState.write
  split
  · rfl
  · rfl

theorem streaming_turn {after : ScanState} (streaming : Streaming source state) (goesOn : state.reading = true)
    (turn : SourceTurn environment source state after) (running : after.result = none) : Streaming source after := by
  have connected : state.connected = true := by
    by_contra waits
    have stopped := (streaming.waiting (Bool.eq_false_iff.mpr waits)).1
    rw [goesOn] at stopped
    cases stopped
  have isSent := streaming.sent connected
  rw [goesOn, if_pos rfl, List.append_nil] at isSent
  cases turn with
  | failed reason passed => exact absurd running (finish_result _ _)
  | passed chunk remaining isRemaining =>
    rw [write_result] at running
    have split : source.chunks = (written source state ++ [chunk]) ++ remaining := by
      rw [List.append_assoc, List.singleton_append, ← isRemaining, streaming.remaining]
    have isRest : (state.pass chunk).remaining = remaining := by
      rw [ScanState.pass, isRemaining]
      rfl
    rw [write_unsettled (frame chunk) running]
    have isWritten : written source { state.pass chunk with sent := state.sent ++ frame chunk } =
        written source state ++ [chunk] := written_of_split split isRest
    refine ⟨?_, ?_, ?_⟩
    · exact (congrArg₂ (· ++ ·) isWritten isRest).trans split.symm
    · intro waits
      exact absurd (connected.symm.trans waits) (by decide)
    · intro _
      have reading : (state.pass chunk).reading = true := goesOn
      have sameSent : (state.pass chunk).sent = state.sent := rfl
      rw [sameSent, isWritten, reading, if_pos rfl, List.append_nil, List.flatMap_append, ← isSent,
        List.flatMap_singleton]
  | ended isRemaining =>
    have unsettled : state.result = none := (write_result (frame []) state).symm.trans running
    rw [write_unsettled (frame []) unsettled]
    refine ⟨streaming.remaining, ?_, ?_⟩
    · intro waits
      exact absurd (connected.symm.trans waits) (by decide)
    · intro _
      have sameWritten : written source { state with sent := state.sent ++ frame [], reading := false } =
          written source state := rfl
      rw [sameWritten, List.flatMap_append, ← isSent]
      rfl

/-- A scan with a result goes on as it is. -/
structure Settled (result : MalwareScanResult) (before after : ScanState) : Prop where
  result : after.result = some result
  sent : after.sent = before.sent
  output : after.output = before.output

theorem settled_finish {result : MalwareScanResult} (settled : state.result = some result)
    (other : MalwareScanResult) : Settled result state (state.finish other) where
  result := by
    rw [ScanState.finish, settled]
    rfl
  sent := rfl
  output := rfl

theorem settled_write {result : MalwareScanResult} (settled : state.result = some result) (bytes : List UInt8) :
    state.write bytes = state := by
  rw [ScanState.write, settled]
  rfl

theorem settled_turn {result : MalwareScanResult} {after : ScanState} (settled : state.result = some result)
    (turn : SourceTurn environment source state after) : Settled result state after := by
  cases turn with
  | failed reason passed sent output sameResult =>
    have finished := settled_finish (sameResult.trans settled : passed.result = some result)
      (failedScan environment "clamav" reason)
    exact ⟨finished.result, finished.sent.trans sent, finished.output.trans output⟩
  | passed chunk remaining isRemaining =>
    have passes : (state.pass chunk).result = some result := settled
    rw [settled_write passes]
    exact ⟨settled, rfl, rfl⟩
  | ended isRemaining =>
    rw [settled_write settled]
    exact ⟨settled, rfl, rfl⟩

theorem settled_step {result : MalwareScanResult} (settled : state.result = some result) (step : ScanStep) :
    Settled result state (scanStep environment source sizeBytes state step) := by
  have stays : Settled result state state := ⟨settled, rfl, rfl⟩
  cases step with
  | connect =>
    rw [scanStep, settled, Option.isSome_some, Bool.or_true, if_pos rfl]
    exact stays
  | source =>
    rw [scanStep]
    split
    · exact settled_turn settled (readSource_turn state)
    · exact stays
  | data packet =>
    rw [scanStep, settled, Option.isSome_some, Bool.or_true, if_pos rfl]
    exact stays
  | error => exact settled_finish settled _
  | close => exact settled_finish settled _
  | timeout => exact settled_finish settled _

theorem settled_run {result : MalwareScanResult} (settled : state.result = some result) (steps : List ScanStep) :
    Settled result state ((clamScanStream environment source sizeBytes).run state steps) := by
  induction steps generalizing state with
  | nil => exact ⟨settled, rfl, rfl⟩
  | cons step rest inductionHypothesis =>
    have first : Settled result state (scanStep environment source sizeBytes state step) := settled_step settled step
    have later := inductionHypothesis first.result
    exact ⟨later.result, later.sent.trans first.sent, later.output.trans first.output⟩

theorem streaming_step (streaming : state.result = none -> Streaming source state) (step : ScanStep)
    (running : (scanStep environment source sizeBytes state step).result = none) :
    Streaming source (scanStep environment source sizeBytes state step) := by
  have unsettled : state.result = none := by
    cases known : state.result with
    | none => rfl
    | some result =>
      rw [(settled_step known step).result] at running
      cases running
  have before := streaming unsettled
  cases step with
  | connect =>
    simp only [scanStep] at running ⊢
    split
    · exact before
    · rename_i neither
      rw [Bool.or_eq_true, not_or, Bool.not_eq_true] at neither
      rcases before.waiting neither.1 with ⟨_, nothing, all⟩
      refine ⟨before.remaining, nofun, ?_⟩
      intro _
      have isWritten : written source { state with connected := true, reading := true } = [] :=
        written_of_split (List.nil_append _).symm all
      rw [isWritten]
      exact nothing
  | source =>
    simp only [scanStep] at running ⊢
    split
    · rename_i goesOn
      rw [if_pos goesOn] at running
      exact streaming_turn before goesOn (readSource_turn state) running
    · exact before
  | data packet =>
    simp only [scanStep] at running ⊢
    split
    · exact before
    · rename_i reads
      rw [if_neg reads] at running
      rw [readPacket] at running ⊢
      split
      · rename_i complete
        rw [if_pos complete] at running
        exact absurd running (finish_result _ _)
      · exact ⟨before.remaining, before.waiting, before.sent⟩
  | error => exact absurd running (finish_result _ _)
  | close => exact absurd running (finish_result _ _)
  | timeout => exact absurd running (finish_result _ _)

theorem streaming_scanned (steps : List ScanStep)
    (running : (scanned environment source sizeBytes steps).result = none) :
    Streaming source (scanned environment source sizeBytes steps) := by
  have preserved : forall (state : ScanState) (step : ScanStep) (next : ScanState),
      (state.result = none -> Streaming source state) ->
      (clamScanStream environment source sizeBytes).step state step = .ok next ->
      next.result = none -> Streaming source next := by
    intro state step next streaming stepped
    have isNext : scanStep environment source sizeBytes state step = next := Except.ok.inj stepped
    rw [← isNext]
    exact streaming_step streaming step
  exact Machine.run_invariant preserved (fun _ => streaming_opening source) steps running

/-! ## Clean results -/

/-- What the scanner has read while there is no result. -/
theorem decoded_iff (small : forall chunk, chunk ∈ source.chunks -> chunk.length < 256 ^ 4)
    (streaming : Streaming source state) (connected : state.connected = true) :
    decodeStream state.sent = some source.chunks.flatten ↔
      (state.reading = false ∨ [] ∈ written source state) ∧
      forall chunk, chunk ∈ source.chunks.drop ((written source state).takeWhile fun chunk => chunk ≠ []).length ->
        chunk = [] := by
  have begins : written source state <+: source.chunks := ⟨state.remaining, streaming.remaining⟩
  have smallWritten : forall chunk, chunk ∈ written source state -> chunk.length < 256 ^ 4 :=
    fun chunk member => small chunk (begins.subset member)
  have tail : forall chunk, chunk ∈ (if state.reading then [] else [[]] : List (List UInt8)) -> chunk = [] := by
    intro chunk member
    split at member
    · cases member
    · exact List.mem_singleton.mp member
  have smallAll : forall chunk, chunk ∈ (written source state ++ if state.reading then [] else [[]]) ->
      chunk.length < 256 ^ 4 := by
    intro chunk member
    rcases List.mem_append.mp member with inWritten | isTail
    · exact smallWritten chunk inWritten
    · rw [tail chunk isTail]
      decide
  have ends : [] ∈ (written source state ++ if state.reading then [] else [[]]) ↔
      state.reading = false ∨ [] ∈ written source state := by
    rw [List.mem_append, or_comm]
    cases state.reading with
    | true => simp
    | false => simp
  have cut : (written source state ++ if state.reading then [] else [[]]).takeWhile (fun chunk => chunk ≠ []) =
      (written source state).takeWhile fun chunk => chunk ≠ [] := by
    have nothing : (if state.reading then [] else [[]] : List (List UInt8)).takeWhile (fun chunk => chunk ≠ []) = [] := by
      split
      · rfl
      · rfl
    rw [List.takeWhile_append, nothing, List.append_nil]
    split
    · rename_i whole
      exact ((List.takeWhile_prefix _).eq_of_length whole).symm
    · rfl
  rw [streaming.sent connected, decodeStream_frames smallAll, ← takeWhile_flatten_iff begins]
  simp only [ends, cut]
  constructor
  · intro decoded
    split at decoded
    · rename_i ended
      exact ⟨ended, Option.some.inj decoded⟩
    · cases decoded
  · rintro ⟨ended, all⟩
    rw [if_pos ended, all]

theorem readReply_clean_iff (output : String) :
    (readReply environment output).result = .clean ↔ (!matchesWord "FOUND" output && matchesWord "OK" output) = true := by
  unfold readReply
  cases found : matchesWord "FOUND" output with
  | true => exact ⟨nofun, nofun⟩
  | false =>
    cases clean : matchesWord "OK" output with
    | true => exact ⟨fun _ => rfl, fun _ => rfl⟩
    | false => exact ⟨nofun, nofun⟩

theorem not_clean_failed (reason : String) (unsettled : state.result = none) :
    ¬ isClean (state.finish (failedScan environment "clamav" reason)).result := by
  rw [ScanState.finish, unsettled]
  nofun

theorem readPacket_complete {packet : List UInt8} (unsettled : state.result = none)
    (complete : isComplete (state.output ++ utf8Text packet) = true) :
    readPacket environment packet state =
      { state with
        output := state.output ++ utf8Text packet
        result := some (readReply environment (state.output ++ utf8Text packet)) } := by
  rw [readPacket, if_pos complete, ScanState.finish, unsettled]
  rfl

/-- A step that makes a scan clean is a reply that is taken for a clean one. -/
theorem reply_of_clean {step : ScanStep} (unsettled : state.result = none)
    (clean : isClean (scanStep environment source sizeBytes state step).result) :
    Exists fun packet => step = .data packet ∧ state.connected = true ∧
      readsClean (state.output ++ utf8Text packet) = true := by
  have notClean : ¬ isClean state.result := by
    rw [unsettled]
    nofun
  cases step with
  | connect =>
    simp only [scanStep] at clean
    split at clean
    · exact absurd clean notClean
    · exact absurd clean notClean
  | source =>
    simp only [scanStep] at clean
    split at clean
    · have turn : SourceTurn environment source state (readSource environment source sizeBytes state) :=
        readSource_turn state
      revert clean turn
      generalize readSource environment source sizeBytes state = after
      intro clean turn
      cases turn with
      | failed reason passed sent output result =>
        exact absurd clean (not_clean_failed reason (result.trans unsettled : passed.result = none))
      | passed chunk remaining isRemaining =>
        rw [write_result] at clean
        exact absurd clean notClean
      | ended isRemaining =>
        have same : (state.write (frame [])).result = state.result := write_result (frame []) state
        exact absurd clean (same ▸ notClean)
    · exact absurd clean notClean
  | data packet =>
    simp only [scanStep] at clean
    split at clean
    · exact absurd clean notClean
    · rename_i reads
      rw [Bool.or_eq_true, not_or, Bool.not_eq_true, Bool.not_eq_false'] at reads
      cases complete : isComplete (state.output ++ utf8Text packet) with
      | false =>
        have same : (readPacket environment packet state).result = state.result := by
          rw [readPacket, complete]
          rfl
        rw [same] at clean
        exact absurd clean notClean
      | true =>
        rw [readPacket_complete unsettled complete] at clean
        have isVerdict : (readReply environment (state.output ++ utf8Text packet)).result = .clean :=
          Option.some.inj clean
        refine ⟨packet, rfl, reads.1, ?_⟩
        rw [readsClean, complete, Bool.true_and]
        exact (readReply_clean_iff _).mp isVerdict
  | error => exact absurd clean (not_clean_failed _ unsettled)
  | close => exact absurd clean (not_clean_failed _ unsettled)
  | timeout => exact absurd clean (not_clean_failed _ unsettled)

theorem clean_of_reply {packet : List UInt8} (unsettled : state.result = none) (connected : state.connected = true)
    (reads : readsClean (state.output ++ utf8Text packet) = true) :
    scanStep environment source sizeBytes state (.data packet) =
      { state with
        output := state.output ++ utf8Text packet
        result := some (readReply environment (state.output ++ utf8Text packet)) } ∧
    (readReply environment (state.output ++ utf8Text packet)).result = .clean := by
  rw [readsClean, Bool.and_assoc, Bool.and_eq_true] at reads
  have goesOn : ¬ (!state.connected || state.result.isSome) = true := by
    rw [connected, unsettled]
    decide
  refine ⟨?_, (readReply_clean_iff _).mpr reads.2⟩
  rw [scanStep, if_neg goesOn, readPacket_complete unsettled reads.1]

theorem scannedWhole_iff (small : forall chunk, chunk ∈ source.chunks -> chunk.length < 256 ^ 4)
    (streaming : Streaming source state) (connected : state.connected = true) (output : String)
    (result : Option MalwareScanResult) :
    ScannedWhole source sizeBytes { state with output, result } ↔ SoundReply source sizeBytes state output := by
  have decoded := decoded_iff small streaming connected
  constructor
  · rintro ⟨all, declared, reply⟩
    exact ⟨reply, declared, decoded.mp all⟩
  · rintro ⟨reply, declared, ended, all⟩
    exact ⟨decoded.mpr ⟨ended, all⟩, declared, reply⟩

/-- A clean result means a whole scan exactly when every reply that is taken for
a clean one is sound. -/
theorem stream_whole_iff (small : forall chunk, chunk ∈ source.chunks -> chunk.length < 256 ^ 4)
    (steps : List ScanStep) :
    (isClean (scanned environment source sizeBytes steps).result ->
      ScannedWhole source sizeBytes (scanned environment source sizeBytes steps)) ↔
    (clamScanStream environment source sizeBytes).Admits (SoundStep source sizeBytes) (ScanState.opening source)
      steps := by
  rw [Machine.admits_iff]
  -- a reply that is taken for a clean one is the last thing that happens to a scan
  have settles : forall past packet rest output, steps = past ++ .data packet :: rest ->
      (scanned environment source sizeBytes past).connected = true ->
      (scanned environment source sizeBytes past).result = none ->
      output = (scanned environment source sizeBytes past).output ++ utf8Text packet -> readsClean output = true ->
      isClean (scanned environment source sizeBytes steps).result ∧
      (ScannedWhole source sizeBytes (scanned environment source sizeBytes steps) ↔
        SoundReply source sizeBytes (scanned environment source sizeBytes past) output) := by
    rintro past packet rest output rfl connected unsettled rfl reads
    rcases @clean_of_reply environment source sizeBytes _ packet unsettled connected reads with ⟨stepped, isVerdict⟩
    have settled := @settled_run environment source sizeBytes _ _
      (congrArg ScanState.result stepped) rest
    have isRun : scanned environment source sizeBytes (past ++ .data packet :: rest) =
        (clamScanStream environment source sizeBytes).run
          (scanStep environment source sizeBytes (scanned environment source sizeBytes past) (.data packet)) rest :=
      Machine.run_append _ _ past (.data packet :: rest)
    rw [← isRun] at settled
    constructor
    · rw [settled.result]
      exact congrArg some isVerdict
    · rw [← scannedWhole_iff small (streaming_scanned past unsettled) connected _
        (some (readReply environment ((scanned environment source sizeBytes past).output ++ utf8Text packet))),
        ← stepped]
      constructor
      · rintro ⟨decoded, declared, reply⟩
        rw [settled.sent] at decoded
        rw [settled.output] at reply
        exact ⟨decoded, declared, reply⟩
      · rintro ⟨decoded, declared, reply⟩
        rw [← settled.sent] at decoded
        rw [← settled.output] at reply
        exact ⟨decoded, declared, reply⟩
  constructor
  · intro whole past step rest isSteps
    cases step with
    | connect => trivial
    | source => trivial
    | error => trivial
    | close => trivial
    | timeout => trivial
    | data packet =>
      intro connected unsettled reads
      have settled := settles past packet rest _ isSteps connected unsettled rfl reads
      exact settled.2.mp (whole settled.1)
  · intro sound clean
    have initially : ¬ isClean (ScanState.opening source).result := nofun
    rcases @Machine.established ScanState ScanStep Empty (clamScanStream environment source sizeBytes)
      (fun state => isClean state.result) (ScanState.opening source) steps initially clean with
      ⟨past, step, rest, isSteps, before, after⟩
    have unsettled : (scanned environment source sizeBytes past).result = none := by
      cases known : (scanned environment source sizeBytes past).result with
      | none => rfl
      | some result =>
        have stays : isClean (scanStep environment source sizeBytes (scanned environment source sizeBytes past)
          step).result := after
        rw [(settled_step known step).result, ← known] at stays
        exact absurd stays before
    rcases @reply_of_clean environment source sizeBytes _ step unsettled after with
      ⟨packet, rfl, connected, reads⟩
    have settled := settles past packet rest _ isSteps connected unsettled rfl reads
    exact settled.2.mpr (sound past _ rest isSteps connected unsettled reads)

theorem scanArtifactStream_streams (notTest : environment.provider ≠ some "deterministic-test")
    (steps : List ScanStep) :
    (Streams environment sizeBytes ∧ scanArtifactStream environment source sizeBytes steps =
      (scanned environment source sizeBytes steps).result) ∨
    (¬ Streams environment sizeBytes ∧ ¬ isClean (scanArtifactStream environment source sizeBytes steps)) := by
  by_cases large : environment.maxBytes < sizeBytes
  · refine Or.inr ⟨fun streams => absurd streams.1 (Nat.not_le_of_lt large), ?_⟩
    rw [scanArtifactStream, if_pos large]
    nofun
  · by_cases isClam : environment.provider = some "clamav"
    · have provider : environment.provider.getD "" = "clamav" := by
        rw [isClam]
        rfl
      by_cases noHost : environment.host.getD "" = ""
      · refine Or.inr ⟨fun streams => absurd noHost streams.2.2, ?_⟩
        rw [scanArtifactStream, if_neg large, provider, if_neg (by decide), if_neg (by decide), if_pos rfl,
          if_pos noHost]
        nofun
      · refine Or.inl ⟨⟨Nat.le_of_not_lt large, isClam, noHost⟩, ?_⟩
        rw [scanArtifactStream, if_neg large, provider, if_neg (by decide), if_neg (by decide), if_pos rfl,
          if_neg noHost]
    · refine Or.inr ⟨fun streams => absurd streams.2.1 isClam, ?_⟩
      rw [scanArtifactStream, if_neg large]
      cases known : environment.provider with
      | none =>
        rw [Option.getD_none, if_pos rfl]
        nofun
      | some provider =>
        rw [known] at isClam notTest
        have otherProvider : provider ≠ "deterministic-test" := fun same => notTest (congrArg some same)
        have notClam : provider ≠ "clamav" := fun same => isClam (congrArg some same)
        rw [Option.getD_some, if_neg otherProvider, if_neg notClam]
        split
        · nofun
        · nofun

def clamEnvironment : ScannerEnvironment := ⟨some "clamav", some "localhost", some "1.4", 1024, false⟩

/-- The reply of the scanner, once the source has been read to its end. -/
def repliedAtEnd (source : ScanSource) (reply : String) : List ScanStep :=
  .connect :: List.replicate (source.chunks.length + 1) .source ++ [.data (utf8Bytes reply)]

/-- The chunk in the middle is empty. -/
def interruptedSource : ScanSource := ⟨[[1], [], [2]], false⟩

def plainSource : ScanSource := ⟨[[1], [2]], false⟩

theorem interrupted_clean :
    (scanArtifactStream clamEnvironment interruptedSource 2 (repliedAtEnd interruptedSource "stream: OK\x00")).map
      MalwareScanResult.result = some .clean := by
  decide +kernel

theorem broken_clean :
    (scanArtifactStream clamEnvironment plainSource 2
      (repliedAtEnd plainSource "stream: Broken pipe ERROR\x00")).map MalwareScanResult.result = some .clean := by
  decide +kernel

end SupplyChain
end DigitalSolutions
