import SoftEther.Library.Decoders
import SoftEther.Mayaqua.Buf
import SoftEther.Mayaqua.Fifo

/-!
# The WebSocket layer

`WSP` of `Protocol.c` takes the frames of the client out of a byte stream and puts the data of
the application into frames of its own.
-/

namespace SoftEther
namespace WebSocket

open Fifo
open Library

def WS_MAX_PAYLOAD_LEN_PER_FRAME : Nat := 8 * 1024 * 1024

def WS_SEND_SINGLE_FRAGMENT_SIZE : Nat := 32 * 1024

def WS_OPCODE_CONTINUE : UInt8 := 0x00

def WS_OPCODE_TEXT : UInt8 := 0x01

def WS_OPCODE_BIN : UInt8 := 0x02

def WS_OPCODE_PING : UInt8 := 0x09

def WS_OPCODE_PONG : UInt8 := 0x0A

/-- A block of `WspTryRecvNextFrame`, with its `Param1`. -/
structure Frame where
  opcode : UInt8
  data : List UInt8
  deriving DecidableEq

/-- Why there is no frame. -/
inductive Stop
  | incomplete
  /-- `HasError` is set. -/
  | error
  deriving DecidableEq

/-- The next bytes, and what stands behind them. -/
def takeBytes (count : Nat) (buf : List UInt8) : Except Stop (List UInt8 × List UInt8) :=
  if buf.length < count then .error .incomplete
  else .ok (buf.take count, buf.drop count)

/-- `payload_len`. -/
def takePayloadLen (payloadLen : UInt8) (buf : List UInt8) : Except Stop (Nat × List UInt8) :=
  if payloadLen = 126 then do
    let (bytes, buf) ← takeBytes 2 buf
    .ok (fromBigEndian bytes, buf)
  else if payloadLen = 127 then do
    let (bytes, buf) ← takeBytes 8 buf
    if 0x7FFFFFFF < fromBigEndian bytes then .error .error
    else .ok (fromBigEndian bytes, buf)
  else .ok (payloadLen.toNat, buf)

/-- `mask_key`, when `mask_flag` is set. -/
def takeMaskKey (maskFlag : UInt8) (buf : List UInt8) :
    Except Stop (Option (List UInt8) × List UInt8) :=
  if maskFlag = 0 then .ok (none, buf)
  else do
    let (bytes, buf) ← takeBytes 4 buf
    .ok (some bytes, buf)

def unmask (retData : List UInt8) : Option (List UInt8) → List UInt8
  | none => retData
  | some maskKey => retData.mapIdx fun i byte => byte ^^^ maskKey.getD (i % 4) 0

/-- The frame behind its payload length. -/
def takePayload (opcode maskFlag : UInt8) (payloadLen : Nat) (buf : List UInt8) :
    Except Stop (Frame × List UInt8) :=
  if WS_MAX_PAYLOAD_LEN_PER_FRAME < payloadLen then .error .error
  else do
    let (maskKey, buf) ← takeMaskKey maskFlag buf
    let (retData, buf) ← takeBytes payloadLen buf
    .ok (⟨opcode, unmask retData maskKey⟩, buf)

/-- `WspTryRecvNextFrame` on what the FIFO holds: the frame, and what stands behind it. -/
def wspTryRecvNextFrame : List UInt8 → Except Stop (Frame × List UInt8)
  | flagAndOpcode :: maskAndPayloadLen :: buf => do
      let (payloadLen, buf) ← takePayloadLen (maskAndPayloadLen &&& 0x7F) buf
      takePayload (flagAndOpcode &&& 0xF) (maskAndPayloadLen &&& 0x80) payloadLen buf
  | _ => .error .incomplete

/-- The bytes of a frame that `WspTrySendFrame` sends; a size of 65536 does not fit its field. -/
def Frame.bytes (f : Frame) : List UInt8 :=
  (0x80 ||| (f.opcode &&& 0x0F)) ::
    (if f.data.length ≤ 125 then [UInt8.ofNat f.data.length]
      else if f.data.length ≤ 65536 then 126 :: bigEndian 2 f.data.length
      else 127 :: bigEndian 8 f.data.length) ++ f.data

structure Wsp where
  maxBufferSize : Nat
  physicalSendFifo : Fifo UInt8 := newFifo
  physicalRecvFifo : Fifo UInt8 := newFifo
  appSendFifo : Fifo UInt8 := newFifo
  appRecvFifo : Fifo UInt8 := newFifo
  hasError : Bool := false

namespace Wsp

def wspTrySendFrame (p : Wsp) (f : Frame) : Wsp :=
  if p.hasError then p
  else { p with physicalSendFifo := p.physicalSendFifo.writeFifo f.bytes }

/-- What `WspTry` does with a frame. -/
def handle (p : Wsp) (b : Frame) : Wsp :=
  if b.opcode = WS_OPCODE_CONTINUE ∨ b.opcode = WS_OPCODE_TEXT ∨ b.opcode = WS_OPCODE_BIN then
    { p with appRecvFifo := p.appRecvFifo.writeFifo b.data }
  else if b.opcode = WS_OPCODE_PING then
    if p.physicalSendFifo.fifoSize ≤ p.maxBufferSize then
      p.wspTrySendFrame ⟨WS_OPCODE_PONG, b.data⟩
    else p
  else if b.opcode = WS_OPCODE_PONG then p
  else { p with hasError := true }

end Wsp

/-! ## Frames of a stream -/

/-- What is taken stays when more bytes come in. -/
def Lasts {Value : Type} (take : List UInt8 → Except Stop (Value × List UInt8)) : Prop :=
  ∀ buf value rest, take buf = .ok (value, rest) →
    rest.length ≤ buf.length ∧ ∀ more, take (buf ++ more) = .ok (value, rest ++ more)

section

variable {Value Next : Type}
variable {take : List UInt8 → Except Stop (Value × List UInt8)}
variable {next : Value → List UInt8 → Except Stop (Next × List UInt8)}

theorem lasts_ok (value : Value) : Lasts fun buf => .ok (value, buf) := by
  intro buf other rest taken
  obtain ⟨rfl, rfl⟩ := Prod.mk.inj (Except.ok.inj taken)
  exact ⟨Nat.le_refl _, fun more => rfl⟩

theorem lasts_error (stop : Stop) : @Lasts Value fun _ => .error stop := by
  intro buf value rest taken
  cases taken

theorem lasts_takeBytes (count : Nat) : Lasts (takeBytes count) := by
  intro buf value rest taken
  unfold takeBytes at taken ⊢
  split at taken
  case isTrue => cases taken
  case isFalse enough =>
    obtain ⟨rfl, rfl⟩ := Prod.mk.inj (Except.ok.inj taken)
    refine ⟨by simp, fun more => ?_⟩
    rw [List.length_append, if_neg (by omega), List.take_append_of_le_length (by omega),
      List.drop_append_of_le_length (by omega)]

theorem Lasts.bind
    (first : Lasts take)
    (second : ∀ value, Lasts (next value)) :
    Lasts fun buf => take buf >>= fun both => next both.1 both.2 := by
  intro buf result rest taken
  dsimp only at taken ⊢
  cases came : take buf with
  | error stop =>
      rw [came] at taken
      cases taken
  | ok both =>
      obtain ⟨value, left⟩ := both
      rw [came] at taken
      obtain ⟨shorter, same⟩ := first buf value left came
      obtain ⟨less, still⟩ := second value left result rest taken
      refine ⟨Nat.le_trans less shorter, fun more => ?_⟩
      rw [same more]
      exact still more

theorem lasts_takePayloadLen (payloadLen : UInt8) : Lasts (takePayloadLen payloadLen) := by
  unfold takePayloadLen
  by_cases two : payloadLen = 126
  · simp only [if_pos two]
    exact (lasts_takeBytes 2).bind fun bytes => lasts_ok (fromBigEndian bytes)
  · by_cases eight : payloadLen = 127
    · simp only [if_neg two, if_pos eight]
      have bounded (bytes : List UInt8) : Lasts fun buf =>
          if 0x7FFFFFFF < fromBigEndian bytes then .error .error
          else .ok (fromBigEndian bytes, buf) := by
        by_cases large : 0x7FFFFFFF < fromBigEndian bytes
        · simp only [if_pos large]
          exact lasts_error .error
        · simp only [if_neg large]
          exact lasts_ok (fromBigEndian bytes)
      exact (lasts_takeBytes 8).bind bounded
    · simp only [if_neg two, if_neg eight]
      exact lasts_ok payloadLen.toNat

theorem lasts_takePayload (opcode maskFlag : UInt8) (payloadLen : Nat) :
    Lasts (takePayload opcode maskFlag payloadLen) := by
  have key : Lasts (takeMaskKey maskFlag) := by
    unfold takeMaskKey
    by_cases plain : maskFlag = 0
    · simp only [if_pos plain]
      exact lasts_ok none
    · simp only [if_neg plain]
      exact (lasts_takeBytes 4).bind fun bytes => lasts_ok (some bytes)
  unfold takePayload
  by_cases large : WS_MAX_PAYLOAD_LEN_PER_FRAME < payloadLen
  · simp only [if_pos large]
    exact lasts_error .error
  · simp only [if_neg large]
    exact key.bind fun maskKey => (lasts_takeBytes payloadLen).bind fun retData =>
      lasts_ok (Frame.mk opcode (unmask retData maskKey))

end

theorem wspTryRecvNextFrame_cons (flagAndOpcode maskAndPayloadLen : UInt8) (buf : List UInt8) :
    wspTryRecvNextFrame (flagAndOpcode :: maskAndPayloadLen :: buf) =
      takePayloadLen (maskAndPayloadLen &&& 0x7F) buf >>= fun both =>
        takePayload (flagAndOpcode &&& 0xF) (maskAndPayloadLen &&& 0x80) both.1 both.2 :=
  rfl

/-- A frame takes some bytes off the stream, and what comes in later does not change it. -/
theorem wspTryRecvNextFrame_append
    {bytes rest : List UInt8}
    {b : Frame}
    (taken : wspTryRecvNextFrame bytes = .ok (b, rest)) :
    rest.length < bytes.length ∧
      ∀ more, wspTryRecvNextFrame (bytes ++ more) = .ok (b, rest ++ more) := by
  obtain _ | ⟨flagAndOpcode, _ | ⟨maskAndPayloadLen, buf⟩⟩ := bytes
  · cases taken
  · cases taken
  · obtain ⟨shorter, same⟩ := ((lasts_takePayloadLen (maskAndPayloadLen &&& 0x7F)).bind
      (lasts_takePayload (flagAndOpcode &&& 0xF) (maskAndPayloadLen &&& 0x80))) buf b rest taken
    refine ⟨?_, same⟩
    simp only [List.length_cons]
    omega

/-- The frames as a decoder takes them. -/
def takeFrame : PrefixDecoder UInt8 Frame :=
  fun bytes => (wspTryRecvNextFrame bytes).toOption

theorem takeFrame_eq_some
    {bytes rest : List UInt8}
    {b : Frame} :
    takeFrame bytes = some (b, rest) ↔ wspTryRecvNextFrame bytes = .ok (b, rest) := by
  unfold takeFrame
  cases wspTryRecvNextFrame bytes with
  | error stop => simp [Except.toOption]
  | ok taken => simp [Except.toOption]

theorem steady_takeFrame : Steady takeFrame := by
  intro bytes b rest more taken
  rw [takeFrame_eq_some] at taken ⊢
  exact (wspTryRecvNextFrame_append taken).2 more

example : takeFrame [0x81, 0x82, 1, 2, 3, 4, 0x49, 0x6B, 7] =
    some (⟨WS_OPCODE_TEXT, [0x48, 0x69]⟩, [7]) := by decide

/-- A frame whose size fits its field is read back. -/
theorem decodes_bytes
    {f : Frame}
    (opcode : f.opcode = WS_OPCODE_BIN ∨ f.opcode = WS_OPCODE_PONG)
    (fits : f.data.length < 65536) :
    Decodes takeFrame f.bytes f := by
  have code : (0x80 ||| (f.opcode &&& 0x0F)) &&& 0xF = f.opcode := by
    obtain isBin | isPong := opcode
    · rw [isBin]
      rfl
    · rw [isPong]
      rfl
  have taken (bytes rest : List UInt8) :
      takeBytes bytes.length (bytes ++ rest) = .ok (bytes, rest) := by
    rw [takeBytes, if_neg (by simp), List.take_left, List.drop_left]
  have payload (rest : List UInt8) :
      takePayload f.opcode 0 f.data.length (f.data ++ rest) = .ok (f, rest) := by
    have small : ¬WS_MAX_PAYLOAD_LEN_PER_FRAME < f.data.length := by
      unfold WS_MAX_PAYLOAD_LEN_PER_FRAME
      omega
    rw [takePayload, if_neg small]
    change takeBytes _ _ >>= _ = _
    rw [taken]
    rfl
  intro rest
  rw [takeFrame_eq_some, Frame.bytes]
  by_cases short : f.data.length ≤ 125
  · have len : UInt8.ofNat f.data.length &&& 0x7F = UInt8.ofNat f.data.length ∧
        UInt8.ofNat f.data.length &&& 0x80 = 0 ∧ UInt8.ofNat f.data.length ≠ 126 ∧
        UInt8.ofNat f.data.length ≠ 127 ∧ (UInt8.ofNat f.data.length).toNat = f.data.length := by
      generalize f.data.length = size at short
      revert size
      decide
    rw [if_pos short]
    change wspTryRecvNextFrame (_ :: _ :: (f.data ++ rest)) = _
    rw [wspTryRecvNextFrame_cons, code, len.1, len.2.1, takePayloadLen, if_neg len.2.2.1,
      if_neg len.2.2.2.1, len.2.2.2.2]
    exact payload rest
  · have two := taken (bigEndian 2 f.data.length) (f.data ++ rest)
    rw [length_bigEndian] at two
    rw [if_neg short, if_pos fits.le, List.append_assoc]
    change wspTryRecvNextFrame (_ :: 126 :: (bigEndian 2 f.data.length ++ (f.data ++ rest))) = _
    rw [wspTryRecvNextFrame_cons, code, takePayloadLen, if_pos (by decide), two]
    change takePayload _ _ (fromBigEndian (bigEndian 2 f.data.length)) _ = _
    rw [fromBigEndian_bigEndian fits]
    exact payload rest

/-! ## Runs -/

namespace Wsp

/-- The loop of `WspTry` from the network to the application. -/
def recvFrames (p : Wsp) : Wsp :=
  if p.hasError then p
  else
    match _next : wspTryRecvNextFrame p.physicalRecvFifo.contents with
    | .error .incomplete => p
    | .error .error => { p with hasError := true }
    | .ok (b, rest) => recvFrames { p.handle b with physicalRecvFifo := ⟨rest⟩ }
termination_by p.physicalRecvFifo.fifoSize
decreasing_by exact (wspTryRecvNextFrame_append _next).1

/-- The size of the next fragment. -/
def fragmentSize (p : Wsp) : Nat :=
  min p.appSendFifo.fifoSize WS_SEND_SINGLE_FRAGMENT_SIZE

/-- The loop of `WspTry` from the application to the network. -/
def sendFrames (p : Wsp) : Wsp :=
  if p.hasError ∨ p.appSendFifo.fifoSize = 0 then p
  else
    sendFrames
      { p.wspTrySendFrame ⟨WS_OPCODE_BIN, p.appSendFifo.peekFifo p.fragmentSize⟩ with
        appSendFifo := p.appSendFifo.readFifo p.fragmentSize }
termination_by p.appSendFifo.fifoSize
decreasing_by
  have fragment : 0 < WS_SEND_SINGLE_FRAGMENT_SIZE := by decide
  simp only [fragmentSize, fifoSize, contents_readFifo, List.length_drop] at *
  omega

def wspTry (p : Wsp) : Wsp :=
  p.recvFrames.sendFrames

end Wsp

/-- The layer, and all bytes that have gone through its FIFOs. -/
structure Pipe where
  wsp : Wsp
  received : List UInt8 := []
  sent : List UInt8 := []
  written : List UInt8 := []
  read : List UInt8 := []

/-- What the functions of `WS` do with the layer, in whatever order. -/
inductive Event
  /-- Bytes arrive. -/
  | recv (data : List UInt8)
  | wspTry
  /-- Bytes go to the socket. -/
  | send (size : Nat)
  | write (data : List UInt8)
  | read (size : Nat)

def Pipe.next (p : Pipe) : Event → Pipe
  | .recv data =>
      { p with
        wsp := { p.wsp with physicalRecvFifo := p.wsp.physicalRecvFifo.writeFifo data }
        received := p.received ++ data }
  | .wspTry => { p with wsp := p.wsp.wspTry }
  | .send size =>
      { p with
        wsp := { p.wsp with physicalSendFifo := p.wsp.physicalSendFifo.readFifo size }
        sent := p.sent ++ p.wsp.physicalSendFifo.peekFifo size }
  | .write data =>
      { p with
        wsp := { p.wsp with appSendFifo := p.wsp.appSendFifo.writeFifo data }
        written := p.written ++ data }
  | .read size =>
      { p with
        wsp := { p.wsp with appRecvFifo := p.wsp.appRecvFifo.readFifo size }
        read := p.read ++ p.wsp.appRecvFifo.peekFifo size }

/-- The data for the application in a frame. -/
def Frame.appData (f : Frame) : List UInt8 :=
  if f.opcode = WS_OPCODE_CONTINUE ∨ f.opcode = WS_OPCODE_TEXT ∨ f.opcode = WS_OPCODE_BIN then f.data
  else []

/-- The answer to a ping. -/
def Frame.answer (f : Frame) : Option Frame :=
  if f.opcode = WS_OPCODE_PING then some ⟨WS_OPCODE_PONG, f.data⟩ else none

/-- The frames that have been taken and those that have been made. -/
structure Pipe.Carries (p : Pipe) (frames out : List Frame) : Prop where
  received : Decodings takeFrame p.received frames p.wsp.physicalRecvFifo.contents
  read : p.read ++ p.wsp.appRecvFifo.contents = frames.flatMap Frame.appData
  sent : p.sent ++ p.wsp.physicalSendFifo.contents = out.flatMap Frame.bytes
  written : p.written = out.flatMap Frame.appData ++ p.wsp.appSendFifo.contents
  answers : (out.filter fun f => f.opcode = WS_OPCODE_PONG).Sublist (frames.filterMap Frame.answer)
  pieces : ∀ f ∈ out, f.opcode = WS_OPCODE_PONG ∨
    f.opcode = WS_OPCODE_BIN ∧ f.data.length ≤ WS_SEND_SINGLE_FRAGMENT_SIZE

section

variable {p : Pipe} {w : Wsp} {frames out : List Frame}

theorem Pipe.Carries.handle
    (carries : Pipe.Carries { p with wsp := w } frames out)
    (working : w.hasError = false)
    {b : Frame}
    {rest : List UInt8}
    (taken : takeFrame w.physicalRecvFifo.contents = some (b, rest)) :
    ∃ more, Pipe.Carries { p with wsp := { w.handle b with physicalRecvFifo := ⟨rest⟩ } }
      (frames ++ [b]) (out ++ more) := by
  have received := carries.received.trans (.cons taken (.nil rest))
  have answers := carries.answers.trans
    ((List.sublist_append_left frames [b]).filterMap Frame.answer)
  have silent (noData : b.appData = []) :
      p.read ++ w.appRecvFifo.contents = (frames ++ [b]).flatMap Frame.appData := by
    rw [List.flatMap_append, ← carries.read]
    simp [noData]
  have skipped (noData : b.appData = []) (hasError : Bool) :
      ∃ more, Pipe.Carries
        { p with wsp := { w with physicalRecvFifo := ⟨rest⟩, hasError := hasError } }
        (frames ++ [b]) (out ++ more) := by
    refine ⟨[], ?_⟩
    rw [List.append_nil]
    exact ⟨received, silent noData, carries.sent, carries.written, answers, carries.pieces⟩
  unfold Wsp.handle
  split_ifs with isData isPing room isPong
  · refine ⟨[], received, ?_, by simpa using carries.sent, by simpa using carries.written,
      by simpa using answers, by simpa using carries.pieces⟩
    have data : b.appData = b.data := if_pos isData
    rw [List.flatMap_append, ← carries.read]
    simp [data]
  · have noData : b.appData = [] := if_neg isData
    have answer : b.answer = some ⟨WS_OPCODE_PONG, b.data⟩ := if_pos isPing
    unfold Wsp.wspTrySendFrame
    rw [if_neg (by simp [working])]
    refine ⟨[⟨WS_OPCODE_PONG, b.data⟩], received, silent noData, ?_, ?_, ?_, ?_⟩
    · rw [List.flatMap_append, ← carries.sent]
      simp
    · rw [List.flatMap_append, carries.written]
      simp [Frame.appData, WS_OPCODE_PONG, WS_OPCODE_CONTINUE, WS_OPCODE_TEXT, WS_OPCODE_BIN]
    · rw [List.filter_append, List.filterMap_append]
      exact carries.answers.append (by simp [answer])
    · intro f listed
      obtain before | new := List.mem_append.mp listed
      · exact carries.pieces f before
      · exact .inl (by rw [List.mem_singleton.mp new])
  · exact skipped (if_neg isData) w.hasError
  · exact skipped (if_neg isData) w.hasError
  · exact skipped (if_neg isData) true

theorem Pipe.Carries.recvFrames
    (carries : Pipe.Carries { p with wsp := w } frames out) :
    ∃ frames out, Pipe.Carries { p with wsp := w.recvFrames } frames out := by
  induction w using Wsp.recvFrames.induct generalizing frames out with
  | case1 w failed =>
      rw [Wsp.recvFrames, if_pos failed]
      exact ⟨_, _, carries⟩
  | case2 w working next =>
      refine ⟨frames, out, ?_⟩
      rw [Wsp.recvFrames, if_neg working]
      split
      case h_1 => exact carries
      case h_2 other => cases next.symm.trans other
      case h_3 other => cases next.symm.trans other
  | case3 w working next =>
      refine ⟨frames, out, ?_⟩
      rw [Wsp.recvFrames, if_neg working]
      split
      case h_1 other => cases next.symm.trans other
      case h_2 => exact ⟨carries.1, carries.2, carries.3, carries.4, carries.5, carries.6⟩
      case h_3 other => cases next.symm.trans other
  | case4 w working b rest next inductionHypothesis =>
      obtain ⟨more, handled⟩ := carries.handle (Bool.eq_false_iff.mpr working)
        (takeFrame_eq_some.mpr next)
      obtain ⟨frames, out, carries⟩ := inductionHypothesis handled
      refine ⟨frames, out, ?_⟩
      rw [Wsp.recvFrames, if_neg working]
      split
      case h_1 other => cases next.symm.trans other
      case h_2 other => cases next.symm.trans other
      case h_3 other =>
        obtain ⟨rfl, rfl⟩ := Prod.mk.inj (Except.ok.inj (next.symm.trans other))
        exact carries

theorem Pipe.Carries.sendFrames
    (carries : Pipe.Carries { p with wsp := w } frames out) :
    ∃ out, Pipe.Carries { p with wsp := w.sendFrames } frames out := by
  induction w using Wsp.sendFrames.induct generalizing out with
  | case1 w done =>
      rw [Wsp.sendFrames, if_pos done]
      exact ⟨_, carries⟩
  | case2 w more inductionHypothesis =>
      rw [Wsp.sendFrames, if_neg more]
      have piece : (w.appSendFifo.peekFifo w.fragmentSize).length ≤
          WS_SEND_SINGLE_FRAGMENT_SIZE := by
        simp only [peekFifo, List.length_take, Wsp.fragmentSize]
        omega
      have parts := w.appSendFifo.peekFifo_append_readFifo w.fragmentSize
      generalize w.appSendFifo.peekFifo w.fragmentSize = data at *
      have appData : Frame.appData ⟨WS_OPCODE_BIN, data⟩ = data := by
        simp [Frame.appData]
      apply @inductionHypothesis (out ++ [⟨WS_OPCODE_BIN, data⟩])
      unfold Wsp.wspTrySendFrame
      rw [if_neg (not_or.mp more).1]
      refine ⟨carries.received, carries.read, ?_, ?_, ?_, ?_⟩
      · rw [List.flatMap_append, ← carries.sent]
        simp
      · rw [List.flatMap_append, carries.written, ← parts]
        simp [appData]
      · have noPong : [(⟨WS_OPCODE_BIN, data⟩ : Frame)].filter
            (fun f => f.opcode = WS_OPCODE_PONG) = [] := rfl
        rw [List.filter_append, noPong, List.append_nil]
        exact carries.answers
      · intro f listed
        obtain before | new := List.mem_append.mp listed
        · exact carries.pieces f before
        · rw [List.mem_singleton.mp new]
          exact .inr ⟨rfl, piece⟩

theorem Pipe.Carries.next
    (carries : p.Carries frames out)
    (e : Event) :
    ∃ frames out, (p.next e).Carries frames out := by
  cases e with
  | recv data =>
      exact ⟨frames, out, carries.received.append steady_takeFrame data, carries.read, carries.sent,
        carries.written, carries.answers, carries.pieces⟩
  | wspTry =>
      obtain ⟨frames, out, taken⟩ := @Pipe.Carries.recvFrames p p.wsp frames out carries
      obtain ⟨out, made⟩ := @Pipe.Carries.sendFrames p _ frames out taken
      exact ⟨frames, out, made⟩
  | send size =>
      refine ⟨frames, out, carries.received, carries.read, ?_, carries.written, carries.answers,
        carries.pieces⟩
      rw [← carries.sent, ← p.wsp.physicalSendFifo.peekFifo_append_readFifo size]
      exact List.append_assoc _ _ _
  | write data =>
      refine ⟨frames, out, carries.received, carries.read, carries.sent, ?_, carries.answers,
        carries.pieces⟩
      exact (congrArg (· ++ data) carries.written).trans (List.append_assoc _ _ _)
  | read size =>
      refine ⟨frames, out, carries.received, ?_, carries.sent, carries.written, carries.answers,
        carries.pieces⟩
      rw [← carries.read, ← p.wsp.appRecvFifo.peekFifo_append_readFifo size]
      exact List.append_assoc _ _ _

theorem Pipe.Carries.decodes
    (carries : p.Carries frames out)
    (pings : ∀ f ∈ frames, f.opcode = WS_OPCODE_PING → f.data.length < 65536) :
    Decodings takeFrame (p.sent ++ p.wsp.physicalSendFifo.contents) out [] := by
  rw [carries.sent]
  apply Decodings.flatMap
  intro f listed
  obtain isPong | ⟨isBin, piece⟩ := carries.pieces f listed
  · have answered := carries.answers.subset
      (List.mem_filter.mpr ⟨listed, decide_eq_true isPong⟩)
    obtain ⟨ping, received, answer⟩ := List.mem_filterMap.mp answered
    unfold Frame.answer at answer
    split at answer
    case isTrue isPing =>
      obtain rfl := Option.some.inj answer
      exact decodes_bytes (.inr rfl) (pings ping received isPing)
    case isFalse => cases answer
  · exact decodes_bytes (.inl isBin) (Nat.lt_of_le_of_lt piece (by decide))

end

end WebSocket
end SoftEther
