import SoftEther.Cedar.Sstp.Server
import SoftEther.Library.Decoders
import SoftEther.Library.Runs

/-!
# The stream of an SSTP connection

`ProcessSstpHttps`.  The bytes come out of an SSL connection as they like; the loop over the
receive FIFO cuts them into packets by the lengths in their headers.  A header that is no header
is recognised, but the loop is left before the connection is marked.
-/

namespace SoftEther
namespace Sstp

open Library
open Fifo

/-! ## The loops -/

/-- `ok` and `read_size`, for what lies at the head of the receive FIFO. -/
def readHead (recvFifo : Fifo UInt8) : Bool × Nat :=
  let first4 := recvFifo.peekFifo 4
  if first4.head? = some SSTP_VERSION_1 then
    let len := fromBigEndian (first4.drop 2) &&& 0xFFF
    if 4 ≤ len then (true, if len ≤ recvFifo.fifoSize then len else 0) else (false, 0)
  else (false, 0)

/-- What the loop over the receive FIFO leaves: the FIFO, the blocks that it has inserted into
`RecvQueue`, and whether it has set `is_disconnected`. -/
structure Taken where
  recvFifo : Fifo UInt8
  blocks : List (List UInt8) := []
  /-- `is_disconnected` has been set. -/
  badPacket : Bool := false
  deriving DecidableEq

/-- `while (recv_fifo->size >= 4)`. -/
def takeBlocks (recvFifo : Fifo UInt8) : Taken :=
  if 4 ≤ recvFifo.fifoSize then
    if (readHead recvFifo).2 = 0 then { recvFifo := recvFifo }
    else
      let block := recvFifo.peekFifo (readHead recvFifo).2
      let rest := recvFifo.readFifo (readHead recvFifo).2
      -- The block has been inserted where the size was set, before `ok` is looked at.
      if (readHead recvFifo).1 = false then
        { recvFifo := rest, blocks := [block], badPacket := true }
      else
        let later := takeBlocks (recvFifo.readFifo (readHead recvFifo).2)
        { later with blocks := block :: later.blocks }
  else { recvFifo := recvFifo }
termination_by recvFifo.fifoSize
decreasing_by
  simp only [fifoSize, contents_readFifo, List.length_drop] at *
  omega

/-- What `Send` returns: it is disconnected, it can send nothing now, or it has sent some
bytes. -/
inductive SendResult where
  | disconnected
  | later
  | sent (size : Nat)
  deriving DecidableEq

/-- `while (send_fifo->size != 0)`: the FIFO, and whether the connection is disconnected. -/
def sendBytes : List SendResult → Fifo UInt8 → Fifo UInt8 × Bool
  | [], sendFifo => (sendFifo, false)
  | result :: results, sendFifo =>
      if sendFifo.fifoSize = 0 then (sendFifo, false)
      else
        match result with
        | .disconnected => (sendFifo, true)
        | .later => (sendFifo, false)
        | .sent size => sendBytes results (sendFifo.readFifo size)

/-- The blocks that the server has queued go into the send FIFO, unless it is full of data. -/
def queueSend (sendQueue : List Block) (sendFifo : Fifo UInt8) : Fifo UInt8 :=
  sendQueue.foldl (fun sendFifo b =>
    if b.priorityQoS ∨ sendFifo.fifoSize ≤ MAX_BUFFERING_PACKET_SIZE then
      sendFifo.writeFifo b.buf
    else sendFifo) sendFifo

/-- What a round of `ProcessSstpHttps` meets. -/
structure Round where
  /-- What `Recv` returns, one reception after another. -/
  receptions : List (List UInt8) := []
  /-- The last `Recv` has returned 0, not `SOCK_LATER`. -/
  closed : Bool := false
  /-- `Tick64`. -/
  tick : Nat
  /-- `Rand`. -/
  nonce : List UInt8 := []
  /-- What the server meets behind the packets. -/
  around : Surroundings := {}
  /-- What `Send` returns. -/
  sends : List SendResult := []
  deriving DecidableEq

/-- `ProcessSstpHttps`: its variables, and what it has received and queued so far. -/
structure Https where
  recvFifo : Fifo UInt8 := newFifo
  sendFifo : Fifo UInt8 := newFifo
  sstp : Server
  isDisconnected : Bool := false
  /-- `is_disconnected` has been set because of a bad packet. -/
  badPacket : Bool := false
  received : List UInt8 := []
  /-- All blocks that have been inserted into `RecvQueue`. -/
  queued : List (List UInt8) := []
  deriving DecidableEq

/-- `ProcessSstpHttps` before its loop. -/
def newHttps (tick : Nat) : Https :=
  { sstp := newSstpServer tick }

/-- A round of `ProcessSstpHttps`; there is none when the connection is disconnected. -/
def processRound (h : Https) (r : Round) : Option Https :=
  if h.isDisconnected then none
  else
    let recvFifo := r.receptions.foldl (fun fifo bytes => fifo.writeFifo bytes) h.recvFifo
    let taken := takeBlocks recvFifo
    let sstp := sstpProcessInterrupt r.tick r.nonce r.around
      { h.sstp with recvQueue := h.sstp.recvQueue ++ taken.blocks }
    let sendFifo := queueSend sstp.sendQueue h.sendFifo
    let (sendFifo, sendFailed) := sendBytes r.sends sendFifo
    some
      { recvFifo := taken.recvFifo
        sendFifo := sendFifo
        sstp := { sstp with sendQueue := [] }
        isDisconnected := r.closed || taken.badPacket || sstp.disconnected || sendFailed
        badPacket := taken.badPacket
        received := h.received ++ r.receptions.flatten
        queued := h.queued ++ taken.blocks }

/-- The version at the head of the bytes is 1.0, and the length is that of a header at least. -/
def ValidHeader (bytes : List UInt8) : Prop :=
  bytes.head? = some SSTP_VERSION_1 ∧ 4 ≤ announcedNumber bytes &&& 0xFFF

instance (bytes : List UInt8) : Decidable (ValidHeader bytes) :=
  inferInstanceAs (Decidable (_ ∧ _))

/-- A header has come in that is none. -/
def BadHeader (bytes : List UInt8) : Prop :=
  4 ≤ bytes.length ∧ ¬ValidHeader bytes

/-- A packet off the front of the bytes, as long as its header says. -/
def takePacket : PrefixDecoder UInt8 (List UInt8) := fun bytes =>
  let len := announcedNumber bytes &&& 0xFFF
  if 4 ≤ bytes.length ∧ ValidHeader bytes ∧ len ≤ bytes.length then
    some (bytes.take len, bytes.drop len)
  else none

variable {bytes : List UInt8} {recvFifo : Fifo UInt8}

theorem takePacket_of_badHeader
    (bad : BadHeader bytes) :
    takePacket bytes = none :=
  if_neg fun whole => bad.2 whole.2.1

theorem header_append
    (enough : 4 ≤ bytes.length)
    (more : List UInt8) :
    (bytes ++ more).head? = bytes.head? ∧
      announcedNumber (bytes ++ more) = announcedNumber bytes := by
  obtain ⟨first, second, third, fourth, rest, rfl⟩ := header_of_le enough
  exact ⟨rfl, rfl⟩

theorem validHeader_append
    (enough : 4 ≤ bytes.length)
    (more : List UInt8) :
    ValidHeader (bytes ++ more) ↔ ValidHeader bytes := by
  unfold ValidHeader
  rw [(header_append enough more).1, (header_append enough more).2]

theorem steady_takePacket : Steady takePacket := by
  intro bytes block rest more taken
  unfold takePacket at taken ⊢
  dsimp only at taken ⊢
  split at taken
  · rename_i whole
    obtain ⟨enough, valid, inside⟩ := whole
    obtain ⟨rfl, rfl⟩ := Prod.mk.inj (Option.some.inj taken)
    rw [(header_append enough more).2, List.take_append_of_le_length inside,
      List.drop_append_of_le_length inside]
    apply if_pos
    rw [validHeader_append enough, List.length_append]
    exact ⟨by omega, valid, by omega⟩
  · exact nomatch taken

theorem readHead_eq
    (enough : 4 ≤ recvFifo.fifoSize) :
    readHead recvFifo =
      if ValidHeader recvFifo.contents then
        (true, if announcedNumber recvFifo.contents &&& 0xFFF ≤ recvFifo.fifoSize then
          announcedNumber recvFifo.contents &&& 0xFFF else 0)
      else (false, 0) := by
  obtain ⟨first, second, third, fourth, rest, bytes⟩ := header_of_le enough
  have head : recvFifo.peekFifo 4 = [first, second, third, fourth] := by
    unfold peekFifo
    rw [bytes]
    rfl
  have number : announcedNumber recvFifo.contents = fromBigEndian [third, fourth] := by
    rw [bytes]
    rfl
  have valid : ValidHeader recvFifo.contents ↔
      some first = some SSTP_VERSION_1 ∧ 4 ≤ fromBigEndian [third, fourth] &&& 0xFFF := by
    unfold ValidHeader
    rw [number, bytes]
    rfl
  unfold readHead
  rw [head, number]
  by_cases isVersion : some first = some SSTP_VERSION_1
  · by_cases long : 4 ≤ fromBigEndian [third, fourth] &&& 0xFFF
    · rw [if_pos (valid.mpr ⟨isVersion, long⟩)]
      exact (if_pos isVersion).trans (if_pos long)
    · rw [if_neg fun both => long (valid.mp both).2]
      exact (if_pos isVersion).trans (if_neg long)
  · rw [if_neg fun both => isVersion (valid.mp both).1]
    exact if_neg isVersion

theorem takePacket_eq_none
    (enough : 4 ≤ recvFifo.fifoSize)
    (nothing : (readHead recvFifo).2 = 0) :
    takePacket recvFifo.contents = none := by
  rw [readHead_eq enough] at nothing
  apply if_neg
  rintro ⟨_, valid, inside⟩
  rw [if_pos valid] at nothing
  dsimp only at nothing
  have long := valid.2
  rw [fifoSize_eq, if_pos inside] at nothing
  omega

theorem takePacket_eq_some
    (enough : 4 ≤ recvFifo.fifoSize)
    (something : (readHead recvFifo).2 ≠ 0) :
    (readHead recvFifo).1 = true ∧
      takePacket recvFifo.contents = some (recvFifo.peekFifo (readHead recvFifo).2,
        (recvFifo.readFifo (readHead recvFifo).2).contents) := by
  rw [readHead_eq enough] at something ⊢
  by_cases valid : ValidHeader recvFifo.contents
  · rw [if_pos valid] at something ⊢
    dsimp only at something ⊢
    by_cases inside : announcedNumber recvFifo.contents &&& 0xFFF ≤ recvFifo.fifoSize
    · rw [if_pos inside]
      exact ⟨rfl, if_pos ⟨enough, valid, inside⟩⟩
    · rw [if_neg inside] at something
      exact absurd rfl something
  · rw [if_neg valid] at something
    exact absurd rfl something

theorem takeBlocks_takes (recvFifo : Fifo UInt8) :
    Decodings takePacket recvFifo.contents (takeBlocks recvFifo).blocks
        (takeBlocks recvFifo).recvFifo.contents ∧
      takePacket (takeBlocks recvFifo).recvFifo.contents = none ∧
      (takeBlocks recvFifo).badPacket = false := by
  induction recvFifo using takeBlocks.induct with
  | case1 recvFifo enough nothing =>
      rw [takeBlocks, if_pos enough, if_pos nothing]
      exact ⟨.nil _, takePacket_eq_none enough nothing, rfl⟩
  | case2 recvFifo enough something notOk =>
      have ok := (takePacket_eq_some enough something).1
      exact absurd (ok.symm.trans notOk) (by simp)
  | case3 recvFifo enough something ok inductionHypothesis =>
      obtain ⟨later, rests, unmarked⟩ := inductionHypothesis
      rw [takeBlocks, if_pos enough, if_neg something]
      dsimp only
      rw [if_neg ok]
      exact ⟨.cons (takePacket_eq_some enough something).2 later, rests, unmarked⟩
  | case4 recvFifo short =>
      rw [takeBlocks, if_neg short]
      exact ⟨.nil _, if_neg fun whole => short whole.1, rfl⟩

/-! ## Every run -/

/-- The blocks that have been queued are the packets of what has been received, up to the last
whole packet; and when a bad header lies at the head of the receive FIFO, the connection has
been marked. -/
structure Https.Framed (h : Https) : Prop where
  packets : Decodings takePacket h.received h.queued h.recvFifo.contents
  complete : takePacket h.recvFifo.contents = none
  marked : BadHeader h.recvFifo.contents → h.badPacket = true

/-- Behind some packets of the stream a bad header comes in. -/
def MeetsBadHeader (stream : List UInt8) : Prop :=
  ∃ blocks rest, Decodings takePacket stream blocks rest ∧ BadHeader rest

/-- What every state of a run has. -/
structure Https.Cut (h : Https) : Prop where
  packets : Decodings takePacket h.received h.queued h.recvFifo.contents
  complete : takePacket h.recvFifo.contents = none
  /-- There is no mark. -/
  unmarked : h.badPacket = false

theorem cut_newHttps (tick : Nat) : (newHttps tick).Cut :=
  ⟨.nil _, rfl, rfl⟩

theorem contents_receptions (receptions : List (List UInt8)) (recvFifo : Fifo UInt8) :
    (receptions.foldl (fun fifo bytes => fifo.writeFifo bytes) recvFifo).contents =
      recvFifo.contents ++ receptions.flatten := by
  induction receptions generalizing recvFifo with
  | nil => simp
  | cons bytes rest inductionHypothesis =>
      rw [List.foldl_cons, inductionHypothesis, contents_writeFifo, List.flatten_cons,
        List.append_assoc]

theorem Https.Cut.processRound
    {h after : Https}
    {r : Round}
    (cut : h.Cut)
    (stepped : processRound h r = some after) :
    after.Cut := by
  unfold Sstp.processRound at stepped
  split at stepped
  · exact nomatch stepped
  · have taken := takeBlocks_takes
      (r.receptions.foldl (fun fifo bytes => fifo.writeFifo bytes) h.recvFifo)
    rw [contents_receptions] at taken
    obtain ⟨later, rests, unmarked⟩ := taken
    have early := cut.packets.append steady_takePacket r.receptions.flatten
    rw [← Option.some.inj stepped]
    exact ⟨early.trans later, rests, unmarked⟩

theorem cut_of_reaches
    {tick : Nat}
    {h : Https}
    (reached : Reaches processRound (fun _ _ => True) (newHttps tick) h) :
    h.Cut :=
  reached.invariant Https.Cut (cut_newHttps tick) fun _ _ _ cut _ stepped =>
    cut.processRound stepped

/-- **The framing.**  However the stream is cut into receptions, the packets are queued as they
are delimited and a bad header marks the connection, exactly when no bad header comes in. -/
theorem processSstpHttps_framed_iff
    {tick : Nat}
    {h : Https}
    (reached : Reaches processRound (fun _ _ => True) (newHttps tick) h) :
    h.Framed ↔ ¬MeetsBadHeader h.received := by
  have cut := cut_of_reaches reached
  constructor
  · rintro framed ⟨blocks, rest, decodings, bad⟩
    obtain ⟨late, _, left⟩ := decodings.prefix_of_none cut.packets cut.complete
    have same := (left.of_none (takePacket_of_badHeader bad)).2
    have marked := framed.marked (same ▸ bad)
    exact absurd (cut.unmarked.symm.trans marked) (by simp)
  · intro never
    exact ⟨cut.packets, cut.complete, fun bad => absurd ⟨_, _, cut.packets, bad⟩ never⟩

def afterRound (r : Round) : Https :=
  (processRound (newHttps 0) r).getD (newHttps 0)

theorem afterRound_reached (r : Round) :
    Reaches processRound (fun _ _ => True) (newHttps 0) (afterRound r) :=
  .next .start trivial rfl

/-- A connection request that comes in two receptions. -/
theorem processSstpHttps_framed_iff_request :
    (afterRound ⟨[[0x10, 1, 0, 14, 0, 1], [0, 1, 0, 1, 0, 6, 0, 1]], false, 0, [], {}, []⟩).Framed ↔
      ¬MeetsBadHeader (afterRound
        ⟨[[0x10, 1, 0, 14, 0, 1], [0, 1, 0, 1, 0, 6, 0, 1]], false, 0, [], {}, []⟩).received :=
  processSstpHttps_framed_iff (afterRound_reached _)

/-- A request to a web server is buffered, and marks nothing. -/
theorem webRequest_unmarked :
    ¬∀ (tick : Nat) (h : Https),
      Reaches processRound (fun _ _ => True) (newHttps tick) h → h.Framed := by
  intro all
  have reached := afterRound_reached ⟨[[71, 69, 84, 32]], false, 0, [], {}, []⟩
  have cut := cut_of_reaches reached
  have framed := all 0 _ reached
  have bad : BadHeader [71, 69, 84, 32] := by
    unfold BadHeader
    decide
  have packets : Decodings takePacket [71, 69, 84, 32] _ _ := cut.packets
  have same := (packets.of_none (takePacket_of_badHeader bad)).2
  have atHead : BadHeader
      (afterRound ⟨[[71, 69, 84, 32]], false, 0, [], {}, []⟩).recvFifo.contents := by
    rw [same]
    exact bad
  have marked := framed.marked atHead
  exact absurd (cut.unmarked.symm.trans marked) (by simp)

end Sstp
end SoftEther
