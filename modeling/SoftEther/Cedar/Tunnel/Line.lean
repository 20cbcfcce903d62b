import SoftEther.Cedar.Tunnel.Receptions
import SoftEther.Library.Runs

/-!
# Lines

A line is one TCP connection of a session, from the queues of the sender to the queue of
the receiver.  Blocks are put into the queues, the queues are sent in batches, keep-alive
packets are sent in between, and the bytes are handed out in any pieces.
-/

namespace SoftEther
namespace Tunnel

open Library

section

variable (settings : Settings)
variable (zlib : Zlib)
variable (session : Session)

/-! ## The two ends of a connection -/

/-- The data of a block that is put into a queue. -/
structure Packet where
  /-- The bytes. -/
  data : List UInt8
  /-- There are some. -/
  nonempty : 0 < data.length
  fits : data.length ≤ MAX_PACKET_SIZE

/-- The block that `SessionMain` makes of a packet. -/
def Packet.block (packet : Packet) : Block :=
  newBlock zlib packet.data (if session.useCompress then .compress else .none)

/-- The two ends of a TCP connection, with what the sender has written to it and what the
receiver has made of it. -/
structure Line where
  /-- `SendBlocks` of the sender. -/
  sendBlocks : List Packet := []
  /-- `SendBlocks2` of the sender. -/
  sendBlocks2 : List Packet := []
  sender : TcpSock
  /-- The bytes between the sockets. -/
  wire : List UInt8 := []
  receiver : Option TcpSock
  /-- The packets whose blocks have been written to the socket of the sender. -/
  sent : List Packet := []
  /-- The blocks that the receiver has put into `ReceivedBlocks`. -/
  received : List Block := []
  /-- The number of blocks that there was no room for. -/
  refused : Nat := 0

/-- Where the blocks of a queue go. -/
inductive Selected where
  /-- They stay, when there is no socket. -/
  | nowhere
  /-- To this socket. -/
  | here
  /-- To another socket, or to the UDP acceleration. -/
  | elsewhere
  deriving DecidableEq

inductive LineEvent where
  /-- `SessionMain` puts a block into a queue. -/
  | put (priority : Bool) (packet : Packet)
  /-- `SendKeepAlive`. -/
  | keepAlive (random : List UInt8) (nattPort : Option UInt16)
  /-- `ConnectionSend`. -/
  | send (forSendBlocks2 forSendBlocks : Selected)
  /-- Bytes of the `SendFifo` go to the network. -/
  | flush (size : Nat)
  /-- `ConnectionReceive`, with the server and the queue that it meets. -/
  | receive (counts : List Nat) (closed timedOut : Bool) (cedar : Cedar)
      (receivedBlocks : List Block) (lastRecvBlocksNum : UInt32)

/-- The blocks of a queue are written to the socket of the sender, or are released. -/
def Line.sendPackets (line : Line) (queue : List Packet) : Line :=
  { line with
    sender := sendQueue session line.sender (queue.map (Packet.block zlib session))
    sent :=
      if session.sizeQuota ≤ line.sender.sendFifo.fifoSize then line.sent
      else line.sent ++ queue }

/-- One of the two queues, in `ConnectionSend`. -/
def Line.sendFrom (line : Line) (selected : Selected) (queue : List Packet) :
    Line × List Packet :=
  match selected with
  | .nowhere => (line, queue)
  | .here => (line.sendPackets zlib session queue, [])
  | .elsewhere => (line, [])

/-- A line takes a step; nothing when a reception does not end. -/
def Line.step (line : Line) : LineEvent → Option Line
  | .put priority packet =>
      if priority && session.qos then
        if settings.maxStoredQueueNum < line.sendBlocks2.length then some line
        else some { line with sendBlocks2 := line.sendBlocks2 ++ [packet] }
      else if settings.maxStoredQueueNum < line.sendBlocks.length then some line
      else some { line with sendBlocks := line.sendBlocks ++ [packet] }
  | .keepAlive random nattPort =>
      some { line with sender := sendKeepAlive line.sender random nattPort }
  | .send forSendBlocks2 forSendBlocks =>
      let (line, sendBlocks2) :=
        line.sendFrom zlib session forSendBlocks2 line.sendBlocks2
      let (line, sendBlocks) := line.sendFrom zlib session forSendBlocks line.sendBlocks
      some { line with sendBlocks2 := sendBlocks2, sendBlocks := sendBlocks }
  | .flush size =>
      some
        { line with
          wire := line.wire ++ line.sender.sendFifo.peekFifo size
          sender := { line.sender with sendFifo := line.sender.sendFifo.readFifo size } }
  | .receive counts closed timedOut cedar receivedBlocks lastRecvBlocksNum =>
      match line.receiver with
      | none => some line
      | some ts =>
          let incoming : Incoming :=
            { bytes := line.wire, counts := counts, closed := closed, timedOut := timedOut }
          match receiveSocket settings zlib session incoming ts
              { cedar := cedar
                receivedBlocks := receivedBlocks
                lastRecvBlocksNum := lastRecvBlocksNum } with
          | none => none
          | some received =>
              some
                { line with
                  wire := received.bytes
                  receiver := received.sock
                  received := line.received ++ received.reception.inserted
                  refused := line.refused + received.reception.refused }

/-- A connection that has been set up: the sender has the key of the receiver. -/
def Line.new (key : Option CipherStream) : Line where
  sender := { sendKey := key }
  receiver := some { recvKey := key }

/-- Plain bytes have been written to the `SendFifo` of a socket. -/
structure TcpSock.Wrote (before after : TcpSock) (data : List UInt8) : Prop where
  contents : after.sendFifo.contents =
    before.sendFifo.contents ++ (encryptWith before.sendKey data).1
  key : after.sendKey = (encryptWith before.sendKey data).2

theorem TcpSock.wrote_writeSendFifo (ts : TcpSock) (data : List UInt8) :
    ts.Wrote (ts.writeSendFifo data) data :=
  ⟨rfl, rfl⟩

theorem TcpSock.Wrote.trans
    {before middle after : TcpSock}
    {early late : List UInt8}
    (first : before.Wrote middle early)
    (second : middle.Wrote after late) :
    before.Wrote after (early ++ late) where
  contents := by
    rw [second.contents, first.contents, first.key, encryptWith_append, List.append_assoc]
  key := by rw [second.key, first.key, encryptWith_append]

theorem wrote_writeBlock (ts : TcpSock) (block : Block) :
    ts.Wrote (writeBlock ts block) (blockBytes block) :=
  (ts.wrote_writeSendFifo _).trans (TcpSock.wrote_writeSendFifo _ _)

theorem wrote_writeBlocks (ts : TcpSock) (queue : List Block) :
    ts.Wrote (writeBlocks ts queue) (batchBytes queue) := by
  have blocks : ∀ (queue : List Block) (middle : TcpSock),
      middle.Wrote (queue.foldl writeBlock middle) (queue.flatMap blockBytes) := by
    intro queue
    induction queue with
    | nil =>
        intro middle
        constructor
        · cases key : middle.sendKey <;> simp [encryptWith, CipherStream.encrypt]
        · cases key : middle.sendKey <;> simp [encryptWith, key, CipherStream.encrypt]
    | cons block queue inductionHypothesis =>
        intro middle
        exact (wrote_writeBlock middle block).trans (inductionHypothesis _)
  exact (ts.wrote_writeSendFifo _).trans (blocks queue _)

theorem exists_wrote_sendKeepAlive
    (ts : TcpSock)
    (random : List UInt8)
    (nattPort : Option UInt16) :
    ∃ buf : List UInt8, buf.length ≤ MAX_KEEPALIVE_SIZE ∧
      ts.Wrote (sendKeepAlive ts random nattPort) (keepAliveBytes buf) := by
  have short : (random.take (random.length % MAX_KEEPALIVE_SIZE)).length ≤ MAX_KEEPALIVE_SIZE :=
    Nat.le_trans (List.length_take_le _ _) (Nat.le_of_lt (Nat.mod_lt _ (by decide)))
  have writes : ∀ buf : List UInt8,
      ts.Wrote
        (((ts.writeSendFifo (writeBufInt KEEP_ALIVE_MAGIC)).writeSendFifo
          (writeBufInt (UInt32.ofNat buf.length))).writeSendFifo buf)
        (keepAliveBytes buf) :=
    fun buf => (ts.wrote_writeSendFifo _).trans
      ((TcpSock.wrote_writeSendFifo _ _).trans (TcpSock.wrote_writeSendFifo _ _))
  cases nattPort with
  | none => exact ⟨_, short, writes _⟩
  | some myport =>
      refine ⟨_, ?_, writes _⟩
      have signature : UDP_NAT_T_PORT_SIGNATURE_IN_KEEP_ALIVE.length = 12 := by decide
      have whole : MAX_KEEPALIVE_SIZE = 512 := rfl
      rw [List.length_append, List.length_append, length_bigEndian, List.length_drop, signature]
      omega

/-! ## What is on the way -/

/-- The compression is without loss, for the data of packets; nothing is what comes of
nothing. -/
structure Zlib.Lossless (zlib : Zlib) : Prop where
  uncompress_compress : ∀ data : List UInt8, 0 < data.length → data.length ≤ MAX_PACKET_SIZE →
    zlib.uncompress MAX_PACKET_SIZE (zlib.compress (calcCompress data.length) data) = data
  length_compress : ∀ data : List UInt8, 0 < data.length → data.length ≤ MAX_PACKET_SIZE →
    (zlib.compress (calcCompress data.length) data).length ≤ MAX_PACKET_SIZE * 2
  uncompress_nil : zlib.uncompress MAX_PACKET_SIZE [] = []

variable {zlib session}

theorem Packet.buf_blockOf
    (lossless : session.useCompress = true → zlib.Lossless)
    (packet : Packet) :
    (blockOf zlib session (packet.block zlib session).buf).buf = packet.data := by
  unfold blockOf Packet.block
  cases useCompress : session.useCompress with
  | true => exact (lossless useCompress).uncompress_compress _ packet.nonempty packet.fits
  | false => exact rfl

theorem Packet.length_buf
    (lossless : session.useCompress = true → zlib.Lossless)
    (packet : Packet) :
    0 < (packet.block zlib session).buf.length ∧
      (packet.block zlib session).buf.length ≤ MAX_PACKET_SIZE * 2 := by
  have back := packet.buf_blockOf lossless
  unfold blockOf Packet.block at back
  unfold Packet.block
  cases useCompress : session.useCompress with
  | true =>
      rw [useCompress] at back
      refine ⟨?_, (lossless useCompress).length_compress _ packet.nonempty packet.fits⟩
      apply Nat.pos_of_ne_zero
      intro nothing
      have empty := List.length_eq_zero_iff.mp nothing
      rw [if_pos rfl] at empty back
      rw [empty] at back
      have lost : packet.data = [] := back.symm.trans (lossless useCompress).uncompress_nil
      exact absurd (congrArg List.length lost) (Nat.ne_of_gt packet.nonempty)
  | false =>
      refine ⟨packet.nonempty, Nat.le_trans packet.fits ?_⟩
      decide

variable (zlib session)

/-- The bytes on the way to a socket give the packets, and leave it between two batches. -/
structure TcpSock.Brings (ts : TcpSock) (bytes : List UInt8) (key : Option CipherStream)
    (packets : List Packet) : Prop where
  sound : ts.Sound
  carries : ∃ plain last, ts.Faces bytes plain key ∧ RecvState.AtStart last ∧
    recvDecoder.Steps ts.recv.awake (ts.recvFifo.contents ++ plain)
      (packets.map fun packet => (packet.block zlib session).buf) last []

/-- The packets that have been sent are those that have been received, and those on the
way. -/
structure Line.Framed (line : Line) : Prop where
  few : line.sendBlocks.length ≤ settings.maxStoredQueueNum + 1
  few2 : line.sendBlocks2.length ≤ settings.maxStoredQueueNum + 1
  framed : ∃ remaining : List Packet,
    (line.refused = 0 →
      line.received.map Block.buf ++ remaining.map Packet.data = line.sent.map Packet.data) ∧
    ∀ ts, line.receiver = some ts →
      ts.Brings zlib session (line.wire ++ line.sender.sendFifo.contents) line.sender.sendKey
        remaining

variable {settings zlib session}

theorem Line.framed_new (key : Option CipherStream) :
    (Line.new key).Framed settings zlib session where
  few := Nat.zero_le _
  few2 := Nat.zero_le _
  framed := by
    refine ⟨[], fun _ => rfl, ?_⟩
    intro ts same
    injection same with same
    rw [← same]
    refine ⟨TcpSock.sound_new key, [], _, ?_, ⟨rfl, rfl, rfl⟩, .refl _ _⟩
    cases key with
    | none => exact rfl
    | some stream => simp [TcpSock.Faces, encryptWith, CipherStream.encrypt, Line.new]

theorem TcpSock.Brings.append
    {ts sender after : TcpSock}
    {bytes data : List UInt8}
    {packets more : List Packet}
    (brings : ts.Brings zlib session (bytes ++ sender.sendFifo.contents) sender.sendKey packets)
    (wrote : sender.Wrote after data)
    (carries : Carries data (more.map fun packet => (packet.block zlib session).buf)) :
    ts.Brings zlib session (bytes ++ after.sendFifo.contents) after.sendKey
      (packets ++ more) := by
  obtain ⟨plain, last, faces, start, steps⟩ := brings.carries
  obtain ⟨next, nextStart, moreSteps⟩ := carries last start
  refine ⟨brings.sound, plain ++ data, next, ?_, nextStart, ?_⟩
  · rw [wrote.contents, wrote.key, ← List.append_assoc]
    exact faces.append data
  · rw [← List.append_assoc, List.map_append]
    exact (steps.append recvDecoder_sound brings.sound.1 data).trans moreSteps

theorem Line.Framed.write
    {line : Line}
    {sender : TcpSock}
    {data : List UInt8}
    {packets : List Packet}
    (framed : line.Framed settings zlib session)
    (wrote : line.sender.Wrote sender data)
    (carries : Carries data (packets.map fun packet => (packet.block zlib session).buf)) :
    ({ line with sender := sender, sent := line.sent ++ packets } : Line).Framed
      settings zlib session := by
  obtain ⟨few, few2, remaining, whole, brings⟩ := framed
  refine ⟨few, few2, remaining ++ packets, ?_, ?_⟩
  · intro room
    rw [List.map_append, List.map_append, ← List.append_assoc, whole room]
  · intro ts same
    exact (brings ts same).append wrote carries

/-! ## What a step keeps -/

theorem Line.Framed.sendPackets
    (lossless : session.useCompress = true → zlib.Lossless)
    {line : Line}
    {queue : List Packet}
    (framed : line.Framed settings zlib session)
    (few : queue.length ≤ settings.maxStoredQueueNum + 1) :
    (line.sendPackets zlib session queue).Framed settings zlib session := by
  unfold Line.sendPackets sendQueue
  by_cases full : session.sizeQuota ≤ line.sender.sendFifo.fifoSize
  · rw [if_pos full, if_pos full, ite_self]
    exact framed
  · rw [if_neg full, if_neg full]
    by_cases empty : queue = []
    · rw [empty, List.map_nil, if_pos rfl, List.append_nil]
      exact framed
    · rw [if_neg (by simpa using empty)]
      apply framed.write (wrote_writeBlocks line.sender _)
      have carries : Carries (batchBytes (queue.map (Packet.block zlib session)))
          ((queue.map (Packet.block zlib session)).map Block.buf) := by
        apply carries_batch
        · simpa using empty
        · rw [List.length_map]
          exact Nat.lt_of_le_of_lt few settings.fewStored
        · intro block listed
          obtain ⟨packet, _, rfl⟩ := List.mem_map.mp listed
          exact packet.length_buf lossless
      rwa [List.map_map] at carries

theorem Line.Framed.sendFrom
    (lossless : session.useCompress = true → zlib.Lossless)
    {line : Line}
    {queue : List Packet}
    (framed : line.Framed settings zlib session)
    (few : queue.length ≤ settings.maxStoredQueueNum + 1)
    (selected : Selected) :
    (line.sendFrom zlib session selected queue).1.Framed settings zlib session ∧
      (line.sendFrom zlib session selected queue).2.length ≤ settings.maxStoredQueueNum + 1 ∧
      (line.sendFrom zlib session selected queue).1.sendBlocks = line.sendBlocks ∧
      (line.sendFrom zlib session selected queue).1.receiver = line.receiver := by
  cases selected with
  | nowhere => exact ⟨framed, few, rfl, rfl⟩
  | here => exact ⟨framed.sendPackets lossless few, Nat.zero_le _, rfl, rfl⟩
  | elsewhere => exact ⟨framed, Nat.zero_le _, rfl, rfl⟩

theorem TcpSock.Brings.connected
    {ts : TcpSock}
    {bytes : List UInt8}
    {key : Option CipherStream}
    {packets : List Packet}
    (brings : ts.Brings zlib session bytes key packets) :
    ts.recv.disconnected = false := by
  obtain ⟨_, _, _, start, steps⟩ := brings.carries
  have connected := recvDecoder_disconnected steps start.disconnected
  unfold RecvState.awake at connected
  split at connected <;> exact connected

theorem map_buf_blockOf
    (lossless : session.useCompress = true → zlib.Lossless)
    (packets : List Packet) :
    (((packets.map fun packet => (packet.block zlib session).buf).map
      (blockOf zlib session)).map Block.buf) = packets.map Packet.data := by
  rw [List.map_map, List.map_map]
  apply List.map_congr_left
  intro packet _
  exact packet.buf_blockOf lossless

theorem TcpSock.Brings.receive
    (lossless : session.useCompress = true → zlib.Lossless)
    {ts : TcpSock}
    {incoming : Incoming}
    {tail : List UInt8}
    {key : Option CipherStream}
    {packets : List Packet}
    (brings : ts.Brings zlib session (incoming.bytes ++ tail) key packets)
    {reception : Reception}
    (nothing : reception.inserted = []) (none : reception.refused = 0) :
    ∃ received, receiveSocket settings zlib session incoming ts reception = some received ∧
      ∃ first remaining, packets = first ++ remaining ∧
        (received.reception.refused = 0 →
          received.reception.inserted.map Block.buf = first.map Packet.data) ∧
        (∀ left, received.sock = some left →
          left.Brings zlib session (received.bytes ++ tail) key remaining) ∧
        (incoming.closed = false → incoming.timedOut = false →
          received.sock.isSome = true) := by
  obtain ⟨plain, last, faces, start, steps⟩ := brings.carries
  obtain ⟨received, ended, outcome⟩ :=
    receiveSocket_eq_some settings zlib session reception brings.sound faces
  refine ⟨received, ended, ?_⟩
  rcases outcome with ⟨released, inserted, _, why⟩ |
    ⟨processed, left, bodies, early, kept, sound, after, same, inserted, refused, ran⟩
  · refine ⟨[], packets, rfl, fun _ => ?_, ?_, ?_⟩
    · rw [inserted, nothing, List.map_nil, List.map_nil]
    · intro left same
      rw [released] at same
      exact nomatch same
    · intro isOpen inTime
      exact absurd (why isOpen inTime) (by simp [brings.connected])
  · obtain ⟨others, whole, later⟩ := ran.prefix_of_rests steps start.rests
    obtain ⟨first, remaining, cut, rfl, rfl⟩ := List.map_eq_append_iff.mp whole
    refine ⟨first, remaining, cut, ?_, ?_, ?_⟩
    · intro room
      rw [same] at room ⊢
      have fit : ∀ block ∈ (first.map fun packet => (packet.block zlib session).buf).map
          (blockOf zlib session), block.buf.length ≤ MAX_PACKET_SIZE := by
        intro block listed
        rw [List.map_map] at listed
        obtain ⟨packet, _, rfl⟩ := List.mem_map.mp listed
        rw [Function.comp_apply, packet.buf_blockOf lossless]
        exact packet.fits
      rw [receiveBlocks_inserted settings fit (room.trans (refused.trans none).symm), inserted,
        nothing, List.nil_append, map_buf_blockOf lossless]
    · intro ts same
      rw [kept] at same
      injection same with same
      rw [← same]
      exact ⟨sound, left, last, after, start, later⟩
    · intro _ _
      rw [kept]
      rfl

/-- The event does not end the connection. -/
def LineEvent.KeepsOpen : LineEvent → Prop
  | .receive _ closed timedOut _ _ _ => closed = false ∧ timedOut = false
  | _ => True

theorem length_put
    {queue : List Packet}
    (packet : Packet)
    (room : ¬settings.maxStoredQueueNum < queue.length) :
    (queue ++ [packet]).length ≤ settings.maxStoredQueueNum + 1 := by
  rw [List.length_append, List.length_singleton]
  omega

theorem Line.Framed.step
    (lossless : session.useCompress = true → zlib.Lossless)
    {line : Line}
    (framed : line.Framed settings zlib session)
    (event : LineEvent) :
    ∃ after, line.step settings zlib session event = some after ∧
      after.Framed settings zlib session ∧
      (event.KeepsOpen → line.receiver.isSome = true → after.receiver.isSome = true) := by
  obtain ⟨few, few2, remaining, whole, brings⟩ := framed
  have framed : line.Framed settings zlib session := ⟨few, few2, remaining, whole, brings⟩
  cases event with
  | put priority packet =>
      unfold Line.step
      dsimp only
      split
      · split
        · exact ⟨line, rfl, framed, fun _ present => present⟩
        · rename_i room
          exact ⟨_, rfl, ⟨few, length_put packet room, remaining, whole, brings⟩,
            fun _ present => present⟩
      · split
        · exact ⟨line, rfl, framed, fun _ present => present⟩
        · rename_i room
          exact ⟨_, rfl, ⟨length_put packet room, few2, remaining, whole, brings⟩,
            fun _ present => present⟩
  | keepAlive random nattPort =>
      obtain ⟨buf, small, wrote⟩ := exists_wrote_sendKeepAlive line.sender random nattPort
      have after := @Line.Framed.write _ _ _ _ _ _ [] framed wrote (carries_keepAlive small)
      rw [List.append_nil] at after
      exact ⟨_, rfl, after, fun _ present => present⟩
  | send forSendBlocks2 forSendBlocks =>
      unfold Line.step
      dsimp only
      obtain ⟨first, firstFew, firstQueue, firstSame⟩ :=
        framed.sendFrom lossless few2 forSendBlocks2
      generalize line.sendFrom zlib session forSendBlocks2 line.sendBlocks2 = middle at *
      obtain ⟨middle, left2⟩ := middle
      have middleFew : middle.sendBlocks.length ≤ settings.maxStoredQueueNum + 1 := by
        rw [firstQueue]
        exact few
      obtain ⟨second, secondFew, _, secondSame⟩ :=
        first.sendFrom lossless middleFew forSendBlocks
      dsimp only at secondSame firstSame second ⊢
      refine ⟨_, rfl, ⟨secondFew, firstFew, second.framed⟩, ?_⟩
      intro _ present
      rw [secondSame, firstSame]
      exact present
  | flush size =>
      refine ⟨_, rfl, ⟨few, few2, remaining, whole, ?_⟩, fun _ present => present⟩
      intro ts same
      dsimp only
      rw [List.append_assoc, Fifo.peekFifo_append_readFifo]
      exact brings ts same
  | receive counts closed timedOut cedar receivedBlocks lastRecvBlocksNum =>
      unfold Line.step
      dsimp only
      cases receiver : line.receiver with
      | none =>
          refine ⟨line, rfl, framed, ?_⟩
          rw [receiver]
          exact fun _ present => present
      | some ts =>
          let incoming : Incoming :=
            { bytes := line.wire, counts := counts, closed := closed, timedOut := timedOut }
          let reception : Reception :=
            { cedar := cedar
              receivedBlocks := receivedBlocks
              lastRecvBlocksNum := lastRecvBlocksNum }
          have arrives : ts.Brings zlib session
              (incoming.bytes ++ line.sender.sendFifo.contents) line.sender.sendKey remaining :=
            brings ts receiver
          obtain ⟨received, ended, first, others, cut, inserted, left, present⟩ :=
            @TcpSock.Brings.receive settings zlib session lossless _ _ _ _ _ arrives reception
              rfl rfl
          dsimp only
          rw [ended]
          refine ⟨_, rfl, ⟨few, few2, others, ?_, left⟩, fun isOpen _ => ?_⟩
          · intro room
            dsimp only at room ⊢
            have before : line.refused = 0 := by omega
            have now : received.reception.refused = 0 := by omega
            rw [List.map_append, inserted now, List.append_assoc, ← List.map_append, ← cut,
              whole before]
          · exact present isOpen.1 isOpen.2

theorem Line.Framed.run
    (lossless : session.useCompress = true → zlib.Lossless)
    {line : Line}
    (framed : line.Framed settings zlib session)
    (events : List LineEvent) :
    ∃ after, Library.run (Line.step settings zlib session) events line = some after ∧
      after.Framed settings zlib session ∧
      ((∀ event ∈ events, event.KeepsOpen) → line.receiver.isSome = true →
        after.receiver.isSome = true) := by
  induction events generalizing line with
  | nil => exact ⟨line, rfl, framed, fun _ present => present⟩
  | cons event events inductionHypothesis =>
      obtain ⟨middle, stepped, middleFramed, middlePresent⟩ := framed.step lossless event
      obtain ⟨after, ran, afterFramed, afterPresent⟩ := inductionHypothesis middleFramed
      unfold Library.run
      rw [stepped]
      refine ⟨after, ran, afterFramed, fun keepOpen present => afterPresent ?_ ?_⟩
      · exact fun later listed => keepOpen later (List.mem_cons_of_mem event listed)
      · exact middlePresent (keepOpen event List.mem_cons_self) present

/-- In every run, while there has been room, the receiver has put into its queue the data of
the first packets that were sent; a socket that is there has not been closed by the decoder,
and once no bytes are on the way it has them all; the socket goes only when the connection
ends.  On every byte stream the receptions end. -/
theorem blocks_received_in_order
    (settings : Settings)
    (lossless : session.useCompress = true → zlib.Lossless)
    (key : Option CipherStream) :
    (∀ events, ∃ line,
      Library.run (Line.step settings zlib session) events (Line.new key) = some line ∧
      (line.refused = 0 →
        line.received.map Block.buf <+: line.sent.map Packet.data ∧
        ∀ ts, line.receiver = some ts →
          line.wire = [] → line.sender.sendFifo.contents = [] →
            line.received.map Block.buf = line.sent.map Packet.data) ∧
      (∀ ts, line.receiver = some ts → ts.recv.disconnected = false) ∧
      ((∀ event ∈ events, event.KeepsOpen) → line.receiver.isSome = true)) ∧
    ∀ incoming : List (Incoming × Reception),
      (receptions settings zlib session incoming (some { recvKey := key })).isSome = true := by
  constructor
  · intro events
    obtain ⟨line, ran, ⟨_, _, remaining, whole, brings⟩, present⟩ :=
      (Line.framed_new key).run lossless events
    refine ⟨line, ran, fun room => ⟨⟨_, whole room⟩, ?_⟩, ?_, fun keepOpen => present keepOpen rfl⟩
    · intro ts receiver nothing sent
      have arrives := brings ts receiver
      obtain ⟨plain, last, faces, start, steps⟩ := arrives.carries
      rw [nothing, sent] at faces
      have none : plain = [] := by
        rw [← List.length_eq_zero_iff, ← length_encryptWith ts.recvKey plain, faces]
        rfl
      rw [none, List.append_nil] at steps
      have done := (steps.of_rests arrives.sound.2).1
      rw [← whole room, List.map_eq_nil_iff.mp done, List.map_nil, List.append_nil]
    · intro ts receiver
      exact (brings ts receiver).connected
  · intro incoming
    apply receptions_isSome
    intro ts same
    injection same with same
    rw [← same]
    exact TcpSock.sound_new key

/-- The checksum at the end of compressed data. -/
def adler32 (data : List UInt8) : Nat :=
  let (low, high) := data.foldl
    (fun (low, high) byte =>
      let low := (low + byte.toNat) % 65521
      (low, (high + low) % 65521))
    (1, 0)
  high * 65536 + low

/-- The compression library on data that it cannot make smaller: a header, one stored block
and the checksum. -/
def storedZlib : Zlib where
  compress := fun _ data =>
    [0x78, 0x9c, 0x01, UInt8.ofNat data.length, UInt8.ofNat (data.length / 256),
      UInt8.ofNat (65535 - data.length), UInt8.ofNat ((65535 - data.length) / 256)] ++ data ++
      bigEndian 4 (adler32 data)
  uncompress := fun dstSize data => (data.drop 7).take (min dstSize (data.length - 11))

theorem storedZlib_lossless : storedZlib.Lossless where
  uncompress_compress := by
    intro data _ fits
    have length : ∀ header : List UInt8, header.length = 7 →
        (header ++ data ++ bigEndian 4 (adler32 data)).length - 11 = data.length := by
      intro header seven
      rw [List.length_append, List.length_append, seven, length_bigEndian]
      omega
    unfold storedZlib
    dsimp only
    rw [length _ rfl, Nat.min_eq_right fits, List.append_assoc]
    exact List.take_left
  length_compress := by
    intro data _ fits
    have most : MAX_PACKET_SIZE = 1600 := rfl
    unfold storedZlib
    rw [List.length_append, List.length_append, length_bigEndian]
    dsimp only [List.length]
    omega
  uncompress_nil := by simp [storedZlib]

def compressingSession : Session :=
  { useCompress := true }

/-- A cipher stream that can be seen through. -/
def countingStream : CipherStream :=
  { bytes := fun position => UInt8.ofNat (7 * position + 3) }

/-- A keep-alive packet and a packet, of which some bytes come in at a time. -/
def packetInPieces : List LineEvent :=
  [.keepAlive [1, 2, 3] none,
    .put false ⟨[1, 2, 3, 4, 5], by decide, by decide⟩,
    .send .here .here, .flush 20, .receive [3, 9, 20] false false {} [] 0,
    .flush 100, .receive [1, 100] false false {} [] 0]

/-- A packet that is sent compressed and under a key, with a keep-alive packet before it,
arrives when its bytes are handed out in small pieces. -/
theorem packet_received_in_pieces :
    ∃ line,
      Library.run (Line.step {} storedZlib compressingSession)
        packetInPieces
        (Line.new (some countingStream)) = some line ∧
      line.received.map Block.buf = [[1, 2, 3, 4, 5]] := by
  obtain ⟨line, ran, delivered, _⟩ :=
    (@blocks_received_in_order storedZlib compressingSession {}
      (fun _ => storedZlib_lossless)
      (some countingStream)).1
      packetInPieces
  have seen : (Library.run (Line.step {} storedZlib compressingSession)
      packetInPieces
      (Line.new (some countingStream))).map
        (fun line => (line.refused, line.wire, line.sender.sendFifo.contents,
          line.receiver.isSome, line.sent.map Packet.data)) =
      some (0, [], [], true, [[1, 2, 3, 4, 5]]) := by
    decide +kernel
  rw [ran, Option.map_some] at seen
  injection seen with seen
  injection seen with room seen
  injection seen with nothing seen
  injection seen with empty seen
  injection seen with present sent
  refine ⟨line, ran, ?_⟩
  obtain ⟨ts, receiver⟩ := Option.isSome_iff_exists.mp present
  rw [(delivered room).2 ts receiver nothing empty, sent]

end

end Tunnel
end SoftEther
