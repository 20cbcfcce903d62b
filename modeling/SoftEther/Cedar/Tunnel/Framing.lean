import SoftEther.Cedar.Tunnel.Send

/-!
# Framing

The blocks that come out of a TCP connection are those that went in.  The state machine of
the reception is a decoder of a byte stream, and what `ConnectionSend` and `SendKeepAlive`
write is decoded to the blocks.
-/

namespace SoftEther
namespace Tunnel

open Library

/-! ## The state machine as a decoder -/

/-- The state machine of the reception. -/
def recvDecoder : Decoder RecvState UInt8 (List UInt8) where
  want := RecvState.wantSize
  used := usedSize
  next := fun recv buf =>
    let (recv, body) := processMode recv buf
    (recv, body.toList)

/-- What `WantSize` and `NextBlockSize` are in a mode. -/
def RecvState.Ready (recv : RecvState) : Prop :=
  match recv.mode with
  | .blockNum | .blockSize | .keepAliveSize => recv.wantSize = 4
  | .blockBody => recv.wantSize = recv.nextBlockSize ∧ 0 < recv.nextBlockSize
  | .keepAliveBody => recv.nextBlockSize ≤ recv.wantSize

/-- The body of a keep-alive packet may be empty. -/
def recvRank (recv : RecvState) : Nat :=
  if recv.mode = .keepAliveBody then 1 else 0

theorem RecvState.ready_of_four
    {recv : RecvState}
    (four : recv.wantSize = 4)
    (noBlock : recv.mode ≠ .blockBody)
    (noKeepAlive : recv.mode ≠ .keepAliveBody) :
    recv.Ready := by
  unfold Ready
  cases mode : recv.mode with
  | blockNum => exact four
  | blockSize => exact four
  | blockBody => exact absurd mode noBlock
  | keepAliveSize => exact four
  | keepAliveBody => exact absurd mode noKeepAlive

theorem recvDecoder_sound : recvDecoder.Sound RecvState.Ready where
  used_le := by
    rintro ⟨mode, wantSize, _, nextBlockSize, _⟩ ready
    cases mode with
    | blockNum => exact Nat.le_of_eq ready.symm
    | blockSize => exact Nat.le_of_eq ready.symm
    | blockBody => exact Nat.le_of_eq ready.1.symm
    | keepAliveSize => exact Nat.le_of_eq ready.symm
    | keepAliveBody => exact ready
  next := by
    rintro ⟨mode, wantSize, nextBlockNum, nextBlockSize, currentPacketNum, _⟩ buf _ _
    cases mode with
    | blockNum =>
        unfold recvDecoder processMode
        apply RecvState.ready_of_four rfl
        all_goals
          dsimp only
          split
          · split <;> simp
          · simp
    | blockSize =>
        unfold recvDecoder processMode
        dsimp only
        by_cases nonempty : min (readUint buf) (MAX_PACKET_SIZE * 2) ≠ 0
        · rw [if_pos nonempty]
          exact ⟨rfl, Nat.pos_of_ne_zero nonempty⟩
        · rw [if_neg nonempty]
          apply RecvState.ready_of_four rfl
          all_goals
            dsimp only
            split <;> simp
    | blockBody =>
        unfold recvDecoder processMode
        apply RecvState.ready_of_four rfl
        all_goals
          dsimp only
          split <;> simp
    | keepAliveSize => exact Nat.min_le_left _ _
    | keepAliveBody => exact rfl

theorem recvDecoder_ranked : recvDecoder.Ranked RecvState.Ready recvRank 1 where
  rank_le := by
    intro recv
    unfold recvRank
    split <;> simp
  idle := by
    rintro ⟨mode, wantSize, nextBlockNum, nextBlockSize, currentPacketNum, _⟩ buf ready nothing _
    cases mode with
    | blockNum => exact absurd nothing (by simp [recvDecoder, usedSize])
    | blockSize => exact absurd nothing (by simp [recvDecoder, usedSize])
    | blockBody => exact absurd nothing (Nat.ne_of_gt ready.2)
    | keepAliveSize => exact absurd nothing (by simp [recvDecoder, usedSize])
    | keepAliveBody => exact Nat.zero_lt_one

/-- The state machine looks at nothing but the bytes that it uses. -/
theorem processMode_take (recv : RecvState) (buf : List UInt8) :
    processMode recv (buf.take (usedSize recv)) = processMode recv buf := by
  unfold processMode usedSize readUint
  cases recv.mode <;> simp [List.take_take]

/-- The state between two batches of blocks. -/
structure RecvState.AtStart (recv : RecvState) : Prop where
  mode : recv.mode = .blockNum
  wantSize : recv.wantSize = 4
  disconnected : recv.disconnected = false

/-- A socket that the decoder has closed stays closed. -/
theorem processMode_disconnected
    {recv : RecvState}
    {buf : List UInt8}
    (connected : (processMode recv buf).1.disconnected = false) :
    recv.disconnected = false := by
  obtain ⟨mode, _, _, _, _, disconnected, _⟩ := recv
  cases mode with
  | blockNum => exact connected
  | blockSize =>
      unfold processMode at connected
      dsimp only at connected
      split at connected
      · exact (Bool.or_eq_false_iff.mp connected).1
      · exact (Bool.or_eq_false_iff.mp connected).1
  | blockBody => exact connected
  | keepAliveSize => exact (Bool.or_eq_false_iff.mp connected).1
  | keepAliveBody => exact connected

theorem recvDecoder_disconnected
    {first last : RecvState}
    {buffer rest : List UInt8}
    {bodies : List (List UInt8)}
    (steps : recvDecoder.Steps first buffer bodies last rest)
    (connected : last.disconnected = false) :
    first.disconnected = false := by
  induction steps with
  | refl => exact connected
  | more _ _ inductionHypothesis => exact processMode_disconnected (inductionHypothesis connected)

/-! ## What carries the blocks -/

/-- The bytes take the decoder from the state between two batches to that state again, and
give the bodies. -/
def Carries (bytes : List UInt8) (bodies : List (List UInt8)) : Prop :=
  ∀ recv : RecvState, recv.AtStart →
    ∃ after : RecvState, after.AtStart ∧ recvDecoder.Steps recv bytes bodies after []

theorem RecvState.AtStart.rests
    {recv : RecvState}
    (start : recv.AtStart) :
    recvDecoder.Rests recv [] := by
  have four : recvDecoder.want recv = 4 := start.wantSize
  simp [Decoder.Rests, four]

theorem readUint_writeBufInt (value : UInt32) : readUint (writeBufInt value) = value.toNat := by
  have length : (writeBufInt value).length = 4 := length_bigEndian 4 value.toNat
  have number : fromBigEndian (writeBufInt value) = value.toNat :=
    fromBigEndian_bigEndian value.toNat_lt
  rw [readUint, List.take_of_length_le (Nat.le_of_eq length), number]

theorem steps_number
    {recv after : RecvState}
    (value : UInt32)
    (rest : List UInt8)
    (four : recv.wantSize = 4)
    (noBlock : recv.mode ≠ .blockBody)
    (noKeepAlive : recv.mode ≠ .keepAliveBody)
    (next : processMode recv (writeBufInt value) = (after, none)) :
    recvDecoder.Steps recv (writeBufInt value ++ rest) [] after rest := by
  have used : recvDecoder.used recv = 4 := by
    change usedSize recv = 4
    unfold usedSize
    cases mode : recv.mode with
    | blockNum => simp
    | blockSize => simp
    | blockBody => exact absurd mode noBlock
    | keepAliveSize => simp
    | keepAliveBody => exact absurd mode noKeepAlive
  have taken : recvDecoder.next recv (writeBufInt value) = (after, []) := by
    unfold recvDecoder
    dsimp only
    rw [next]
    rfl
  exact .read rest ((length_bigEndian 4 value.toNat).trans used.symm) (four.trans used.symm) taken

def blockBytes (block : Block) : List UInt8 :=
  writeBufInt block.size ++ block.buf

theorem Block.toNat_size
    {block : Block}
    (small : block.buf.length ≤ MAX_PACKET_SIZE * 2) :
    block.size.toNat = block.buf.length :=
  UInt32.toNat_ofNat_of_lt' (Nat.lt_of_le_of_lt small (by decide))

theorem steps_blockBytes
    {recv : RecvState}
    {block : Block}
    (rest : List UInt8)
    (mode : recv.mode = .blockSize)
    (four : recv.wantSize = 4)
    (some : 0 < block.buf.length)
    (small : block.buf.length ≤ MAX_PACKET_SIZE * 2) :
    recvDecoder.Steps recv (blockBytes block ++ rest) [block.buf]
      { recv with
        nextBlockSize := block.buf.length
        currentPacketNum := recv.currentPacketNum + 1
        mode :=
          if recv.nextBlockNum ≤ recv.currentPacketNum + 1 then .blockNum else .blockSize }
      rest := by
  let sized : RecvState :=
    { recv with
      mode := .blockBody
      wantSize := block.buf.length
      nextBlockSize := block.buf.length }
  have least : min block.buf.length (MAX_PACKET_SIZE * 2) = block.buf.length :=
    Nat.min_eq_left small
  have fits : decide (MAX_PACKET_SIZE * 2 < block.buf.length) = false :=
    decide_eq_false (Nat.not_lt.mpr small)
  have next : processMode recv (writeBufInt block.size) = (sized, none) := by
    unfold processMode
    rw [mode]
    dsimp only
    rw [readUint_writeBufInt, Block.toNat_size small, least, fits,
      if_pos (Nat.ne_of_gt some), Bool.or_false]
  have size : recvDecoder.Steps recv (writeBufInt block.size ++ (block.buf ++ rest)) [] sized
      (block.buf ++ rest) :=
    steps_number block.size _ four (by simp [mode]) (by simp [mode]) next
  have body : recvDecoder.Steps sized (block.buf ++ rest) [block.buf]
      { recv with
        nextBlockSize := block.buf.length
        currentPacketNum := recv.currentPacketNum + 1
        mode :=
          if recv.nextBlockNum ≤ recv.currentPacketNum + 1 then .blockNum else .blockSize }
      rest := by
    apply Decoder.Steps.read rest rfl rfl
    simp [recvDecoder, processMode, sized, four]
  unfold blockBytes
  rw [List.append_assoc]
  exact size.trans body

theorem steps_blocks
    {recv : RecvState}
    {block : Block}
    {blocks : List Block}
    (mode : recv.mode = .blockSize)
    (four : recv.wantSize = 4)
    (connected : recv.disconnected = false)
    (number : recv.nextBlockNum = recv.currentPacketNum + (blocks.length + 1))
    (sizes : ∀ listed ∈ block :: blocks,
      0 < listed.buf.length ∧ listed.buf.length ≤ MAX_PACKET_SIZE * 2) :
    ∃ after : RecvState, after.AtStart ∧
      recvDecoder.Steps recv ((block :: blocks).flatMap blockBytes)
        ((block :: blocks).map Block.buf) after [] := by
  obtain ⟨some, small⟩ := sizes block List.mem_cons_self
  induction blocks generalizing recv block with
  | nil =>
      have steps := steps_blockBytes [] mode four some small
      have last : recv.nextBlockNum ≤ recv.currentPacketNum + 1 := Nat.le_of_eq number
      rw [if_pos last, List.append_nil] at steps
      let after : RecvState :=
        { recv with
          nextBlockSize := block.buf.length
          currentPacketNum := recv.currentPacketNum + 1
          mode := .blockNum }
      rw [List.flatMap_singleton]
      exact ⟨after, ⟨rfl, four, connected⟩, steps⟩
  | cons second blocks inductionHypothesis =>
      have steps := steps_blockBytes ((second :: blocks).flatMap blockBytes) mode four some small
      have many : ¬recv.nextBlockNum ≤ recv.currentPacketNum + 1 := by
        rw [number, List.length_cons]
        omega
      rw [if_neg many] at steps
      let next : RecvState :=
        { recv with
          nextBlockSize := block.buf.length
          currentPacketNum := recv.currentPacketNum + 1
          mode := .blockSize }
      have left : next.nextBlockNum = next.currentPacketNum + (blocks.length + 1) := by
        change recv.nextBlockNum = recv.currentPacketNum + 1 + (blocks.length + 1)
        rw [number, List.length_cons]
        omega
      have others : ∀ listed ∈ second :: blocks,
          0 < listed.buf.length ∧ listed.buf.length ≤ MAX_PACKET_SIZE * 2 :=
        fun listed inside => sizes listed (List.mem_cons_of_mem block inside)
      obtain ⟨secondSome, secondSmall⟩ := others second List.mem_cons_self
      obtain ⟨after, start, more⟩ :=
        @inductionHypothesis next second rfl four connected left others secondSome secondSmall
      exact ⟨after, start, steps.trans more⟩

/-- What `ConnectionSend` writes for a queue. -/
def batchBytes (queue : List Block) : List UInt8 :=
  writeBufInt (UInt32.ofNat queue.length) ++ queue.flatMap blockBytes

theorem carries_batch
    {queue : List Block}
    (nonempty : queue ≠ [])
    (few : queue.length < KEEP_ALIVE_MAGIC.toNat)
    (sizes : ∀ block ∈ queue,
      0 < block.buf.length ∧ block.buf.length ≤ MAX_PACKET_SIZE * 2) :
    Carries (batchBytes queue) (queue.map Block.buf) := by
  intro recv start
  cases queue with
  | nil => exact absurd rfl nonempty
  | cons block blocks =>
      have count : (UInt32.ofNat (block :: blocks).length).toNat = (block :: blocks).length :=
        UInt32.toNat_ofNat_of_lt' (Nat.lt_trans few (by decide))
      let numbered : RecvState :=
        { recv with
          wantSize := 4
          nextBlockNum := blocks.length + 1
          currentPacketNum := 0
          mode := .blockSize }
      have next : processMode recv (writeBufInt (UInt32.ofNat (block :: blocks).length)) =
          (numbered, none) := by
        unfold processMode
        rw [start.mode]
        dsimp only
        rw [readUint_writeBufInt, count, if_pos (by simp), if_neg (Nat.ne_of_lt few)]
        rfl
      have batch : recvDecoder.Steps recv (batchBytes (block :: blocks)) [] numbered
          ((block :: blocks).flatMap blockBytes) :=
        steps_number _ _ start.wantSize (by simp [start.mode]) (by simp [start.mode]) next
      have number : numbered.nextBlockNum = numbered.currentPacketNum + (blocks.length + 1) :=
        (Nat.zero_add _).symm
      obtain ⟨after, afterStart, steps⟩ :=
        @steps_blocks numbered block blocks rfl rfl start.disconnected number sizes
      exact ⟨after, afterStart, batch.trans steps⟩

/-- What `SendKeepAlive` writes for a body. -/
def keepAliveBytes (buf : List UInt8) : List UInt8 :=
  writeBufInt KEEP_ALIVE_MAGIC ++ (writeBufInt (UInt32.ofNat buf.length) ++ buf)

theorem carries_keepAlive
    {buf : List UInt8}
    (small : buf.length ≤ MAX_KEEPALIVE_SIZE) :
    Carries (keepAliveBytes buf) [] := by
  intro recv start
  have size : (UInt32.ofNat buf.length).toNat = buf.length :=
    UInt32.toNat_ofNat_of_lt' (Nat.lt_of_le_of_lt small (by decide))
  let numbered : RecvState :=
    { recv with
      wantSize := 4
      nextBlockNum := KEEP_ALIVE_MAGIC.toNat
      currentPacketNum := 0
      mode := .keepAliveSize }
  let sized : RecvState :=
    { numbered with
      mode := .keepAliveBody
      nextBlockSize := buf.length
      wantSize := buf.length }
  have magic : processMode recv (writeBufInt KEEP_ALIVE_MAGIC) = (numbered, none) := by
    unfold processMode
    rw [start.mode]
    dsimp only
    rw [readUint_writeBufInt, if_pos (by decide), if_pos rfl]
  have least : min buf.length MAX_KEEPALIVE_SIZE = buf.length := Nat.min_eq_left small
  have fits : decide (MAX_KEEPALIVE_SIZE < buf.length) = false :=
    decide_eq_false (Nat.not_lt.mpr small)
  have length : processMode numbered (writeBufInt (UInt32.ofNat buf.length)) = (sized, none) := by
    unfold processMode
    dsimp only [numbered]
    rw [readUint_writeBufInt, size, least, fits, Bool.or_false]
  have first : recvDecoder.Steps recv (keepAliveBytes buf) [] numbered
      (writeBufInt (UInt32.ofNat buf.length) ++ buf) :=
    steps_number _ _ start.wantSize (by simp [start.mode]) (by simp [start.mode]) magic
  have second : recvDecoder.Steps numbered (writeBufInt (UInt32.ofNat buf.length) ++ buf) []
      sized buf :=
    steps_number _ _ rfl (by simp [numbered]) (by simp [numbered]) length
  have third : recvDecoder.Steps sized (buf ++ []) [] (processMode sized buf).1 [] :=
    .read [] rfl rfl rfl
  rw [List.append_nil] at third
  exact ⟨(processMode sized buf).1, ⟨rfl, rfl, start.disconnected⟩,
    (first.trans second).trans third⟩

section

variable (settings : Settings)
variable (zlib : Zlib)
variable (session : Session)

theorem processFifo_eq_some
    {rounds : Nat}
    {ts : TcpSock}
    (reception : Reception)
    (ready : ts.recv.Ready)
    (enough : Decoder.measure recvRank 1 ts.recv ts.recvFifo.contents < rounds) :
    ∃ bodies recv rest,
      processFifo settings zlib session rounds ts reception =
        some ({ ts with recv := recv, recvFifo := ⟨rest⟩ },
          (bodies.map (blockOf zlib session)).foldl (receiveBlock settings) reception) ∧
      recvDecoder.Steps ts.recv ts.recvFifo.contents bodies recv rest ∧
      recvDecoder.Rests recv rest ∧ recv.Ready := by
  induction rounds generalizing ts reception with
  | zero => exact (Nat.not_lt_zero _ enough).elim
  | succ rounds inductionHypothesis =>
      unfold processFifo
      by_cases waits : ts.recvFifo.fifoSize < ts.recv.wantSize
      · rw [if_pos waits]
        exact ⟨[], ts.recv, ts.recvFifo.contents, rfl, .refl _ _, waits, ready⟩
      · rw [if_neg waits]
        have wanted : recvDecoder.want ts.recv ≤ ts.recvFifo.contents.length :=
          Nat.le_of_not_lt waits
        have taken : recvDecoder.next ts.recv
              (ts.recvFifo.contents.take (recvDecoder.used ts.recv)) =
            ((processMode ts.recv ts.recvFifo.contents).1,
              (processMode ts.recv ts.recvFifo.contents).2.toList) := by
          unfold recvDecoder
          dsimp only
          rw [processMode_take]
        have less := recvDecoder_ranked.measure_lt recvDecoder_sound ready wanted
        have inside : (ts.recvFifo.contents.take (recvDecoder.used ts.recv)).length =
            recvDecoder.used ts.recv :=
          List.length_take_of_le (Nat.le_trans (recvDecoder_sound.used_le _ ready) wanted)
        have later := recvDecoder_sound.next _ _ ready inside
        rw [taken] at later less
        generalize processMode ts.recv ts.recvFifo.contents = processed at taken later less ⊢
        obtain ⟨recv, body⟩ := processed
        dsimp only at taken later less ⊢
        let after : TcpSock :=
          { ts with recv := recv, recvFifo := ts.recvFifo.readFifo (usedSize ts.recv) }
        have fewer : Decoder.measure recvRank 1 after.recv after.recvFifo.contents < rounds :=
          Nat.lt_of_lt_of_le less (Nat.le_of_lt_succ enough)
        cases body with
        | none =>
            obtain ⟨bodies, last, rest, ran, steps, rests, lastReady⟩ :=
              @inductionHypothesis after reception later fewer
            exact ⟨bodies, last, rest, ran, .cons wanted taken steps, rests, lastReady⟩
        | some data =>
            obtain ⟨bodies, last, rest, ran, steps, rests, lastReady⟩ :=
              @inductionHypothesis after
                (receiveBlock settings reception (blockOf zlib session data)) later fewer
            exact ⟨data :: bodies, last, rest, ran, .cons wanted taken steps, rests, lastReady⟩

end

end Tunnel
end SoftEther
