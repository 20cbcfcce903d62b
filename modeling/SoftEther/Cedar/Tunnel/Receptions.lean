import SoftEther.Cedar.Tunnel.Framing

/-!
# Receptions from a socket

However the bytes of a TCP connection are handed out, they go to the FIFO in order, and the
decoder runs over them.  A reception ends on every byte stream.
-/

namespace SoftEther
namespace Tunnel

open Library

theorem encryptWith_append (key : Option CipherStream) (first second : List UInt8) :
    encryptWith key (first ++ second) =
      ((encryptWith key first).1 ++ (encryptWith (encryptWith key first).2 second).1,
        (encryptWith (encryptWith key first).2 second).2) := by
  cases key with
  | none => rfl
  | some stream =>
      simp only [encryptWith, CipherStream.encrypt, List.mapIdx_append, List.length_append]
      simp only [Nat.add_assoc, Nat.add_comm first.length]

theorem length_encryptWith (key : Option CipherStream) (data : List UInt8) :
    (encryptWith key data).1.length = data.length := by
  cases key with
  | none => rfl
  | some stream => simp [encryptWith, CipherStream.encrypt]

theorem encryptWith_encryptWith (key : Option CipherStream) (data : List UInt8) :
    encryptWith key (encryptWith key data).1 = (data, (encryptWith key data).2) := by
  cases key with
  | none => rfl
  | some stream =>
      have twice : ∀ byte mask : UInt8, byte ^^^ mask ^^^ mask = byte := by
        intro byte mask
        rw [UInt8.xor_assoc, UInt8.xor_self, UInt8.xor_zero]
      have same : data.mapIdx (fun _ byte => byte) = data := by
        apply List.ext_getElem?
        simp
      simp [encryptWith, CipherStream.encrypt, List.mapIdx_mapIdx, Function.comp_def, twice, same]

/-- The bytes on the way to a socket are the plain ones under its key. -/
def TcpSock.Faces (ts : TcpSock) (bytes : List UInt8) (plain : List UInt8)
    (key : Option CipherStream) : Prop :=
  encryptWith ts.recvKey plain = (bytes, key)

/-- More is written on the other side. -/
theorem TcpSock.Faces.append
    {ts : TcpSock}
    {bytes plain : List UInt8}
    {key : Option CipherStream}
    (faces : ts.Faces bytes plain key)
    (data : List UInt8) :
    ts.Faces (bytes ++ (encryptWith key data).1) (plain ++ data) (encryptWith key data).2 := by
  unfold TcpSock.Faces at faces ⊢
  rw [encryptWith_append, faces]

theorem TcpSock.Faces.writeRecvFifo
    {ts : TcpSock}
    {data bytes plain : List UInt8}
    {key : Option CipherStream}
    (faces : ts.Faces (data ++ bytes) plain key) :
    ∃ left, (ts.writeRecvFifo data).Faces bytes left key ∧
      (ts.writeRecvFifo data).recvFifo.contents ++ left = ts.recvFifo.contents ++ plain := by
  unfold TcpSock.Faces at faces
  have whole : plain.take data.length ++ plain.drop data.length = plain :=
    List.take_append_drop _ _
  have length : (data ++ bytes).length = plain.length := by
    rw [← length_encryptWith ts.recvKey plain, faces]
  have taken : (plain.take data.length).length = data.length := by
    rw [List.length_take_of_le]
    rw [← length, List.length_append]
    exact Nat.le_add_right _ _
  rw [← whole, encryptWith_append] at faces
  obtain ⟨cut, last⟩ := Prod.mk.inj faces
  have pieces := List.append_inj cut (by rw [length_encryptWith, taken])
  have back := encryptWith_encryptWith ts.recvKey (plain.take data.length)
  rw [pieces.1] at back
  have written : ts.writeRecvFifo data =
      { ts with
        recvFifo := ts.recvFifo.writeFifo (plain.take data.length)
        recvKey := (encryptWith ts.recvKey (plain.take data.length)).2 } := by
    unfold TcpSock.writeRecvFifo
    rw [back]
  refine ⟨plain.drop data.length, ?_, ?_⟩
  · rw [written]
    exact Prod.ext pieces.2 last
  · rw [written, Fifo.contents_writeFifo, List.append_assoc, whole]

section

variable (settings : Settings)
variable (zlib : Zlib)
variable (session : Session)

/-! ## Receptions -/

theorem recvStart_faces
    (closed : Bool)
    (counts : List Nat)
    {ts : TcpSock}
    {bytes tail plain : List UInt8}
    {key : Option CipherStream}
    (cedar : Cedar)
    (middle : UInt32)
    (faces : ts.Faces (bytes ++ tail) plain key) :
    (recvStart settings closed counts ts bytes cedar middle).1.recv = ts.recv ∧
      ∃ left,
        (recvStart settings closed counts ts bytes cedar middle).1.Faces
          ((recvStart settings closed counts ts bytes cedar middle).2.1 ++ tail) left key ∧
        (recvStart settings closed counts ts bytes cedar middle).1.recvFifo.contents ++ left =
          ts.recvFifo.contents ++ plain := by
  induction counts generalizing ts bytes plain cedar middle with
  | nil =>
      unfold recvStart
      dsimp only
      split <;> exact ⟨rfl, plain, faces, rfl⟩
  | cons count counts inductionHypothesis =>
      unfold recvStart
      dsimp only
      split
      · split
        · exact ⟨rfl, plain, faces, rfl⟩
        · generalize bound : min count _ = size
          have whole : bytes.take size ++ bytes.drop (bytes.take size).length = bytes := by
            rw [List.length_take]
            rcases Nat.le_total size bytes.length with short | long
            · rw [Nat.min_eq_left short, List.take_append_drop]
            · rw [Nat.min_eq_right long, List.drop_length, List.take_of_length_le long,
                List.append_nil]
          rw [← whole, List.append_assoc] at faces
          obtain ⟨left, after, contents⟩ := faces.writeRecvFifo
          split
          · obtain ⟨same, last, lastFaces, lastContents⟩ :=
              inductionHypothesis (cedar.addFifoBudget (UInt32.ofNat (bytes.take size).length))
                (middle + UInt32.ofNat (bytes.take size).length) after
            exact ⟨same, last, lastFaces, lastContents.trans contents⟩
          · exact ⟨rfl, left, after, contents⟩
      · exact ⟨rfl, plain, faces, rfl⟩

theorem recvStart_closed
    {closed : Bool}
    {counts : List Nat}
    {ts : TcpSock}
    {bytes : List UInt8}
    {cedar : Cedar}
    {middle : UInt32}
    (found : (recvStart settings closed counts ts bytes cedar middle).2.2.2.2 = .closed) :
    closed = true := by
  have later : ∀ closed : Bool,
      (if closed then RecvResult.closed else RecvResult.later) = .closed → closed = true := by
    decide
  induction counts generalizing ts bytes cedar middle with
  | nil =>
      unfold recvStart at found
      dsimp only at found
      split at found
      · exact later closed found
      · exact nomatch found
  | cons count counts inductionHypothesis =>
      unfold recvStart at found
      dsimp only at found
      split at found
      · split at found
        · exact later closed found
        · split at found
          · exact inductionHypothesis found
          · exact nomatch found
      · exact nomatch found

theorem receiveBlock_refused (reception : Reception) (block : Block) :
    reception.refused ≤ (receiveBlock settings reception block).refused := by
  unfold receiveBlock insertReveicedBlockToQueue Reception.updateQueueBudget
  split
  · exact Nat.le_refl _
  · split
    · exact Nat.le_succ _
    · dsimp only
      split <;> split <;> simp

theorem receiveBlock_inserted
    {reception : Reception}
    {block : Block}
    (fits : block.buf.length ≤ MAX_PACKET_SIZE)
    (room : (receiveBlock settings reception block).refused = reception.refused) :
    (receiveBlock settings reception block).inserted = reception.inserted ++ [block] := by
  unfold receiveBlock insertReveicedBlockToQueue Reception.updateQueueBudget at room ⊢
  rw [if_neg (Nat.not_lt.mpr fits)] at room ⊢
  split at room
  · exact absurd room (Nat.succ_ne_self _)
  · rename_i balance
    rw [if_neg balance]
    by_cases short : reception.receivedBlocks.length < settings.maxStoredQueueNum
    · rw [if_pos short]
      dsimp only
      split <;> simp
    · rw [if_neg short] at room
      dsimp only at room
      split at room <;> exact absurd room (Nat.succ_ne_self _)

theorem receiveBlocks_refused (blocks : List Block) (reception : Reception) :
    reception.refused ≤ (blocks.foldl (receiveBlock settings) reception).refused := by
  induction blocks generalizing reception with
  | nil => exact Nat.le_refl _
  | cons block blocks inductionHypothesis =>
      exact Nat.le_trans (receiveBlock_refused settings reception block) (inductionHypothesis _)

theorem receiveBlocks_inserted
    {blocks : List Block}
    {reception : Reception}
    (fit : ∀ block ∈ blocks, block.buf.length ≤ MAX_PACKET_SIZE)
    (room : (blocks.foldl (receiveBlock settings) reception).refused = reception.refused) :
    (blocks.foldl (receiveBlock settings) reception).inserted =
      reception.inserted ++ blocks := by
  induction blocks generalizing reception with
  | nil => simp
  | cons block blocks inductionHypothesis =>
      rw [List.foldl_cons] at room ⊢
      have first := receiveBlock_refused settings reception block
      have later := receiveBlocks_refused settings blocks (receiveBlock settings reception block)
      have now : (receiveBlock settings reception block).refused = reception.refused := by omega
      rw [inductionHypothesis (fun listed inside => fit listed (List.mem_cons_of_mem block inside))
          (room.trans now.symm),
        receiveBlock_inserted settings (fit block List.mem_cons_self) now, List.append_assoc]
      rfl

/-! ## The loop over a whole reception -/

/-- The phase of a socket that is looked at: a socket that is new reads four bytes. -/
def RecvState.awake (recv : RecvState) : RecvState :=
  if recv.wantSize = 0 then { recv with wantSize := 4 } else recv

/-- A socket that has been set up, or has been received from. -/
def TcpSock.Sound (ts : TcpSock) : Prop :=
  ts.recv.awake.Ready ∧ recvDecoder.Rests ts.recv.awake ts.recvFifo.contents

theorem TcpSock.sound_new (key : Option CipherStream) :
    ({ recvKey := key } : TcpSock).Sound :=
  ⟨rfl, Nat.zero_lt_succ _⟩

theorem RecvState.awake_of_rests
    {recv : RecvState}
    {buffer : List UInt8}
    (rests : recvDecoder.Rests recv buffer) :
    recv.awake = recv := by
  have wanted : recv.wantSize ≠ 0 := Nat.ne_of_gt (Nat.lt_of_le_of_lt (Nat.zero_le _) rests)
  exact if_neg wanted

theorem receiveSocket_eq_some
    {incoming : Incoming}
    {ts : TcpSock}
    {tail plain : List UInt8}
    {key : Option CipherStream}
    (reception : Reception)
    (sound : ts.Sound)
    (faces : ts.Faces (incoming.bytes ++ tail) plain key) :
    ∃ received : SocketReception,
      receiveSocket settings zlib session incoming ts reception = some received ∧
      ((received.sock = none ∧ received.reception.inserted = reception.inserted ∧
          received.reception.refused = reception.refused ∧
          (incoming.closed = false → incoming.timedOut = false → ts.recv.disconnected = true)) ∨
        ∃ processed left bodies start,
          received.sock = some processed ∧ processed.Sound ∧
          processed.Faces (received.bytes ++ tail) left key ∧
          received.reception =
            (bodies.map (blockOf zlib session)).foldl (receiveBlock settings) start ∧
          start.inserted = reception.inserted ∧ start.refused = reception.refused ∧
          recvDecoder.Steps ts.recv.awake (ts.recvFifo.contents ++ plain) bodies
            processed.recv.awake (processed.recvFifo.contents ++ left)) := by
  unfold receiveSocket
  have woken : (if ts.recv.wantSize = 0 then { ts with recv := { ts.recv with wantSize := 4 } }
      else ts) = { ts with recv := ts.recv.awake } := by
    unfold RecvState.awake
    split <;> rfl
  have disconnected : ts.recv.awake.disconnected = ts.recv.disconnected := by
    unfold RecvState.awake
    split <;> rfl
  rw [woken]
  dsimp only
  generalize (if ts.recv.awake.disconnected then [] else incoming.counts) = counts
  have faces : ({ ts with recv := ts.recv.awake } : TcpSock).Faces (incoming.bytes ++ tail)
      plain key := faces
  obtain ⟨same, left, after, contents⟩ :=
    recvStart_faces settings (incoming.closed || ts.recv.awake.disconnected) counts
      reception.cedar 0 faces
  have found := @recvStart_closed settings (incoming.closed || ts.recv.awake.disconnected) counts
    { ts with recv := ts.recv.awake } incoming.bytes reception.cedar 0
  generalize recvStart settings (incoming.closed || ts.recv.awake.disconnected) counts
    { ts with recv := ts.recv.awake } incoming.bytes reception.cedar 0 = started
    at same after contents found ⊢
  obtain ⟨fed, bytes, cedar, middle, result⟩ := started
  dsimp only at same after contents found ⊢
  by_cases lost : result = .closed ∨ (result = .later ∧ incoming.timedOut = true)
  · rw [if_pos lost]
    refine ⟨_, rfl, .inl ⟨rfl, rfl, rfl, ?_⟩⟩
    intro isOpen inTime
    rcases lost with closed | ⟨_, timedOut⟩
    · have ended := found closed
      rwa [isOpen, Bool.false_or, disconnected] at ended
    · rw [inTime] at timedOut
      exact (Bool.false_ne_true timedOut).elim
  · rw [if_neg lost]
    have ready : fed.recv.Ready := by
      rw [same]
      exact sound.1
    have enough : Decoder.measure recvRank 1 fed.recv fed.recvFifo.contents < roundsFor fed := by
      have low := recvDecoder_ranked.rank_le fed.recv
      unfold Decoder.measure roundsFor Fifo.fifoSize
      omega
    obtain ⟨bodies, recv, rest, ran, steps, rests, lastReady⟩ :=
      processFifo_eq_some settings zlib session
        { reception with cedar := cedar, currentPacketIndex := 0 } ready enough
    rw [ran]
    have extended := steps.append recvDecoder_sound ready left
    rw [same, contents] at extended
    have awake : recv.awake = recv := RecvState.awake_of_rests rests
    rw [← awake] at extended rests lastReady
    exact ⟨_, rfl, .inr ⟨_, left, bodies, _, rfl, ⟨lastReady, rests⟩, after, rfl, rfl, rfl,
      extended⟩⟩

theorem TcpSock.exists_faces (ts : TcpSock) (bytes : List UInt8) :
    ∃ plain key, ts.Faces bytes plain key :=
  ⟨_, _, encryptWith_encryptWith ts.recvKey bytes⟩

/-- The receptions from a socket, one after the other, each with the server and the queue that
it meets; nothing when one of them does not end. -/
def receptions : List (Incoming × Reception) → Option TcpSock → Option (Option TcpSock)
  | [], sock => some sock
  | _ :: _, none => some none
  | (incoming, reception) :: rest, some ts =>
      match receiveSocket settings zlib session incoming ts reception with
      | none => none
      | some received => receptions rest received.sock

theorem receptions_isSome
    (incoming : List (Incoming × Reception))
    {sock : Option TcpSock}
    (sound : ∀ ts, sock = some ts → ts.Sound) :
    (receptions settings zlib session incoming sock).isSome := by
  induction incoming generalizing sock with
  | nil => rfl
  | cons event rest inductionHypothesis =>
      cases sock with
      | none => rfl
      | some ts =>
          obtain ⟨incoming, reception⟩ := event
          obtain ⟨plain, key, faces⟩ := ts.exists_faces incoming.bytes
          rw [← List.append_nil incoming.bytes] at faces
          obtain ⟨received, ended, outcome⟩ :=
            receiveSocket_eq_some settings zlib session reception (sound ts rfl) faces
          unfold receptions
          rw [ended]
          apply inductionHypothesis
          intro processed left
          rcases outcome with ⟨released, _⟩ | ⟨same, _, _, _, kept, processedSound, _⟩
          · rw [released] at left
            exact nomatch left
          · rw [kept] at left
            injection left with left
            rwa [← left]

end

end Tunnel
end SoftEther
