import Mathlib.Data.List.Infix
import SoftEther.Library.Runs
import SoftEther.Mayaqua.Rudp.Stream

/-!
# Delivery of the segment stream

Two sessions and a network that loses, repeats and reorders their datagrams.  What one
session has numbered is a history that only grows; the other session holds pieces of it
above the part that it has read, and acknowledges nothing that it does not hold.
-/

namespace SoftEther
namespace Rudp

open Library

/-- The data of a number in the history of a session. -/
def Numbered (numbered : List NumberedData) (seqNo : Nat) (data : List UInt8) : Prop :=
  1 ≤ seqNo ∧ ∃ entry, numbered[seqNo - 1]? = some entry ∧ entry.data = data

theorem Numbered.mono
    {numbered later : List NumberedData}
    {seqNo : Nat}
    {data : List UInt8}
    (here : Numbered numbered seqNo data)
    (grows : numbered <+: later) :
    Numbered later seqNo data := by
  obtain ⟨positive, entry, listed, same⟩ := here
  obtain ⟨more, rfl⟩ := grows
  refine ⟨positive, entry, ?_, same⟩
  rw [List.getElem?_append_left (List.getElem?_eq_some_iff.mp listed).1]
  exact listed

namespace Session

/-- The numbers of the segments that wait for an acknowledgement. -/
def waiting (se : Session) : List Nat :=
  se.sendSegmentList.items.map Segment.seqNo

/-- A number has been read, or its segment is held. -/
def Stored (se : Session) (seqNo : Nat) : Prop :=
  seqNo ≤ se.lastRecvCompleteSeqNo ∨ seqNo ∈ se.recvSegmentList.items.map Segment.seqNo

def isUserData (se : Session) (data : List UInt8) : Bool :=
  data ≠ se.magicKeepAliveRequest ∧ data ≠ se.magicKeepAliveResponse

/-- The bytes that the session has taken from its `SendFifo`. -/
def taken (se : Session) : List UInt8 :=
  (se.numbered.filter NumberedData.fromFifo).flatMap NumberedData.data

def userData (se : Session) (numbered : List NumberedData) : List UInt8 :=
  (numbered.filter fun entry => se.isUserData entry.data).flatMap NumberedData.data

/-! ## The invariants of a session -/

/-- A session as a sender, whose peer stores some numbers. -/
structure Sending (stored : Nat → Prop) (se : Session) : Prop where
  nextSendSeqNo : se.nextSendSeqNo = se.numbered.length + 1
  listed : ∀ s ∈ se.sendSegmentList.items, Numbered se.numbered s.seqNo s.data
  kept : ∀ k, 1 ≤ k → k ≤ se.numbered.length → k ∈ se.waiting ∨ stored k
  /-- What is not from `SendFifo` keeps the connection alive. -/
  keepAlive : ∀ entry ∈ se.numbered, entry.fromFifo = false → se.isUserData entry.data = false

/-- A session as a receiver, whose peer has numbered some data. -/
structure Receiving (numbered : List NumberedData) (se : Session) : Prop where
  complete : se.lastRecvCompleteSeqNo ≤ numbered.length
  /-- The user data of what has been read are in `RecvFifo` in order. -/
  appended : se.appended = se.userData (numbered.take se.lastRecvCompleteSeqNo)
  listed : ∀ s ∈ se.recvSegmentList.items, Numbered numbered s.seqNo s.data
  window : ∀ s ∈ se.recvSegmentList.items, se.lastRecvCompleteSeqNo < s.seqNo ∧
    s.seqNo ≤ se.lastRecvCompleteSeqNo + RUDP_MAX_NUM_ACK
  /-- No number is held twice. -/
  distinct : (se.recvSegmentList.items.map Segment.seqNo).Nodup
  acks : ∀ k ∈ se.replyAckList, se.Stored k

/-- A session whose peer has numbered some data and stores some numbers. -/
structure Sound
    (numbered : List NumberedData)
    (stored : Nat → Prop)
    (se : Session) : Prop where
  sending : se.Sending stored
  receiving : se.Receiving numbered

/-- A datagram of a session: its data are those of its number, and what it acknowledges is
stored. -/
structure Sends (se : Session) (d : Datagram) : Prop where
  /-- The data. -/
  payload : d.payload ≠ [] → Numbered se.numbered d.seqNo d.payload
  /-- The cumulative acknowledgement. -/
  maxAck : d.maxAck ≤ se.lastRecvCompleteSeqNo
  /-- The selective acknowledgements. -/
  acks : ∀ k ∈ d.acks, se.Stored k

/-- What never goes back in a session. -/
structure Later (se after : Session) : Prop where
  /-- The history grows. -/
  numbered : se.numbered <+: after.numbered
  /-- What has been read stays read. -/
  complete : se.lastRecvCompleteSeqNo ≤ after.lastRecvCompleteSeqNo
  stored : ∀ k, se.Stored k → after.Stored k
  /-- `Magic_KeepAliveRequest`. -/
  request : after.magicKeepAliveRequest = se.magicKeepAliveRequest
  /-- `Magic_KeepAliveResponse`. -/
  response : after.magicKeepAliveResponse = se.magicKeepAliveResponse

theorem Later.refl (se : Session) : Later se se :=
  ⟨List.prefix_refl _, Nat.le_refl _, fun _ stored => stored, rfl, rfl⟩

theorem Later.trans
    {se middle after : Session}
    (first : Later se middle)
    (second : Later middle after) :
    Later se after where
  numbered := first.numbered.trans second.numbered
  complete := Nat.le_trans first.complete second.complete
  stored := fun k here => second.stored k (first.stored k here)
  request := second.request.trans first.request
  response := second.response.trans first.response

theorem Later.isUserData
    {se after : Session}
    (later : Later se after) :
    after.isUserData = se.isUserData := by
  funext data
  unfold Session.isUserData
  rw [later.request, later.response]

theorem Sends.mono
    {se after : Session}
    {d : Datagram}
    (sends : se.Sends d)
    (later : Later se after) :
    after.Sends d where
  payload := fun notEmpty => (sends.payload notEmpty).mono later.numbered
  maxAck := Nat.le_trans sends.maxAck later.complete
  acks := fun k listed => later.stored k (sends.acks k listed)

/-- The peer moves on. -/
theorem Sound.mono
    {numbered numberedLater : List NumberedData}
    {stored storedLater : Nat → Prop}
    {se : Session}
    (sound : se.Sound numbered stored)
    (grows : numbered <+: numberedLater)
    (still : ∀ k, stored k → storedLater k) :
    se.Sound numberedLater storedLater where
  sending :=
    { sound.sending with
      kept := fun k positive given => (sound.sending.kept k positive given).imp_right (still k) }
  receiving :=
    { sound.receiving with
      complete := Nat.le_trans sound.receiving.complete grows.length_le
      appended := by
        obtain ⟨more, rfl⟩ := grows
        rw [List.take_append_of_le_length sound.receiving.complete]
        exact sound.receiving.appended
      listed := fun s listed => (sound.receiving.listed s listed).mono grows }

/-- A move of a session, with the datagrams that it sends. -/
structure Moves
    (numbered : List NumberedData)
    (stored : Nat → Prop)
    (se after : Session)
    (sent : List Datagram) : Prop where
  /-- The invariants hold. -/
  sound : after.Sound numbered stored
  /-- Nothing goes back. -/
  later : Later se after
  /-- The datagrams are right. -/
  sends : ∀ d ∈ sent, after.Sends d

section

variable {numbered : List NumberedData}
variable {stored : Nat → Prop}
variable {se middle after : Session}

theorem Moves.trans
    {first second : List Datagram}
    (move : Moves numbered stored se middle first)
    (next : Moves numbered stored middle after second) :
    Moves numbered stored se after (first ++ second) where
  sound := next.sound
  later := move.later.trans next.later
  sends := fun d listed => by
    obtain before | now := List.mem_append.mp listed
    · exact (move.sends d before).mono next.later
    · exact next.sends d now

theorem Moves.before
    {sent : List Datagram}
    (move : Moves numbered stored se middle [])
    (next : Moves numbered stored middle after sent) :
    Moves numbered stored se after sent :=
  move.trans next

/-- Two sessions agree in the stream, except for acknowledgements that are no more to be
replied. -/
structure SameStream (se after : Session) : Prop where
  /-- `LastRecvCompleteSeqNo`. -/
  complete : after.lastRecvCompleteSeqNo = se.lastRecvCompleteSeqNo
  recvSegmentList : after.recvSegmentList = se.recvSegmentList
  /-- The bytes written to `RecvFifo`. -/
  appended : after.appended = se.appended
  nextSendSeqNo : after.nextSendSeqNo = se.nextSendSeqNo
  sendSegmentList : after.sendSegmentList = se.sendSegmentList
  /-- The history. -/
  numbered : after.numbered = se.numbered
  /-- `Magic_KeepAliveRequest`. -/
  request : after.magicKeepAliveRequest = se.magicKeepAliveRequest
  /-- `Magic_KeepAliveResponse`. -/
  response : after.magicKeepAliveResponse = se.magicKeepAliveResponse
  /-- `ReplyAckList`. -/
  acks : ∀ k ∈ after.replyAckList, k ∈ se.replyAckList

theorem SameStream.later (same : SameStream se after) : Later se after where
  numbered := same.numbered ▸ List.prefix_refl _
  complete := Nat.le_of_eq same.complete.symm
  stored := fun k here => by
    unfold Stored at here ⊢
    rw [same.complete, same.recvSegmentList]
    exact here
  request := same.request
  response := same.response

theorem SameStream.moves
    (same : SameStream se after)
    (sound : se.Sound numbered stored) :
    Moves numbered stored se after [] where
  sound :=
    { sending :=
        { nextSendSeqNo := by
            rw [same.nextSendSeqNo, same.numbered]
            exact sound.sending.nextSendSeqNo
          listed := by
            rw [same.sendSegmentList, same.numbered]
            exact sound.sending.listed
          kept := by
            unfold waiting
            rw [same.sendSegmentList, same.numbered]
            exact sound.sending.kept
          keepAlive := by
            rw [same.numbered, same.later.isUserData]
            exact sound.sending.keepAlive }
      receiving :=
        { complete := same.complete ▸ sound.receiving.complete
          appended := by
            unfold userData
            rw [same.appended, same.complete, same.later.isUserData]
            exact sound.receiving.appended
          listed := by
            rw [same.recvSegmentList]
            exact sound.receiving.listed
          window := by
            rw [same.recvSegmentList, same.complete]
            exact sound.receiving.window
          distinct := by
            rw [same.recvSegmentList]
            exact sound.receiving.distinct
          acks := fun k listed =>
            same.later.stored k (sound.receiving.acks k (same.acks k listed)) } }
  later := same.later
  sends := fun _ listed => absurd listed List.not_mem_nil

/-! ## Sending -/

theorem moves_rudpSendSegmentNow
    (sound : se.Sound numbered stored)
    (now : Nat)
    {seqNo : Nat}
    {data : List UInt8}
    (right : data ≠ [] → Numbered se.numbered seqNo data) :
    Moves numbered stored se (rudpSendSegmentNow now se seqNo data).2
      [(rudpSendSegmentNow now se seqNo data).1] := by
  have same : SameStream se (rudpSendSegmentNow now se seqNo data).2 :=
    ⟨rfl, rfl, rfl, rfl, rfl, rfl, rfl, rfl, fun _ listed => List.mem_of_mem_drop listed⟩
  have moves := same.moves sound
  refine ⟨moves.sound, moves.later, ?_⟩
  rintro d listed
  rw [List.mem_singleton.mp listed]
  exact ⟨right, Nat.le_refl _, fun k acked =>
    same.later.stored k (sound.receiving.acks k (List.mem_of_mem_take acked))⟩

theorem Sending.rudpSendSegment
    (sending : se.Sending stored)
    {data : List UInt8}
    {fromFifo : Bool}
    (kind : fromFifo = false → se.isUserData data = false) :
    (se.rudpSendSegment data fromFifo).Sending stored where
  nextSendSeqNo := by
    unfold Session.rudpSendSegment
    dsimp only
    rw [sending.nextSendSeqNo, List.length_append]
    rfl
  listed := fun s listed => by
    obtain rfl | before := List.mem_cons.mp
      ((KeyedList.insert_perm se.sendSegmentList _).mem_iff.mp listed)
    · refine ⟨by dsimp only; rw [sending.nextSendSeqNo]; omega, ⟨data, fromFifo⟩, ?_, rfl⟩
      unfold Session.rudpSendSegment
      dsimp only
      rw [sending.nextSendSeqNo, Nat.add_sub_cancel, List.getElem?_concat_length]
    · exact (sending.listed s before).mono (List.prefix_append _ _)
  kept := fun k positive given => by
    have perm : (se.rudpSendSegment data fromFifo).waiting.Perm
        (se.nextSendSeqNo :: se.waiting) :=
      (KeyedList.insert_perm se.sendSegmentList _).map Segment.seqNo
    have long : (se.rudpSendSegment data fromFifo).numbered.length = se.numbered.length + 1 :=
      List.length_append
    rw [perm.mem_iff, List.mem_cons]
    by_cases last : k = se.nextSendSeqNo
    · exact Or.inl (Or.inl last)
    · have next := sending.nextSendSeqNo
      obtain waits | here := sending.kept k positive (by omega)
      · exact Or.inl (Or.inr waits)
      · exact Or.inr here
  keepAlive := fun entry listed notFifo => by
    obtain before | last := List.mem_append.mp listed
    · exact sending.keepAlive entry before notFifo
    · rw [List.mem_singleton.mp last] at notFifo ⊢
      exact kind notFifo

theorem moves_rudpSendSegment
    (sound : se.Sound numbered stored)
    {data : List UInt8}
    {fromFifo : Bool}
    (kind : fromFifo = false → se.isUserData data = false) :
    Moves numbered stored se (se.rudpSendSegment data fromFifo) [] where
  sound := ⟨sound.sending.rudpSendSegment kind,
    ⟨sound.receiving.complete, sound.receiving.appended, sound.receiving.listed,
      sound.receiving.window, sound.receiving.distinct, sound.receiving.acks⟩⟩
  later := ⟨List.prefix_append _ _, Nat.le_refl _, fun _ here => here, rfl, rfl⟩
  sends := fun _ listed => absurd listed List.not_mem_nil

/-- Nothing is sent. -/
theorem Moves.refl (sound : se.Sound numbered stored) : Moves numbered stored se se [] :=
  ⟨sound, .refl se, fun _ listed => absurd listed List.not_mem_nil⟩

theorem moves_sendDisconnectSignals
    (sound : se.Sound numbered stored)
    (now count : Nat) :
    Moves numbered stored se (sendDisconnectSignals now count se).2
      (sendDisconnectSignals now count se).1 := by
  induction count generalizing se with
  | zero => exact .refl sound
  | succ count inductionHypothesis =>
      have first := @moves_rudpSendSegmentNow numbered stored se sound now se.magicDisconnect []
        (fun absurdity => absurd rfl absurdity)
      exact first.trans (inductionHypothesis first.sound)

theorem moves_rudpDisconnectSession
    (sound : se.Sound numbered stored)
    (now : Nat)
    (disconnectedByYou : Bool) :
    Moves numbered stored se (rudpDisconnectSession now se disconnectedByYou).2
      (rudpDisconnectSession now se disconnectedByYou).1 := by
  unfold rudpDisconnectSession
  split
  · exact .refl sound
  · have flagged : Moves numbered stored se { se with disconnectFlag := true } [] :=
      SameStream.moves ⟨rfl, rfl, rfl, rfl, rfl, rfl, rfl, rfl, fun _ listed => listed⟩ sound
    dsimp only
    split
    · exact flagged
    · exact flagged.before (moves_sendDisconnectSignals flagged.sound now 5)

theorem moves_sendDivided
    (sound : se.Sound numbered stored)
    (fuel : Nat) :
    Moves numbered stored se (sendDivided fuel se) [] := by
  induction fuel generalizing se with
  | zero => exact .refl sound
  | succ fuel inductionHypothesis =>
      unfold sendDivided
      dsimp only
      split
      · split
        · exact .refl sound
        · have first := @moves_rudpSendSegment numbered stored se sound
            (se.sendFifo.peekFifo (min se.sendFifo.fifoSize RUDP_MAX_SEGMENT_SIZE)) true
            (fun absurdity => nomatch absurdity)
          generalize se.rudpSendSegment (se.sendFifo.peekFifo
            (min se.sendFifo.fifoSize RUDP_MAX_SEGMENT_SIZE)) true = numberedNow at first ⊢
          have moved : ∀ fifo : Fifo UInt8,
              SameStream numberedNow { numberedNow with sendFifo := fifo } := fun _ =>
            ⟨rfl, rfl, rfl, rfl, rfl, rfl, rfl, rfl, fun _ listed => listed⟩
          have second := (moved (numberedNow.sendFifo.readFifo
            (min se.sendFifo.fifoSize RUDP_MAX_SEGMENT_SIZE))).moves first.sound
          exact (first.before second).before (inductionHypothesis second.sound)
      · exact .refl sound

theorem moves_keepAlive
    (sound : se.Sound numbered stored)
    (input : Input) :
    Moves numbered stored se (se.keepAlive input) [] := by
  have isRequest : se.isUserData se.magicKeepAliveRequest = false := by
    unfold isUserData
    rw [decide_eq_false_iff_not]
    exact fun different => different.1 rfl
  unfold keepAlive
  split
  · have asked : Moves numbered stored se
        (if se.sendSegmentList.num = 0 then
          se.rudpSendSegment se.magicKeepAliveRequest false else se) [] := by
      split
      · exact moves_rudpSendSegment sound (fun _ => isRequest)
      · exact .refl sound
    refine asked.before (SameStream.moves ?_ asked.sound)
    exact ⟨rfl, rfl, rfl, rfl, rfl, rfl, rfl, rfl, fun _ listed => listed⟩
  · exact .refl sound

theorem moves_transmit
    (sound : se.Sound numbered stored)
    (now seqNoMin : Nat)
    {s : Segment}
    (right : Numbered se.numbered s.seqNo s.data) :
    Moves numbered stored se (transmit now seqNoMin se s).2 (transmit now seqNoMin se s).1 := by
  unfold transmit
  split
  · have sent := @moves_rudpSendSegmentNow numbered stored se sound now s.seqNo s.data
      (fun _ => right)
    have same : (rudpSendSegmentNow now se s.seqNo s.data).2.numbered = se.numbered := rfl
    rw [← same] at right
    generalize rudpSendSegmentNow now se s.seqNo s.data = result at sent right ⊢
    obtain ⟨d, middle⟩ := result
    dsimp only at sent right ⊢
    generalize now + middle.nextInterval s.numSent = tick
    have noted : Moves numbered stored middle
        { middle with
          sendSegmentList := middle.sendSegmentList.write s
            { s with numSent := s.numSent + 1, nextSendTick := tick } rfl } [] := by
      refine ⟨⟨⟨sent.sound.sending.nextSendSeqNo, ?_, ?_, sent.sound.sending.keepAlive⟩,
        ⟨sent.sound.receiving.complete, sent.sound.receiving.appended,
          sent.sound.receiving.listed, sent.sound.receiving.window,
          sent.sound.receiving.distinct, sent.sound.receiving.acks⟩⟩,
        ⟨List.prefix_refl _, Nat.le_refl _, fun _ here => here, rfl, rfl⟩,
        fun _ listed => absurd listed List.not_mem_nil⟩
      · intro other listed
        by_cases before : other ∈ middle.sendSegmentList.items
        · exact sent.sound.sending.listed other before
        · rw [KeyedList.eq_of_mem_replace listed before]
          exact right
      · intro k positive given
        have keys : (middle.sendSegmentList.items.replace s
            { s with numSent := s.numSent + 1, nextSendTick := tick }).map Segment.seqNo =
              middle.waiting :=
          KeyedList.map_key_replace (by rfl) middle.sendSegmentList.items
        unfold waiting
        dsimp only [KeyedList.write]
        rw [keys]
        exact sent.sound.sending.kept k positive given
    rw [← List.append_nil [d]]
    exact sent.trans noted
  · exact .refl sound

theorem moves_transmitAll
    (sound : se.Sound numbered stored)
    (now seqNoMin : Nat)
    {segments : List Segment}
    (right : ∀ s ∈ segments, Numbered se.numbered s.seqNo s.data) :
    Moves numbered stored se (transmitAll now seqNoMin segments se).2
      (transmitAll now seqNoMin segments se).1 := by
  induction segments generalizing se with
  | nil => exact .refl sound
  | cons s rest inductionHypothesis =>
      have first := moves_transmit sound now seqNoMin (right s List.mem_cons_self)
      exact first.trans (inductionHypothesis first.sound fun other listed =>
        (right other (List.mem_cons_of_mem s listed)).mono first.later.numbered)

theorem moves_replyAcks
    (sound : se.Sound numbered stored)
    (now fuel : Nat) :
    Moves numbered stored se (replyAcks now fuel se).2 (replyAcks now fuel se).1 := by
  induction fuel generalizing se with
  | zero => exact .refl sound
  | succ fuel inductionHypothesis =>
      unfold replyAcks
      split
      · exact .refl sound
      · have first := @moves_rudpSendSegmentNow numbered stored se sound now se.nextSendSeqNo []
          (fun absurdity => absurd rfl absurdity)
        exact first.trans (inductionHypothesis first.sound)

theorem moves_sendAll
    (sound : se.Sound numbered stored)
    (input : Input) :
    Moves numbered stored se (sendAll input se).2 (sendAll input se).1 := by
  unfold sendAll
  split
  · exact .refl sound
  · have alive := moves_keepAlive sound input
    dsimp only
    generalize se.keepAlive input = ready at alive ⊢
    have segments := moves_transmitAll alive.sound input.now
      ready.rudpGetCurrentSendingMinSeqNo alive.sound.sending.listed
    exact (alive.before segments).trans (moves_replyAcks segments.sound input.now _)

/-! ## Receiving -/

theorem moves_removed
    (sound : se.Sound numbered stored)
    {list : SegmentList}
    (fewer : ∀ s ∈ list.items, s ∈ se.sendSegmentList.items)
    (removed : ∀ s ∈ se.sendSegmentList.items, s ∈ list.items ∨ stored s.seqNo) :
    Moves numbered stored se { se with sendSegmentList := list } [] where
  sound :=
    { sending :=
        { sound.sending with
          listed := fun s listed => sound.sending.listed s (fewer s listed)
          kept := fun k positive given => by
            obtain waits | here := sound.sending.kept k positive given
            · obtain ⟨s, listed, rfl⟩ := List.mem_map.mp waits
              exact (removed s listed).imp_left fun still => List.mem_map_of_mem still
            · exact Or.inr here }
      receiving :=
        ⟨sound.receiving.complete, sound.receiving.appended, sound.receiving.listed,
          sound.receiving.window, sound.receiving.distinct, sound.receiving.acks⟩ }
  later := ⟨List.prefix_refl _, Nat.le_refl _, fun _ here => here, rfl, rfl⟩
  sends := fun _ listed => absurd listed List.not_mem_nil

theorem moves_rudpProcessAck
    (sound : se.Sound numbered stored)
    {seq : Nat}
    (here : stored seq) :
    Moves numbered stored se (se.rudpProcessAck seq) [] := by
  unfold rudpProcessAck
  split
  · exact .refl sound
  · split
    · exact .refl sound
    · rename_i s found
      obtain ⟨_, same⟩ := KeyedList.search_sound found
      apply moves_removed sound
      · exact fun other listed => List.mem_of_mem_erase listed
      · intro other listed
        by_cases removed : other = s
        · exact Or.inr (removed ▸ same ▸ here)
        · exact Or.inl ((List.mem_erase_of_ne removed).mpr listed)

theorem moves_rudpProcessAck2
    (sound : se.Sound numbered stored)
    {maxSeq : Nat}
    (here : ∀ k, k ≤ maxSeq → stored k) :
    Moves numbered stored se (se.rudpProcessAck2 maxSeq) [] := by
  have perm := KeyedList.deleteAll_perm se.sendSegmentList fun s => decide (s.seqNo ≤ maxSeq)
  apply moves_removed sound
  · exact fun s listed => (List.mem_filter.mp (perm.mem_iff.mp listed)).1
  · intro s listed
    by_cases acked : s.seqNo ≤ maxSeq
    · exact Or.inr (here _ acked)
    · exact Or.inl (perm.mem_iff.mpr (List.mem_filter.mpr ⟨listed, by simpa using acked⟩))

theorem moves_acks
    (sound : se.Sound numbered stored)
    {acks : List Nat}
    (here : ∀ k ∈ acks, stored k) :
    Moves numbered stored se (acks.foldl rudpProcessAck se) [] := by
  induction acks generalizing se with
  | nil => exact .refl sound
  | cons seq rest inductionHypothesis =>
      have first := moves_rudpProcessAck sound (here seq List.mem_cons_self)
      exact first.before (inductionHypothesis first.sound fun k listed =>
        here k (List.mem_cons_of_mem seq listed))

theorem moves_addReplyAck
    (sound : se.Sound numbered stored)
    {seq : Nat}
    (here : se.Stored seq) :
    Moves numbered stored se (se.addReplyAck seq) [] where
  sound :=
    { sending := ⟨sound.sending.nextSendSeqNo, sound.sending.listed, sound.sending.kept,
        sound.sending.keepAlive⟩
      receiving :=
        { complete := sound.receiving.complete
          appended := sound.receiving.appended
          listed := sound.receiving.listed
          window := sound.receiving.window
          distinct := sound.receiving.distinct
          acks := fun k listed => by
            unfold addReplyAck at listed
            dsimp only at listed
            split at listed
            · exact sound.receiving.acks k listed
            · obtain before | last := List.mem_append.mp listed
              · exact sound.receiving.acks k before
              · exact List.mem_singleton.mp last ▸ here } }
  later := ⟨List.prefix_refl _, Nat.le_refl _, fun _ still => still, rfl, rfl⟩
  sends := fun _ listed => absurd listed List.not_mem_nil

theorem moves_insert
    (sound : se.Sound numbered stored)
    {s : Segment}
    (right : Numbered numbered s.seqNo s.data)
    (above : se.lastRecvCompleteSeqNo < s.seqNo)
    (inWindow : s.seqNo ≤ se.lastRecvCompleteSeqNo + RUDP_MAX_NUM_ACK)
    (isNew : ∀ other ∈ se.recvSegmentList.items, other.seqNo ≠ s.seqNo) :
    Moves numbered stored se { se with recvSegmentList := se.recvSegmentList.insert s } [] ∧
      ({ se with recvSegmentList := se.recvSegmentList.insert s } : Session).Stored s.seqNo := by
  have perm := KeyedList.insert_perm se.recvSegmentList s
  have stays : ∀ k, se.Stored k →
      ({ se with recvSegmentList := se.recvSegmentList.insert s } : Session).Stored k :=
    fun k here => here.imp_right fun held =>
      ((perm.map Segment.seqNo).mem_iff.mpr (List.mem_cons_of_mem _ held))
  refine ⟨⟨⟨⟨sound.sending.nextSendSeqNo, sound.sending.listed, sound.sending.kept,
      sound.sending.keepAlive⟩,
    ⟨sound.receiving.complete, sound.receiving.appended, ?_, ?_, ?_,
      fun k listed => stays k (sound.receiving.acks k listed)⟩⟩,
    ⟨List.prefix_refl _, Nat.le_refl _, stays, rfl, rfl⟩,
    fun _ listed => absurd listed List.not_mem_nil⟩,
    Or.inr ((perm.map Segment.seqNo).mem_iff.mpr List.mem_cons_self)⟩
  · intro other listed
    obtain rfl | before := List.mem_cons.mp (perm.mem_iff.mp listed)
    · exact right
    · exact sound.receiving.listed other before
  · intro other listed
    obtain rfl | before := List.mem_cons.mp (perm.mem_iff.mp listed)
    · exact ⟨above, inWindow⟩
    · exact sound.receiving.window other before
  · refine (perm.map Segment.seqNo).nodup_iff.mpr (List.nodup_cons.mpr ⟨?_, ?_⟩)
    · intro held
      obtain ⟨other, listed, same⟩ := List.mem_map.mp held
      exact isNew other listed same
    · exact sound.receiving.distinct

theorem moves_rudpProcessRecvPayload
    (sound : se.Sound numbered stored)
    {seq : Nat}
    {payload : List UInt8}
    (right : Numbered numbered seq payload) :
    Moves numbered stored se (se.rudpProcessRecvPayload seq payload) [] := by
  unfold rudpProcessRecvPayload
  split
  · exact .refl sound
  · rename_i inWindow
    split
    · rename_i old
      exact moves_addReplyAck sound (Or.inl old)
    · rename_i above
      split
      · rename_i s found
        obtain ⟨listed, same⟩ := KeyedList.search_sound found
        exact moves_addReplyAck sound (Or.inr (same ▸ List.mem_map_of_mem listed))
      · rename_i notFound
        obtain ⟨held, here⟩ := @moves_insert numbered stored se sound
          { seqNo := seq, data := payload } right (by dsimp only; omega)
          (by dsimp only; omega)
          (fun other listed => KeyedList.search_complete notFound listed)
        exact held.before (moves_addReplyAck held.sound here)

theorem moves_recvSegment
    (sound : se.Sound numbered stored)
    (now : Nat)
    {d : Datagram}
    (right : d.payload ≠ [] → Numbered numbered d.seqNo d.payload) :
    Moves numbered stored se (recvSegment now se d) [] := by
  unfold recvSegment
  split
  · exact .refl sound
  · split
    · have gone := moves_rudpDisconnectSession sound now true
      have silent : (rudpDisconnectSession now se true).1 = [] := by
        unfold rudpDisconnectSession
        split <;> rfl
      rw [silent] at gone
      exact gone
    · have received : Moves numbered stored se
          (if 1 ≤ d.payload.length ∧ d.payload.length ≤ RUDP_MAX_SEGMENT_SIZE then
            se.rudpProcessRecvPayload d.seqNo d.payload else se) [] := by
        split
        · rename_i sized
          exact moves_rudpProcessRecvPayload sound
            (right (List.ne_nil_of_length_pos sized.1))
        · exact .refl sound
      dsimp only
      generalize (if 1 ≤ d.payload.length ∧ d.payload.length ≤ RUDP_MAX_SEGMENT_SIZE then
        se.rudpProcessRecvPayload d.seqNo d.payload else se) = middle at received ⊢
      split
      · refine received.before (SameStream.moves ?_ received.sound)
        exact ⟨rfl, rfl, rfl, rfl, rfl, rfl, rfl, rfl, fun _ listed => listed⟩
      · exact received

theorem moves_rudpProcessRecvPacket
    {peer : Session}
    (sound : se.Sound peer.numbered peer.Stored)
    (now : Nat)
    {d : Datagram}
    (sends : peer.Sends d) :
    Moves peer.numbered peer.Stored se (se.rudpProcessRecvPacket now d) [] := by
  unfold rudpProcessRecvPacket
  split
  · exact .refl sound
  · split
    · exact .refl sound
    · have cumulative : Moves peer.numbered peer.Stored se
          (if 1 ≤ d.maxAck then se.rudpProcessAck2 d.maxAck else se) [] := by
        split
        · exact moves_rudpProcessAck2 sound fun k below =>
            Or.inl (Nat.le_trans below sends.maxAck)
        · exact .refl sound
      dsimp only
      generalize (if 1 ≤ d.maxAck then se.rudpProcessAck2 d.maxAck else se) = first
        at cumulative ⊢
      have selective := moves_acks cumulative.sound sends.acks
      generalize d.acks.foldl rudpProcessAck first = second at selective ⊢
      have timed : Moves peer.numbered peer.Stored second (recvTicks now second d) [] :=
        SameStream.moves ⟨rfl, rfl, rfl, rfl, rfl, rfl, rfl, rfl, fun _ listed => listed⟩
          selective.sound
      exact ((cumulative.before selective).before timed).before
        (moves_recvSegment timed.sound now sends.payload)

/-! ## Reading what has arrived in succession -/

/-- What a segment that is read does to the session. -/
structure Takes (stored : Nat → Prop) (se after : Session) (data : List UInt8) : Prop where
  /-- User data go to `RecvFifo`. -/
  appended : after.appended = se.appended ++ if se.isUserData data then data else []
  sending : after.Sending stored
  /-- The history grows. -/
  numbered : se.numbered <+: after.numbered
  recvSegmentList : after.recvSegmentList = se.recvSegmentList
  replyAckList : after.replyAckList = se.replyAckList
  /-- `Magic_KeepAliveRequest`. -/
  request : after.magicKeepAliveRequest = se.magicKeepAliveRequest
  /-- `Magic_KeepAliveResponse`. -/
  response : after.magicKeepAliveResponse = se.magicKeepAliveResponse

theorem takes_takeSegment
    (sending : se.Sending stored)
    (s : Segment) :
    Takes stored se (se.takeSegment s) s.data := by
  unfold takeSegment
  by_cases request : s.data = se.magicKeepAliveRequest
  · have noData : se.isUserData s.data = false := by
      unfold isUserData
      rw [decide_eq_false_iff_not]
      exact fun different => different.1 request
    have isResponse : se.isUserData se.magicKeepAliveResponse = false := by
      unfold isUserData
      rw [decide_eq_false_iff_not]
      exact fun different => different.2 rfl
    rw [if_pos request]
    split
    · refine ⟨?_, sending.rudpSendSegment fun _ => isResponse, List.prefix_append _ _, rfl,
        rfl, rfl, rfl⟩
      rw [noData]
      exact (List.append_nil _).symm
    · refine ⟨?_, sending, List.prefix_refl _, rfl, rfl, rfl, rfl⟩
      rw [noData]
      exact (List.append_nil _).symm
  · rw [if_neg request]
    by_cases response : s.data = se.magicKeepAliveResponse
    · rw [if_pos response]
      refine ⟨?_, sending, List.prefix_refl _, rfl, rfl, rfl, rfl⟩
      have noData : se.isUserData s.data = false := by
        unfold isUserData
        rw [decide_eq_false_iff_not]
        exact fun different => different.2 response
      rw [noData]
      exact (List.append_nil _).symm
    · rw [if_neg response]
      have isData : se.isUserData s.data = true := by
        unfold isUserData
        rw [decide_eq_true_eq]
        exact ⟨request, response⟩
      refine ⟨?_, ⟨sending.nextSendSeqNo, sending.listed, sending.kept, sending.keepAlive⟩,
        List.prefix_refl _, rfl, rfl, rfl, rfl⟩
      rw [isData]
      rfl

/-- What the loop over the received segments does. -/
structure Reads
    (numbered : List NumberedData)
    (stored : Nat → Prop)
    (se : Session)
    (segments o : List Segment)
    (after : Session) : Prop where
  isPrefix : o <+: segments
  /-- They are those up to the number that has been read. -/
  complete : ∀ s ∈ o, s.seqNo ≤ after.lastRecvCompleteSeqNo
  numbers : ∀ k, se.lastRecvCompleteSeqNo < k → k ≤ after.lastRecvCompleteSeqNo →
    k ∈ o.map Segment.seqNo
  /-- What has been read stays read. -/
  further : se.lastRecvCompleteSeqNo ≤ after.lastRecvCompleteSeqNo
  inside : after.lastRecvCompleteSeqNo ≤ numbered.length
  appended : after.appended = after.userData (numbered.take after.lastRecvCompleteSeqNo)
  sending : after.Sending stored
  numberedGrows : se.numbered <+: after.numbered
  recvSegmentList : after.recvSegmentList = se.recvSegmentList
  replyAckList : after.replyAckList = se.replyAckList
  /-- `Magic_KeepAliveRequest`. -/
  request : after.magicKeepAliveRequest = se.magicKeepAliveRequest
  /-- `Magic_KeepAliveResponse`. -/
  response : after.magicKeepAliveResponse = se.magicKeepAliveResponse

theorem userData_take_succ
    {seqNo : Nat}
    {data : List UInt8}
    (right : Numbered numbered (seqNo + 1) data)
    (se : Session) :
    se.userData (numbered.take (seqNo + 1)) =
      se.userData (numbered.take seqNo) ++ if se.isUserData data then data else [] := by
  obtain ⟨_, entry, listed, same⟩ := right
  rw [Nat.add_sub_cancel] at listed
  obtain ⟨inside, here⟩ := List.getElem?_eq_some_iff.mp listed
  unfold userData
  rw [List.take_succ_eq_append_getElem inside, here, List.filter_append, List.flatMap_append,
    ← same]
  congr 1
  cases isData : se.isUserData entry.data with
  | true => simp [isData]
  | false => simp [isData]

theorem Reads.refl
    (segments : List Segment)
    (sending : se.Sending stored)
    (inside : se.lastRecvCompleteSeqNo ≤ numbered.length)
    (appended : se.appended = se.userData (numbered.take se.lastRecvCompleteSeqNo)) :
    Reads numbered stored se segments [] se :=
  ⟨List.nil_prefix, fun _ listed => absurd listed List.not_mem_nil,
    fun _ above below => absurd above (Nat.not_lt.mpr below), Nat.le_refl _, inside, appended,
    sending, List.prefix_refl _, rfl, rfl, rfl, rfl⟩

theorem reads_readSegments
    {segments : List Segment}
    (sending : se.Sending stored)
    (inside : se.lastRecvCompleteSeqNo ≤ numbered.length)
    (appended : se.appended = se.userData (numbered.take se.lastRecvCompleteSeqNo))
    (right : ∀ s ∈ segments, Numbered numbered s.seqNo s.data) :
    Reads numbered stored se segments
      (readSegments segments se.lastRecvCompleteSeqNo se).1
      (readSegments segments se.lastRecvCompleteSeqNo se).2 := by
  induction segments generalizing se with
  | nil => exact .refl [] sending inside appended
  | cons s rest inductionHypothesis =>
      unfold readSegments
      by_cases next : s.seqNo = se.lastRecvCompleteSeqNo + 1
      · rw [if_pos next]
        dsimp only
        have here := right s List.mem_cons_self
        have takes := takes_takeSegment sending s
        generalize se.takeSegment s = middle at takes ⊢
        have sameData : ∀ number, ({ middle with lastRecvCompleteSeqNo := number } :
            Session).isUserData = se.isUserData := fun number => by
          funext data
          unfold isUserData
          dsimp only
          rw [takes.request, takes.response]
        rw [next] at here ⊢
        obtain ⟨_, entry, listed, _⟩ := here
        obtain ⟨inHistory, _⟩ := List.getElem?_eq_some_iff.mp listed
        have further : ({ middle with lastRecvCompleteSeqNo := se.lastRecvCompleteSeqNo + 1 } :
            Session).appended = ({ middle with
              lastRecvCompleteSeqNo := se.lastRecvCompleteSeqNo + 1 } : Session).userData
                (numbered.take (se.lastRecvCompleteSeqNo + 1)) := by
          rw [userData_take_succ (next ▸ right s List.mem_cons_self)]
          unfold userData
          rw [sameData]
          exact takes.appended.trans (congrArg (· ++ _) appended)
        have movedSending : ({ middle with
            lastRecvCompleteSeqNo := se.lastRecvCompleteSeqNo + 1 } : Session).Sending stored :=
          ⟨takes.sending.nextSendSeqNo, takes.sending.listed, takes.sending.kept,
            takes.sending.keepAlive⟩
        have rightRest : ∀ other ∈ rest, Numbered numbered other.seqNo other.data :=
          fun other listed => right other (List.mem_cons_of_mem s listed)
        have more := @inductionHypothesis
          { middle with lastRecvCompleteSeqNo := se.lastRecvCompleteSeqNo + 1 } movedSending
          (by dsimp only; omega) further rightRest
        dsimp only at more
        generalize readSegments rest (se.lastRecvCompleteSeqNo + 1)
          { middle with lastRecvCompleteSeqNo := se.lastRecvCompleteSeqNo + 1 } = result at more ⊢
        have reached : se.lastRecvCompleteSeqNo + 1 ≤ result.2.lastRecvCompleteSeqNo :=
          more.further
        refine ⟨List.cons_prefix_cons.mpr ⟨rfl, more.isPrefix⟩, ?_, ?_, by omega, more.inside,
          more.appended, more.sending, takes.numbered.trans more.numberedGrows,
          more.recvSegmentList.trans takes.recvSegmentList,
          more.replyAckList.trans takes.replyAckList, more.request.trans takes.request,
          more.response.trans takes.response⟩
        · intro other listed
          obtain rfl | later := List.mem_cons.mp listed
          · rw [next]
            exact reached
          · exact more.complete other later
        · intro k above below
          rw [List.map_cons, List.mem_cons]
          by_cases first : k = s.seqNo
          · exact Or.inl first
          · exact Or.inr (more.numbers k (by dsimp only; omega) below)
      · rw [if_neg next]
        exact .refl _ sending inside appended

theorem moves_readReceived (sound : se.Sound numbered stored) :
    Moves numbered stored se se.readReceived [] := by
  unfold readReceived
  split
  · have reads := reads_readSegments sound.sending sound.receiving.complete
      sound.receiving.appended sound.receiving.listed
    dsimp only
    generalize readSegments se.recvSegmentList.items se.lastRecvCompleteSeqNo se = result
      at reads ⊢
    obtain ⟨o, after⟩ := result
    dsimp only at reads ⊢
    obtain ⟨rest, parts⟩ := reads.isPrefix
    have perm : (o.foldl KeyedList.delete after.recvSegmentList).items.Perm rest :=
      KeyedList.foldl_delete_perm (by rw [reads.recvSegmentList, parts])
    have left : ∀ s ∈ (o.foldl KeyedList.delete after.recvSegmentList).items,
        s ∈ se.recvSegmentList.items ∧ after.lastRecvCompleteSeqNo < s.seqNo := by
      intro s listed
      have inRest := perm.mem_iff.mp listed
      have before : s ∈ se.recvSegmentList.items := parts ▸ List.mem_append_right o inRest
      refine ⟨before, ?_⟩
      by_contra notAbove
      have inPart := reads.numbers s.seqNo (sound.receiving.window s before).1 (by omega)
      have distinct := sound.receiving.distinct
      rw [← parts, List.map_append] at distinct
      exact (List.nodup_append.mp distinct).2.2 _ inPart _ (List.mem_map_of_mem inRest) rfl
    have stays : ∀ k, se.Stored k →
        ({ after with
          recvSegmentList := o.foldl KeyedList.delete after.recvSegmentList } :
            Session).Stored k := by
      rintro _ (old | held)
      · exact Or.inl (Nat.le_trans old reads.further)
      · obtain ⟨s, listed, rfl⟩ := List.mem_map.mp held
        rw [← parts] at listed
        obtain read | inRest := List.mem_append.mp listed
        · exact Or.inl (reads.complete s read)
        · exact Or.inr (List.mem_map_of_mem (perm.mem_iff.mpr inRest))
    refine ⟨⟨⟨reads.sending.nextSendSeqNo, reads.sending.listed, reads.sending.kept,
        reads.sending.keepAlive⟩, ⟨reads.inside, reads.appended, ?_, ?_, ?_, ?_⟩⟩,
      ⟨reads.numberedGrows, reads.further, stays, reads.request, reads.response⟩,
      fun _ listed => absurd listed List.not_mem_nil⟩
    · exact fun s listed => sound.receiving.listed s (left s listed).1
    · intro s listed
      obtain ⟨before, above⟩ := left s listed
      have window := (sound.receiving.window s before).2
      have further := reads.further
      exact ⟨above, by dsimp only; omega⟩
    · have distinct := sound.receiving.distinct
      rw [← parts, List.map_append] at distinct
      exact (perm.map Segment.seqNo).nodup_iff.mpr (List.nodup_append.mp distinct).2.1
    · intro k listed
      exact stays k (sound.receiving.acks k (reads.replyAckList ▸ listed))
  · exact .refl sound

theorem moves_writeSock
    (sound : se.Sound numbered stored)
    (input : Input) :
    Moves numbered stored se (writeSock input se).2 (writeSock input se).1 := by
  unfold writeSock
  split
  · have written : Moves numbered stored se
        { se with recvFifo := se.recvFifo.readFifo input.written } [] :=
      SameStream.moves ⟨rfl, rfl, rfl, rfl, rfl, rfl, rfl, rfl, fun _ listed => listed⟩ sound
    dsimp only
    split
    · exact written.before (moves_rudpDisconnectSession written.sound input.now false)
    · exact written
  · exact .refl sound

theorem moves_readSock
    (sound : se.Sound numbered stored)
    (input : Input) :
    Moves numbered stored se (readSock input se).2 (readSock input se).1 := by
  have filled : Moves numbered stored se
      { se with sendFifo := se.sendFifo.writeFifo input.read } [] :=
    SameStream.moves ⟨rfl, rfl, rfl, rfl, rfl, rfl, rfl, rfl, fun _ listed => listed⟩ sound
  unfold readSock
  dsimp only
  split
  · exact filled.before (moves_rudpDisconnectSession filled.sound input.now false)
  · exact filled

theorem moves_readMagicDisconnect (sound : se.Sound numbered stored) :
    Moves numbered stored se se.readMagicDisconnect [] := by
  unfold readMagicDisconnect
  split
  · exact SameStream.moves ⟨rfl, rfl, rfl, rfl, rfl, rfl, rfl, rfl, fun _ listed => listed⟩ sound
  · exact .refl sound

theorem moves_checkTimeout
    (sound : se.Sound numbered stored)
    (input : Input) :
    Moves numbered stored se (checkTimeout input se).2 (checkTimeout input se).1 := by
  unfold checkTimeout
  split
  · exact moves_rudpDisconnectSession sound input.now false
  · exact .refl sound

theorem moves_interrupt
    (sound : se.Sound numbered stored)
    (input : Input) :
    Moves numbered stored se (se.interrupt input).2 (se.interrupt input).1 := by
  have released : ∀ {after : Session} (freed : Bool), after.Sound numbered stored →
      Moves numbered stored after { after with freed := freed } [] := fun _ sound =>
    SameStream.moves ⟨rfl, rfl, rfl, rfl, rfl, rfl, rfl, rfl, fun _ listed => listed⟩ sound
  unfold interrupt
  split
  · have timeout := moves_checkTimeout sound input
    dsimp only
    generalize checkTimeout input se = first at timeout ⊢
    have received := moves_readReceived timeout.sound
    have magic := moves_readMagicDisconnect received.sound
    have write := moves_writeSock magic.sound input
    generalize writeSock input first.2.readReceived.readMagicDisconnect = second at write ⊢
    have read := moves_readSock write.sound input
    generalize readSock input second.2 = third at read ⊢
    have divided := moves_sendDivided read.sound (third.2.sendFifo.fifoSize + 1)
    have all := moves_sendAll divided.sound input
    generalize sendAll input (sendDivided (third.2.sendFifo.fifoSize + 1) third.2) = fourth
      at all ⊢
    have whole := (((timeout.trans ((received.before magic).before write)).trans read).trans
      (divided.before all))
    have last := whole.trans (released fourth.2.disconnectFlag whole.sound)
    rw [List.append_nil] at last
    exact last
  · exact released _ sound

end

end Session

/-! ## The connection -/

namespace Connection

/-- The invariant of a connection. -/
structure Sound (c : Connection) : Prop where
  session : ∀ side, (c.session side).Sound (c.session side.other).numbered
    (c.session side.other).Stored
  sent : ∀ side, ∀ d ∈ c.sent side, (c.session side).Sends d
  request : ∀ side, (c.session side.other).magicKeepAliveRequest =
    (c.session side).magicKeepAliveRequest
  response : ∀ side, (c.session side.other).magicKeepAliveResponse =
    (c.session side).magicKeepAliveResponse

theorem other_ne (side : Side) : side.other ≠ side := by
  cases side <;> exact fun absurdity => nomatch absurdity

theorem other_other (side : Side) : side.other.other = side := by
  cases side <;> rfl

theorem eq_or_other (side target : Side) : side = target ∨ side = target.other := by
  cases side <;> cases target <;> first | exact Or.inl rfl | exact Or.inr rfl

theorem Sound.moves
    {c : Connection}
    (sound : c.Sound)
    {side : Side}
    {after : Session}
    {sent : List Datagram}
    (moves : Session.Moves (c.session side.other).numbered (c.session side.other).Stored
      (c.session side) after sent) :
    Sound
      { session := Function.update c.session side after
        sent := Function.update c.sent side (c.sent side ++ sent) } where
  session := fun target => by
    obtain rfl | rfl := eq_or_other target side
    · simp only [Function.update_self, Function.update_of_ne (other_ne target)]
      exact moves.sound
    · simp only [other_other, Function.update_self, Function.update_of_ne (other_ne side)]
      have peer := sound.session side.other
      rw [other_other] at peer
      exact peer.mono moves.later.numbered moves.later.stored
  sent := fun target d listed => by
    obtain rfl | rfl := eq_or_other target side
    · simp only [Function.update_self] at listed ⊢
      obtain before | now := List.mem_append.mp listed
      · exact (sound.sent target d before).mono moves.later
      · exact moves.sends d now
    · simp only [Function.update_of_ne (other_ne side)] at listed ⊢
      exact sound.sent side.other d listed
  request := fun target => by
    obtain rfl | rfl := eq_or_other target side
    · simp only [Function.update_self, Function.update_of_ne (other_ne target)]
      rw [moves.later.request]
      exact sound.request target
    · simp only [other_other, Function.update_self, Function.update_of_ne (other_ne side)]
      rw [moves.later.request]
      exact (sound.request side).symm
  response := fun target => by
    obtain rfl | rfl := eq_or_other target side
    · simp only [Function.update_self, Function.update_of_ne (other_ne target)]
      rw [moves.later.response]
      exact sound.response target
    · simp only [other_other, Function.update_self, Function.update_of_ne (other_ne side)]
      rw [moves.later.response]
      exact (sound.response side).symm

theorem Sound.step
    {c later : Connection}
    (sound : c.Sound)
    {event : Event}
    (stepped : step c event = some later) :
    later.Sound := by
  cases event with
  | interrupt side input =>
      unfold Rudp.step at stepped
      dsimp only at stepped
      split at stepped
      · exact nomatch stepped
      · injection stepped with stepped
        subst stepped
        exact sound.moves (Session.moves_interrupt (sound.session side) input)
  | deliver side now d =>
      unfold Rudp.step at stepped
      dsimp only at stepped
      split at stepped
      · rename_i arrives
        injection stepped with stepped
        subst stepped
        have received := sound.moves (Session.moves_rudpProcessRecvPacket (sound.session side)
          now (sound.sent side.other d arrives.2))
        rw [List.append_nil, Function.update_eq_self] at received
        exact received
      · exact nomatch stepped

/-- A connection whose sessions have just been made; the `SendFifo` may hold data. -/
structure IsNew (c : Connection) : Prop where
  session : ∀ side,
    (c.session side).numbered = [] ∧ (c.session side).nextSendSeqNo = 1 ∧
      (c.session side).sendSegmentList.items = [] ∧
      (c.session side).lastRecvCompleteSeqNo = 0 ∧
      (c.session side).recvSegmentList.items = [] ∧
      (c.session side).replyAckList = [] ∧ (c.session side).appended = []
  sent : ∀ side, c.sent side = []
  request : ∀ side, (c.session side.other).magicKeepAliveRequest =
    (c.session side).magicKeepAliveRequest
  response : ∀ side, (c.session side.other).magicKeepAliveResponse =
    (c.session side).magicKeepAliveResponse

theorem IsNew.sound
    {c : Connection}
    (isNew : c.IsNew) :
    c.Sound where
  session := fun side => by
    obtain ⟨numbered, next, waiting, complete, held, acks, appended⟩ := isNew.session side
    refine ⟨⟨?_, ?_, ?_, ?_⟩, ⟨?_, ?_, ?_, ?_, ?_, ?_⟩⟩
    · rw [next, numbered]
      rfl
    · rw [waiting]
      exact fun _ listed => absurd listed List.not_mem_nil
    · rw [numbered]
      intro k positive given
      exact absurd positive (Nat.not_le.mpr (Nat.lt_succ_of_le given))
    · rw [numbered]
      exact fun _ listed => absurd listed List.not_mem_nil
    · rw [complete]
      exact Nat.zero_le _
    · rw [appended, complete]
      rfl
    · rw [held]
      exact fun _ listed => absurd listed List.not_mem_nil
    · rw [held]
      exact fun _ listed => absurd listed List.not_mem_nil
    · rw [held]
      exact List.nodup_nil
    · rw [acks]
      exact fun _ listed => absurd listed List.not_mem_nil
  sent := fun side d listed => by
    rw [isNew.sent side] at listed
    exact absurd listed List.not_mem_nil
  request := isNew.request
  response := isNew.response

/-- No data that a side has taken from its `SendFifo` are equal to a magic number of the
messages that keep the connection alive. -/
def NoMagic (c : Connection) (side : Side) : Prop :=
  ∀ entry ∈ (c.session side).numbered, entry.fromFifo = true →
    (c.session side).isUserData entry.data = true

/-- What the stream of a sender promises. -/
structure Reliable (c : Connection) (sender : Side) : Prop where
  /-- The bytes written to `RecvFifo` are the first of those taken from `SendFifo`. -/
  isPrefix : c.NoMagic sender →
    (c.session sender.other).appended <+: (c.session sender).taken
  stored : ∀ k, 1 ≤ k → k < (c.session sender).nextSendSeqNo →
    k ∈ (c.session sender).waiting ∨ (c.session sender.other).Stored k
  few : (c.session sender.other).recvSegmentList.num ≤ RUDP_MAX_NUM_ACK

theorem num_le_of_receiving
    {se : Session}
    {numbered : List NumberedData}
    (receiving : se.Receiving numbered) :
    se.recvSegmentList.num ≤ RUDP_MAX_NUM_ACK := by
  have inWindow : se.recvSegmentList.items.map Segment.seqNo ⊆
      List.range' (se.lastRecvCompleteSeqNo + 1) RUDP_MAX_NUM_ACK := by
    intro k held
    obtain ⟨s, listed, rfl⟩ := List.mem_map.mp held
    have window := receiving.window s listed
    exact List.mem_range'_1.mpr ⟨by omega, by omega⟩
  have few := (List.subperm_of_subset receiving.distinct inWindow).length_le
  rw [List.length_map, List.length_range'] at few
  exact few

theorem Sound.reliable
    {c : Connection}
    (sound : c.Sound)
    (sender : Side) :
    c.Reliable sender := by
  have sending := (sound.session sender).sending
  have receiving := (sound.session sender.other).receiving
  rw [other_other] at receiving
  refine ⟨?_, ?_, num_le_of_receiving receiving⟩
  · intro noMagic
    have sameData : (c.session sender.other).isUserData = (c.session sender).isUserData := by
      funext data
      unfold Session.isUserData
      rw [sound.request sender, sound.response sender]
    have kinds : (c.session sender).numbered.filter NumberedData.fromFifo =
        (c.session sender).numbered.filter fun entry =>
          (c.session sender.other).isUserData entry.data := by
      apply List.filter_congr
      intro entry listed
      rw [sameData]
      cases fromFifo : entry.fromFifo with
      | true => exact (noMagic entry listed fromFifo).symm
      | false => exact (sending.keepAlive entry listed fromFifo).symm
    rw [receiving.appended, Session.taken, kinds, Session.userData]
    have read := (List.take_prefix (c.session sender.other).lastRecvCompleteSeqNo
      (c.session sender).numbered).filter
        fun entry => (c.session sender.other).isUserData entry.data
    exact List.IsPrefix.flatMap read _
  · intro k positive given
    have next := sending.nextSendSeqNo
    exact sending.kept k positive (by omega)

/-- **The segment stream.**  However the network treats the datagrams, in every connection
that is reached the bytes written to `RecvFifo` are the first of those taken from
`SendFifo`, segments are forgotten only when they are stored, and few are held. -/
theorem stream_reliable
    (start c : Connection)
    (isNew : start.IsNew)
    (reached : Reaches step (fun _ _ => True) start c) :
    ∀ sender, c.Reliable sender :=
  (reached.invariant Connection.Sound isNew.sound
    (fun _ _ _ sound _ stepped => sound.step stepped)).reliable

def threeBytes : Connection where
  session side :=
    { serverMode := side = .server
      status := .established
      magicKeepAliveRequest := List.replicate 20 1
      magicKeepAliveResponse := List.replicate 20 2
      sendFifo := ⟨if side = .client then [5, 6, 7] else []⟩ }
  sent _ := []

/-- The client sends the bytes, the datagram arrives twice and the server reads it. -/
def arrivesTwice : List Event :=
  let d : Datagram :=
    { myTick := 10, yourTick := 0, maxAck := 0, acks := [], seqNo := 1, payload := [5, 6, 7] }
  [.interrupt .client { now := 10 }, .deliver .server 11 d, .deliver .server 12 d,
    .interrupt .server { now := 13 }]

/-- The connection after some events. -/
def after (events : List Event) : Connection :=
  (run step events threeBytes).getD threeBytes

/-- The bytes arrive once, and the stream is reliable. -/
theorem stream_reliable_threeBytes :
    ((after arrivesTwice).session .server).appended = [5, 6, 7] ∧
      ((after arrivesTwice).session .server).appended <+:
        ((after arrivesTwice).session .client).taken ∧
      (after arrivesTwice).Reliable .client := by
  have isNew : threeBytes.IsNew :=
    ⟨fun _ => ⟨rfl, rfl, rfl, rfl, rfl, rfl, rfl⟩, fun _ => rfl, fun _ => rfl, fun _ => rfl⟩
  have reached : Reaches step (fun _ _ => True) threeBytes (after arrivesTwice) := by
    unfold after
    cases ran : run step arrivesTwice threeBytes with
    | none => exact .start
    | some last => exact .of_run ran
  have noMagic : (after arrivesTwice).NoMagic .client := by
    unfold NoMagic
    decide +kernel
  have reliable := stream_reliable threeBytes (after arrivesTwice) isNew reached .client
  exact ⟨by decide +kernel, reliable.isPrefix noMagic, reliable⟩

end Connection

end Rudp
end SoftEther
