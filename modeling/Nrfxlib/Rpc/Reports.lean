import Nrfxlib.Rpc.Peer

/-!
# Error reports between two peers

The packet of an error report carries the type of the offending packet as its
destination, and the receiver reads it from the source context, which such a packet
does not have.
-/

namespace Nrfxlib.Rpc

open Lib

/-- A group of one peer is bound to a group of the other peer. -/
structure Bound (peer other : Peer) (index target : Nat) (group : Group) : Prop where
  member : peer.groups[index]? = some group
  initialized : group.transportInitialized = true
  target_eq : group.dstGroupId.toNat = target
  present : target < other.groupCount.toNat

section

variable {peer other : Peer} {index target : Nat} {group : Group}

/-- What the packet of an error report consists of. -/
def reportHeader (group : Group) (id packetType : UInt8) : Header where
  dst := packetType
  src := idUnknown
  type := packetTypeErr
  id := id
  srcGroupId := group.srcGroupId
  dstGroupId := group.dstGroupId

def reportPacket (group : Group) (code : Int32) (id packetType : UInt8) : List UInt8 :=
  headerEncode (reportHeader group id packetType) ++ intBytes code

theorem Bound.err_sends (bound : Bound peer other index target group) (code : Int32)
    (id packetType : UInt8) :
    peer.err true code .recv (some index) id packetType =
      .transport index (reportPacket group code id packetType) ::
        (peer.errLevels (some index)).map fun level =>
          .errHandler level ⟨code, some index, .recv, id, packetType⟩ := by
  simp [Peer.err, bound.member, Group.simpleSend, Group.allocTxBuf, Group.send, bound.initialized,
    outputSent, reportPacket, reportHeader]

/-- An update of a group that keeps its handlers. -/
theorem errLevels_updateGroup (update : Group → Group)
    (kept : ∀ group, (update group).errHandler = group.errHandler) (target : Nat) :
    (peer.updateGroup index update).errLevels (some target) = peer.errLevels (some target) := by
  have same : ((peer.updateGroup index update).groups[target]?).any (fun group => group.errHandler) =
      (peer.groups[target]?).any fun group => group.errHandler := by
    rw [Peer.updateGroup, List.getElem?_modify]
    cases peer.groups[target]? with
    | none => rfl
    | some group =>
        by_cases here : index = target
        · simp [here, kept]
        · simp [here]
  simp only [Peer.errLevels, Option.bind_some, same]
  rfl

/-- The peer that receives the report calls its handlers with the source context. -/
theorem Bound.receives (bound : Bound peer other index target group) (code : Int32)
    (id packetType : UInt8) (cmdCtxPoolSize : Nat) (uninitialized : Header) :
    (other.receiveHandler cmdCtxPoolSize uninitialized
        (reportPacket group code id packetType)).2 =
      (other.errLevels (some target)).map fun level =>
        .errHandler level ⟨code, some target, .remote, id, idUnknown⟩ := by
  have plain : (reportHeader group id packetType).type < packetTypeCmd :=
    (by decide : packetTypeErr < packetTypeCmd)
  have decoded := headerDecode_headerEncode _ uninitialized (intBytes code) plain
  have found : other.groupFromId group.dstGroupId = some target := by
    have inside : ¬ group.dstGroupId ≥ other.groupCount := by
      rw [ge_iff_le, UInt8.le_iff_toNat_le, bound.target_eq]
      exact Nat.not_le.mpr bound.present
    rw [Peer.groupFromId, if_neg inside, bound.target_eq]
  have payload : ((reportPacket group code id packetType).drop headerSize).take 4 =
      intBytes code := by
    have behind : (reportPacket group code id packetType).drop headerSize = intBytes code :=
      List.drop_left' rfl
    rw [behind, List.take_of_length_le (Nat.le_of_eq (length_intBytes code))]
  have whole : (reportPacket group code id packetType).length ≥ headerSize + 4 := by
    rw [reportPacket, List.length_append, length_intBytes]
    exact Nat.le_refl _
  have types : packetTypeErr ≠ packetTypeCmd ∧ packetTypeErr ≠ packetTypeEvt ∧
      packetTypeErr ≠ packetTypeAck ∧ packetTypeErr ≠ packetTypeRsp := by decide
  rw [← reportPacket] at decoded
  simp only [Peer.receiveHandler, decoded]
  simp [reportHeader, types, found, Peer.receiveForGroup, whole, payload, intOfBytes_intBytes,
    Peer.err, errLevels_updateGroup]

/-- The error handlers of the other peer get the report out of the packet that was sent. -/
def Arrives (other : Peer) (cmdCtxPoolSize : Nat) (uninitialized : Header) (outputs : List Output)
    (report : Report) : Prop :=
  ∃ index sent, outputs.head? = some (.transport index sent) ∧
    (other.receiveHandler cmdCtxPoolSize uninitialized sent).2 =
      (other.errLevels report.group).map fun level => .errHandler level report

theorem Bound.arrives_iff (bound : Bound peer other index target group)
    (handled : other.errLevels (some target) ≠ []) (code : Int32) (id packetType : UInt8)
    (cmdCtxPoolSize : Nat) (uninitialized : Header) :
    Arrives other cmdCtxPoolSize uninitialized
        (peer.err true code .recv (some index) id packetType)
        ⟨code, some target, .remote, id, packetType⟩ ↔
      packetType = idUnknown := by
  obtain ⟨level, levels, shape⟩ := List.exists_cons_of_ne_nil handled
  have received := bound.receives code id packetType cmdCtxPoolSize uninitialized
  rw [bound.err_sends]
  constructor
  · rintro ⟨index', sent, first, arrived⟩
    simp only [List.head?_cons, Option.some.injEq, Output.transport.injEq] at first
    obtain ⟨-, rfl⟩ := first
    rw [arrived, shape] at received
    simp only [List.map_cons, List.cons.injEq, Output.errHandler.injEq, Report.mk.injEq,
      true_and] at received
    exact received.1
  · rintro rfl
    exact ⟨index, _, rfl, received⟩

end

/-- Every header is decoded as it was encoded, without a source context when the packet is no
command; but a report arrives at the other peer only when the type of the offending packet is
unknown. -/
theorem round_trips_iff (before : Header) :
    (∀ (hdr : Header) (payload : List UInt8), hdr.type < packetTypeCmd →
      headerDecode (headerEncode hdr ++ payload) before = (0, { hdr with src := idUnknown })) ∧
    (∀ (hdr : Header) (payload : List UInt8), hdr.src < 0x80 →
      headerDecode (headerCmdEncode hdr ++ payload) before =
        (0, { hdr with type := packetTypeCmd })) ∧
    (∀ (group : Group) (txBuf : Bool) (dst type id groupId dstGroupId : UInt8)
        (payload sent : List UInt8), type < packetTypeCmd →
      group.simpleSend txBuf dst type id groupId dstGroupId payload = .ok sent →
      headerDecode sent before = (0, {
        dst := dst
        src := idUnknown
        type := type
        id := id
        srcGroupId := groupId
        dstGroupId := dstGroupId })) ∧
    ∀ (peer other : Peer) (index target : Nat) (group : Group),
      Bound peer other index target group → other.errLevels (some target) ≠ [] →
      ∀ (code : Int32) (id packetType : UInt8) (cmdCtxPoolSize : Nat),
        Arrives other cmdCtxPoolSize before
            (peer.err true code .recv (some index) id packetType)
            ⟨code, some target, .remote, id, packetType⟩ ↔
          packetType = idUnknown := by
  refine ⟨fun hdr => headerDecode_headerEncode hdr before,
    fun hdr => headerDecode_headerCmdEncode hdr before, ?_, ?_⟩
  · intro group txBuf dst type id groupId dstGroupId payload sent plain succeeded
    rw [Group.simpleSend, Group.send] at succeeded
    split_ifs at succeeded
    obtain rfl := Except.ok.inj succeeded
    exact headerDecode_headerEncode _ before payload plain
  · intro peer other index target group bound handled code id packetType cmdCtxPoolSize
    exact bound.arrives_iff handled code id packetType cmdCtxPoolSize before

/-- A group that is bound to the first group of the other peer. -/
def boundGroup : Group where
  strid := [0x61]
  flags := 1
  ackHandler := false
  errHandler := true
  boundHandler := false
  srcGroupId := 0
  dstGroupId := 0
  transportInitialized := true

/-- A peer with this group alone. -/
def boundPeer : Peer where
  groups := [boundGroup]
  groupCount := 1
  waitingGroupCount := 1
  initializedGroupCount := 1
  isStopped := false
  globalErrHandler := true
  globalBoundHandler := false

theorem bound_boundPeer : Bound boundPeer boundPeer 0 0 boundGroup :=
  ⟨rfl, rfl, rfl, by decide⟩

theorem round_trips_iff_boundPeer :
    headerDecode (headerEncode Header.zero ++ []) Header.zero =
        (0, { Header.zero with src := idUnknown }) ∧
      headerDecode (headerCmdEncode Header.zero ++ []) Header.zero =
        (0, { Header.zero with type := packetTypeCmd }) ∧
      (Arrives boundPeer 8 Header.zero
          (boundPeer.err true (-ebadmsg) .recv (some 0) idUnknown idUnknown)
          ⟨-ebadmsg, some 0, .remote, idUnknown, idUnknown⟩ ↔ idUnknown = idUnknown) := by
  obtain ⟨plain, command, -, reports⟩ := round_trips_iff Header.zero
  exact ⟨plain Header.zero [] (by decide), command Header.zero [] (by decide),
    reports boundPeer boundPeer 0 0 boundGroup bound_boundPeer (by decide) _ _ _ _⟩

/-- The report about a command arrives without its packet type. -/
theorem packetType_lost :
    Bound boundPeer boundPeer 0 0 boundGroup ∧
      ¬ Arrives boundPeer 8 Header.zero
        (boundPeer.err true (-ebadmsg) .recv (some 0) 7 packetTypeCmd)
        ⟨-ebadmsg, some 0, .remote, 7, packetTypeCmd⟩ := by
  refine ⟨bound_boundPeer, ?_⟩
  rw [bound_boundPeer.arrives_iff (by decide)]
  decide

end Nrfxlib.Rpc
