import Nrfxlib.Rpc.Buffers.Model
import Nrfxlib.Rpc.Groups

/-!
# Where packets are passed on to

`receive_handler` has validated what `parse_incoming_packet` asserts, and has marked the
transport of the group as initialized, which it then remains.
-/

namespace Nrfxlib.Rpc.Buffers

open Lib

/-- The packet names a group, and its transport is initialized. -/
def Named (peer : Peer) (packet : RxPacket) : Prop :=
  ∃ group, peer.groupFromId packet.header.dstGroupId = some group ∧
    initialized peer group = true

/-- What may be passed to a context. -/
def ForContext (peer : Peer) (packet : RxPacket) : Prop :=
  (packet.header.type = packetTypeCmd ∨ packet.header.type = packetTypeRsp) ∧ Named peer packet

/-- What may be passed to the thread pool. -/
def ForPool (peer : Peer) (packet : RxPacket) : Prop :=
  (packet.header.type = packetTypeCmd ∨ packet.header.type = packetTypeEvt) ∧ Named peer packet

/-- The groups are numbered. -/
def Sized (peer : Peer) : Prop := peer.groupCount.toNat = peer.groups.length

/-- No transport of a group is forgotten. -/
structure Grows (peer next : Peer) : Prop where
  groupCount : next.groupCount = peer.groupCount
  length : next.groups.length = peer.groups.length
  keeps : ∀ group, initialized peer group = true → initialized next group = true

namespace Grows

variable {peer next : Peer} {packet : RxPacket}

theorem refl (peer : Peer) : Grows peer peer := ⟨rfl, rfl, fun _ => id⟩

theorem sized (grows : Grows peer next) (sized : Sized peer) : Sized next := by
  rw [Sized, grows.groupCount, grows.length]
  exact sized

theorem named (grows : Grows peer next) (named : Named peer packet) : Named next packet := by
  obtain ⟨group, found, known⟩ := named
  refine ⟨group, ?_, grows.keeps group known⟩
  rw [Peer.groupFromId, grows.groupCount]
  exact found

theorem forContext (grows : Grows peer next) (routed : ForContext peer packet) :
    ForContext next packet := ⟨routed.1, grows.named routed.2⟩

theorem forPool (grows : Grows peer next) (routed : ForPool peer packet) : ForPool next packet :=
  ⟨routed.1, grows.named routed.2⟩

end Grows

theorem initialized_updateGroup (peer : Peer) (index group : Nat) (update : Group → Group) :
    initialized (peer.updateGroup index update) group =
      (peer.groups[group]?).any fun found =>
        if index = group then (update found).transportInitialized
        else found.transportInitialized := by
  rw [initialized, Peer.updateGroup, List.getElem?_modify]
  cases peer.groups[group]? with
  | none => rfl
  | some found => by_cases here : index = group <;> simp [here]

theorem Grows.updateGroup (peer : Peer) (index : Nat) {update : Group → Group}
    (kept : ∀ group, group.transportInitialized = true →
      (update group).transportInitialized = true) :
    Grows peer (peer.updateGroup index update) := by
  refine ⟨rfl, List.length_modify _ _ _, fun group known => ?_⟩
  rw [initialized_updateGroup]
  rw [initialized] at known
  cases found : peer.groups[group]? with
  | none => rw [found] at known; exact known
  | some chosen =>
      rw [found] at known
      by_cases here : index = group
      · simpa [here] using kept chosen known
      · simpa [here] using known

theorem Grows.unbind (peer : Peer) : Grows peer peer.unbind := by
  refine ⟨rfl, List.length_map _, fun group known => ?_⟩
  rw [initialized] at known ⊢
  rw [Peer.unbind, List.getElem?_map]
  cases found : peer.groups[group]? <;> rw [found] at known <;> exact known

theorem Grows.initGroup (peer : Peer) (hdr : Header) (index : Nat) (group : Group) :
    Grows peer (peer.initGroup hdr index group).1 := by
  have bound : Grows peer (peer.updateGroup index fun group =>
      { group with dstGroupId := hdr.srcGroupId, transportInitialized := true }) :=
    .updateGroup peer index fun _ _ => rfl
  exact ⟨bound.groupCount, bound.length, bound.keeps⟩

/-! ## The receive handler -/

/-- A packet that has a header has only one. -/
theorem header_eq {packet : RxPacket} {uninitialized hdr : Header}
    (decoded : headerDecode packet.bytes uninitialized = (0, hdr)) : packet.header = hdr := by
  rw [RxPacket.header]
  rw [headerDecode] at decoded ⊢
  split_ifs at decoded ⊢ with short
  · cases decoded
  · exact (Prod.mk.inj decoded).2

theorem reception_cleanupAndExit (err : Int32) (group : Option Nat) (hdr : Header) :
    reception (Peer.cleanupAndExit err group hdr) = some .cleanup := by
  rw [Peer.cleanupAndExit]
  split_ifs <;> rfl

theorem reception_of_forall {outputs : List Output}
    (kept : ∀ output ∈ outputs, reception [output] = some .cleanup) :
    reception outputs = some .cleanup := by
  cases outputs with
  | nil => rfl
  | cons output outputs => exact kept output List.mem_cons_self

theorem reception_err (peer : Peer) (code : Int32) (group : Option Nat) (id packetType : UInt8) :
    reception (peer.err true code .remote group id packetType) = some .cleanup := by
  refine reception_of_forall fun output member => ?_
  simp only [Peer.err, List.nil_append] at member
  obtain ⟨level, -, rfl⟩ := List.mem_map.mp member
  rfl

theorem reception_initGroup (peer : Peer) (hdr : Header) (index : Nat) (group : Group) :
    ∀ output ∈ (peer.initGroup hdr index group).2, reception [output] = some .cleanup := by
  have made (first reply signal : Bool) : ∀ output ∈
      (if first || reply || signal then [Output.task (.groupInit index first reply signal)]
      else []), reception [output] = some .cleanup := by
    intro output member
    split_ifs at member
    · obtain rfl := List.mem_singleton.mp member
      rfl
    · cases member
  exact made _ _ _

/-- What a packet with the header is routed as. -/
structure Routes (peer : Peer) (packet : RxPacket) (outputs : List Output) : Prop where
  context : ∀ dst, reception outputs = some (.context dst) → ForContext peer packet
  pool : reception outputs = none → ForPool peer packet

theorem Routes.of_cleanup {peer : Peer} {packet : RxPacket} {outputs : List Output}
    (cleaned : reception outputs = some .cleanup) : Routes peer packet outputs where
  context dst addressed := by rw [cleaned] at addressed; cases addressed
  pool pooled := by rw [cleaned] at pooled; cases pooled

/-- A type with a group, other than that of the acknowledgements. -/
theorem receiveForGroup_routes {peer : Peer} {index : Nat} {packet : RxPacket}
    (poolSize : Nat) (found : peer.groupFromId packet.header.dstGroupId = some index)
    (known : initialized peer index = true) :
    Routes peer packet (peer.receiveForGroup poolSize packet.header index packet.bytes) := by
  have named : Named peer packet := ⟨index, found, known⟩
  rw [Peer.receiveForGroup]
  by_cases unaddressed : packet.header.type = packetTypeCmd ∧ packet.header.dst = idUnknown
  · rw [if_pos unaddressed]
    exact ⟨by rintro dst ⟨⟩, fun _ => ⟨.inl unaddressed.1, named⟩⟩
  rw [if_neg unaddressed]
  dsimp only
  split_ifs with addressed outside event ack handled
  · exact .of_cleanup (reception_cleanupAndExit _ _ _)
  · exact ⟨fun _ _ => ⟨addressed, named⟩, by rintro ⟨⟩⟩
  · exact ⟨by rintro dst ⟨⟩, fun _ => ⟨.inr event, named⟩⟩
  · exact .of_cleanup rfl
  · exact .of_cleanup rfl
  · exact .of_cleanup (reception_err _ _ _ _ _)
  · exact .of_cleanup (reception_err _ _ _ _ _)

theorem initialized_of_groupFromId {peer : Peer} (sized : Sized peer) {groupId : UInt8}
    {index : Nat} (found : peer.groupFromId groupId = some index) :
    initialized (peer.updateGroup index fun group => { group with transportInitialized := true })
      index = true := by
  rw [Peer.groupFromId] at found
  split_ifs at found with outside
  obtain rfl := Option.some.inj found
  have inside : groupId.toNat < peer.groups.length := by
    rw [← sized]
    rwa [ge_iff_le, UInt8.le_iff_toNat_le, not_le] at outside
  rw [initialized_updateGroup, List.getElem?_eq_getElem inside]
  simp

/-- The packets that `receive_handler` passes on are valid, and no transport is forgotten. -/
theorem receiveHandler_routes {peer : Peer} (sized : Sized peer) (poolSize : Nat)
    (uninitialized : Header) (packet : RxPacket) :
    Grows peer (peer.receiveHandler poolSize uninitialized packet.bytes).1 ∧
      Routes (peer.receiveHandler poolSize uninitialized packet.bytes).1 packet
        (peer.receiveHandler poolSize uninitialized packet.bytes).2 := by
  have whole := Binding.headerDecode_err packet.bytes uninitialized
  have cleaned (err : Int32) (group : Option Nat) (hdr : Header) :
      Routes peer packet (Peer.cleanupAndExit err group hdr) :=
    .of_cleanup (reception_cleanupAndExit err group hdr)
  rw [Peer.receiveHandler]
  cases decoded : headerDecode packet.bytes uninitialized with
  | mk err hdr =>
      rw [decoded] at whole
      dsimp only at whole ⊢
      by_cases failed : err < 0
      · simp only [if_pos failed]
        exact ⟨.refl peer, cleaned _ _ _⟩
      obtain rfl : err = 0 := whole.resolve_left failed
      obtain rfl := header_eq decoded
      simp only [if_neg failed]
      split_ifs with stopped grouped init
      · exact ⟨.refl peer, .of_cleanup rfl⟩
      · cases found : peer.groupFromId packet.header.dstGroupId with
        | none => exact ⟨.refl peer, cleaned (-ebadmsg) none packet.header⟩
        | some index =>
            exact ⟨.updateGroup peer index fun _ _ => rfl,
              receiveForGroup_routes poolSize found (initialized_of_groupFromId sized found)⟩
      · rw [Peer.initPacketHandle]
        cases peer.initPacketGroup packet.bytes with
        | error err => exact ⟨.refl peer, cleaned _ _ _⟩
        | ok index =>
            dsimp only
            cases peer.groups[index]? with
            | none => exact ⟨.refl peer, cleaned 0 (some index) packet.header⟩
            | some group =>
                refine ⟨.initGroup peer packet.header index group, .of_cleanup ?_⟩
                refine reception_of_forall fun output member => ?_
                rcases List.mem_append.mp member with bound | reported
                · exact reception_initGroup peer packet.header index group output bound
                · cases reported
      · exact ⟨.refl peer, cleaned (-ebadmsg) none packet.header⟩

end Nrfxlib.Rpc.Buffers
