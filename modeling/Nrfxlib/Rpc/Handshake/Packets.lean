import Mathlib.Data.List.Nodup
import Nrfxlib.Rpc.Handshake.Model

/-!
# The packets and the groups of the handshake

What a run of the handshake keeps: the groups of both peers, and the form of every packet and of
every task.
-/

namespace Nrfxlib.Rpc.Handshake

open Lib Binding

/-- An initialization packet. -/
def initBytes (src dst : UInt8) (strid : List UInt8) : List UInt8 :=
  [packetTypeInit, 0, idUnknown, src, dst, protocolVersion] ++ strid

theorem groupInitSend_eq {group : Group} (ready : group.transportInitialized = true) :
    group.groupInitSend true =
      .ok (initBytes group.srcGroupId group.dstGroupId group.strid) := by
  rw [Group.groupInitSend, Group.allocTxBuf, Group.send, ready]
  rfl

/-- The packet for a group that is there. -/
theorem receiveHandler_initBytes {peer : Peer} {strid : List UInt8} {index : Nat} {group : Group}
    (cmdCtxPoolSize : Nat) (uninitialized : Header) (src dst : UInt8) (named : strid ≠ [])
    (found : peer.groupFromStrid strid = some index) (member : peer.groups[index]? = some group) :
    peer.receiveHandler cmdCtxPoolSize uninitialized (initBytes src dst strid) =
      peer.initGroup ⟨idUnknown, idUnknown, packetTypeInit, 0, src, dst⟩ index group := by
  have decoded := headerDecode_headerEncode ⟨idUnknown, idUnknown, packetTypeInit, 0, src, dst⟩
    uninitialized (protocolVersion :: strid) (by change packetTypeInit < packetTypeCmd; decide)
  have bytes : headerEncode ⟨idUnknown, idUnknown, packetTypeInit, 0, src, dst⟩ ++
      protocolVersion :: strid = initBytes src dst strid := rfl
  rw [bytes] at decoded
  have length : (initBytes src dst strid).length = strid.length + 6 := rfl
  have data : initPacketParse (initBytes src dst strid) =
      .ok { minVersion := 0, maxVersion := 0, strid := strid } := by
    have long : ¬ (initBytes src dst strid).length < headerSize + 1 := by
      rw [length, headerSize]
      omega
    have some : ¬ ((initBytes src dst strid).drop (headerSize + 1)).length = 0 := by
      rw [List.length_eq_zero_iff]
      exact named
    have version : (initBytes src dst strid).getD headerSize 0 = 0 := rfl
    have rest : (initBytes src dst strid).drop (headerSize + 1) = strid := rfl
    rw [initPacketParse, if_neg long]
    dsimp only
    rw [if_neg some, version, rest]
    rfl
  have names : peer.initPacketGroup (initBytes src dst strid) = .ok index := by
    rw [Peer.initPacketGroup, data]
    dsimp only
    have accepted : protocolVersionCheck { minVersion := 0, maxVersion := 0, strid := strid } = true :=
      rfl
    rw [accepted, Bool.not_true, if_neg Bool.false_ne_true, found]
  rw [Peer.receiveHandler, decoded]
  dsimp only
  rw [if_neg (by decide), if_neg (fun both => absurd both.2 (by decide)), if_neg (by decide),
    if_pos rfl, Peer.initPacketHandle, names]
  dsimp only
  rw [member]
  exact Prod.ext rfl (List.append_nil _)

/-- The id of the group that has sent the packet. -/
def sourceId (packet : List UInt8) : UInt8 := packet.getD 3 0

/-- The sender knows the id of the group that it sends to. -/
def tells (packet : List UInt8) : Bool := packet.getD 4 0 != idUnknown

@[simp] theorem sourceId_initBytes (src dst : UInt8) (strid : List UInt8) :
    sourceId (initBytes src dst strid) = src := rfl

@[simp] theorem tells_initBytes (src dst : UInt8) (strid : List UInt8) :
    tells (initBytes src dst strid) = (dst != idUnknown) := rfl

/-! ## The groups -/

/-- The groups of a peer, which a run only binds. -/
structure Fixed (definitions : List GroupDef) (groups : List Group) : Prop where
  same : groups.map Group.toGroupDef = definitions
  ids : ∀ index group, groups[index]? = some group → group.srcGroupId = UInt8.ofNat index
  ready : ∀ group ∈ groups, group.dstGroupId ≠ idUnknown → group.transportInitialized = true

namespace Fixed

variable {definitions : List GroupDef} {groups : List Group} {index : Nat} {group : Group}
  (fixed : Fixed definitions groups)

include fixed

theorem length : groups.length = definitions.length := by
  rw [← fixed.same, List.length_map]

theorem definition (member : groups[index]? = some group) :
    definitions[index]? = some group.toGroupDef := by
  rw [← fixed.same, List.getElem?_map, member]
  rfl

theorem exists_group {definition : GroupDef} (member : definitions[index]? = some definition) :
    ∃ group, groups[index]? = some group ∧ group.toGroupDef = definition := by
  rw [← fixed.same, List.getElem?_map] at member
  exact Option.map_eq_some_iff.mp member

theorem modify {update : Group → Group} (kept : ∀ group, (update group).toGroupDef = group.toGroupDef)
    (ids : ∀ group, (update group).srcGroupId = group.srcGroupId)
    (ready : ∀ group, (update group).transportInitialized = true) :
    Fixed definitions (groups.modify index update) := by
  refine ⟨?_, fun position group member => ?_, fun group member bound => ?_⟩
  · rw [← fixed.same]
    refine List.ext_getElem? fun position => ?_
    rw [List.getElem?_map, List.getElem?_map, List.getElem?_modify]
    cases groups[position]? with
    | none => rfl
    | some group => by_cases here : index = position <;> simp [here, kept]
  · rw [List.getElem?_modify] at member
    obtain ⟨before, found, rfl⟩ := Option.map_eq_some_iff.mp member
    split_ifs
    · rw [ids]
      exact fixed.ids position before found
    · exact fixed.ids position before found
  · obtain ⟨position, found⟩ := List.mem_iff_getElem?.mp member
    rw [List.getElem?_modify] at found
    obtain ⟨before, earlier, rfl⟩ := Option.map_eq_some_iff.mp found
    split_ifs at bound ⊢
    · exact ready before
    · exact fixed.ready before (List.mem_of_getElem? earlier) bound

omit fixed in
/-- The first group with the name is the only one. -/
theorem groupFromStrid {peer : Peer} (fixed : Fixed definitions peer.groups)
    (distinct : (definitions.map GroupDef.strid).Nodup) {definition : GroupDef}
    (member : definitions[index]? = some definition) :
    peer.groupFromStrid definition.strid = some index := by
  have strids : peer.groups.map (fun group => group.strid) = definitions.map GroupDef.strid := by
    rw [← fixed.same, List.map_map]
    rfl
  obtain ⟨group, found, rfl⟩ := fixed.exists_group member
  obtain ⟨inside, rfl⟩ := List.getElem?_eq_some_iff.mp found
  rw [Peer.groupFromStrid, List.findIdx?_eq_some_iff_getElem]
  refine ⟨inside, beq_self_eq_true _, fun earlier before equal => ?_⟩
  rw [← strids] at distinct
  have apart := List.pairwise_iff_getElem.mp distinct earlier index
    (by rw [List.length_map]; omega) (by rw [List.length_map]; omega) before
  rw [List.getElem_map, List.getElem_map] at apart
  exact apart (beq_iff_eq.mp equal).symm

end Fixed

/-! ## The definitions of both peers -/

/-- Both peers have the same groups, in any order, with names that tell them apart. -/
structure SameGroups (definitions : Side → List GroupDef) : Prop where
  distinct : ∀ side, ((definitions side).map GroupDef.strid).Nodup
  named : ∀ side, ∀ definition ∈ definitions side, definition.strid ≠ []
  same : ∀ side, ∀ definition ∈ definitions side,
    ∃ counterpart ∈ definitions side.other, counterpart.strid = definition.strid

/-- And every group has an id. -/
structure Paired (definitions : Side → List GroupDef) : Prop extends SameGroups definitions where
  few : ∀ side, (definitions side).length ≤ 255

/-- The group of the other peer with the same name. -/
def Counterpart (definitions : Side → List GroupDef) (side : Side) (own other : Nat) : Prop :=
  ∃ definition counterpart, (definitions side)[own]? = some definition ∧
    (definitions side.other)[other]? = some counterpart ∧ counterpart.strid = definition.strid

section

variable {definitions : Side → List GroupDef} {side : Side} {own own' other other' : Nat}

theorem index_eq_of_strid {list : List GroupDef} (distinct : (list.map GroupDef.strid).Nodup)
    {first second : GroupDef} (member : list[own]? = some first)
    (member' : list[own']? = some second) (same : first.strid = second.strid) : own = own' := by
  obtain ⟨inside, rfl⟩ := List.getElem?_eq_some_iff.mp member
  obtain ⟨inside', rfl⟩ := List.getElem?_eq_some_iff.mp member'
  rw [List.nodup_iff_injective_get] at distinct
  have equal := @distinct ⟨own, by rwa [List.length_map]⟩ ⟨own', by rwa [List.length_map]⟩
    (by simpa using same)
  exact congrArg Fin.val equal

theorem Counterpart.own_lt (counterpart : Counterpart definitions side own other) :
    own < (definitions side).length := by
  obtain ⟨definition, -, member, -⟩ := counterpart
  exact (List.getElem?_eq_some_iff.mp member).1

theorem Counterpart.symm (counterpart : Counterpart definitions side own other) :
    Counterpart definitions side.other other own := by
  obtain ⟨definition, counterpart, member, member', same⟩ := counterpart
  refine ⟨counterpart, definition, member', ?_, same.symm⟩
  rwa [Announce.Side.other_other]

theorem Counterpart.unique (paired : Paired definitions)
    (first : Counterpart definitions side own other)
    (second : Counterpart definitions side own other') : other = other' := by
  obtain ⟨definition, counterpart, member, member', same⟩ := first
  obtain ⟨definition', counterpart', again, again', same'⟩ := second
  obtain rfl := Option.some.inj (member.symm.trans again)
  exact index_eq_of_strid (paired.distinct side.other) member' again' (same.trans same'.symm)

theorem Counterpart.own_unique (paired : Paired definitions)
    (first : Counterpart definitions side own other)
    (second : Counterpart definitions side own' other) : own = own' := by
  have other := first.symm
  have other' := second.symm
  exact other.unique paired other'

/-- The ids of different groups differ. -/
theorem ofNat_inj (bound : own < 255) (bound' : own' < 255)
    (same : UInt8.ofNat own = UInt8.ofNat own') : own = own' := by
  have values := congrArg UInt8.toNat same
  rw [UInt8.toNat_ofNat', UInt8.toNat_ofNat'] at values
  omega

theorem ofNat_ne_unknown (bound : own < 255) : UInt8.ofNat own ≠ idUnknown := by
  intro same
  have values := congrArg UInt8.toNat same
  have unknown : idUnknown.toNat = 255 := rfl
  rw [UInt8.toNat_ofNat', unknown] at values
  omega

end

/-! ## Setup -/

/-- The loop of `nrf_rpc_setup` gives every group its index. -/
theorem setupLoop_groups {groupId waitCount : UInt8} {definitions : List GroupDef}
    {groups : List Group} {groupCount waitingCount : UInt8}
    (accepted : setupLoop groupId waitCount definitions = some (groups, groupCount, waitingCount)) :
    groups.map Group.toGroupDef = definitions ∧ groupId.toNat + groups.length ≤ 255 ∧
      ∀ index group, groups[index]? = some group → group.dstGroupId = idUnknown ∧
        group.srcGroupId.toNat = groupId.toNat + index := by
  induction definitions generalizing groupId waitCount groups groupCount waitingCount with
  | nil =>
      obtain ⟨rfl, -⟩ := Prod.mk.inj (Option.some.inj accepted)
      exact ⟨rfl, Nat.le_of_lt_succ groupId.toNat_lt, fun index group member => by cases member⟩
  | cons definition definitions inductionHypothesis =>
      rw [setupLoop] at accepted
      split_ifs at accepted with full
      rw [ge_iff_le, UInt8.le_iff_toNat_le, not_le] at full
      obtain ⟨⟨rest, restCount, restWaiting⟩, loop, shape⟩ := Option.map_eq_some_iff.mp accepted
      obtain ⟨rfl, -⟩ := Prod.mk.inj shape
      obtain ⟨same, few, ids⟩ := inductionHypothesis loop
      have room : groupId.toNat < 255 := full
      have next : (groupId + 1).toNat = groupId.toNat + 1 := by
        have one : (1 : UInt8).toNat = 1 := rfl
        rw [UInt8.toNat_add, one]
        exact Nat.mod_eq_of_lt (by omega)
      rw [next] at few ids
      refine ⟨congrArg _ same, ?_, fun index group member => ?_⟩
      · change groupId.toNat + (rest.length + 1) ≤ 255
        omega
      cases index with
      | zero =>
          obtain rfl := Option.some.inj member
          exact ⟨rfl, rfl⟩
      | succ index =>
          obtain ⟨unknown, id⟩ := ids index group member
          exact ⟨unknown, by omega⟩

theorem setup_groups {definitions : List GroupDef} {errHandler boundHandler : Bool} {peer : Peer}
    (accepted : Peer.setup definitions errHandler boundHandler = some peer) :
    Fixed definitions peer.groups ∧ definitions.length ≤ 255 ∧
      ∀ group ∈ peer.groups, group.dstGroupId = idUnknown := by
  obtain ⟨⟨groups, groupCount, waitCount⟩, loop, rfl⟩ := Option.map_eq_some_iff.mp accepted
  obtain ⟨same, few, ids⟩ := setupLoop_groups loop
  have unknown : ∀ group ∈ groups, group.dstGroupId = idUnknown := by
    intro group among
    obtain ⟨index, member⟩ := List.mem_iff_getElem?.mp among
    exact (ids index group member).1
  refine ⟨⟨same, fun index group member => ?_, fun group among bound => ?_⟩, ?_, unknown⟩
  · obtain ⟨-, id⟩ := ids index group member
    have zero : (0 : UInt8).toNat = 0 := rfl
    have inside : index < groups.length := (List.getElem?_eq_some_iff.mp member).1
    rw [← UInt8.toNat_inj, id, UInt8.toNat_ofNat', zero, Nat.zero_add]
    omega
  · exact absurd (unknown group among) bound
  · rw [← same, List.length_map]
    exact Nat.le_trans (Nat.le_add_left _ _) few

end Nrfxlib.Rpc.Handshake
