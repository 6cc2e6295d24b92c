import Nrfxlib.Rpc.Header

/-!
# Groups, their binding and error reports

A transcription of the paths of `nrf_rpc.c` that concern groups: the setup, the receive
handler with the initialization packets, the internal tasks and the error reports.  What
the functions hand to the transport, to the thread pool, to a command context and to user
code is their output.  A failed assertion is no effect.
-/

namespace Nrfxlib.Rpc

open Lib

def enomem : Int32 := 12
def efault : Int32 := 14
def enodev : Int32 := 19
def eprotonosupport : Int32 := 43

/-- `NRF_RPC_PROTOCOL_VERSION`. -/
def protocolVersion : UInt8 := 0

/-- `NRF_RPC_FLAGS_WAIT_ON_INIT`. -/
def flagsWaitOnInit : UInt32 := 0x01

/-- `struct nrf_rpc_group`; the handlers are only said to be there. -/
structure GroupDef where
  /-- without the zero at its end -/
  strid : List UInt8
  flags : UInt32
  ackHandler : Bool
  errHandler : Bool
  boundHandler : Bool

/-- A group with its `struct nrf_rpc_group_data`. -/
structure Group extends GroupDef where
  srcGroupId : UInt8
  dstGroupId : UInt8
  transportInitialized : Bool

/-- The group is one that `nrf_rpc_bind` waits for. -/
def Group.waits (group : Group) : Bool := group.flags &&& flagsWaitOnInit != 0

/-- `enum nrf_rpc_err_src`. -/
inductive ErrSrc where
  | recv
  | send
  | remote
  deriving DecidableEq

/-- `struct nrf_rpc_err_report` without the place in the source; groups by their index. -/
structure Report where
  code : Int32
  group : Option Nat
  src : ErrSrc
  id : UInt8
  packetType : UInt8
  deriving DecidableEq

/-- `struct internal_task`. -/
inductive Task where
  | groupInit (group : Nat) (firstInit needsReply signalGroupsInitEvent : Bool)
  | recvError (group : Option Nat) (err : Int32) (hdrId hdrType : UInt8)

/-- The handlers of a group and those that `nrf_rpc_setup` was given. -/
inductive Level where
  | group
  | global
  deriving DecidableEq

inductive Output where
  /-- a packet for the transport of a group -/
  | transport (group : Nat) (packet : List UInt8)
  /-- an internal task for the thread pool -/
  | task (task : Task)
  /-- an event, or a command without a destination, for the thread pool -/
  | threadPool (packet : List UInt8)
  /-- a command or a response for the context `dst` -/
  | context (dst : UInt8) (packet : List UInt8)
  | ackHandler (group : Nat) (id : UInt8)
  | errHandler (level : Level) (report : Report)
  | boundHandler (level : Level) (group : Nat)
  /-- `groups_init_event` is set -/
  | groupsInitEvent

/-- The static variables. -/
structure Peer where
  groups : List Group
  groupCount : UInt8
  waitingGroupCount : UInt8
  initializedGroupCount : UInt8
  isStopped : Bool
  globalErrHandler : Bool
  globalBoundHandler : Bool

/-! ## Setup -/

/-- The loop of `nrf_rpc_setup`: the groups, their number and the number of those to wait
for; `none` is the error `-NRF_ENOMEM`. -/
def setupLoop : UInt8 → UInt8 → List GroupDef → Option (List Group × UInt8 × UInt8)
  | groupId, waitCount, [] => some ([], groupId, waitCount)
  | groupId, waitCount, definition :: definitions =>
      if groupId ≥ 0xFF then none
      else
        let group : Group := { definition with
          srcGroupId := groupId
          dstGroupId := idUnknown
          transportInitialized := false }
        let waitCount := if group.flags &&& flagsWaitOnInit ≠ 0 then waitCount + 1 else waitCount
        (setupLoop (groupId + 1) waitCount definitions).map fun rest =>
          (group :: rest.1, rest.2)

/-- `nrf_rpc_setup`. -/
def Peer.setup (definitions : List GroupDef) (errHandler boundHandler : Bool) : Option Peer :=
  (setupLoop 0 0 definitions).map fun (groups, groupCount, waitCount) => {
    groups := groups
    groupCount := groupCount
    waitingGroupCount := waitCount
    initializedGroupCount := 0
    isStopped := false
    globalErrHandler := errHandler
    globalBoundHandler := boundHandler }

/-! ## Sending -/

namespace Group

variable (group : Group)

/-- `send`, with the packet for the transport. -/
def send (packet : List UInt8) : Except Int32 (List UInt8) :=
  if !group.transportInitialized then .error (-enodev) else .ok packet

/-- `nrf_rpc_alloc_tx_buf`: whether it returns a buffer; `txBuf` says whether the transport has
one. -/
def allocTxBuf (txBuf : Bool) : Bool :=
  if !group.transportInitialized then false else txBuf

/-- `simple_send`.  `hdr.src` is not set, and not encoded either. -/
def simpleSend (txBuf : Bool) (dst type id groupId dstGroupId : UInt8) (packet : List UInt8) :
    Except Int32 (List UInt8) :=
  let hdr : Header := {
    dst := dst
    src := idUnknown
    type := type
    id := id
    srcGroupId := groupId
    dstGroupId := dstGroupId }
  if !group.allocTxBuf txBuf then .error (-enomem) else group.send (headerEncode hdr ++ packet)

/-- `group_init_send`. -/
def groupInitSend (txBuf : Bool) : Except Int32 (List UInt8) :=
  let hdr : Header := {
    dst := idUnknown
    src := idUnknown
    type := packetTypeInit
    id := 0
    srcGroupId := group.srcGroupId
    dstGroupId := group.dstGroupId }
  let version := protocolVersion ||| (protocolVersion <<< 4)
  if !group.allocTxBuf txBuf then .error (-enomem)
  else group.send (headerEncode hdr ++ [version] ++ group.strid)

end Group

/-- The packet of a successful call. -/
def outputSent (group : Nat) : Except Int32 (List UInt8) → List Output
  | .ok packet => [.transport group packet]
  | .error _ => []

namespace Peer

variable (peer : Peer)

/-! ## Error reports -/

/-- The handlers that `nrf_rpc_err_impl` calls. -/
def errLevels (group : Option Nat) : List Level :=
  let own := (group.bind fun index => peer.groups[index]?).any fun group => group.errHandler
  (if own then [.group] else []) ++ if peer.globalErrHandler then [.global] else []

/-- `nrf_rpc_err_impl`. -/
def err (txBuf : Bool) (code : Int32) (src : ErrSrc) (group : Option Nat) (id packetType : UInt8) :
    List Output :=
  let sent :=
    match src, group with
    | .recv, some index =>
        (peer.groups[index]?).elim [] fun group =>
          outputSent index (group.simpleSend txBuf packetType packetTypeErr id group.srcGroupId
            group.dstGroupId (intBytes code))
    | _, _ => []
  let report : Report := {
    code := code
    group := group
    src := src
    id := id
    packetType := packetType }
  sent ++ (peer.errLevels group).map fun level => .errHandler level report

/-! ## Receiving -/

/-- `group_from_id`. -/
def groupFromId (groupId : UInt8) : Option Nat :=
  if groupId ≥ peer.groupCount then none else some groupId.toNat

/-- `group_from_strid`. -/
def groupFromStrid (strid : List UInt8) : Option Nat :=
  peer.groups.findIdx? fun group => strid == group.strid

def updateGroup (index : Nat) (update : Group → Group) : Peer :=
  { peer with groups := peer.groups.modify index update }

end Peer

/-- `struct init_packet_data`. -/
structure InitPacketData where
  minVersion : UInt8
  maxVersion : UInt8
  strid : List UInt8

/-- `init_packet_parse`. -/
def initPacketParse (packet : List UInt8) : Except Int32 InitPacketData :=
  if packet.length < headerSize + 1 then .error (-ebadmsg)
  else
    let version := packet.getD headerSize 0
    let strid := packet.drop (headerSize + 1)
    if strid.length = 0 then .error (-ebadmsg)
    else .ok { minVersion := version &&& 0x0F, maxVersion := version >>> 4, strid := strid }

/-- `protocol_version_check`. -/
def protocolVersionCheck (initData : InitPacketData) : Bool :=
  decide (protocolVersion ≥ initData.minVersion) && decide (protocolVersion ≤ initData.maxVersion)

namespace Peer

variable (peer : Peer)

/-- The group that an initialization packet names, or the error. -/
def initPacketGroup (packet : List UInt8) : Except Int32 Nat :=
  match initPacketParse packet with
  | .error err => .error err
  | .ok initData =>
      if !protocolVersionCheck initData then .error (-eprotonosupport)
      else
        match peer.groupFromStrid initData.strid with
        | none => .error (-efault)
        | some index => .ok index

/-- `init_packet_handle` for the group that the packet names. -/
def initGroup (hdr : Header) (index : Nat) (group : Group) : Peer × List Output :=
  let firstInit := group.dstGroupId == idUnknown
  let bound := peer.updateGroup index fun group =>
    { group with dstGroupId := hdr.srcGroupId, transportInitialized := true }
  let counts := firstInit && group.flags &&& flagsWaitOnInit != 0
  let initializedGroupCount :=
    if counts then peer.initializedGroupCount + 1 else peer.initializedGroupCount
  let signalGroupsInitEvent := counts && initializedGroupCount == peer.waitingGroupCount
  let needsReply := hdr.dstGroupId == idUnknown
  ({ bound with initializedGroupCount := initializedGroupCount },
    if firstInit || needsReply || signalGroupsInitEvent then
      [.task (.groupInit index firstInit needsReply signalGroupsInitEvent)]
    else [])

/-- `init_packet_handle`: the error, the group, and what was done. -/
def initPacketHandle (hdr : Header) (packet : List UInt8) :
    Int32 × Option Nat × Peer × List Output :=
  match peer.initPacketGroup packet with
  | .error err => (err, none, peer, [])
  | .ok index =>
      match peer.groups[index]? with
      | none => (0, some index, peer, [])
      | some group => (0, some index, peer.initGroup hdr index group)

/-- The end of `receive_handler`. -/
def cleanupAndExit (err : Int32) (group : Option Nat) (hdr : Header) : List Output :=
  if err < 0 then [.task (.recvError group err hdr.id hdr.type)] else []

/-- `receive_handler` after the group of the packet was found, for a type with a group. -/
def receiveForGroup (cmdCtxPoolSize : Nat) (hdr : Header) (index : Nat) (packet : List UInt8) :
    List Output :=
  -- a command without a destination is handled as an event
  let type :=
    if hdr.type = packetTypeCmd ∧ hdr.dst = idUnknown then packetTypeEvt else hdr.type
  if type = packetTypeCmd ∨ type = packetTypeRsp then
    if hdr.dst.toNat ≥ cmdCtxPoolSize then cleanupAndExit (-ebadmsg) (some index) hdr
    else [.context hdr.dst packet]
  else if type = packetTypeEvt then [.threadPool packet]
  else if type = packetTypeAck then
    if (peer.groups[index]?).any fun group => group.ackHandler then [.ackHandler index hdr.id]
    else []
  else
    let remoteErr :=
      if packet.length ≥ headerSize + 4 then intOfBytes ((packet.drop headerSize).take 4)
      else -ebadmsg
    peer.err true remoteErr .remote (some index) hdr.id hdr.src

/-- `receive_handler`; the header is decoded over `uninitialized`. -/
def receiveHandler (cmdCtxPoolSize : Nat) (uninitialized : Header) (packet : List UInt8) :
    Peer × List Output :=
  let (err, hdr) := headerDecode packet uninitialized
  let dropped := hdr.type = packetTypeCmd ∨ hdr.type = packetTypeEvt ∨
    hdr.type = packetTypeAck ∨ hdr.type = packetTypeRsp
  if err < 0 then (peer, cleanupAndExit err none hdr)
  else if peer.isStopped = true ∧ dropped then (peer, [])
  else if dropped ∨ hdr.type = packetTypeErr then
    match peer.groupFromId hdr.dstGroupId with
    | none => (peer, cleanupAndExit (-ebadmsg) none hdr)
    | some index =>
        let known := peer.updateGroup index fun group => { group with transportInitialized := true }
        (known, known.receiveForGroup cmdCtxPoolSize hdr index packet)
  else if hdr.type = packetTypeInit then
    let (err, group, next, outputs) := peer.initPacketHandle hdr packet
    (next, outputs ++ cleanupAndExit err group hdr)
  else (peer, cleanupAndExit (-ebadmsg) none hdr)

/-! ## Internal tasks -/

/-- `internal_tx_handler`. -/
def internalTxHandler (txBuf : Bool) : Task → List Output
  | .groupInit index firstInit needsReply signalGroupsInitEvent =>
      let group := peer.groups[index]?
      let reply := group.elim [] fun group =>
        if needsReply then outputSent index (group.groupInitSend txBuf) else []
      let own := group.any fun group => group.boundHandler
      let handlers := if firstInit || needsReply then
          (if own then [.boundHandler .group index] else []) ++
            if peer.globalBoundHandler then [.boundHandler .global index] else []
        else []
      reply ++ handlers ++ if signalGroupsInitEvent then [.groupsInitEvent] else []
  | .recvError group err hdrId hdrType => peer.err txBuf err .recv group hdrId hdrType

/-- `nrf_rpc_unbind`. -/
def unbind : Peer :=
  { peer with
    initializedGroupCount := 0
    groups := peer.groups.map fun group => { group with dstGroupId := idUnknown } }

end Peer

end Nrfxlib.Rpc
