import Nrfxlib.Bsmap.Iteration
import Nrfxlib.Bsmap.Visits
import Nrfxlib.Rpc.Ownership
import Nrfxlib.Rpc.Header
import Nrfxlib.Rpc.Peer
import Nrfxlib.Rpc.Reports
import Nrfxlib.Rpc.Groups
import Nrfxlib.Security.FrameCounters
import Nrfxlib.Frame.Progress
import Nrfxlib.Ccm.Correctness
import Nrfxlib.EnhAck.Insensitive
import Nrfxlib.AckData.Refinement
import Nrfxlib.AckData.Storage
import Nrfxlib.Core.Ownership
import Nrfxlib.Csma.Runs
import Nrfxlib.Drx.Model
import Nrfxlib.Drx.Slots
import Nrfxlib.Drx.Callbacks
import Nrfxlib.Drx.Runs
import Nrfxlib.Drx.Midpoint
import Nrfxlib.Frame.HeaderIes
import Nrfxlib.Frame.Whole
import Nrfxlib.Frame.Reads
import Nrfxlib.Frame.ValidData
import Nrfxlib.Frame.Acceptance
import Nrfxlib.Energy.Model
import Nrfxlib.Energy.Coverage
import Nrfxlib.Lib.Ring
import Nrfxlib.Ntf.Model
import Nrfxlib.Ntf.Invariant
import Nrfxlib.Ntf.Runs
import Nrfxlib.Handles.KvMap
import Nrfxlib.Handles.Managers
import Nrfxlib.Handles.Reception.Model
import Nrfxlib.Handles.Reception.Runs
import Nrfxlib.Handles.Transmission.Model
import Nrfxlib.Handles.Transmission.Runs
import Nrfxlib.Handles.Destination.Runs
import Nrfxlib.Lib.Pack
import Nrfxlib.Spinel.Datatypes
import Nrfxlib.Spinel.Decoders
import Nrfxlib.Spinel.Callouts
import Nrfxlib.Spinel.Contents
import Nrfxlib.Spinel.RoundTrip
import Nrfxlib.Spinel.Confinement
import Nrfxlib.Spinel.Answers
import Nrfxlib.Spinel.Exchanges
import Nrfxlib.Spinel.Agreement
import Nrfxlib.Spinel.Runs
import Nrfxlib.Handles.Rollback
import Nrfxlib.Handles.Uninterrupted
import Nrfxlib.AckReports.Runs
import Nrfxlib.IeWriter.Model
import Nrfxlib.IeWriter.Walk
import Nrfxlib.IeWriter.Preparation
import Nrfxlib.IeWriter.Commit
import Nrfxlib.IeWriter.Confinement
import Nrfxlib.IeWriter.Phase
import Nrfxlib.Encrypt.Inputs
import Nrfxlib.Encrypt.Transmission
import Nrfxlib.Encrypt.Nonce
import Nrfxlib.Encrypt.Response
import Nrfxlib.Security.KeyRefinement
import Nrfxlib.Rpc.Buffers.Runs
import Nrfxlib.Reception.Handshake
import Nrfxlib.Rpc.Handshake.Termination
