import Udtp.Analysis.ActiveFiles
import Udtp.Analysis.AddressLookup
import Udtp.Analysis.AgreedChunkSize
import Udtp.Analysis.Answers
import Udtp.Analysis.ByteService
import Udtp.Analysis.ChunkArithmetic
import Udtp.Analysis.ChunkQueue
import Udtp.Analysis.ChunkReception
import Udtp.Analysis.Disclosure
import Udtp.Analysis.ExchangeNetwork
import Udtp.Analysis.ExchangeSteps
import Udtp.Analysis.FileExistence
import Udtp.Analysis.FileIDs
import Udtp.Analysis.FileInitialisation
import Udtp.Analysis.FileLog
import Udtp.Analysis.FileLookup
import Udtp.Analysis.Framing
import Udtp.Analysis.HandshakeAdmission
import Udtp.Analysis.HandshakeExchange
import Udtp.Analysis.HandshakeOverrun
import Udtp.Analysis.HandshakeRoundTrip
import Udtp.Analysis.HostAlignment
import Udtp.Analysis.HostBytes
import Udtp.Analysis.HostFaults
import Udtp.Analysis.HostSteps
import Udtp.Analysis.Initiative
import Udtp.Analysis.MissingChunks
import Udtp.Analysis.NegotiationLength
import Udtp.Analysis.OperationGate
import Udtp.Analysis.OwnRecord
import Udtp.Analysis.PacketFaults
import Udtp.Analysis.PacketLoss
import Udtp.Analysis.PeerFaults
import Udtp.Analysis.PeerIdentity
import Udtp.Analysis.PeerIsolation
import Udtp.Analysis.PeerListLock
import Udtp.Analysis.PollRound
import Udtp.Analysis.QueueDrain
import Udtp.Analysis.Readiness
import Udtp.Analysis.ReceivePath
import Udtp.Analysis.RecordHistory
import Udtp.Analysis.RecordLocality
import Udtp.Analysis.RefusedTransfer
import Udtp.Analysis.RejectedPeer
import Udtp.Analysis.Removal
import Udtp.Analysis.Replies
import Udtp.Analysis.RoundOrder
import Udtp.Analysis.SessionLife
import Udtp.Analysis.StartRace
import Udtp.Analysis.StatusLoops
import Udtp.Analysis.StatusTable
import Udtp.Analysis.StoredChunks
import Udtp.Analysis.StreamHeaders
import Udtp.Analysis.TableAccess
import Udtp.Analysis.ThreadBookkeeping
import Udtp.Analysis.ThreadLifetime
import Udtp.Analysis.ThreadLimit
import Udtp.Analysis.ThreadNegotiation
import Udtp.Analysis.TransferAgreement
import Udtp.Analysis.TransferStart
import Udtp.Analysis.WorkerPool
import Udtp.Computation.AccessTrace
import Udtp.Computation.LittleEndian
import Udtp.Computation.Lookup
import Udtp.Computation.PartyView
import Udtp.Computation.Pieces
import Udtp.Computation.QueuedErase
import Udtp.Computation.StepMachine
import Udtp.Computation.TokenQueue
import Udtp.Computation.WhileLoop
import Udtp.Model.Acknowledge
import Udtp.Model.Address
import Udtp.Model.Basic
import Udtp.Model.ByteHost
import Udtp.Model.ChunkDelivery
import Udtp.Model.ChunkWorkers
import Udtp.Model.Dispatch
import Udtp.Model.Endpoint
import Udtp.Model.Exchange
import Udtp.Model.File
import Udtp.Model.FileMemory
import Udtp.Model.FileStatus
import Udtp.Model.FileWorker
import Udtp.Model.FlowThread
import Udtp.Model.Handshake
import Udtp.Model.HandshakeMemory
import Udtp.Model.Header
import Udtp.Model.HostLoop
import Udtp.Model.HostThreads
import Udtp.Model.LoneConnection
import Udtp.Model.Network
import Udtp.Model.Packets
import Udtp.Model.Peer
import Udtp.Model.PeerList
import Udtp.Model.PeerLoop
import Udtp.Model.PeerSession
import Udtp.Model.PeerThreads
import Udtp.Model.Requests
import Udtp.Model.Stream
import Udtp.Model.Wires
