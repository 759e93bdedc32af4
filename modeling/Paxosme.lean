import Paxosme.Lib.WordOrder
import Paxosme.Lib.HighWater
import Paxosme.Core.Controller
import Paxosme.Verif.AcceptorRuns
import Paxosme.Verif.AcceptorMemory
import Paxosme.Verif.Correlation
import Paxosme.Verif.ProposerKnowledge
import Paxosme.Verif.ValueChoice
import Paxosme.Verif.VoteCounting
import Paxosme.Verif.Preparing
import Paxosme.Verif.PhaseOrder
import Paxosme.Verif.Isolation
import Paxosme.Core.Cluster
import Paxosme.Verif.Unlearned
import Paxosme.Verif.Agreement
import Paxosme.Verif.Round
import Paxosme.Core.Recovery
import Paxosme.Lib.Runs
import Paxosme.Verif.AcceptorRecovery
import Paxosme.Verif.StoredPromises
import Paxosme.Verif.ChosenNotification
import Paxosme.Verif.Execution
import Paxosme.Verif.Transfer
import Paxosme.Verif.NumberReuse
import Paxosme.Verif.CatchUp
import Paxosme.Verif.StartUp
import Paxosme.Core.KvStateMachine
import Paxosme.Core.ProposalProv
import Paxosme.Core.Network
import Paxosme.Verif.Replay
import Paxosme.Verif.SubmittedValues
import Paxosme.Verif.Wire
import Paxosme.Lib.Bytes
import Paxosme.Lib.Framing
import Paxosme.Lib.Files
import Paxosme.Lib.SystemCalls
import Paxosme.Core.SegmentStore
import Paxosme.Verif.SegmentCalls
import Paxosme.Verif.SegmentLayout
import Paxosme.Verif.SegmentOperations
import Paxosme.Verif.ReadBack
import Paxosme.Verif.LogScan
import Paxosme.Verif.Crashes
import Paxosme.Verif.PartialWrites
import Paxosme.Core.Scheduler
import Paxosme.Verif.Timers
import Paxosme.Lib.Heap
import Paxosme.Verif.VersionedMap
import Paxosme.Verif.Outbidding
import Paxosme.Verif.Relaunching
import Paxosme.Lib.KeyedLog
import Paxosme.Core.LogStorage
import Paxosme.Core.SegmentCleaning
import Paxosme.Verif.LogIndex
import Paxosme.Verif.Alignment
import Paxosme.Verif.IndexRecovery
import Paxosme.Verif.Deletion
import Paxosme.Verif.PaxosRecords
import Paxosme.Verif.EmptiedSegments
import Paxosme.Verif.ReplyMerging
import Paxosme.Verif.QuorumIntersection
import Paxosme.Verif.SyncAcks
import Paxosme.Verif.SendWindow
import Paxosme.Lib.Buffers
import Paxosme.Verif.BufferBounds
import Paxosme.Verif.ScanEnds
import Paxosme.Verif.LongOffsets
import Paxosme.Lib.Doubles
import Paxosme.Lib.Numerals
import Paxosme.Verif.PeerKeys
import Paxosme.Verif.LogMap
import Paxosme.Verif.LastValues
import Paxosme.Core.MainLoop
import Paxosme.Verif.NodeInvariant
import Paxosme.Verif.QuestionTimer
import Paxosme.Lib.Mailboxes
import Paxosme.Verif.ProcessRefinement
import Paxosme.Verif.NoAuthority
import Paxosme.Verif.NodeLog
import Paxosme.Verif.Provenance
import Paxosme.Verif.NodeOnDisk
import Paxosme.Lib.Mishaps
import Paxosme.Verif.AcknowledgedRecords
import Paxosme.Lib.Demands
import Paxosme.Verif.FailingCalls
import Paxosme.Verif.AllOrNothing
import Paxosme.Lib.Completions
import Paxosme.Core.RpcServer
import Paxosme.Verif.ServedCalls
