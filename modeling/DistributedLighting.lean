import DistributedLighting.Runs
import DistributedLighting.TotalOrderBus
import DistributedLighting.CountingBarrier
import DistributedLighting.BoxedHalfspace
import DistributedLighting.ProximalStep
import DistributedLighting.BoundedQueue
import DistributedLighting.OrderedMap
import DistributedLighting.Truncation
import DistributedLighting.SinglePrecision
import DistributedLighting.RunningMean
import DistributedLighting.RingWindow
import DistributedLighting.DutyCycleFrames
import DistributedLighting.Consensus
import DistributedLighting.ConsensusAverage
import DistributedLighting.VectorDelivery
import DistributedLighting.ConsensusOptimum
import DistributedLighting.ProposalRange
import DistributedLighting.ConsensusNetwork
import DistributedLighting.ConsensusRounds
import DistributedLighting.RoundIsolation
import DistributedLighting.LockstepConsensus
import DistributedLighting.ConsensusRestart
import DistributedLighting.CalibrationFSM
import DistributedLighting.CalibrationNetwork
import DistributedLighting.CalibrationBarrier
import DistributedLighting.CalibrationSafety
import DistributedLighting.CalibrationMatrices
import DistributedLighting.CalibrationIndexing
import DistributedLighting.CalibrationLight
import DistributedLighting.LightField
import DistributedLighting.CalibrationProgress
import DistributedLighting.SerialStream
import DistributedLighting.SerialChunks
import DistributedLighting.CanFrameStream
import DistributedLighting.InterruptHandler
import DistributedLighting.NodeRegistry
import DistributedLighting.RegistrySequences
import DistributedLighting.HubCommands
import DistributedLighting.SingleAnswers
import DistributedLighting.TotalCommands
import DistributedLighting.CommandServer
import DistributedLighting.QueueDiscipline
import DistributedLighting.CommandTimeouts
import DistributedLighting.LateAnswers
import DistributedLighting.ResetHandshake
import DistributedLighting.NodeListMirror
import DistributedLighting.CommandSession
import DistributedLighting.CommandCompletion
import DistributedLighting.HubAgreement
import DistributedLighting.NodeMain
import DistributedLighting.GainRecord
import DistributedLighting.ConsensusTriggers
import DistributedLighting.ResetEquivalence
import DistributedLighting.TcpFraming
import DistributedLighting.MembershipReset
import DistributedLighting.PowerUp
import DistributedLighting.CommandRelay
import DistributedLighting.LastMinuteBuffer
import DistributedLighting.StringConversions
import DistributedLighting.CommandParser
import DistributedLighting.ClientSessions
import DistributedLighting.SetPoints
import DistributedLighting.ConsensusDuality
import DistributedLighting.ConsensusLight
import DistributedLighting.Controller
import DistributedLighting.FlickerMetric
import DistributedLighting.SamplingClock
import DistributedLighting.MovingAverage
import DistributedLighting.FrequentData
import DistributedLighting.CanDriver
import DistributedLighting.CanProtocol
import DistributedLighting.PowerUpCalibration
