import Orazio.Model.OrazioPackets
import Orazio.Proofs.DeferredSoundness
import Orazio.Proofs.UartFifo
import Orazio.Proofs.TransmitRing
import Orazio.Proofs.Resync
import Orazio.Model.Bench
import Orazio.Proofs.FirmwareReception
import Orazio.Proofs.Watchdog
import Orazio.Proofs.MotionCommands
import Orazio.Proofs.EpochOutput
import Orazio.Model.OrazioClient
import Orazio.Proofs.ClientReception
import Orazio.Proofs.BlockingSend
import Orazio.Proofs.KeepAlive
import Orazio.Proofs.AcknowledgedPackets
import Orazio.Proofs.ParamTraffic
import Orazio.Proofs.ParamStore
import Orazio.Proofs.ParamSafety
import Orazio.Lib.WriteLog
import Orazio.Proofs.FirstBoot
import Orazio.Proofs.JointLimits
import Orazio.Proofs.PhantomPackets
import Orazio.Lib.Binary32
import Orazio.Lib.Stdio
import Orazio.Model.OrazioShell
import Orazio.Proofs.ConfigFile
import Orazio.Proofs.JointArithmetic
import Orazio.Proofs.JointReset
import Orazio.Proofs.ParamAnswers
import Orazio.Lib.SingleWrap
import Orazio.Model.ExactArithmetic
import Orazio.Proofs.ReceiverSafety
import Orazio.Proofs.Heading
import Orazio.Lib.Countdown
import Orazio.Proofs.Cadence
import Orazio.Proofs.EpochFlag
import Orazio.Proofs.TimeBase
import Orazio.Lib.RegisterFile
import Orazio.Model.AtmegaPins
import Orazio.Proofs.NeutralBridges
import Orazio.Model.ShellThreads
import Orazio.Proofs.ExactlyOnce
import Orazio.Lib.Winding
import Orazio.Model.Encoder
import Orazio.Proofs.Quadrature
import Orazio.Proofs.ErrorDetection
import Orazio.Proofs.BoundedCapture
import Orazio.Proofs.DeferredInstall
import Orazio.Proofs.VariableSize
import Orazio.Proofs.RingBounds
import Orazio.Lib.CString
import Orazio.Model.PrintPacket
import Orazio.Proofs.PacketText
import Orazio.Lib.Ramp
import Orazio.Proofs.DriveCalls
import Orazio.Proofs.VelocityRamp
import Orazio.Lib.DifferentialDrive
import Orazio.Proofs.Kinematics
import Orazio.Lib.WrappingCounter
import Orazio.Proofs.WheelMotion
import Orazio.Proofs.DualPWM
import Orazio.Proofs.InstalledCalls
import Orazio.Lib.CircularArc
import Orazio.Lib.SineSums
import Orazio.Proofs.Odometry
import Orazio.Lib.Flash
import Orazio.Lib.Journal
import Orazio.Model.DataEEPROM
import Orazio.Proofs.EEPROMRefinement
import Orazio.Proofs.JournalRotation
import Orazio.Proofs.ClientMirror
import Orazio.Proofs.ClientSync
import Orazio.Proofs.EpochNumbers
import Orazio.Proofs.EpochPackets
import Orazio.Proofs.EpochSnapshots
import Orazio.Lib.CommonPrefix
import Orazio.Lib.SlotTable
import Orazio.Model.ShellProgram
import Orazio.Model.WebsocketServer
import Orazio.Proofs.ShellCompletion
import Orazio.Proofs.ShellSending
import Orazio.Proofs.WebConnections
