import Bbsim.Devices.FlowExclusivity
import Bbsim.Devices.SingleConsumer
import Bbsim.Devices.OnuChannel
import Bbsim.Devices.OltChannel
import Bbsim.Devices.OnuIds
import Bbsim.Devices.AllocIds
import Bbsim.Devices.GemPortRequests
import Bbsim.Devices.OmciIsolation
import Bbsim.Devices.MibSync
import Bbsim.Devices.ImageBookkeeping
import Bbsim.Devices.VerifiedImages
import Bbsim.Devices.SoftwareDownload
import Bbsim.Devices.MibWalk
import Bbsim.Devices.OmciTransport
import Bbsim.Devices.AlarmAudit
import Bbsim.Devices.AlarmEntities
import Bbsim.Devices.AdminState
import Bbsim.Devices.OltReboot
import Bbsim.Devices.Transceivers
import Bbsim.Devices.EapolExchange
import Bbsim.Devices.DhcpExchange
import Bbsim.Devices.RetryTimers
import Bbsim.Devices.TrapFlows
import Bbsim.Devices.FrameIdentity
import Bbsim.Devices.PowerOperations
import Bbsim.Devices.FlowTuples
import Bbsim.Common.PonValidation
import Bbsim.Devices.TransactionIds
import Bbsim.Dmi.ThresholdEvents
import Bbsim.Responders.IgmpWire
import Bbsim.Devices.DhcpTransactionIds
import Bbsim.Responders.FallbackGemPorts
import Bbsim.Responders.Sadis
import Bbsim.Devices.IgmpMembership
import Bbsim.Bbr.Authentication
import Bbsim.Bbr.DhcpRelay
