import IotPlatform.ValidationGate
import IotPlatform.WaterBilling
import IotPlatform.IndustrialLatch
import IotPlatform.OtaUrl
import IotPlatform.OtaTasks
import IotPlatform.UcFailure
import IotPlatform.CommandBounds
import IotPlatform.PartialCommands
import IotPlatform.Provisioning
import IotPlatform.MemberOrder
import IotPlatform.Interlocks
import IotPlatform.ColdChain
import IotPlatform.EnergyAlarm
import IotPlatform.EnergyMeter
import IotPlatform.SensorTask
import IotPlatform.ParameterRange
import IotPlatform.NumericCommands
import IotPlatform.ResultRecords
import IotPlatform.ConfigCache
import IotPlatform.RobotHeartbeat
import IotPlatform.EvFault
import IotPlatform.Connectivity
import IotPlatform.CommandQueue
import IotPlatform.Pipeline
import IotPlatform.HostQueue
import IotPlatform.SampleAlarms
import IotPlatform.PinMirrors
import IotPlatform.CanFrames
import IotPlatform.WifiBackoff
import IotPlatform.TasksStart
import IotPlatform.EvSessions
import IotPlatform.Watchdog
import IotPlatform.TaskReturns
import IotPlatform.BusExclusion
import IotPlatform.LegacyLimits
import IotPlatform.EnergySettings
import IotPlatform.BillingFreeze
import IotPlatform.CrestFactor
import IotPlatform.PulseCount
import IotPlatform.HostSync
import IotPlatform.DeviceTime
import IotPlatform.StringMembers
import IotPlatform.IntegerMembers
import IotPlatform.Isolation
import IotPlatform.Identity
import IotPlatform.Lifecycle
import IotPlatform.Records
import IotPlatform.Telemetry
import IotPlatform.Interleaving
import IotPlatform.Redelivery
import IotPlatform.Secrets
import IotPlatform.PinBits
import IotPlatform.Draining
import IotPlatform.CommandProgress
import IotPlatform.Ranges
import IotPlatform.Startup
import IotPlatform.Commissioning
