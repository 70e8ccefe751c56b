import IndigoMatter.Bridge.ChurnDetector
import IndigoMatter.Bridge.ChurnReference
import IndigoMatter.Bridge.CommandSinks
import IndigoMatter.Bridge.Commands
import IndigoMatter.Bridge.CommissioningWindow
import IndigoMatter.Bridge.ConfigurationVersion
import IndigoMatter.Bridge.EndpointMap
import IndigoMatter.Bridge.EndpointMapChecked
import IndigoMatter.Bridge.EndpointMapDrift
import IndigoMatter.Bridge.EndpointMapFile
import IndigoMatter.Bridge.EndpointMapRoundTrip
import IndigoMatter.Bridge.EndpointState
import IndigoMatter.Bridge.Endpoints
import IndigoMatter.Bridge.IdentityKept
import IndigoMatter.Bridge.IdentityRefinement
import IndigoMatter.Bridge.IdentityStorage
import IndigoMatter.Bridge.IdentityText
import IndigoMatter.Bridge.LevelRetention
import IndigoMatter.Bridge.Node
import IndigoMatter.Bridge.NodeFabrics
import IndigoMatter.Bridge.NodeInterleaving
import IndigoMatter.Bridge.NodeLifecycle
import IndigoMatter.Bridge.NodeRecords
import IndigoMatter.Bridge.NodeRestart
import IndigoMatter.Bridge.NodeSpec
import IndigoMatter.Bridge.NodeSupersession
import IndigoMatter.Bridge.PlanPartition
import IndigoMatter.Bridge.Protocol
import IndigoMatter.Bridge.Reconcile
import IndigoMatter.Bridge.ReconcilePhases
import IndigoMatter.Bridge.ReconcileReach
import IndigoMatter.Bridge.Registry
import IndigoMatter.Bridge.RegistryAgreement
import IndigoMatter.Bridge.RegistryOwnership
import IndigoMatter.Bridge.RegistrySpec
import IndigoMatter.Bridge.SessionHygiene
import IndigoMatter.Bridge.StateRefusals
import IndigoMatter.Bridge.WindowEnds
import IndigoMatter.Bridge.WsAttachment
import IndigoMatter.Bridge.WsResponses
import IndigoMatter.Bridge.WsServer
import IndigoMatter.Library.Fallible
import IndigoMatter.Library.FileReplace
import IndigoMatter.Library.FileSystem
import IndigoMatter.Library.FirstBest
import IndigoMatter.Library.Hsv
import IndigoMatter.Library.InsertionMap
import IndigoMatter.Library.Json
import IndigoMatter.Library.JsonExchange
import IndigoMatter.Library.NumberText
import IndigoMatter.Library.NumberedText
import IndigoMatter.Library.PyJson
import IndigoMatter.Library.PyValue
import IndigoMatter.Library.Transition
import IndigoMatter.Plugin.BootVerification
import IndigoMatter.Plugin.BridgeHealth
import IndigoMatter.Plugin.BridgeProtocol
import IndigoMatter.Plugin.BridgedLiveness
import IndigoMatter.Plugin.ColorReports
import IndigoMatter.Plugin.CommissionJobs
import IndigoMatter.Plugin.CommissionOwnership
import IndigoMatter.Plugin.CtAdoption
import IndigoMatter.Plugin.CtBounds
import IndigoMatter.Plugin.CtCalibration
import IndigoMatter.Plugin.CtLearner
import IndigoMatter.Plugin.CtWire
import IndigoMatter.Plugin.DeletionIsolation
import IndigoMatter.Plugin.DeviceCreation
import IndigoMatter.Plugin.DeviceDeletion
import IndigoMatter.Plugin.DeviceGroups
import IndigoMatter.Plugin.DeviceIndex
import IndigoMatter.Plugin.DeviceLinks
import IndigoMatter.Plugin.DeviceRouting
import IndigoMatter.Plugin.DeviceSettings
import IndigoMatter.Plugin.EntryCodec
import IndigoMatter.Plugin.ExportHandlers
import IndigoMatter.Plugin.ExportStore
import IndigoMatter.Plugin.ExportWriters
import IndigoMatter.Plugin.FabricArchive
import IndigoMatter.Plugin.FabricRestore
import IndigoMatter.Plugin.FabricRoundTrip
import IndigoMatter.Plugin.FabricSafety
import IndigoMatter.Plugin.FamilyNames
import IndigoMatter.Plugin.FamilySettling
import IndigoMatter.Plugin.FamilyTrueUp
import IndigoMatter.Plugin.FlagChoices
import IndigoMatter.Plugin.HandlerRegistry
import IndigoMatter.Plugin.IdentityTwins
import IndigoMatter.Plugin.IdentityUniqueness
import IndigoMatter.Plugin.JobGraph
import IndigoMatter.Plugin.JobHistory
import IndigoMatter.Plugin.LaunchAgent
import IndigoMatter.Plugin.LiveRefresh
import IndigoMatter.Plugin.MatterModel
import IndigoMatter.Plugin.MeshChoices
import IndigoMatter.Plugin.MeshOrder
import IndigoMatter.Plugin.MeshShape
import IndigoMatter.Plugin.MeterSources
import IndigoMatter.Plugin.NodeMarks
import IndigoMatter.Plugin.NodeRemoval
import IndigoMatter.Plugin.NodeReplacement
import IndigoMatter.Plugin.NodeTombstones
import IndigoMatter.Plugin.PublishedIdentity
import IndigoMatter.Plugin.Rearrangement
import IndigoMatter.Plugin.ReconcileIsolation
import IndigoMatter.Plugin.ReplacementRun
import IndigoMatter.Plugin.ReplacementSlots
import IndigoMatter.Plugin.SetupCodeIndex
import IndigoMatter.Plugin.SpecExchange
import IndigoMatter.Plugin.StatePushes
import IndigoMatter.Plugin.StorageLocks
import IndigoMatter.Plugin.StoreReload
import IndigoMatter.Plugin.ThreadDiag
import IndigoMatter.Plugin.ThreadMesh
import IndigoMatter.Plugin.ThreadReports
import IndigoMatter.Plugin.ThreadSummary
import IndigoMatter.Plugin.UnExport
import IndigoMatter.Plugin.UnExportDebt
import IndigoMatter.Plugin.WsDelivery
import IndigoMatter.Plugin.WsJsonClient
