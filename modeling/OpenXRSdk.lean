import OpenXRSdk.StateProgram
import OpenXRSdk.HandleLedger
import OpenXRSdk.TransitionSystem
import OpenXRSdk.Types
import OpenXRSdk.JsonValue
import OpenXRSdk.LoaderProperties
import OpenXRSdk.ManifestFile
import OpenXRSdk.ManifestSafety
import OpenXRSdk.AndroidUtilities
import OpenXRSdk.ObjectInfo
import OpenXRSdk.LoaderLogger
import OpenXRSdk.LoaderInitData
import OpenXRSdk.World
import OpenXRSdk.RuntimeInterface
import OpenXRSdk.ApiLayerInterface
import OpenXRSdk.LayerLoading
import OpenXRSdk.LoaderTerminators
import OpenXRSdk.LoaderInstance
import OpenXRSdk.LoaderCore
import OpenXRSdk.RuntimeLoading
import OpenXRSdk.InstanceCreation
import OpenXRSdk.LibraryBalance
import OpenXRSdk.TerminatorEffects
import OpenXRSdk.Lifecycle
import OpenXRSdk.ExtensionAgreement
import OpenXRSdk.DebugMessengers
import OpenXRSdk.DebugData
import OpenXRSdk.RelyGuarantee
import OpenXRSdk.Concurrency
import OpenXRSdk.RuntimeInUse
import OpenXRSdk.ForeignHandles
import OpenXRSdk.RigidMotions
import OpenXRSdk.SessionLabels
import OpenXRSdk.XrLinear
import OpenXRSdk.RigidTransforms
import OpenXRSdk.SearchPaths
import OpenXRSdk.SearchPathExpansion
import OpenXRSdk.DirectorySearch
import OpenXRSdk.ManifestSearch
import OpenXRSdk.SecureSearch
import OpenXRSdk.EnvironmentLayers
import OpenXRSdk.LayerNames
import OpenXRSdk.KeyedLists
import OpenXRSdk.LayerOrder
import OpenXRSdk.LayerExtensions
import OpenXRSdk.ExtensionMerging
import OpenXRSdk.InstanceCreateInfo
import OpenXRSdk.RuntimeQueries
import OpenXRSdk.CreateInfoValidation
import OpenXRSdk.ObjectNames
import OpenXRSdk.CallbackData
import OpenXRSdk.BitFlags
import OpenXRSdk.LoggedMessages
import OpenXRSdk.SubmittedMessages
import OpenXRSdk.MessengerDestruction
import OpenXRSdk.ActiveRuntimeSearch
import OpenXRSdk.DecimalNumbers
import OpenXRSdk.VersionFields
import OpenXRSdk.InitAtomicity
import OpenXRSdk.PropertyPrecedence
import OpenXRSdk.LayerRegistry
import OpenXRSdk.SplittingLoops
import OpenXRSdk.MatrixInverse
import OpenXRSdk.Decomposition
import OpenXRSdk.Projection
import OpenXRSdk.Boxes
import OpenXRSdk.Bounds
import OpenXRSdk.HexRendering
import OpenXRSdk.LibraryLookups
import OpenXRSdk.JsonErrors
import OpenXRSdk.JsonExceptions
import OpenXRSdk.JsonModes
import OpenXRSdk.JsonRoundTrip
import OpenXRSdk.ManifestText
import OpenXRSdk.ConformingParticipants
import OpenXRSdk.ConformingRuns
import OpenXRSdk.CriticalSections
import OpenXRSdk.GuardedCalls
import OpenXRSdk.ProcAddr
import OpenXRSdk.Rotations
import OpenXRSdk.ChainAnswers
import OpenXRSdk.FailedCreation
