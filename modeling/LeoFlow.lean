import LeoFlow.Core.Machine
import LeoFlow.Core.Sha256
import LeoFlow.Core.JsonRoundTrip
import LeoFlow.Contracts.Storage
import LeoFlow.Capture.SpoolConcurrency
import LeoFlow.Core.Table
import LeoFlow.Contracts.Core
import LeoFlow.Storage.Filesystem
import LeoFlow.Storage.Durability
import LeoFlow.Catalog.Orphans
import LeoFlow.Maintenance.FilesystemOrphans
import LeoFlow.Maintenance.System
import LeoFlow.Maintenance.GarbageCollection
import LeoFlow.Maintenance.Reconciliation
import LeoFlow.Maintenance.Recovery
import LeoFlow.Jobs.Repository
import LeoFlow.Capture.Engine
import LeoFlow.Contracts.CanonicalJson
import LeoFlow.Core.FloatError
import LeoFlow.Dwell.Clock
import LeoFlow.Dwell.Queue
import LeoFlow.Dwell.Safety
import LeoFlow.Contracts.CaptureBatch
import LeoFlow.Application.CaptureBatches
import LeoFlow.Capture.Campaign
import LeoFlow.Capture.CampaignCoordinator
import LeoFlow.Capture.SupercycleCanary
import LeoFlow.Capture.Continuous
import LeoFlow.Capture.ContinuousCoordinator
import LeoFlow.Services.Lifecycle
import LeoFlow.Analysis.Dataset
import LeoFlow.Core.DecimalText
import LeoFlow.Analysis.DatasetCampaign
import LeoFlow.Analysis.CampaignMaterialization
import LeoFlow.Core.JsonHook
import LeoFlow.Core.JsonSize
import LeoFlow.Analysis.DatasetCampaignCodec
import LeoFlow.Core.JsonBack
import LeoFlow.Contracts.Renderable
import LeoFlow.Analysis.WorkTable
import LeoFlow.Analysis.BoundedQueues
import LeoFlow.Catalog.References
import LeoFlow.Analysis.WorkClaims
import LeoFlow.Dashboard.CaptureBatchSafety
import LeoFlow.Core.Script
import LeoFlow.Deployments.FocusedSupervision
import LeoFlow.Admission.GuardFencing
import LeoFlow.Deployments.IsolatedProtocol
import LeoFlow.Capture.PublicationCounts
import LeoFlow.Application.DwellGate
import LeoFlow.Analysis.FrozenCalibration
import LeoFlow.Contracts.Document
import LeoFlow.Storage.RecordingCodec
import LeoFlow.Storage.RecordingErrors
import LeoFlow.Contracts.Interpreter
import LeoFlow.Core.FloatArith
import LeoFlow.Contracts.Raising
import LeoFlow.Contracts.Codec
import LeoFlow.Contracts.Features
import LeoFlow.Contracts.SharedCodecs
import LeoFlow.Contracts.Restoring
import LeoFlow.Analysis.FeatureSetCodec
import LeoFlow.Contracts.Waterfall
import LeoFlow.Analysis.WaterfallCodec
import LeoFlow.Analysis.BundleCodecs
import LeoFlow.Contracts.RecordingLinks
import LeoFlow.Contracts.TrackingInput
import LeoFlow.Maintenance.Candidates
import LeoFlow.Core.Paging
import LeoFlow.Maintenance.Inventory
import LeoFlow.Contracts.ContinuitySpans
import LeoFlow.Core.Windows
import LeoFlow.Analysis.SafeWindows
import LeoFlow.Capture.EngineTimestamps
import LeoFlow.Core.Alone
import LeoFlow.Capture.CanaryTransitions
import LeoFlow.Capture.CanaryTerminal
import LeoFlow.Capture.CanaryCompletion
import LeoFlow.Capture.RemainingCapacity
import LeoFlow.Core.PosixPath
import LeoFlow.Core.Pieces
import LeoFlow.Storage.LegacyRecording
import LeoFlow.Storage.LegacyReads
import LeoFlow.Analysis.ResidualStale
import LeoFlow.Core.Moments
import LeoFlow.Analysis.DatasetSnapshots
import LeoFlow.Analysis.DetectorEvaluation
import LeoFlow.Analysis.DetectorTally
import LeoFlow.Analysis.DetectorAccounts
import LeoFlow.Analysis.DetectorReport
import LeoFlow.Analysis.DetectorOrder
import LeoFlow.Analysis.EphemerisScheduling
import LeoFlow.Analysis.EphemerisScheduling
import LeoFlow.Core.Extrema
import LeoFlow.Analysis.EphemerisResolution
import LeoFlow.Analysis.WaterfallWindows
import LeoFlow.Analysis.WaterfallAnalysis
import LeoFlow.Core.Trellis
import LeoFlow.Analysis.DopplerTracks
import LeoFlow.Core.Alike
import LeoFlow.Core.FloatBounds
import LeoFlow.Analysis.DopplerSlopes
import LeoFlow.Core.Calendar
import LeoFlow.Core.IntText
import LeoFlow.Analysis.TleLines
import LeoFlow.Core.Ranking
import LeoFlow.Analysis.FullDwellWindows
import LeoFlow.Analysis.FullDwellTimeline
import LeoFlow.Analysis.BlindDopplerPeaks
import LeoFlow.Analysis.BlindDopplerTracks
import LeoFlow.Core.NumberLayout
import LeoFlow.Core.SortedSets
import LeoFlow.Analysis.AdaptiveRefinement
import LeoFlow.Analysis.AdaptiveBase
import LeoFlow.Analysis.AdaptiveSymmetry
import LeoFlow.Analysis.AdaptiveRelabelling
import LeoFlow.Core.SampleUnion
import LeoFlow.Analysis.DwellCoverage
import LeoFlow.Dashboard.RecordingDetail
