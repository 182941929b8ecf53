import Gate4Harness.SlotList
import Gate4Harness.Runs
import Gate4Harness.RoundRobin
import Gate4Harness.Tables
import Gate4Harness.UndoLog
import Gate4Harness.SchedulerState
import Gate4Harness.SchedulerTables
import Gate4Harness.SchedulerThreads
import Gate4Harness.SchedulerOps
import Gate4Harness.SchedulerInvariant
import Gate4Harness.SchedulerQueue
import Gate4Harness.SchedulerWaits
import Gate4Harness.SchedulerSignals
import Gate4Harness.SchedulerObjects
import Gate4Harness.SchedulerLifecycle
import Gate4Harness.SchedulerEnding
import Gate4Harness.SchedulerSwitch
import Gate4Harness.SchedulerBlocking
import Gate4Harness.SchedulerReachable
import Gate4Harness.SchedulerFrames
import Gate4Harness.SchedulerLaws
import Gate4Harness.SchedulerConservation
import Gate4Harness.SchedulerMarks
import Gate4Harness.SchedulerHandles
import Gate4Harness.SchedulerFailures
import Gate4Harness.SchedulerKept
import Gate4Harness.SchedulerPages
import Gate4Harness.SchedulerContexts
import Gate4Harness.SchedulerEffects
import Gate4Harness.SchedulerTokens
import Gate4Harness.SchedulerCompletion
import Gate4Harness.SchedulerOrder
import Gate4Harness.SchedulerTurns
import Gate4Harness.SchedulerTimedWaits
import Gate4Harness.SchedulerShutdown
import Gate4Harness.ByteMemory
import Gate4Harness.Amd64
import Gate4Harness.SchedulerContext
import Gate4Harness.ContextSwitch
import Gate4Harness.WrapperFrames
import Gate4Harness.WaitingLaws
import Gate4Harness.SwitchChains
import Gate4Harness.Arena
import Gate4Harness.ArenaInvariant
import Gate4Harness.ArenaLaws
import Gate4Harness.RegionLedger
import Gate4Harness.RegionLedgerLaws
import Gate4Harness.PhysicalLedger
import Gate4Harness.PhysicalLedgerLaws
import Gate4Harness.CrtMalloc
import Gate4Harness.CrtMallocLaws
import Gate4Harness.CrtPool
import Gate4Harness.CrtOnexit
import Gate4Harness.CrtOnexitLaws
import Gate4Harness.TableWalk
import Gate4Harness.Paging
import Gate4Harness.PagingEntries
import Gate4Harness.PagingTree
import Gate4Harness.PagingSteps
import Gate4Harness.PagingCreate
import Gate4Harness.PagePool
import Gate4Harness.PagingLaws
import Gate4Harness.VirtualMemory
import Gate4Harness.VirtualMemorySteps
import Gate4Harness.PagingSafety
import Gate4Harness.ArenaPages
import Gate4Harness.Coherence
import Gate4Harness.Keeping
import Gate4Harness.TableOwnership
import Gate4Harness.TableOwnershipLaws
import Gate4Harness.Pictures
import Gate4Harness.PictureSteps
import Gate4Harness.PictureRelease
import Gate4Harness.VirtualLaws
import Gate4Harness.VectoredHandler
import Gate4Harness.VectoredHandlerLaws
import Gate4Harness.CriticalSection
import Gate4Harness.FiberStorage
import Gate4Harness.LastError
import Gate4Harness.SchedulerDeadlines
import Gate4Harness.Buffers
import Gate4Harness.PeImage
import Gate4Harness.PeImageLaws
import Gate4Harness.PeSections
import Gate4Harness.PeRelocations
import Gate4Harness.PeLoading
import Gate4Harness.ExceptionEntry
import Gate4Harness.ExceptionEntryLaws
import Gate4Harness.ExceptionResume
import Gate4Harness.FirmwareLedger
import Gate4Harness.FirmwareLedgerLaws
import Gate4Harness.UnwindData
import Gate4Harness.VirtualUnwind
import Gate4Harness.VirtualUnwindLaws
import Gate4Harness.UnwindOutcome
import Gate4Harness.UnwindPrologue
import Gate4Harness.ArenaValid
import Gate4Harness.PagingRange
import Gate4Harness.ArenaSearch
import Gate4Harness.MemoryMap
import Gate4Harness.MemoryMapLaws
import Gate4Harness.MemoryClasses
import Gate4Harness.MemorySnapshot
import Gate4Harness.MemorySnapshotLaws
import Gate4Harness.Utf
import Gate4Harness.Multibyte
import Gate4Harness.MultibyteDecode
import Gate4Harness.MultibytePasses
import Gate4Harness.MultibyteRanges
import Gate4Harness.MultibyteLaws
import Gate4Harness.SchedulerIdentities
import Gate4Harness.SchedulerMemory
import Gate4Harness.SchedulerCreation
import Gate4Harness.SchedulerCreationLaws
import Gate4Harness.SchedulerAtomicity
import Gate4Harness.PayloadRuns
import Gate4Harness.CommittedPages
import Gate4Harness.CommitCoverage
import Gate4Harness.Calendar
import Gate4Harness.PlatformTime
import Gate4Harness.PlatformTimeLaws
import Gate4Harness.PlatformPerformance
import Gate4Harness.PlatformPerformanceLaws
import Gate4Harness.BufferContents
import Gate4Harness.PeTls
import Gate4Harness.PeLoaded
import Gate4Harness.PeRelocationEffect
import Gate4Harness.ExportLookup
import Gate4Harness.VectoredImages
import Gate4Harness.PeImports
import Gate4Harness.PeImportsLaws
import Gate4Harness.PeImportsBound
import Gate4Harness.PagingAudit
import Gate4Harness.PeViews
import Gate4Harness.ExceptionContext
import Gate4Harness.FiberCleanup
import Gate4Harness.OutputRanges
import Gate4Harness.OutputRangesLaws
import Gate4Harness.ProcessorTopology
import Gate4Harness.ProcessorTopologyLaws
import Gate4Harness.CrtReleases
import Gate4Harness.OnexitMemory
import Gate4Harness.OnexitMemoryLaws
import Gate4Harness.StackRegions
import Gate4Harness.StackRegionsLaws
import Gate4Harness.ComApartment
import Gate4Harness.StackLedger
import Gate4Harness.Coverage
import Gate4Harness.SchedulerStreams
import Gate4Harness.Console
import Gate4Harness.ConsoleLaws
import Gate4Harness.PeRegions
import Gate4Harness.CrtInitterm
import Gate4Harness.CrtInittermLaws
import Gate4Harness.CrtStrings
