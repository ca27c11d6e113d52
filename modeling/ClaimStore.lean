import ClaimStore.Bytes
import ClaimStore.Limits
import ClaimStore.Text.Blank
import ClaimStore.Text.Decimal
import ClaimStore.Text.Hidden
import ClaimStore.Text.Quoted
import ClaimStore.Error
import ClaimStore.Budget
import ClaimStore.Key
import ClaimStore.EntryTable
import ClaimStore.Lease
import ClaimStore.Path
import ClaimStore.Disk.FileData
import ClaimStore.Disk
import ClaimStore.Config
import ClaimStore.Fill
import ClaimStore.Resource
import ClaimStore.Hook
import ClaimStore.Handle.Mapping
import ClaimStore.Handle.Stream
import ClaimStore.Handle
import ClaimStore.Store.Basic
import ClaimStore.Store.Content
import ClaimStore.Store.Unmap
import ClaimStore.Store.View
import ClaimStore.Store.Files
import ClaimStore.Store.Volatile
import ClaimStore.DatabaseFile
import ClaimStore.Store.Rows
import ClaimStore.Store.Streams
import ClaimStore.Identifier
import ClaimStore.Store.Access
import ClaimStore.Store.Tables
import ClaimStore.Store.Drop
import ClaimStore.Store.Describe
import ClaimStore.Store.Outside
import ClaimStore.Proofs.Budget
import ClaimStore.Proofs.EntryTable
import ClaimStore.Proofs.Accounting
import ClaimStore.Proofs.Ownership
import ClaimStore.Proofs.Access
import ClaimStore.Proofs.ContentPath
import ClaimStore.Proofs.EntryContents
import ClaimStore.Proofs.EntryKeeper
import ClaimStore.Proofs.Equivalence
import ClaimStore.Proofs.FileCover
import ClaimStore.Proofs.FileRuns
import ClaimStore.Proofs.HandleOpens
import ClaimStore.Store.Faults
import ClaimStore.Proofs.FaultyRuns
import ClaimStore.Proofs.HandleEnds
import ClaimStore.Proofs.Ledger
import ClaimStore.Proofs.LedgerRuns
import ClaimStore.Proofs.LedgerCounts
import ClaimStore.Proofs.SingleWriter
import ClaimStore.Proofs.References
import ClaimStore.Proofs.Drafts
import ClaimStore.Proofs.RowChanges
import ClaimStore.Proofs.NoLostUpdate
import ClaimStore.Proofs.ValueLocks
import ClaimStore.Proofs.ValueSteps
import ClaimStore.Proofs.ValueViews
import ClaimStore.Proofs.EntryRefusals
import ClaimStore.Proofs.Exclusion
import ClaimStore.Proofs.StableViews
import ClaimStore.Proofs.DiskChanges
import ClaimStore.Proofs.DiskSteps
import ClaimStore.Proofs.DiskOpens
import ClaimStore.Proofs.DiskRuns
import ClaimStore.Proofs.DiskTree
import ClaimStore.Proofs.Presence
import ClaimStore.Proofs.Confinement
import ClaimStore.Proofs.Isolation
import ClaimStore.Proofs.FreeKeys
import ClaimStore.Proofs.FreeRows
import ClaimStore.Proofs.Removals
import ClaimStore.Proofs.Openable
import ClaimStore.Proofs.EntryRoom
import ClaimStore.Proofs.StoredContent
import ClaimStore.Proofs.WritableMaps
import ClaimStore.Store.Remapping
import ClaimStore.Store.Passthrough
import ClaimStore.Store.Capability
import ClaimStore.Proofs.Capabilities
import ClaimStore.Proofs.MappingSteps
import ClaimStore.Proofs.HookRuns
import ClaimStore.Proofs.HookLives
import ClaimStore.Proofs.MappingOpens
import ClaimStore.Proofs.FileResize
import ClaimStore.Proofs.FailedResizes
import ClaimStore.Proofs.Sessions
import ClaimStore.Proofs.SessionRuns
import ClaimStore.Proofs.Coherence
import ClaimStore.Proofs.Unaltered
import ClaimStore.Proofs.LimitReports
import ClaimStore.Proofs.ScopedOpens
import ClaimStore.Proofs.VolatileFailures
import ClaimStore.Proofs.ReaderTurns
import ClaimStore.Proofs.Cursors
import ClaimStore.Proofs.Copies
import ClaimStore.Proofs.ReaderBounds
import ClaimStore.Proofs.OpenFiles
import ClaimStore.Proofs.PlainArrays
import ClaimStore.Proofs.MappedArrays
import ClaimStore.Proofs.ArrayRuns
import ClaimStore.Proofs.FillLoop
import ClaimStore.Proofs.InterruptedOpens
import ClaimStore.Proofs.OpenTraces
import ClaimStore.Proofs.OpenTrials
import ClaimStore.Proofs.FailedOpens
import ClaimStore.Proofs.ReadLeases
import ClaimStore.Proofs.Builders
import ClaimStore.Proofs.BudgetCalls
