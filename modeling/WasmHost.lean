import WasmHost.Invocation.Script
import WasmHost.Fault.Detail
import WasmHost.Fault.Lineage
import WasmHost.Host.Exports
import WasmHost.Memory.View
import WasmHost.Proofs.Action
import WasmHost.Proofs.Argument
import WasmHost.Proofs.Trace
import WasmHost.Proofs.Dispatch
import WasmHost.Proofs.Channel
import WasmHost.Proofs.Preserves
import WasmHost.Proofs.Footprint
import WasmHost.Proofs.Ledger
import WasmHost.Proofs.Issues
import WasmHost.Proofs.Issuing
import WasmHost.Proofs.Operation
import WasmHost.Proofs.CacheSteps
import WasmHost.Proofs.CacheReplay
import WasmHost.Proofs.Delivery
import WasmHost.Proofs.Blame
import WasmHost.Proofs.Rejection
import WasmHost.Proofs.Resolution
import WasmHost.Proofs.Insertion
import WasmHost.Proofs.Callables
import WasmHost.Proofs.CacheThreads
import WasmHost.Proofs.MemoryContent
import WasmHost.Proofs.MemoryRuns
import WasmHost.Proofs.MemoryBounds
import WasmHost.Proofs.BufferThreads
import WasmHost.Proofs.Twins
import WasmHost.Proofs.ExportAccess
import WasmHost.Proofs.Share
import WasmHost.Proofs.Renumbering
import WasmHost.Proofs.Instances
import WasmHost.Proofs.Isolation
import WasmHost.Proofs.MemoryCalls
import WasmHost.Proofs.Routes
import WasmHost.Proofs.Serialization
import WasmHost.Proofs.Residues
import WasmHost.Proofs.Reporting
import WasmHost.Proofs.Defaults
import WasmHost.Proofs.ProcessDefaults
import WasmHost.Proofs.BudgetRuns
import WasmHost.Proofs.Budgets
import WasmHost.Proofs.MemorySlices
import WasmHost.Proofs.TextSearch
import WasmHost.Proofs.ElementArrays
import WasmHost.Proofs.Codecs
import WasmHost.Proofs.StoredTexts
import WasmHost.Proofs.LittleEndian
import WasmHost.Proofs.WideTexts
import WasmHost.Proofs.ExportLookups
import WasmHost.Proofs.GuestRuns
import WasmHost.Proofs.ExposedMemory
import WasmHost.Proofs.SettingsSources
import WasmHost.Proofs.DiagnosticLines
import WasmHost.Proofs.NearestCodes
import WasmHost.Proofs.NearestNumerals
import WasmHost.Proofs.NumeralTexts
import WasmHost.Proofs.ValueTexts
