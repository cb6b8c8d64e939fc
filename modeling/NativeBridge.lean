import NativeBridge.Machine.Snapshot
import NativeBridge.Main
import NativeBridge.Planning.Report
import NativeBridge.Proofs.Calls.Convention
import NativeBridge.Proofs.Calls.StackFrame
import NativeBridge.Proofs.Planning.ModuleNames
import NativeBridge.Session
import NativeBridge.Proofs.Machine.LiveHandles
import NativeBridge.Proofs.Calls.WriteBack
import NativeBridge.Proofs.Calls.HeapEffect
import NativeBridge.Proofs.Machine.Holders
import NativeBridge.Proofs.Calls.HandleWrites
import NativeBridge.Proofs.Calls.Ownership
import NativeBridge.Proofs.Machine.Sides
import NativeBridge.Proofs.Calls.Boundary
import NativeBridge.Proofs.Calls.Agreement
import NativeBridge.Proofs.Source.Stubs
import NativeBridge.Proofs.Demo.Backends
import NativeBridge.Proofs.Planning.Generations
import NativeBridge.Proofs.Source.Renderings
import NativeBridge.Proofs.Text.JsonCompact
import NativeBridge.Proofs.Catalogue.Encodings
import NativeBridge.Proofs.Planning.Fingerprints
import NativeBridge.Proofs.Source.AggregateFingerprints
import NativeBridge.Proofs.Calls.Registrations
import NativeBridge.Proofs.Calls.InstallationOrder
import NativeBridge.Proofs.Planning.Accounts
import NativeBridge.Proofs.Source.EmittedItems
import NativeBridge.Proofs.Source.EmittedPlans
import NativeBridge.Proofs.Output.Places
import NativeBridge.Proofs.Output.Folders
import NativeBridge.Proofs.Output.WrittenFiles
import NativeBridge.Proofs.Naming.Words
import NativeBridge.Proofs.Output.RenderedFiles
import NativeBridge.Proofs.Calls.Failures
import NativeBridge.Proofs.Text.JsonPretty
import NativeBridge.Proofs.Catalogue.RoundTrip
import NativeBridge.Proofs.Source.Identifiers
import NativeBridge.Proofs.Source.Renderability
import NativeBridge.Proofs.Source.SingleFiles
import NativeBridge.Proofs.Machine.NumericCodec
import NativeBridge.Proofs.Naming.CanonicalForms
import NativeBridge.Proofs.Source.CodeForms
import NativeBridge.Proofs.Command.Totals
import NativeBridge.Proofs.Calls.FreshHandles
import NativeBridge.Proofs.Demo.TableRuns
import NativeBridge.Proofs.Machine.Forms
import NativeBridge.Proofs.Calls.Locations
import NativeBridge.Proofs.Calls.WrittenCells
import NativeBridge.Proofs.Calls.ReadBack
import NativeBridge.Proofs.Calls.KindChecks
import NativeBridge.Proofs.Calls.CoercedReads
import NativeBridge.Proofs.Planning.MethodShapes
import NativeBridge.Proofs.Planning.MethodEdits
import NativeBridge.Proofs.Source.BoundNames
import NativeBridge.Proofs.Source.LocalNames
import NativeBridge.Proofs.Source.EmittedNames
import NativeBridge.Proofs.Catalogue.IndexedLookups
import NativeBridge.Proofs.Naming.Paths
import NativeBridge.Proofs.Naming.Spellings
import NativeBridge.Proofs.Demo.Swap
import NativeBridge.Proofs.Planning.WellFormed
import NativeBridge.Proofs.Calls.Guards
import NativeBridge.Proofs.Calls.ReferenceOrdinals
import NativeBridge.Proofs.Source.Comments
import NativeBridge.Proofs.Source.ModuleHeaders
