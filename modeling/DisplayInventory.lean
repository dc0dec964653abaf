import DisplayInventory.Card.History
import DisplayInventory.Card.Samples
import DisplayInventory.Main
import DisplayInventory.Proofs.Options.Groups
import DisplayInventory.Proofs.Script.Course
import DisplayInventory.Proofs.Script.Delivery
import DisplayInventory.Proofs.Script.Inquiry
import DisplayInventory.Proofs.Script.Lockstep
import DisplayInventory.Proofs.Script.Ledger
import DisplayInventory.Proofs.Report.Sections
import DisplayInventory.Proofs.Report.Enumeration
import DisplayInventory.Proofs.Report.LimitedSink
import DisplayInventory.Proofs.Report.Composition
import DisplayInventory.Proofs.Report.DebugStyle
import DisplayInventory.Proofs.Report.Notices
import DisplayInventory.Proofs.Report.Lines
import DisplayInventory.Proofs.Kernel.Conversion
import DisplayInventory.Proofs.Kernel.Mirror
import DisplayInventory.Proofs.Text.Utf8
import DisplayInventory.Proofs.CommandLine.Outcome
import DisplayInventory.Proofs.Report.Footprint
import DisplayInventory.Proofs.CommandLine.DirectoryOrder
import DisplayInventory.Proofs.Kernel.Search
import DisplayInventory.Proofs.Report.EdidLookup
import DisplayInventory.Proofs.Text.Readback
import DisplayInventory.Proofs.Report.EdidDump
import DisplayInventory.Proofs.Kernel.Nodes
import DisplayInventory.Proofs.Kernel.Session
import DisplayInventory.Proofs.Kernel.Aspect
import DisplayInventory.Proofs.Kernel.Probing
import DisplayInventory.Proofs.Script.Reforced
import DisplayInventory.Proofs.Report.NumericBlocks
import DisplayInventory.Proofs.Decimal.Nearest
import DisplayInventory.Proofs.Report.ClockLine
import DisplayInventory.Proofs.Report.PropertyValue
import DisplayInventory.Proofs.Kernel.BlobIds
import DisplayInventory.Proofs.Text.CutText
import DisplayInventory.Proofs.Kernel.NameField
import DisplayInventory.Proofs.Card.Recorder
