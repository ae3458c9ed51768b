import Symbolizer.Main
import Symbolizer.Proofs.Table.Kept
import Symbolizer.Proofs.Table.Runs
import Symbolizer.Proofs.Table.Shape
import Symbolizer.Proofs.Table.Projection
import Symbolizer.Proofs.Table.Listing
import Symbolizer.Proofs.Table.OneLine
import Symbolizer.Proofs.Table.LineOrder
import Symbolizer.Proofs.Lookup.Interval
import Symbolizer.Proofs.Lookup.Tightest
import Symbolizer.Proofs.Lookup.Lines
import Symbolizer.Proofs.Lookup.Gap
import Symbolizer.Proofs.Lookup.ModuleOrder
import Symbolizer.Proofs.Lookup.Silent
import Symbolizer.Proofs.Lookup.Display
import Symbolizer.Proofs.Source.Lines
import Symbolizer.Proofs.Store.Published
import Symbolizer.Proofs.Store.Reported
import Symbolizer.Proofs.Dump.JsonTable
import Symbolizer.Proofs.Dump.PlainText
import Symbolizer.Proofs.Dump.Limited
import Symbolizer.Proofs.Preflight
import Symbolizer.Proofs.Program.Outcome
import Symbolizer.Proofs.Program.LookupOutput
import Symbolizer.Proofs.Program.Status
import Symbolizer.Proofs.Address
import Symbolizer.Proofs.Address.Asked
import Symbolizer.Proofs.Address.Agreement
import Symbolizer.Proofs.Annotation
import Symbolizer.Proofs.Text.Slices
import Symbolizer.Proofs.Program.AllOrNothing
