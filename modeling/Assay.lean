import Assay.Describe
import Assay.Model.Condition
import Assay.Model.Link
import Assay.Model.Rules
import Assay.Proofs.Fault.Numbering
import Assay.Proofs.Fault.Positions
import Assay.Proofs.Message.Cursor
import Assay.Proofs.Message.Merged
import Assay.Proofs.Message.OneLevel
import Assay.Proofs.Message.Preloaded
import Assay.Proofs.Message.Verbatim
import Assay.Proofs.Number.Pattern
import Assay.Proofs.Path.Arithmetic
import Assay.Proofs.Path.Child
import Assay.Proofs.Path.Markers
import Assay.Proofs.Result.Views
import Assay.Proofs.Scheme.Attribution
import Assay.Proofs.Scheme.Complete
import Assay.Proofs.Scheme.Loop
import Assay.Proofs.Scheme.Recursive
import Assay.Proofs.Scheme.Resolved
import Assay.Proofs.Scheme.Template
import Assay.Proofs.Settings.Merge
import Assay.Proofs.Text.Title
import Assay.Proofs.Visit.Address
import Assay.Proofs.Visit.Agreement
import Assay.Proofs.Visit.Beside
import Assay.Proofs.Visit.Ends
import Assay.Proofs.Visit.Exits
import Assay.Proofs.Visit.Hurry
import Assay.Proofs.Visit.Items
import Assay.Proofs.Visit.Keys
import Assay.Proofs.Visit.Loops
import Assay.Proofs.Visit.Prompt
import Assay.Proofs.Visit.Search
import Assay.Proofs.Visit.Sharing
import Assay.Proofs.Visit.WellFormed
import Assay.Settings.File
