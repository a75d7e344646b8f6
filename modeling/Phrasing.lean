import Phrasing.Main
import Phrasing.Message
import Phrasing.Builder
import Phrasing.Report.Read
import Phrasing.Proofs.Template.Encoding
import Phrasing.Proofs.Template.Concatenation
import Phrasing.Proofs.Rendering.Steps
import Phrasing.Proofs.Rendering.Concatenation
import Phrasing.Proofs.Assembly.Sheet
import Phrasing.Proofs.Rendering.Plain
import Phrasing.Proofs.Assembly.Layout
import Phrasing.Proofs.Template.Reader
import Phrasing.Proofs.Template.Ending
import Phrasing.Proofs.Template.Places
import Phrasing.Proofs.Style.Nesting
import Phrasing.Proofs.Enumeration.Shown
import Phrasing.Proofs.Rendering.Markup
import Phrasing.Proofs.Assembly.Ink
import Phrasing.Proofs.Template.Recency
import Phrasing.Proofs.Template.Grammar
import Phrasing.Proofs.Template.Acceptance
import Phrasing.Proofs.Template.Scanner
import Phrasing.Proofs.Template.Faults
import Phrasing.Proofs.Style.History
import Phrasing.Proofs.Session.Afresh
import Phrasing.Proofs.Enumeration.Usable
import Phrasing.Proofs.Configuration.Safety
import Phrasing.Proofs.Configuration.Faults
import Phrasing.Proofs.Rendering.Names
import Phrasing.Proofs.Rendering.Blame
import Phrasing.Proofs.Rendering.Strictness
import Phrasing.Proofs.Session.Building
import Phrasing.Proofs.Data.Navigation
import Phrasing.Proofs.Rendering.Sorting
import Phrasing.Proofs.Assembly.Settled
import Phrasing.Proofs.Assembly.BaseIndent
import Phrasing.Proofs.Style.Merging
import Phrasing.Proofs.Enumeration.Limit
import Phrasing.Proofs.Rendering.Nearest
import Phrasing.Proofs.Assembly.BlankLines
import Phrasing.Proofs.Data.Explicit
import Phrasing.Proofs.Configuration.Application
import Phrasing.Proofs.Template.Diagnosis
import Phrasing.Proofs.Template.Canonical
import Phrasing.Proofs.Command.Settings
