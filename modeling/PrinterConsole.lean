import PrinterConsole.Console
import PrinterConsole.Control.Choice
import PrinterConsole.Control.Defaults
import PrinterConsole.Control.MediaChooser
import PrinterConsole.Driver.Codec
import PrinterConsole.Driver.DefaultsForm
import PrinterConsole.Driver.MediaForm
import PrinterConsole.Driver.Options
import PrinterConsole.Driver.Profile
import PrinterConsole.Edit.Block
import PrinterConsole.Fault
import PrinterConsole.Form.Basic
import PrinterConsole.Form.Value
import PrinterConsole.Identity.Basic
import PrinterConsole.Identity.Form
import PrinterConsole.Jobs.Job
import PrinterConsole.Jobs.Queue
import PrinterConsole.Json.Basic
import PrinterConsole.Json.Coerce
import PrinterConsole.Json.Display
import PrinterConsole.Json.Reader
import PrinterConsole.Json.Writer
import PrinterConsole.Keyword.Device
import PrinterConsole.Keyword.Print
import PrinterConsole.Keyword.Vocabulary
import PrinterConsole.Log
import PrinterConsole.Markup.Clean
import PrinterConsole.Markup.Names.LowerAL
import PrinterConsole.Markup.Names.LowerMZ
import PrinterConsole.Markup.Names.Upper
import PrinterConsole.Markup.Reference
import PrinterConsole.Markup.Scan
import PrinterConsole.Media.CustomRange
import PrinterConsole.Media.Label
import PrinterConsole.Media.Loaded
import PrinterConsole.Media.Size
import PrinterConsole.Number.Binary64
import PrinterConsole.Number.Numeral
import PrinterConsole.Number.Printed
import PrinterConsole.Number.Rounding
import PrinterConsole.Number.Shortest
import PrinterConsole.Page.Basic
import PrinterConsole.Page.Config
import PrinterConsole.Page.Controls
import PrinterConsole.Page.Jobs
import PrinterConsole.Page.Layout
import PrinterConsole.Page.Media
import PrinterConsole.Page.Printing
import PrinterConsole.Page.Status
import PrinterConsole.Page.Supplies
import PrinterConsole.Printer
import PrinterConsole.Problem
import PrinterConsole.Proofs.Fault
import PrinterConsole.Proofs.Json.Keys
import PrinterConsole.Proofs.Json.Loaded
import PrinterConsole.Proofs.Json.Numbers
import PrinterConsole.Proofs.Json.RoundTrip
import PrinterConsole.Proofs.Json.Strings
import PrinterConsole.Proofs.Keyword.Flags
import PrinterConsole.Proofs.Number.Decimal
import PrinterConsole.Proofs.Number.Digits
import PrinterConsole.Proofs.Number.Nearest
import PrinterConsole.Proofs.Number.Shortest
import PrinterConsole.Proofs.Number.Written
import PrinterConsole.Proofs.Queue.CancelAll
import PrinterConsole.Proofs.Queue.CancelFinal
import PrinterConsole.Proofs.Queue.Purge
import PrinterConsole.Proofs.Queue.Retention
import PrinterConsole.Proofs.Queue.Step
import PrinterConsole.Proofs.State.Codec
import PrinterConsole.Proofs.State.Forms
import PrinterConsole.Proofs.State.Keyed
import PrinterConsole.Proofs.State.Restart
import PrinterConsole.StateFile
import PrinterConsole.Status.Summary
import PrinterConsole.Status.Supply
import PrinterConsole.Text.Blank
import PrinterConsole.Text.Digit
import PrinterConsole.Text.Part
import PrinterConsole.Text.Printable
import PrinterConsole.Text.Upper
import PrinterConsole.Time
import PrinterConsole.Web.PercentCode
import PrinterConsole.Web.Request
import PrinterConsole.Web.Session
import PrinterConsole.Web.Site
import PrinterConsole.Web.UrlEncoded
import PrinterConsole.Proofs.Queue.Commute
import PrinterConsole.Proofs.Console.Visits
import PrinterConsole.Proofs.Driver.PartialUpdate
import PrinterConsole.Proofs.Driver.MediaGroups
import PrinterConsole.Proofs.Control.Picks
import PrinterConsole.Proofs.Control.MediaPicks
import PrinterConsole.Proofs.Markup.Names
import PrinterConsole.Proofs.Markup.Reference
import PrinterConsole.Proofs.Markup.Scan
import PrinterConsole.Proofs.Markup.Clean
import PrinterConsole.Proofs.Number.Significant
import PrinterConsole.Proofs.Form.SixDigits
import PrinterConsole.Proofs.Identity.Resubmit
import PrinterConsole.Proofs.Json.Refused
import PrinterConsole.Proofs.State.AllOrNothing
import PrinterConsole.Proofs.State.NormalForm
import PrinterConsole.Proofs.Driver.LongNumeral
import PrinterConsole.Proofs.Driver.MediaBounds
import PrinterConsole.Proofs.Markup.LongReference
import PrinterConsole.Proofs.State.Damaged
import PrinterConsole.Proofs.Identity.PartialUpdate
import PrinterConsole.Proofs.State.FieldFailures
import PrinterConsole.Proofs.Queue.Records
import PrinterConsole.Proofs.Console.Answers
import PrinterConsole.Proofs.Queue.Ended
import PrinterConsole.Proofs.Console.CancelPage
import PrinterConsole.Proofs.Console.WrongToken
import PrinterConsole.Proofs.Control.Speeds
import PrinterConsole.Proofs.Identity.FieldPolicies
import PrinterConsole.Proofs.Control.SourcePicks
import PrinterConsole.Proofs.Markup.Tags
import PrinterConsole.Proofs.Form.ResolutionText
import PrinterConsole.Proofs.Media.SizeNames
import PrinterConsole.Proofs.Control.SizeSelection
import PrinterConsole.Proofs.Control.CustomNames
import PrinterConsole.Proofs.Control.RangeSearch
import PrinterConsole.Proofs.Media.SizeLabels
import PrinterConsole.Proofs.Number.Order
import PrinterConsole.Proofs.Control.CustomInputs
import PrinterConsole.Proofs.Form.WholeLiteral
import PrinterConsole.Proofs.Console.CancelOutcomes
import PrinterConsole.Proofs.Control.Darkness
import PrinterConsole.Proofs.Keyword.Spelling
import PrinterConsole.Proofs.Keyword.FlagSets
import PrinterConsole.Proofs.Page.Skeleton
import PrinterConsole.Proofs.Console.PageStructure
import PrinterConsole.Proofs.Edit.Nesting
import PrinterConsole.Proofs.Media.Twins
import PrinterConsole.Proofs.Media.TitleWords
import PrinterConsole.Proofs.Log.Files
import PrinterConsole.Proofs.Log.Names
import PrinterConsole.Proofs.Log.Run
import PrinterConsole.Proofs.Log.Faithful
