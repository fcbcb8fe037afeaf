import DocPress.Main
import DocPress.Service.Answer
import DocPress.Value.Printer
import DocPress.Proofs.Package.Counting
import DocPress.Proofs.Package.Step
import DocPress.Proofs.Xml.Query
import DocPress.Proofs.Document.Text
import DocPress.Proofs.Number.Binary64
import DocPress.Proofs.Package.Definition
import DocPress.Proofs.Package.NumberingPart
import DocPress.Proofs.Style.Valid
import DocPress.Proofs.Document.CountedItem
import DocPress.Proofs.Document.Encodable
import DocPress.Proofs.Document.ListCounter
import DocPress.Proofs.Document.Reports
import DocPress.Proofs.Package.Body
import DocPress.Proofs.Document.Numbered
import DocPress.Proofs.Document.ListApart
import DocPress.Proofs.Style.Merge
import DocPress.Proofs.Document.ListStart
import DocPress.Proofs.Document.Restyle
import DocPress.Proofs.Picture.Schedule
import DocPress.Proofs.Document.Pictures
import DocPress.Proofs.Command.Exit
import DocPress.Proofs.Text.LineEnd
import DocPress.Proofs.Value.Digits
import DocPress.Proofs.Text.Encoding
import DocPress.Proofs.Text.Utf8
import DocPress.Proofs.Text.PathName
import DocPress.Proofs.Command.Files
import DocPress.Proofs.Service.Agreement
import DocPress.Proofs.Package.Relations
import DocPress.Proofs.Package.ChildOrder
import DocPress.Proofs.Document.HeadingText
import DocPress.Proofs.Service.OutputName
import DocPress.Proofs.Package.Reuse
import DocPress.Proofs.Document.LinePosition
import DocPress.Proofs.Document.LinkSpan
import DocPress.Proofs.Markdown.LinkText
import DocPress.Proofs.Markdown.AltText
import DocPress.Proofs.Style.Setting
import DocPress.Proofs.Package.Grid
import DocPress.Proofs.Package.Placeholder
import DocPress.Proofs.Picture.Collect
import DocPress.Proofs.Service.DownloadName
import DocPress.Proofs.Service.Header
import DocPress.Proofs.Service.Disposition
import DocPress.Proofs.Command.Kept
import DocPress.Proofs.Picture.DataUri
import DocPress.Proofs.Command.Saving
import DocPress.Proofs.Command.Changes
