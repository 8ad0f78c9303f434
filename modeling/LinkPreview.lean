import LinkPreview.Catalog
import LinkPreview.Document.Settle
import LinkPreview.Json.Reader
import LinkPreview.Json.Writer
import LinkPreview.Log.Run
import LinkPreview.Service.Basic
import LinkPreview.Settings
import LinkPreview.Proofs.Number.Order
import LinkPreview.Proofs.Rule.ShortCircuit
import LinkPreview.Proofs.Rule.Preference
import LinkPreview.Proofs.Extraction.Mirror
import LinkPreview.Proofs.Text.Trim
import LinkPreview.Proofs.Url.Scheme
import LinkPreview.Proofs.Rule.Simulation
import LinkPreview.Proofs.Catalog.Field
import LinkPreview.Proofs.Extraction.Fallback
import LinkPreview.Proofs.Catalog.PageUrl
import LinkPreview.Proofs.Extraction.Trace
import LinkPreview.Proofs.Rule.Calls
import LinkPreview.Proofs.Extraction.Extension
import LinkPreview.Proofs.Extraction.Locality
import LinkPreview.Proofs.Rule.Pages
import LinkPreview.Proofs.Selector.Local
import LinkPreview.Proofs.Catalog.Nesting
import LinkPreview.Proofs.Extraction.Faults
import LinkPreview.Proofs.Catalog.Texts
import LinkPreview.Proofs.Log.Lines
import LinkPreview.Proofs.Service.Answer
import LinkPreview.Proofs.Service.Account
import LinkPreview.Proofs.Catalog.Part
import LinkPreview.Proofs.Service.Chosen
import LinkPreview.Proofs.Service.Confined
import LinkPreview.Proofs.Icon.Choice
import LinkPreview.Proofs.Extraction.Presence
import LinkPreview.Proofs.Log.Steps
import LinkPreview.Proofs.Log.TraceIds
import LinkPreview.Proofs.Url.Ends
import LinkPreview.Proofs.Catalog.Stripped
import LinkPreview.Proofs.Rule.FirstFault
import LinkPreview.Proofs.Extraction.Missing
import LinkPreview.Proofs.Provider.Host
import LinkPreview.Proofs.Icon.Default
import LinkPreview.Proofs.Url.Absolute
import LinkPreview.Proofs.Text.Words
import LinkPreview.Proofs.Icon.Score
import LinkPreview.Proofs.Catalog.Keywords
import LinkPreview.Proofs.Rule.Forms
import LinkPreview.Proofs.Provider.Rooted
import LinkPreview.Proofs.Rule.Unordered
import LinkPreview.Proofs.Icon.Folder
