import SourceOutline.CommandLine.Run
import SourceOutline.Decimal.Integer
import SourceOutline.Decimal.Layout
import SourceOutline.Diagnostic
import SourceOutline.Entity.Import
import SourceOutline.Json.Reader
import SourceOutline.Json.Writer
import SourceOutline.Main
import SourceOutline.Markup.Render
import SourceOutline.Outline
import SourceOutline.Settings.Load
import SourceOutline.Store.Normalize
import SourceOutline.Value.Written
import SourceOutline.Proofs.CommandLine.Report
import SourceOutline.Proofs.Entity.Influence
import SourceOutline.Proofs.Entity.Origin
import SourceOutline.Proofs.Entity.SourceOrder
import SourceOutline.Proofs.Settings.Recovery
import SourceOutline.Proofs.Settings.Section
import SourceOutline.Yaml.TokenStream
import SourceOutline.Proofs.Diagnostic.Reported
import SourceOutline.Proofs.CommandLine.Entities
import SourceOutline.Proofs.Normalize.Text
import SourceOutline.Proofs.Store.Composition
import SourceOutline.Proofs.Normalize.Paths
import SourceOutline.Proofs.Entity.Composition
import SourceOutline.Proofs.Entity.Extras
import SourceOutline.Proofs.Entity.ParameterList
import SourceOutline.Proofs.Entity.ImportStatement
import SourceOutline.Proofs.Entity.Footprint
import SourceOutline.Proofs.Normalize.Turns
import SourceOutline.Proofs.Text.Blocks
import SourceOutline.Proofs.Yaml.PlainLines
import SourceOutline.Proofs.Yaml.PlainSection
import SourceOutline.Proofs.Settings.Written
