import NodeCatalog.Text.Blank
import NodeCatalog.Text.DecimalDigit
import NodeCatalog.Text.Point
import NodeCatalog.Text.CharName
import NodeCatalog.Text.Basic
import NodeCatalog.Decimal.Binary
import NodeCatalog.Decimal.Shortest
import NodeCatalog.Decimal.Read
import NodeCatalog.Text.Printable
import NodeCatalog.Text.Quote
import NodeCatalog.Fault
import NodeCatalog.Value.Basic
import NodeCatalog.Json.Read
import NodeCatalog.Json.Write
import NodeCatalog.Value.Text
import NodeCatalog.Docs.Description
import NodeCatalog.Value.Number
import NodeCatalog.Node.Name
import NodeCatalog.Pattern.Basic
import NodeCatalog.Pattern.Match
import NodeCatalog.Node.Fields
import NodeCatalog.Node.Description
import NodeCatalog.Node.Versions
import NodeCatalog.Node.Property
import NodeCatalog.Files.Utf8
import NodeCatalog.Files.Path
import NodeCatalog.Files.Tree
import NodeCatalog.Node.Schema
import NodeCatalog.Value.Literal
import NodeCatalog.Session
import NodeCatalog.Docs.FrontMatter
import NodeCatalog.Docs.Entry
import NodeCatalog.Files.Snapshot
import NodeCatalog.Catalog
import NodeCatalog.Main
import NodeCatalog.Proofs.Outcome
import NodeCatalog.Proofs.PropertyNames
import NodeCatalog.Proofs.Run
import NodeCatalog.Proofs.NameForm
import NodeCatalog.Proofs.FileWrites
import NodeCatalog.Proofs.JsonWriting
import NodeCatalog.Proofs.PathParts
import NodeCatalog.Proofs.DocReading
import NodeCatalog.Proofs.DocOutputs
import NodeCatalog.Proofs.Walks
import NodeCatalog.Proofs.DocListing
import NodeCatalog.Proofs.ExtractFaults
import NodeCatalog.Proofs.SchemaRun
import NodeCatalog.Proofs.WriteOrder
import NodeCatalog.Proofs.SchemaFields
import NodeCatalog.Proofs.DocPaths
import NodeCatalog.Proofs.CatalogWrites
import NodeCatalog.Proofs.TextFiles
import NodeCatalog.Proofs.PatternSteps
import NodeCatalog.Proofs.FrontMatterFields
import NodeCatalog.Proofs.ImportResolution
import NodeCatalog.Proofs.PatternSearch
import NodeCatalog.Proofs.ConnectionLists
import NodeCatalog.Proofs.Declarations
import NodeCatalog.Proofs.FieldSearch
import NodeCatalog.Proofs.PropertyLiterals
import NodeCatalog.Proofs.Boilerplate
import NodeCatalog.Proofs.SettledLists
import NodeCatalog.Proofs.PatternTakes
import NodeCatalog.Proofs.DecimalReading
import NodeCatalog.Proofs.VersionOrder
