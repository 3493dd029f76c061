import Registry.Address
import Registry.CommandLine
import Registry.CommandLine.Arguments
import Registry.Composition
import Registry.CoreYaml.Cursor
import Registry.CoreYaml.Layout
import Registry.CoreYaml.Reader
import Registry.CoreYaml.Scalar
import Registry.CoreYaml.Tag
import Registry.Decimal.Numeral
import Registry.Decimal.Shortest
import Registry.Decimal.Word
import Registry.Defaults
import Registry.Discovery
import Registry.Disk
import Registry.Document
import Registry.Entry
import Registry.Fault
import Registry.Fetcher
import Registry.Http
import Registry.Inheritance
import Registry.Ini.Reader
import Registry.Json.Reader
import Registry.Json.Writer
import Registry.Json5.Reader
import Registry.Lint
import Registry.Loader
import Registry.Location
import Registry.Main
import Registry.Model
import Registry.Naming
import Registry.Output
import Registry.Payload
import Registry.Proofs.Merging
import Registry.Proofs.TableLookup
import Registry.Reference
import Registry.Render
import Registry.Ron.Reader
import Registry.SchemaClass
import Registry.Settings
import Registry.Settings.Format
import Registry.Settings.Layers
import Registry.Settings.Path
import Registry.Source
import Registry.Stack
import Registry.Table
import Registry.Text.Base64
import Registry.Text.Blank
import Registry.Text.Canonical
import Registry.Text.CanonicalTable
import Registry.Text.Case
import Registry.Text.CaseTable
import Registry.Text.Direction
import Registry.Text.Joining
import Registry.Text.Mark
import Registry.Text.Percent
import Registry.Text.Ranges
import Registry.Text.Split
import Registry.Text.Utf8
import Registry.Text.Word
import Registry.Toml.Reader
import Registry.Toml.Scalar
import Registry.Toml.Text
import Registry.Toml.Tree
import Registry.Toml.Writer
import Registry.Url.Basic
import Registry.Url.Domain
import Registry.Url.DomainTable
import Registry.Url.Host
import Registry.Url.PathReader
import Registry.Url.Punycode
import Registry.Url.Reader
import Registry.Value
import Registry.Value.Merge
import Registry.Value.Pointer
import Registry.Version
import Registry.World
import Registry.Yaml.Layout
import Registry.Yaml.Node
import Registry.Yaml.Reader
import Registry.Yaml.Scalar
import Registry.Yaml.Tag
import Registry.Yaml.Token
import Registry.Proofs.Placement
import Registry.Proofs.WellKeyedReading
import Registry.Proofs.UrlFragment
import Registry.Proofs.CompositionReach
import Registry.Proofs.CompositionFold
import Registry.Proofs.MessagePlaces
import Registry.Proofs.InheritanceChains
import Registry.Proofs.InheritanceCycles
import Registry.Proofs.LoaderRequests
import Registry.Proofs.FetcherDelivery
import Registry.Proofs.CompositionHistory
import Registry.Proofs.CompositionEnds
import Registry.Proofs.InheritanceOrder
import Registry.Proofs.SchemaSoundness
import Registry.Proofs.SchemaPayload
import Registry.Proofs.ProtoMessages
import Registry.Proofs.ClassNames
import Registry.Proofs.MessageUrls
import Registry.Proofs.Growth
import Registry.Proofs.LonePlaces
import Registry.Proofs.LoaderHistory
import Registry.Proofs.UrlInheritance
import Registry.Proofs.Stacking
import Registry.Proofs.EntryForm
import Registry.Proofs.CollectionChanges
import Registry.Proofs.PayloadRest
import Registry.Proofs.LoadAlone
import Registry.Proofs.Completion
import Registry.Proofs.PayloadInheritance
import Registry.Proofs.LoadAgain
import Registry.Proofs.UrlPaths
import Registry.Proofs.HostedSchemas
import Registry.Proofs.VersionedBases
import Registry.Proofs.PayloadPlaces
import Registry.Proofs.CompletionResults
import Registry.Proofs.RespelledBases
import Registry.Proofs.LatestVersion
import Registry.Proofs.LintViolations
import Registry.Proofs.MessageIndex
import Registry.Proofs.TextPieces
import Registry.Proofs.WholeRenderings
import Registry.Proofs.NameCases
import Registry.Proofs.SingleGroups
import Registry.Proofs.DomainText
import Registry.Proofs.HostText
import Registry.Proofs.PathText
import Registry.Proofs.WebUrls
import Registry.Proofs.RelativeReferences
import Registry.Proofs.CaseAgain
import Registry.Proofs.ReferenceText
import Registry.Proofs.MergePaths
import Registry.Proofs.DiscoveryOrder
