import InstallManifest.Asset
import InstallManifest.Command
import InstallManifest.CommandLine
import InstallManifest.Config.Defaults
import InstallManifest.Config.Install
import InstallManifest.Config.NetworkType
import InstallManifest.Config.ParseMode
import InstallManifest.Config.Ranges
import InstallManifest.Config.Reading
import InstallManifest.Config.Settings
import InstallManifest.Config.Vips
import InstallManifest.Data.Result
import InstallManifest.Data.SortedMap
import InstallManifest.Data.Width
import InstallManifest.Decimal.Binary64
import InstallManifest.Decimal.Shortest
import InstallManifest.Main
import InstallManifest.Manifest.Basic
import InstallManifest.Manifest.Build
import InstallManifest.Manifest.Codec
import InstallManifest.Manifest.Error
import InstallManifest.Manifest.Field
import InstallManifest.Manifest.Json
import InstallManifest.Manifest.Keys
import InstallManifest.Manifest.ObjectMeta
import InstallManifest.Manifest.Resolution
import InstallManifest.Manifest.Validation
import InstallManifest.Net.Address
import InstallManifest.Net.Cidr
import InstallManifest.Proofs.Asset.Adoption
import InstallManifest.Proofs.Asset.Generation
import InstallManifest.Proofs.Asset.History
import InstallManifest.Proofs.Asset.Persistence
import InstallManifest.Proofs.Command.Agreement
import InstallManifest.Proofs.Command.Creation
import InstallManifest.Proofs.Config.Defaults
import InstallManifest.Proofs.Data.Result
import InstallManifest.Proofs.Manifest.Build
import InstallManifest.Proofs.Manifest.Json
import InstallManifest.Proofs.Manifest.Keys
import InstallManifest.Proofs.Manifest.Modes
import InstallManifest.Proofs.Manifest.Pruning
import InstallManifest.Proofs.Manifest.Ranges
import InstallManifest.Proofs.Manifest.Report
import InstallManifest.Proofs.Manifest.Resolution
import InstallManifest.Proofs.Manifest.Restore
import InstallManifest.Proofs.Manifest.RoundTrip
import InstallManifest.Proofs.Manifest.Shape
import InstallManifest.Proofs.Manifest.Strictness
import InstallManifest.Proofs.Manifest.Validation
import InstallManifest.Proofs.Manifest.Writing
import InstallManifest.Proofs.Net.Address
import InstallManifest.Proofs.Net.Cidr
import InstallManifest.Proofs.Store.Laws
import InstallManifest.Proofs.Store.Tree
import InstallManifest.Proofs.Text.Numeral
import InstallManifest.Proofs.Yaml.Document
import InstallManifest.Proofs.Yaml.Showing
import InstallManifest.Proofs.Yaml.Text
import InstallManifest.Proofs.Yaml.Written
import InstallManifest.Store.Basic
import InstallManifest.Store.Directory
import InstallManifest.Store.Memory
import InstallManifest.Store.Path
import InstallManifest.Store.Tree
import InstallManifest.Text.Blank
import InstallManifest.Text.Invisible
import InstallManifest.Text.Numeral
import InstallManifest.Text.Quoted
import InstallManifest.Time.Calendar
import InstallManifest.Time.Timestamp
import InstallManifest.Yaml.Bytes
import InstallManifest.Yaml.Character
import InstallManifest.Yaml.Cursor
import InstallManifest.Yaml.Document
import InstallManifest.Yaml.Document.Place
import InstallManifest.Yaml.Document.Value
import InstallManifest.Yaml.Encoding
import InstallManifest.Yaml.Error
import InstallManifest.Yaml.Event
import InstallManifest.Yaml.Node
import InstallManifest.Yaml.Plain
import InstallManifest.Yaml.Printer
import InstallManifest.Yaml.Reader
import InstallManifest.Yaml.Record
import InstallManifest.Yaml.Style
import InstallManifest.Yaml.Token
import InstallManifest.Yaml.Token.Lexer
import InstallManifest.Yaml.Token.Property
import InstallManifest.Yaml.Token.Scalar
import InstallManifest.Yaml.Value
import InstallManifest.Proofs.Asset.Loading
import InstallManifest.Proofs.Asset.Refusal
import InstallManifest.Proofs.CommandLine.ExitStatus
import InstallManifest.Proofs.Store.Frame
import InstallManifest.Proofs.Store.Path
import InstallManifest.Proofs.Store.Places
import InstallManifest.Proofs.Command.Effect
import InstallManifest.Proofs.Manifest.Printing
import InstallManifest.Proofs.Manifest.Reading
import InstallManifest.Proofs.Command.Normalization
import InstallManifest.Proofs.Manifest.Obstacles
import InstallManifest.Proofs.Manifest.Canonical
import InstallManifest.Proofs.Store.Descent
import InstallManifest.Proofs.Store.Absence
import InstallManifest.Proofs.Store.History
import InstallManifest.Proofs.Store.Refinement
import InstallManifest.Proofs.Asset.Absence
import InstallManifest.Proofs.Net.Subnet
import InstallManifest.Proofs.Manifest.Sites
import InstallManifest.Proofs.Manifest.Unknown
import InstallManifest.Proofs.Asset.Influence
import InstallManifest.Proofs.Config.Completion
import InstallManifest.Proofs.Manifest.Completion
import InstallManifest.Proofs.Manifest.Vips
import InstallManifest.Proofs.Manifest.Workers
import InstallManifest.Proofs.Store.Effect
import InstallManifest.Proofs.Yaml.Plain
import InstallManifest.Proofs.Config.RoundTrip
import InstallManifest.Proofs.Manifest.SshKey
import InstallManifest.Proofs.Store.Reach
import InstallManifest.Proofs.Store.Confinement
