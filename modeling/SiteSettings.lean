import SiteSettings.Binary64
import SiteSettings.Binary64.Shortest
import SiteSettings.Config
import SiteSettings.Config.Error
import SiteSettings.Config.Origin
import SiteSettings.Config.Validation
import SiteSettings.Domain
import SiteSettings.Domain.Label
import SiteSettings.Domain.Mapping
import SiteSettings.Domain.Punycode
import SiteSettings.FileSystem
import SiteSettings.FileTree
import SiteSettings.Json.Printer
import SiteSettings.Json.Reader
import SiteSettings.Locale
import SiteSettings.Log
import SiteSettings.Nav
import SiteSettings.Network.Ipv4
import SiteSettings.Network.Ipv6
import SiteSettings.Network.SocketAddress
import SiteSettings.OrderedMap
import SiteSettings.Path
import SiteSettings.Path.Native
import SiteSettings.Problem
import SiteSettings.Proofs.AbsolutePaths
import SiteSettings.Proofs.Absorption
import SiteSettings.Proofs.Accounting
import SiteSettings.Proofs.AddressGrammar
import SiteSettings.Proofs.AddressText
import SiteSettings.Proofs.Admission
import SiteSettings.Proofs.Agreement
import SiteSettings.Proofs.Composite
import SiteSettings.Proofs.Conservation
import SiteSettings.Proofs.Containment
import SiteSettings.Proofs.Delivery
import SiteSettings.Proofs.Deprecation
import SiteSettings.Proofs.DocumentOrigin
import SiteSettings.Proofs.FieldReports
import SiteSettings.Proofs.Fixpoints
import SiteSettings.Proofs.HostPorts
import SiteSettings.Proofs.Independence
import SiteSettings.Proofs.Legacy
import SiteSettings.Proofs.LexicalPaths
import SiteSettings.Proofs.ListItems
import SiteSettings.Proofs.Loading
import SiteSettings.Proofs.LocaleChoice
import SiteSettings.Proofs.LocaleGrammar
import SiteSettings.Proofs.LocaleText
import SiteSettings.Proofs.LossyText
import SiteSettings.Proofs.LoweredThemes
import SiteSettings.Proofs.Merging
import SiteSettings.Proofs.NativePaths
import SiteSettings.Proofs.NavOffences
import SiteSettings.Proofs.NavShape
import SiteSettings.Proofs.Nesting
import SiteSettings.Proofs.NormalPaths
import SiteSettings.Proofs.Nulls
import SiteSettings.Proofs.Numerals
import SiteSettings.Proofs.OrderedMaps
import SiteSettings.Proofs.PathAncestry
import SiteSettings.Proofs.PathCoercion
import SiteSettings.Proofs.Phases
import SiteSettings.Proofs.RegistryHistory
import SiteSettings.Proofs.Relocation
import SiteSettings.Proofs.Repetition
import SiteSettings.Proofs.ReportOrder
import SiteSettings.Proofs.Respelling
import SiteSettings.Proofs.Retention
import SiteSettings.Proofs.Runs
import SiteSettings.Proofs.Scalars
import SiteSettings.Proofs.SchemaDepth
import SiteSettings.Proofs.Settlement
import SiteSettings.Proofs.SiteAccess
import SiteSettings.Proofs.Snapshots
import SiteSettings.Proofs.Staging
import SiteSettings.Proofs.Steady
import SiteSettings.Proofs.StoredAddresses
import SiteSettings.Proofs.StoredUrls
import SiteSettings.Proofs.TemplateSearch
import SiteSettings.Proofs.ThemeAncestry
import SiteSettings.Proofs.ThemeCycles
import SiteSettings.Proofs.ThemeDiscovery
import SiteSettings.Proofs.ThemeReload
import SiteSettings.Proofs.ThemeRequests
import SiteSettings.Proofs.ThemeVariables
import SiteSettings.Proofs.Undeclared
import SiteSettings.Proofs.Verdicts
import SiteSettings.Report
import SiteSettings.Rule
import SiteSettings.Rule.Phases
import SiteSettings.Rule.Scalar
import SiteSettings.Setting
import SiteSettings.Site
import SiteSettings.Style
import SiteSettings.Text.Blank
import SiteSettings.Text.CodeTable
import SiteSettings.Text.Composition
import SiteSettings.Text.Digits
import SiteSettings.Text.Direction
import SiteSettings.Text.Joining
import SiteSettings.Text.Mark
import SiteSettings.Text.Printable
import SiteSettings.Text.Quoted
import SiteSettings.Text.Split
import SiteSettings.Text.Utf8
import SiteSettings.Theme
import SiteSettings.Theme.Discovery
import SiteSettings.Theme.Registry
import SiteSettings.Theme.Shared
import SiteSettings.Toml
import SiteSettings.Toml.Moment
import SiteSettings.Toml.Reader
import SiteSettings.Toml.Table
import SiteSettings.Url
import SiteSettings.Url.HostReader
import SiteSettings.Url.Percent
import SiteSettings.Url.Reader
import SiteSettings.Value
