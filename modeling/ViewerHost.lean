import ViewerHost.Decimal.Binary64
import ViewerHost.Decimal.Layout
import ViewerHost.Decimal.Shortest
import ViewerHost.Extension.Catalog
import ViewerHost.Extension.Exchange
import ViewerHost.Extension.ExchangeJson
import ViewerHost.Extension.FileViewer
import ViewerHost.Files.Path
import ViewerHost.Files.Tree
import ViewerHost.Json.Extent
import ViewerHost.Json.Number
import ViewerHost.Json.Reader
import ViewerHost.Json.Value
import ViewerHost.Json.Writer
import ViewerHost.Management.Attribute
import ViewerHost.Management.AttributeJson
import ViewerHost.Management.Bridge
import ViewerHost.Management.ComponentId
import ViewerHost.Plugin.Bundle
import ViewerHost.Plugin.Discovery
import ViewerHost.Plugin.LoadError
import ViewerHost.Plugin.Loading
import ViewerHost.Plugin.MountPath
import ViewerHost.Plugin.Registry
import ViewerHost.Plugin.Scope
import ViewerHost.Proofs.Decimal.Nearest
import ViewerHost.Proofs.Decimal.Rounding
import ViewerHost.Proofs.Decimal.Shortest
import ViewerHost.Proofs.Extension.BundleRoot
import ViewerHost.Proofs.Extension.Confinement
import ViewerHost.Proofs.Files.Contents
import ViewerHost.Proofs.Files.Listing
import ViewerHost.Proofs.Files.Parents
import ViewerHost.Proofs.Json.Numbers
import ViewerHost.Proofs.Json.Spelling
import ViewerHost.Proofs.Json.Texts
import ViewerHost.Proofs.Management.AttributeText
import ViewerHost.Proofs.Management.Clearing
import ViewerHost.Proofs.Management.Identifiers
import ViewerHost.Proofs.Management.Registrations
import ViewerHost.Proofs.Outcome
import ViewerHost.Proofs.Plugin.Accounts
import ViewerHost.Proofs.Plugin.Discovered
import ViewerHost.Proofs.Plugin.Enrolment
import ViewerHost.Proofs.Plugin.Loading
import ViewerHost.Proofs.Plugin.Lookup
import ViewerHost.Proofs.Plugin.MountPath
import ViewerHost.Proofs.Plugin.Presentation
import ViewerHost.Proofs.Plugin.Registration
import ViewerHost.Proofs.Plugin.Reserved
import ViewerHost.Proofs.Plugin.Resolution
import ViewerHost.Proofs.Plugin.Routing
import ViewerHost.Proofs.Plugin.Verdicts
import ViewerHost.Proofs.Server.Administration
import ViewerHost.Proofs.Server.Composition
import ViewerHost.Proofs.Server.Dispatch
import ViewerHost.Proofs.Server.IndexPage
import ViewerHost.Proofs.Server.Life
import ViewerHost.Proofs.Server.Listings
import ViewerHost.Proofs.Server.OwnPaths
import ViewerHost.Proofs.Server.Resources
import ViewerHost.Proofs.Server.SessionBounds
import ViewerHost.Proofs.Server.SessionCache
import ViewerHost.Proofs.Server.SessionLog
import ViewerHost.Proofs.Server.SessionUse
import ViewerHost.Proofs.Server.Standstill
import ViewerHost.Proofs.Server.Startup
import ViewerHost.Proofs.Settings.Layers
import ViewerHost.Proofs.Settings.Lists
import ViewerHost.Proofs.Settings.Loading
import ViewerHost.Proofs.Settings.Precedence
import ViewerHost.Proofs.Settings.Spreading
import ViewerHost.Proofs.Settings.Values
import ViewerHost.Proofs.Subsystem.Admission
import ViewerHost.Proofs.Subsystem.Assembly
import ViewerHost.Proofs.Subsystem.Calls
import ViewerHost.Proofs.Subsystem.CatchUp
import ViewerHost.Proofs.Subsystem.Construction
import ViewerHost.Proofs.Subsystem.Credentials
import ViewerHost.Proofs.Subsystem.Directories
import ViewerHost.Proofs.Subsystem.Due
import ViewerHost.Proofs.Subsystem.Executions
import ViewerHost.Proofs.Subsystem.Numbering
import ViewerHost.Proofs.Subsystem.Pass
import ViewerHost.Proofs.Subsystem.Projects
import ViewerHost.Proofs.Subsystem.Release
import ViewerHost.Proofs.Subsystem.Rules
import ViewerHost.Proofs.Subsystem.Triggers
import ViewerHost.Proofs.Subsystem.Users
import ViewerHost.Proofs.Text.Dictionary
import ViewerHost.Proofs.Text.Digits
import ViewerHost.Proofs.Text.Pieces
import ViewerHost.Proofs.Text.Trimming
import ViewerHost.Proofs.Time.Calendar
import ViewerHost.Proofs.Time.Order
import ViewerHost.Proofs.Toml.Leaves
import ViewerHost.Proofs.Toml.Lines
import ViewerHost.Proofs.Toml.Words
import ViewerHost.Server.Config
import ViewerHost.Server.ConfigError
import ViewerHost.Server.Context
import ViewerHost.Server.Lifecycle
import ViewerHost.Server.Page
import ViewerHost.Server.Route
import ViewerHost.Server.Rpc
import ViewerHost.Server.Session
import ViewerHost.Settings.Chain
import ViewerHost.Settings.Error
import ViewerHost.Settings.Load
import ViewerHost.Settings.Read
import ViewerHost.Subsystem.Assembly
import ViewerHost.Subsystem.Error
import ViewerHost.Subsystem.Executor
import ViewerHost.Subsystem.Operations
import ViewerHost.Subsystem.Projects
import ViewerHost.Subsystem.Role
import ViewerHost.Subsystem.Schedule
import ViewerHost.Subsystem.Sla
import ViewerHost.Subsystem.Users
import ViewerHost.Text.Blank
import ViewerHost.Text.Dictionary
import ViewerHost.Text.Pieces
import ViewerHost.Text.Quoted
import ViewerHost.Text.Unseen
import ViewerHost.Time.Duration
import ViewerHost.Time.Instant
import ViewerHost.Time.Rfc3339
import ViewerHost.Toml.Document
import ViewerHost.Toml.Moment
import ViewerHost.Toml.Number
import ViewerHost.Toml.Quoted
import ViewerHost.Toml.Reader
import ViewerHost.Toml.Value
import ViewerHost.Toml.Writer
