import HotRod.Action
import HotRod.Client.Assembly
import HotRod.Client.Definition
import HotRod.Client.Name
import HotRod.Client.Runtime
import HotRod.Cluster.Basic
import HotRod.Cluster.Counter
import HotRod.Command.Arguments
import HotRod.Command.Check
import HotRod.Command.Clients
import HotRod.Command.Describe
import HotRod.Command.Error
import HotRod.Command.Program
import HotRod.Command.Schemas
import HotRod.Command.Settings
import HotRod.Configuration.Apply
import HotRod.Configuration.Basic
import HotRod.Configuration.Draft
import HotRod.Configuration.Json
import HotRod.Error
import HotRod.Event
import HotRod.Files.Basic
import HotRod.Files.Path
import HotRod.Files.Search
import HotRod.Files.Snapshot
import HotRod.Files.Tree
import HotRod.Ini.Cursor
import HotRod.Ini.Document
import HotRod.Ini.Value
import HotRod.KeyMap
import HotRod.Logging
import HotRod.Main
import HotRod.Marshaller
import HotRod.Network.Basic
import HotRod.Network.Cache
import HotRod.Network.Schemas
import HotRod.Proofs.Action
import HotRod.Proofs.Action.Agree
import HotRod.Proofs.Action.Alike
import HotRod.Proofs.Action.Ends
import HotRod.Proofs.Action.Errors
import HotRod.Proofs.Action.Keeps
import HotRod.Proofs.Action.Mirrors
import HotRod.Proofs.Action.Preserves
import HotRod.Proofs.Client.Assembly
import HotRod.Proofs.Client.CacheKeys
import HotRod.Proofs.Client.CachePrecedence
import HotRod.Proofs.Client.CacheProperties
import HotRod.Proofs.Client.CacheSetting
import HotRod.Proofs.Client.DefinitionFiles
import HotRod.Proofs.Client.Endpoint
import HotRod.Proofs.Client.Errors
import HotRod.Proofs.Client.Fresh
import HotRod.Proofs.Client.Mirrors
import HotRod.Proofs.Client.Overrides
import HotRod.Proofs.Client.Precedence
import HotRod.Proofs.Client.Repetition
import HotRod.Proofs.Client.Secrets
import HotRod.Proofs.Client.Servers
import HotRod.Proofs.Client.Setting
import HotRod.Proofs.Client.Spelling
import HotRod.Proofs.Cluster.Contents
import HotRod.Proofs.Cluster.Counters
import HotRod.Proofs.Cluster.Recorded
import HotRod.Proofs.Command.Clients
import HotRod.Proofs.Command.Describe
import HotRod.Proofs.Command.Schemas
import HotRod.Proofs.Configuration.Apply
import HotRod.Proofs.Configuration.Build
import HotRod.Proofs.Configuration.Secrets
import HotRod.Proofs.Configuration.UnknownKeys
import HotRod.Proofs.KeyMap
import HotRod.Proofs.Network.Holdings
import HotRod.Proofs.Network.Managers
import HotRod.Proofs.Network.Schemas
import HotRod.Proofs.Properties
import HotRod.Proofs.Properties.Key
import HotRod.Proofs.Registry.BoundedCounters
import HotRod.Proofs.Registry.Calls
import HotRod.Proofs.Registry.Configured
import HotRod.Proofs.Registry.Connected
import HotRod.Proofs.Registry.Deeds
import HotRod.Proofs.Registry.Description
import HotRod.Proofs.Registry.Failure
import HotRod.Proofs.Registry.Footprint
import HotRod.Proofs.Registry.Interleaving
import HotRod.Proofs.Registry.Invariant
import HotRod.Proofs.Registry.Lookup
import HotRod.Proofs.Registry.Refinement
import HotRod.Proofs.Registry.Rely
import HotRod.Proofs.Registry.Resolution
import HotRod.Proofs.Registry.Safety
import HotRod.Proofs.Registry.SchemaWrites
import HotRod.Proofs.Registry.Sequential
import HotRod.Proofs.Registry.SharedCounters
import HotRod.Proofs.Registry.SharedMaps
import HotRod.Proofs.Registry.Site
import HotRod.Proofs.Registry.Spelling
import HotRod.Proofs.Registry.Templates
import HotRod.Proofs.Schema.Agreement
import HotRod.Proofs.Schema.Listing
import HotRod.Proofs.Schema.Lockstep
import HotRod.Proofs.Schema.Registration
import HotRod.Proofs.Server.Address
import HotRod.Proofs.Server.Frame
import HotRod.Proofs.Server.Grammar
import HotRod.Proofs.Server.Hosts
import HotRod.Proofs.Server.List
import HotRod.Proofs.Server.Uri
import HotRod.Proofs.Settings.Addition
import HotRod.Proofs.Settings.Entry
import HotRod.Proofs.Settings.Groups
import HotRod.Proofs.Settings.Readers
import HotRod.Proofs.Settings.Rearrangement
import HotRod.Proofs.Settings.Section
import HotRod.Proofs.Settings.Slot
import HotRod.Proofs.Settings.Values
import HotRod.Proofs.Text.ByteScan
import HotRod.Proofs.Text.Decimal
import HotRod.Proofs.Text.Escapes
import HotRod.Proofs.Text.Percent
import HotRod.Proofs.Text.Pieces
import HotRod.Proofs.Text.Split
import HotRod.Properties.Basic
import HotRod.Properties.Key
import HotRod.Properties.Value
import HotRod.Registry.Basic
import HotRod.Registry.Cache
import HotRod.Registry.Manager
import HotRod.Registry.Shutdown
import HotRod.Schema.Context
import HotRod.Schema.Registration
import HotRod.Schema.Source
import HotRod.Server.Address
import HotRod.Server.Uri
import HotRod.Settings.Assembly
import HotRod.Settings.Basic
import HotRod.Settings.Document
import HotRod.Settings.Error
import HotRod.Settings.Key
import HotRod.Settings.Load
import HotRod.Settings.Resources
import HotRod.Settings.Section
import HotRod.Text.Blank
import HotRod.Text.Column
import HotRod.Text.Decimal
import HotRod.Text.Duration
import HotRod.Text.Json
import HotRod.Text.Percent
import HotRod.Text.Shown
import HotRod.Text.Split
