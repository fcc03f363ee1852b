import PluginBridge.Adapter
import PluginBridge.Adapter.Unified
import PluginBridge.Arguments
import PluginBridge.Build.Failure
import PluginBridge.Build.Script
import PluginBridge.Build.Write
import PluginBridge.Command
import PluginBridge.Decimal
import PluginBridge.Descriptor
import PluginBridge.Document
import PluginBridge.Document.Yaml
import PluginBridge.EntryPoint.Source
import PluginBridge.Event
import PluginBridge.EventBus
import PluginBridge.Greeter
import PluginBridge.Host.Address
import PluginBridge.Host.Basic
import PluginBridge.Host.Event
import PluginBridge.Log.Directive
import PluginBridge.Log.Setup
import PluginBridge.Manifest.Metadata
import PluginBridge.Plugin.Core
import PluginBridge.Plugin.Decode
import PluginBridge.Program
import PluginBridge.Settings.Environment
import PluginBridge.Settings.Inline
import PluginBridge.Settings.Layer
import PluginBridge.Settings.Loader
import PluginBridge.State
import PluginBridge.State.Registration
import PluginBridge.Surroundings
import PluginBridge.Text.Character
import PluginBridge.Text.Label
import PluginBridge.Text.Quoted
import PluginBridge.Text.Segments
import PluginBridge.Toml.Document
import PluginBridge.Value
import PluginBridge.Value.Decode
import PluginBridge.Value.Json
import PluginBridge.World
import PluginBridge.World.Commands
import PluginBridge.World.Interpreter
import PluginBridge.World.Players
import PluginBridge.Proofs.EventBus.Ledger
import PluginBridge.Proofs.EventBus.Delivery
import PluginBridge.Proofs.State.Changes
import PluginBridge.Proofs.World.Progress
import PluginBridge.Proofs.State.Adapters
import PluginBridge.Proofs.State.Ownership
import PluginBridge.Proofs.State.Origins
import PluginBridge.Proofs.State.Isolation
import PluginBridge.Proofs.Lifecycle.Context
import PluginBridge.Proofs.State.Cores
import PluginBridge.Proofs.Lifecycle.Disable
import PluginBridge.Proofs.Lifecycle.Load
import PluginBridge.Proofs.Players.Chat
import PluginBridge.Proofs.Players.Join
import PluginBridge.Proofs.Players.Steps
import PluginBridge.Proofs.Players.Conduct
import PluginBridge.Proofs.Players.Operations
import PluginBridge.Proofs.Players.Accounts
import PluginBridge.Proofs.Players.Greetings
import PluginBridge.Proofs.Commands.Invocation
import PluginBridge.Proofs.Commands.Names
import PluginBridge.Proofs.State.Attachment
import PluginBridge.Proofs.World.Firing
import PluginBridge.Proofs.World.Laws
import PluginBridge.Proofs.State.Phases
import PluginBridge.Proofs.Lifecycle.Stages
import PluginBridge.Proofs.Lifecycle.Entries
import PluginBridge.Proofs.Lifecycle.Course
import PluginBridge.Proofs.Settings.Union
import PluginBridge.Proofs.Settings.Layering
import PluginBridge.Proofs.EntryPoint.Reading
import PluginBridge.Proofs.Descriptor.Agreement
import PluginBridge.Proofs.Files.Tree
import PluginBridge.Proofs.Build.Writing
import PluginBridge.Proofs.Files.Path
import PluginBridge.Proofs.Build.Failing
import PluginBridge.Proofs.Commands.Removal
import PluginBridge.Proofs.Arguments.Reading
import PluginBridge.Proofs.Arguments.Typing
import PluginBridge.Proofs.Arguments.Continuing
import PluginBridge.Proofs.Commands.Completion
import PluginBridge.Proofs.Build.Outcome
import PluginBridge.Proofs.Commands.Discretion
import PluginBridge.Proofs.EventBus.WriteBack
import PluginBridge.Proofs.Manifest.Validity
import PluginBridge.Proofs.Players.Servers
import PluginBridge.Proofs.Commands.Lines
import PluginBridge.Proofs.Manifest.Strictness
import PluginBridge.Proofs.Players.Connecting
import PluginBridge.Proofs.Settings.Variables
import PluginBridge.Proofs.Host.Listeners
