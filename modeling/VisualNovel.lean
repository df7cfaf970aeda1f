import VisualNovel.Audio
import VisualNovel.Audio.Document
import VisualNovel.Calendar
import VisualNovel.Character
import VisualNovel.Command.Arguments
import VisualNovel.Command.Basic
import VisualNovel.Command.Check
import VisualNovel.Command.Help
import VisualNovel.Command.Player
import VisualNovel.Command.Run
import VisualNovel.Command.Slots
import VisualNovel.Command.Table
import VisualNovel.Content.Basic
import VisualNovel.Content.Directory
import VisualNovel.Content.Document
import VisualNovel.Decimal.Layout
import VisualNovel.Decimal.Nearest
import VisualNovel.Decimal.Numeral
import VisualNovel.Decimal.Shortest
import VisualNovel.Dict
import VisualNovel.Disk
import VisualNovel.History
import VisualNovel.History.Document
import VisualNovel.Instant
import VisualNovel.Interpreter.Basic
import VisualNovel.Interpreter.Control
import VisualNovel.Interpreter.Document
import VisualNovel.Interpreter.Run
import VisualNovel.Interpreter.Screen
import VisualNovel.Interpreter.Snapshot
import VisualNovel.Json.Basic
import VisualNovel.Json.Fields
import VisualNovel.Json.Reader
import VisualNovel.Json.Writer
import VisualNovel.Main
import VisualNovel.Path
import VisualNovel.Proofs.Audio
import VisualNovel.Proofs.Audio.Pausing
import VisualNovel.Proofs.Command.Checking
import VisualNovel.Proofs.Command.Opening
import VisualNovel.Proofs.Content.Scenes
import VisualNovel.Proofs.Dict
import VisualNovel.Proofs.Disk.Containment
import VisualNovel.Proofs.Disk.Directories
import VisualNovel.Proofs.Disk.Making
import VisualNovel.Proofs.Disk.Paths
import VisualNovel.Proofs.Disk.Trees
import VisualNovel.Proofs.Equipment
import VisualNovel.Proofs.GeneratedIds
import VisualNovel.Proofs.History
import VisualNovel.Proofs.History.Ring
import VisualNovel.Proofs.Interpreter.Acknowledging
import VisualNovel.Proofs.Interpreter.Acting
import VisualNovel.Proofs.Interpreter.Calls
import VisualNovel.Proofs.Interpreter.Calm
import VisualNovel.Proofs.Interpreter.Cards
import VisualNovel.Proofs.Interpreter.Choosing
import VisualNovel.Proofs.Interpreter.Chronicling
import VisualNovel.Proofs.Interpreter.Coherence
import VisualNovel.Proofs.Interpreter.Completing
import VisualNovel.Proofs.Interpreter.Doubles
import VisualNovel.Proofs.Interpreter.Erasing
import VisualNovel.Proofs.Interpreter.Faces
import VisualNovel.Proofs.Interpreter.Hosting
import VisualNovel.Proofs.Interpreter.Interludes
import VisualNovel.Proofs.Interpreter.Layers
import VisualNovel.Proofs.Interpreter.Lines
import VisualNovel.Proofs.Interpreter.Moments
import VisualNovel.Proofs.Interpreter.Operation
import VisualNovel.Proofs.Interpreter.Passing
import VisualNovel.Proofs.Interpreter.Pausing
import VisualNovel.Proofs.Interpreter.Plans
import VisualNovel.Proofs.Interpreter.Position
import VisualNovel.Proofs.Interpreter.Punctuality
import VisualNovel.Proofs.Interpreter.Range
import VisualNovel.Proofs.Interpreter.Reading
import VisualNovel.Proofs.Interpreter.Rebuilding
import VisualNovel.Proofs.Interpreter.Recording
import VisualNovel.Proofs.Interpreter.Recovering
import VisualNovel.Proofs.Interpreter.Redirecting
import VisualNovel.Proofs.Interpreter.Refusing
import VisualNovel.Proofs.Interpreter.Rendering
import VisualNovel.Proofs.Interpreter.Requests
import VisualNovel.Proofs.Interpreter.Resuming
import VisualNovel.Proofs.Interpreter.Retrying
import VisualNovel.Proofs.Interpreter.Rounds
import VisualNovel.Proofs.Interpreter.Snapshots
import VisualNovel.Proofs.Interpreter.Sound
import VisualNovel.Proofs.Interpreter.Spending
import VisualNovel.Proofs.Interpreter.Steps
import VisualNovel.Proofs.Interpreter.Termination
import VisualNovel.Proofs.Interpreter.Timers
import VisualNovel.Proofs.Interpreter.World
import VisualNovel.Proofs.Json.Nesting
import VisualNovel.Proofs.Json.Numbers
import VisualNovel.Proofs.Json.RoundTrip
import VisualNovel.Proofs.Json.Texts
import VisualNovel.Proofs.Lists
import VisualNovel.Proofs.Path
import VisualNovel.Proofs.Rules.Chronicle
import VisualNovel.Proofs.Rules.Conditions
import VisualNovel.Proofs.Rules.Firing
import VisualNovel.Proofs.Rules.Health
import VisualNovel.Proofs.Rules.Items
import VisualNovel.Proofs.Rules.Numbers
import VisualNovel.Proofs.Rules.Once
import VisualNovel.Proofs.Rules.Opposites
import VisualNovel.Proofs.Rules.Order
import VisualNovel.Proofs.Rules.Passes
import VisualNovel.Proofs.Rules.Registering
import VisualNovel.Proofs.Rules.Scripts
import VisualNovel.Proofs.Rules.Tame
import VisualNovel.Proofs.Saves.Deltas
import VisualNovel.Proofs.Saves.Directory
import VisualNovel.Proofs.Saves.Documents
import VisualNovel.Proofs.Saves.Fields
import VisualNovel.Proofs.Saves.FileNames
import VisualNovel.Proofs.Saves.Finite
import VisualNovel.Proofs.Saves.Forgetting
import VisualNovel.Proofs.Saves.Nested
import VisualNovel.Proofs.Saves.Overlay
import VisualNovel.Proofs.Saves.Playing
import VisualNovel.Proofs.Saves.Reappearing
import VisualNovel.Proofs.Saves.Recasting
import VisualNovel.Proofs.Saves.Relaid
import VisualNovel.Proofs.Saves.Restoring
import VisualNovel.Proofs.Saves.RoundTrip
import VisualNovel.Proofs.Saves.Slots
import VisualNovel.Proofs.Saves.Stores
import VisualNovel.Proofs.Saves.Stripping
import VisualNovel.Proofs.Session.Evaluating
import VisualNovel.Proofs.Session.FailedLoading
import VisualNovel.Proofs.Session.Lasting
import VisualNovel.Proofs.Session.Loading
import VisualNovel.Proofs.Session.NewGame
import VisualNovel.Proofs.Session.Operation
import VisualNovel.Proofs.Session.Skipping
import VisualNovel.Proofs.State.Addressing
import VisualNovel.Proofs.State.Assigning
import VisualNovel.Proofs.State.Cast
import VisualNovel.Proofs.State.Contents
import VisualNovel.Proofs.State.Counting
import VisualNovel.Proofs.State.Marking
import VisualNovel.Proofs.State.Naming
import VisualNovel.Proofs.State.Order
import VisualNovel.Proofs.State.Ordered
import VisualNovel.Proofs.State.Places
import VisualNovel.Proofs.State.Reading
import VisualNovel.Proofs.State.Resolving
import VisualNovel.Proofs.State.Substituting
import VisualNovel.Proofs.State.Ways
import VisualNovel.Proofs.State.Wearing
import VisualNovel.Proofs.State.Writing
import VisualNovel.Proofs.Story.Telling
import VisualNovel.Proofs.Story.Texts
import VisualNovel.Proofs.Text.Trim
import VisualNovel.Proofs.Value
import VisualNovel.Proofs.Value.Documents
import VisualNovel.Proofs.Value.Rounding
import VisualNovel.Proofs.Value.Weights
import VisualNovel.Rules.Condition
import VisualNovel.Rules.Document
import VisualNovel.Rules.Engine
import VisualNovel.Rules.Host
import VisualNovel.Rules.Operator
import VisualNovel.Rules.Rule
import VisualNovel.Saves.Codec
import VisualNovel.Saves.Document
import VisualNovel.Saves.Error
import VisualNovel.Saves.Markup
import VisualNovel.Saves.Record
import VisualNovel.Saves.Store
import VisualNovel.Session.Basic
import VisualNovel.Session.Configuration
import VisualNovel.Session.Error
import VisualNovel.Session.Stage
import VisualNovel.State.Assignment
import VisualNovel.State.Placeholder
import VisualNovel.State.Tree
import VisualNovel.Story.Document
import VisualNovel.Story.Unit
import VisualNovel.Text.CharacterClass
import VisualNovel.Text.CharacterWidth
import VisualNovel.Text.DisplayWidth
import VisualNovel.Text.Emoji
import VisualNovel.Text.Trim
import VisualNovel.Value
