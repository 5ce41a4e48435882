import Wayfinder.Archive
import Wayfinder.Atlas.State
import Wayfinder.Atlas.Step
import Wayfinder.Candidate
import Wayfinder.Collaborator
import Wayfinder.Decimal.Binary
import Wayfinder.Decimal.Notation
import Wayfinder.Decimal.Reading
import Wayfinder.Decimal.Shortest
import Wayfinder.Fault
import Wayfinder.Heartbeat
import Wayfinder.Ini
import Wayfinder.Json.Forms
import Wayfinder.Json.Reader
import Wayfinder.Json.Record
import Wayfinder.Json.Value
import Wayfinder.Json.Writer
import Wayfinder.Json5
import Wayfinder.Link
import Wayfinder.Lru
import Wayfinder.Message
import Wayfinder.Message.Forms
import Wayfinder.Metadata
import Wayfinder.Node
import Wayfinder.Panel
import Wayfinder.Proofs.Archive.Loading
import Wayfinder.Proofs.Atlas.Access
import Wayfinder.Proofs.Atlas.Attributes
import Wayfinder.Proofs.Atlas.Channels
import Wayfinder.Proofs.Atlas.Chronology
import Wayfinder.Proofs.Atlas.Closing
import Wayfinder.Proofs.Atlas.Collecting
import Wayfinder.Proofs.Atlas.Endings
import Wayfinder.Proofs.Atlas.Errand
import Wayfinder.Proofs.Atlas.Followers
import Wayfinder.Proofs.Atlas.Fragments
import Wayfinder.Proofs.Atlas.Leads
import Wayfinder.Proofs.Atlas.Loops
import Wayfinder.Proofs.Atlas.Move
import Wayfinder.Proofs.Atlas.Outline
import Wayfinder.Proofs.Atlas.Owners
import Wayfinder.Proofs.Atlas.Passes
import Wayfinder.Proofs.Atlas.Provenance
import Wayfinder.Proofs.Atlas.Puts
import Wayfinder.Proofs.Atlas.Results
import Wayfinder.Proofs.Atlas.Run
import Wayfinder.Proofs.Atlas.Sharing
import Wayfinder.Proofs.Atlas.Unnoticed
import Wayfinder.Proofs.Decimal.Rounding
import Wayfinder.Proofs.History
import Wayfinder.Proofs.Json.Documents
import Wayfinder.Proofs.Json.Scalars
import Wayfinder.Proofs.Lru.Items
import Wayfinder.Proofs.Lru.Order
import Wayfinder.Proofs.Lru.Recency
import Wayfinder.Proofs.Lru.Refinement
import Wayfinder.Proofs.Lru.Retention
import Wayfinder.Proofs.Lru.Values
import Wayfinder.Proofs.Message.Forms
import Wayfinder.Proofs.Message.Records
import Wayfinder.Proofs.Message.Validation
import Wayfinder.Proofs.Node.Names
import Wayfinder.Proofs.Panel.Archives
import Wayfinder.Proofs.Panel.Bystanders
import Wayfinder.Proofs.Panel.Closing
import Wayfinder.Proofs.Panel.Fetching
import Wayfinder.Proofs.Panel.Remaining
import Wayfinder.Proofs.Reconstruction.Balance
import Wayfinder.Proofs.Reconstruction.Continuity
import Wayfinder.Proofs.Reconstruction.Pool
import Wayfinder.Proofs.Reconstruction.Projection
import Wayfinder.Proofs.Reconstruction.Trails
import Wayfinder.Proofs.Resolver.Calls
import Wayfinder.Proofs.Resolver.Exclusion
import Wayfinder.Proofs.Resolver.Expiry
import Wayfinder.Proofs.Resolver.Failures
import Wayfinder.Proofs.Resolver.Followers
import Wayfinder.Proofs.Resolver.Freshness
import Wayfinder.Proofs.Resolver.Hits
import Wayfinder.Proofs.Resolver.Leads
import Wayfinder.Proofs.Resolver.Move
import Wayfinder.Proofs.Resolver.Outcomes
import Wayfinder.Proofs.Resolver.Provenance
import Wayfinder.Proofs.Resolver.Replay
import Wayfinder.Proofs.Resolver.Run
import Wayfinder.Proofs.Resolver.SingleFlight
import Wayfinder.Proofs.Resolver.Slots
import Wayfinder.Proofs.Resolver.Storing
import Wayfinder.Proofs.Resolver.Trip
import Wayfinder.Proofs.Resolver.Uses
import Wayfinder.Proofs.Route.Sequence
import Wayfinder.Proofs.RouteCache.Accounts
import Wayfinder.Proofs.RouteCache.Entries
import Wayfinder.Proofs.RouteCache.Guards
import Wayfinder.Proofs.RouteCache.Run
import Wayfinder.Proofs.RouteCache.Timers
import Wayfinder.Proofs.Service.Answers
import Wayfinder.Proofs.Service.Beginnings
import Wayfinder.Proofs.Service.Bystanders
import Wayfinder.Proofs.Service.Farewell
import Wayfinder.Proofs.Service.Fetching
import Wayfinder.Proofs.Service.Malformed
import Wayfinder.Proofs.Service.Parts
import Wayfinder.Proofs.Service.Places
import Wayfinder.Proofs.Service.Refusals
import Wayfinder.Proofs.Service.Resolving
import Wayfinder.Proofs.Service.Run
import Wayfinder.Proofs.Service.Shutdown
import Wayfinder.Proofs.Settings.Placing
import Wayfinder.Proofs.Settings.Texts
import Wayfinder.Proofs.Settings.Variables
import Wayfinder.Proofs.Survey.Attributes
import Wayfinder.Proofs.Survey.Tour
import Wayfinder.Proofs.Tally.Rank
import Wayfinder.Proofs.Tally.Summary
import Wayfinder.Proofs.Text.Denotation
import Wayfinder.Proofs.Text.Numerals
import Wayfinder.Proofs.Worker.Pacing
import Wayfinder.Proofs.Worker.Run
import Wayfinder.Proofs.Worker.Stopping
import Wayfinder.Reconstruction
import Wayfinder.Resolver
import Wayfinder.Ron
import Wayfinder.Route
import Wayfinder.RouteCache
import Wayfinder.Service
import Wayfinder.Session
import Wayfinder.Settings
import Wayfinder.Settings.Document
import Wayfinder.Settings.Fault
import Wayfinder.Settings.Folder
import Wayfinder.Settings.Layers
import Wayfinder.Settings.Tree
import Wayfinder.Simulation.Kernel
import Wayfinder.Simulation.Machines
import Wayfinder.Simulation.Scenario
import Wayfinder.Simulation.Script
import Wayfinder.Survey
import Wayfinder.Table
import Wayfinder.Tally
import Wayfinder.Text.Blank
import Wayfinder.Text.Continuing
import Wayfinder.Text.Escape
import Wayfinder.Text.Extending
import Wayfinder.Text.FileName
import Wayfinder.Text.Glyphless
import Wayfinder.Text.Ignorable
import Wayfinder.Text.Letter
import Wayfinder.Text.Numeral
import Wayfinder.Text.Quoted
import Wayfinder.Text.Ranges
import Wayfinder.Text.Start
import Wayfinder.Time.Calendar
import Wayfinder.Time.Duration
import Wayfinder.Toml.Date
import Wayfinder.Toml.Entry
import Wayfinder.Toml.Number
import Wayfinder.Toml.Reader
import Wayfinder.Toml.Text
import Wayfinder.Worker
import Wayfinder.Yaml.Cursor
import Wayfinder.Yaml.Node
import Wayfinder.Yaml.Text
import Wayfinder.Yaml.Token
