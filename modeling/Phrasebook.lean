import Phrasebook.Addon
import Phrasebook.Addon.Submission
import Phrasebook.Config
import Phrasebook.Config.Launch
import Phrasebook.Decimal.Binary
import Phrasebook.Decimal.Shortest
import Phrasebook.Descriptor
import Phrasebook.Draft
import Phrasebook.Element
import Phrasebook.Engine
import Phrasebook.Engine.Callback
import Phrasebook.Engine.Error
import Phrasebook.Engine.Run
import Phrasebook.Engine.Session
import Phrasebook.Entry
import Phrasebook.Error
import Phrasebook.Event.Docs
import Phrasebook.Event.Name
import Phrasebook.Event.Pattern
import Phrasebook.Event.Priority
import Phrasebook.HostType
import Phrasebook.Key
import Phrasebook.Lifecycle
import Phrasebook.Log
import Phrasebook.Origin
import Phrasebook.Path
import Phrasebook.Payload
import Phrasebook.Priority
import Phrasebook.Proofs.Additions
import Phrasebook.Proofs.Attempts
import Phrasebook.Proofs.Bodies
import Phrasebook.Proofs.Builds
import Phrasebook.Proofs.Draws
import Phrasebook.Proofs.Engine.Addons
import Phrasebook.Proofs.Engine.Ended
import Phrasebook.Proofs.Engine.Flights
import Phrasebook.Proofs.Engine.Loads
import Phrasebook.Proofs.Engine.Notices
import Phrasebook.Proofs.Engine.Phases
import Phrasebook.Proofs.Engine.Reservations
import Phrasebook.Proofs.Engine.Staging
import Phrasebook.Proofs.Engine.Submissions
import Phrasebook.Proofs.Engine.Trail
import Phrasebook.Proofs.Event.Ids
import Phrasebook.Proofs.Event.Placeholders
import Phrasebook.Proofs.Packed
import Phrasebook.Proofs.Precedence
import Phrasebook.Proofs.Registry.Atomicity
import Phrasebook.Proofs.Registry.Freeze
import Phrasebook.Proofs.Registry.Identity
import Phrasebook.Proofs.Registry.Interchange
import Phrasebook.Proofs.Registry.Kinds
import Phrasebook.Proofs.Registry.Listing
import Phrasebook.Proofs.Registry.MatchOrder
import Phrasebook.Proofs.Registry.Names
import Phrasebook.Proofs.Registry.Nesting
import Phrasebook.Proofs.Registry.Reach
import Phrasebook.Proofs.Registry.Reports
import Phrasebook.Proofs.Registry.Rollback
import Phrasebook.Proofs.Registry.Runs
import Phrasebook.Proofs.Registry.Schedules
import Phrasebook.Proofs.Settings
import Phrasebook.Proofs.TypeForms
import Phrasebook.Register
import Phrasebook.Registry
import Phrasebook.Registry.Batch
import Phrasebook.Registry.Slot
import Phrasebook.Registry.Writing
import Phrasebook.Supply
import Phrasebook.Text.Blank
import Phrasebook.Text.CaseIgnorable
import Phrasebook.Text.Cased
import Phrasebook.Text.CodeSet
import Phrasebook.Text.Lowercase
import Phrasebook.Text.LowercaseTable
import Phrasebook.Text.Quoted
import Phrasebook.Text.Record
import Phrasebook.Text.Unprintable
import Phrasebook.Toml.Document
import Phrasebook.Toml.Literal
import Phrasebook.Toml.Reader
import Phrasebook.Toml.Scalar
import Phrasebook.Toml.Value
