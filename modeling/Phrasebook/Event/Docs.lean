import Phrasebook.Event.Name
import Phrasebook.Text.Quoted
import Phrasebook.Text.Record
import Phrasebook.HostType
/-!
# Phrasebook.Event.Docs

What an event descriptor carries beside the fields of every descriptor: its documentation and the
host events it listens to.
-/

namespace Phrasebook

/-- The documentation of an event. -/
structure EventDocs where
  /-- The name to show. -/
  name : String
  /-- The id derived from the name. -/
  id : String
  since : Option String
  documentationId : Option String
  description : List String
  examples : List String
  keywords : List String
  /-- Host plugins without which the event does not happen. -/
  requiredPlugins : List String
deriving DecidableEq

/-- The event part of a descriptor. -/
structure EventInfo where
  docs : EventDocs
  /-- Host event types the event listens for. -/
  events : List HostType
deriving DecidableEq

open Text

/-- The inspection text of the documentation. -/
def EventDocs.inspect (d : EventDocs) : String :=
  let texts (lines : List String) := listed (lines.map quoted)
  record "EventDocs"
    [("name", quoted d.name), ("id", quoted d.id), ("since", optional (d.since.map quoted)),
      ("documentation_id", optional (d.documentationId.map quoted)),
      ("description", texts d.description), ("examples", texts d.examples),
      ("keywords", texts d.keywords), ("required_plugins", texts d.requiredPlugins)]

/-- The inspection text of the event part. -/
def EventInfo.inspect (e : EventInfo) : String :=
  record "EventInfo" [("docs", e.docs.inspect), ("events", listed (e.events.map HostType.name))]

end Phrasebook
