import Phrasebook.Descriptor
import Phrasebook.Event.Pattern
import Phrasebook.Supply
/-!
# Phrasebook.Draft

Descriptors in the making. An `Outline` collects what every kind of descriptor has. It is built as
it stands into a plain descriptor, or continued as an expression, a structure or an event, whose
drafts take the settings of the outline as well as their own. Nothing is checked before the build.

A build that fails draws nothing from the supply.
-/

namespace Phrasebook

/-- What every kind of descriptor has. -/
structure Outline where
  element : HostType
  factory : Factory
  customFactory : Bool
  origin : Origin
  patterns : List String
  /-- Without one, a default rank is drawn at the build. -/
  priority : Option Priority

/-- A change to an outline. -/
inductive Setting
  /-- Records who contributed the descriptor. -/
  | origin (o : Origin)
  /-- Adds a pattern behind the others. -/
  | pattern (p : String)
  /-- Adds patterns behind the others. -/
  | patterns (ps : List String)
  /-- Asks for a priority. -/
  | priority (p : Priority)

namespace Outline

/-- The start of a draft whose elements are made by default. -/
def ofElement (e : Element) : Outline := ⟨e.type, .always e, false, .unknown, [], none⟩

/-- The start of a draft whose elements come from the producer's own factory. -/
def ofFactory (element : HostType) (factory : Factory) : Outline :=
  ⟨element, factory, true, .unknown, [], none⟩

/-- Applies a setting. -/
def set (o : Outline) : Setting → Outline
  | .origin x => { o with origin := x }
  | .pattern p => { o with patterns := o.patterns ++ [p] }
  | .patterns ps => { o with patterns := o.patterns ++ ps }
  | .priority p => { o with priority := some p }

/-- The priority asked for, or else a default one, which is drawn. -/
def choosePriority (o : Outline) (s : Supply) : Priority × Supply :=
  match o.priority with
  | some p => (p, s)
  | none => s.drawPriority

/-- Builds the descriptor with that payload. The draws come after the last check. -/
def finish (o : Outline) (payload : Payload) (s : Supply) :
    Except RegistryError Descriptor × Supply :=
  if o.patterns.isEmpty then (.error (.emptyPatterns o.element.name), s)
  else
    let (priority, s) := o.choosePriority s
    let (id, s) := s.drawId
    (.ok
      { id
        origin := o.origin
        element := o.element
        factory := o.factory
        customFactory := o.customFactory
        patterns := o.patterns
        priority := payload.settle priority
        payload }, s)

/-- Builds a plain descriptor. -/
def build (o : Outline) (s : Supply) : Except RegistryError Descriptor × Supply := o.finish .plain s

end Outline

/-! ### Expressions -/

/-- An expression in the making. -/
structure ExpressionDraft where
  outline : Outline
  returnType : HostType
  /-- Has to be set before the build. -/
  type : Option ExpressionType

namespace ExpressionDraft

/-- Applies a setting of the outline. -/
def set (d : ExpressionDraft) (x : Setting) : ExpressionDraft :=
  { d with outline := d.outline.set x }

/-- Sets the class of the expression. -/
def setType (d : ExpressionDraft) (type : ExpressionType) : ExpressionDraft :=
  { d with type := some type }

/-- Builds the expression. The return type is looked at first, then whether a class was set, then
the patterns. -/
def build (d : ExpressionDraft) (s : Supply) : Except RegistryError Descriptor × Supply :=
  if !d.returnType.isValueType then (.error (.invalidReturnType d.returnType.name), s)
  else
    match d.type with
    | none =>
      (.error (.missingField "expression" d.outline.element.name "expression_type"), s)
    | some type => d.outline.finish (.expression ⟨d.returnType, type⟩) s

end ExpressionDraft

/-- Continues an outline as an expression that yields values of `returnType`. -/
def Outline.expression (o : Outline) (returnType : HostType) : ExpressionDraft :=
  ⟨o, returnType, none⟩

/-! ### Structures -/

/-- A structure in the making. -/
structure StructureDraft where
  outline : Outline
  validator : Option EntryValidator

namespace StructureDraft

/-- Applies a setting of the outline. -/
def set (d : StructureDraft) (x : Setting) : StructureDraft := { d with outline := d.outline.set x }

/-- Sets the validator of the structure's bodies. -/
def setValidator (d : StructureDraft) (v : EntryValidator) : StructureDraft :=
  { d with validator := some v }

/-- Builds the structure. -/
def build (d : StructureDraft) (s : Supply) : Except RegistryError Descriptor × Supply :=
  d.outline.finish (.struct ⟨d.validator⟩) s

end StructureDraft

/-- Continues an outline as a structure. -/
def Outline.struct (o : Outline) : StructureDraft := ⟨o, none⟩

/-! ### Events -/

/-- An event in the making. Its patterns are kept raw and take their stored form at the build. -/
structure EventDraft where
  outline : Outline
  name : String
  since : Option String
  documentationId : Option String
  description : List String
  examples : List String
  keywords : List String
  requiredPlugins : List String
  events : List HostType

/-- A change to what an event has beside its outline. -/
inductive EventSetting
  | since (text : String)
  | documentationId (text : String)
  | description (lines : List String)
  | examples (lines : List String)
  | keywords (words : List String)
  | requiredPlugins (plugins : List String)
  | events (types : List HostType)

namespace EventDraft

/-- Applies a setting of the outline. -/
def set (d : EventDraft) (x : Setting) : EventDraft := { d with outline := d.outline.set x }

/-- Applies a setting of the event; what comes in lists is added behind what is there. -/
def setEvent (d : EventDraft) : EventSetting → EventDraft
  | .since text => { d with since := some text }
  | .documentationId text => { d with documentationId := some text }
  | .description lines => { d with description := d.description ++ lines }
  | .examples lines => { d with examples := d.examples ++ lines }
  | .keywords words => { d with keywords := d.keywords ++ words }
  | .requiredPlugins plugins => { d with requiredPlugins := d.requiredPlugins ++ plugins }
  | .events types => { d with events := d.events ++ types }

/-- The event part of the descriptor. -/
def info (d : EventDraft) : EventInfo where
  docs :=
    { name := Event.displayName d.name
      id := Event.idOf d.name
      since := d.since
      documentationId := d.documentationId
      description := d.description
      examples := d.examples
      keywords := d.keywords
      requiredPlugins := d.requiredPlugins }
  events := d.events

/-- Builds the event. -/
def build (d : EventDraft) (s : Supply) : Except RegistryError Descriptor × Supply :=
  { d.outline with patterns := d.outline.patterns.map Event.storedPattern }.finish (.event d.info) s

end EventDraft

/-- Continues an outline as an event. -/
def Outline.event (o : Outline) (name : String) : EventDraft :=
  ⟨o, name, none, none, [], [], [], [], []⟩

/-! ### All kinds -/

/-- A descriptor of any kind in the making. -/
inductive Draft
  | plain (o : Outline)
  | expression (d : ExpressionDraft)
  | struct (d : StructureDraft)
  | event (d : EventDraft)

/-- Builds the descriptor. -/
def Draft.build (d : Draft) (s : Supply) : Except RegistryError Descriptor × Supply :=
  match d with
  | plain o => o.build s
  | expression d => d.build s
  | struct d => d.build s
  | event d => d.build s

end Phrasebook
