import Phrasebook.Payload
/-!
# Phrasebook.Key

Keys name the categories under which descriptors are registered. A key has a **kind**, which says
what descriptors it takes, and it may refine a parent key: what is registered under the child is
written under the parent too, and under the parent's parent, up to the root.

A key is known by its name alone. Two keys of one name are equal, whatever their kinds and parents.
-/

namespace Phrasebook

open Text

/-- What a category takes. -/
structure Kind where
  /-- The kind's name in messages. -/
  name : String
  accepts : Payload → Bool

namespace Kind

/-- A kind of plain descriptors. -/
def plain (name : String) : Kind where
  name := name
  accepts
    | .plain => true
    | _ => false

/-- Any line-level statement. -/
def statement : Kind := .plain "statement"

/-- Statements that do something. -/
def effect : Kind := .plain "effect"

/-- Statements that test something. -/
def condition : Kind := .plain "condition"

/-- Statements with an indented body. -/
def block : Kind := .plain "section"

/-- Expressions. -/
def expression : Kind where
  name := "expression"
  accepts
    | .expression _ => true
    | _ => false

/-- Top-level blocks of a script. Events are among them. -/
def struct : Kind where
  name := "structure"
  accepts
    | .struct _ | .event _ => true
    | _ => false

/-- Whether a payload is that of an event. -/
def acceptsEvents : Payload → Bool
  | .event _ => true
  | _ => false

/-- Events. -/
def event : Kind := ⟨"event", acceptsEvents⟩

end Kind

/-- A named category, by itself or below another one. -/
inductive Key
  | root (name : String) (kind : Kind)
  | child (parent : Key) (name : String) (kind : Kind)

namespace Key

def name : Key → String
  | root name _ => name
  | child _ name _ => name

def kind : Key → Kind
  | root _ kind => kind
  | child _ _ kind => kind

/-- The key that this one was created under. -/
def parent? : Key → Option Key
  | root _ _ => none
  | child parent _ _ => some parent

/-- Whether the key itself takes the payload; its ancestors are not asked. -/
def accepts (k : Key) (p : Payload) : Bool := k.kind.accepts p

/-- The key and its ancestors, nearest first. -/
def lineage : Key → List Key
  | root name kind => [root name kind]
  | child parent name kind => child parent name kind :: parent.lineage

@[simp] theorem lineage_root (name : String) (kind : Kind) :
    (root name kind).lineage = [root name kind] := rfl

@[simp] theorem lineage_child (parent : Key) (name : String) (kind : Kind) :
    (child parent name kind).lineage = child parent name kind :: parent.lineage := rfl

theorem self_mem_lineage (k : Key) : k ∈ k.lineage := by
  cases k <;> simp

theorem lineage_eq_cons (k : Key) : k.lineage = k :: (k.parent?.map lineage).getD [] := by
  cases k <;> rfl

/-- Equality of keys is equality of names. -/
instance : BEq Key := ⟨fun a b => a.name == b.name⟩

theorem beq_iff {a b : Key} : (a == b) = true ↔ a.name = b.name := by
  simp [BEq.beq]

/-- The error of offering a descriptor with payload `p` to `link`, which does not take it. -/
def mismatch (link : Key) (p : Payload) : RegistryError :=
  .kindMismatch link.name link.kind.name p.kindName

/-- The inspection text. -/
def inspect (k : Key) : String :=
  record "Key" <|
    [("name", quoted k.name), ("kind", quoted k.kind.name)]
      ++ (k.parent?.map fun p => ("parent", quoted p.name)).toList

/-! ### The keys that every registry knows -/

/-- Top-level blocks of a script. -/
def structures : Key := .root "structure" .struct

/-- Statements with an indented body. -/
def sections : Key := .root "section" .block

/-- Line-level statements. -/
def statements : Key := .root "statement" .statement

/-- Effects, which are statements. -/
def effects : Key := .child statements "effect" .effect

/-- Conditions, which are statements. -/
def conditions : Key := .child statements "condition" .condition

/-- Expressions. -/
def expressions : Key := .root "expression" .expression

/-- Events, which are structures. -/
def events : Key := .child structures "event" .event

end Key

end Phrasebook
