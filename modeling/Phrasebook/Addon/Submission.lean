import Phrasebook.Engine.Run
/-!
# Phrasebook.Addon.Submission

Addons that are submitted ahead of any engine, to be loaded together. They come in no particular
order and are loaded by priority, lower ones first, and by name where priorities are equal.
-/

namespace Phrasebook

/-- An addon that waits to be loaded. -/
structure Submission (σ : Type) where
  name : String
  /-- Lower loads earlier. -/
  priority : Int16
  dataDirectory : Option Path
  languageDirectory : Option Path
  modules : List (Module σ)

namespace Submission

variable {σ : Type}

/-- A submission of the middle priority, without directories. -/
def ofName (name : String) (modules : List (Module σ)) : Submission σ :=
  ⟨name, 0, none, none, modules⟩

/-- The addon to load. -/
def addon (x : Submission σ) : Addon := ⟨x.name, x.dataDirectory, x.languageDirectory⟩

/-- Whether `a` loads no later than `b`. -/
def loadsBy (a b : Submission σ) : Bool :=
  a.priority < b.priority || a.priority == b.priority && a.name ≤ b.name

/-- Submissions in load order. -/
def ordered (xs : List (Submission σ)) : List (Submission σ) := xs.mergeSort loadsBy

end Submission

namespace Session

variable {σ : Type}

/-- Loads submissions one after the other, up to the first that fails. -/
def loadEach (s : Session σ) : List (Submission σ) → Except EngineError Unit × Session σ
  | [] => (.ok (), s)
  | x :: rest =>
    match s.registerAddon x.addon x.modules with
    | (.ok (), s) => s.loadEach rest
    | (.error e, s) => (.error e, s)

/-- Loads submissions in load order. Answers how many there were. -/
def loadSubmitted (s : Session σ) (xs : List (Submission σ)) : Except EngineError Nat × Session σ :=
  match s.loadEach (Submission.ordered xs) with
  | (.ok (), s) => (.ok xs.length, s)
  | (.error e, s) => (.error e, s)

end Session

end Phrasebook
