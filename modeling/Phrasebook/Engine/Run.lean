import Phrasebook.Engine.Session
/-!
# Phrasebook.Engine.Run

Running callbacks, and the operations of a session that run them.

A new phase is announced to the listeners that were there when it was entered, in the order in which
they were added. Phases that a transition skips over are entered and announced as well, each before
the next is entered.
-/

namespace Phrasebook

variable {σ : Type}

/-- How a callback that may move the engine on does so. Where it may not, there is nothing to
say. -/
abbrev Advance (σ : Type) (s : Scope) :=
  s.advances = true → Phase → Session σ → Except EngineError Unit × Session σ

/-- Runs a callback. -/
def Callback.runWith : {s : Scope} → Callback σ s → Advance σ s → Routine σ
  | _, .done outcome, _, batch, w => ⟨outcome, batch, w⟩
  | _, .recall next, adv, batch, w => (next w.memory).runWith adv batch w
  | _, .remember memory next, adv, batch, w => next.runWith adv batch { w with memory }
  | _, .build draft next, adv, batch, w =>
    let (answer, w) := w.build draft
    (next answer).runWith adv batch w
  | _, .stage _ key d next, adv, batch, w =>
    let (answer, batch) := w.stage batch key d
    (next answer).runWith adv batch w
  | _, .staged _ key next, adv, batch, w => (next (batch.staged key)).runWith adv batch w
  | _, .observe next, adv, batch, w => (next w.engine).runWith adv batch w
  | _, .listen listener next, adv, batch, w => next.runWith adv batch (w.addListener listener)
  | s, .load addon _ modules next, adv, batch, w =>
    let routines := List.ofFn fun i =>
      (modules i).runWith fun h => adv (by rw [← s.advances_nested]; exact h)
    let (answer, w) := w.load addon routines
    (next answer).runWith adv batch w
  | _, .advance allowed target next, adv, batch, w =>
    let (answer, w) := adv allowed target w
    (next answer).runWith adv batch w

/-- Runs a callback that cannot move the engine on. -/
def Callback.runQuiet {s : Scope} (quiet : s.advances = false) (c : Callback σ s) : Routine σ :=
  c.runWith fun h => absurd h (by simp [quiet])

namespace Session

/-- Tells one listener of a phase. -/
def tell (s : Session σ) (phase : Phase) (l : Listener σ) : Session σ :=
  ((l phase).runQuiet rfl .empty s).session

/-- Tells the listeners that are there now of a phase. -/
def announce (s : Session σ) (phase : Phase) : Session σ :=
  s.listeners.foldl (fun s l => s.tell phase l) s

/-- Enters and announces phases, one after the other. -/
def enterAll (s : Session σ) : List Phase → Except EngineError Unit × Session σ
  | [] => (.ok (), s)
  | next :: rest =>
    match s.enter next with
    | (.error e, s) => (.error (.registry e), s)
    | (.ok (), s) => (s.announce next).enterAll rest

/-- Moves the engine to a later phase. -/
def advance (s : Session σ) (target : Phase) : Except EngineError Unit × Session σ :=
  if target ≤ s.engine.phase then
    (.error (.invalidTransition s.engine.phase target), s)
  else s.enterAll (s.engine.phase.pathTo target)

end Session

/-- Runs a module. -/
def Module.run (m : Module σ) : Routine σ := Callback.runWith m fun _ target s => s.advance target

namespace Session

/-- Loads an addon with these modules. -/
def registerAddon (s : Session σ) (addon : Addon) (modules : List (Module σ)) :
    Except EngineError Unit × Session σ :=
  s.load addon (modules.map Module.run)

/-- Starts an engine and loads it as an addon of its own, with these modules. -/
def create (core : Addon) (modules : List (Module σ)) (memory : σ) :
    Except EngineError Unit × Session σ :=
  (start core memory).registerAddon core modules

end Session

end Phrasebook
