import Phrasebook.Engine.Callback
/-!
# Phrasebook.Engine.Session

A session: one engine with everything that its callbacks can touch. This module has the operations
that do not depend on what callbacks are, only on how to run them. A **routine** is a callback seen
from outside: it takes the batch of the running load and the session, and leaves both changed,
together with an outcome.

A load is all or nothing. Its modules fill a batch, which is committed after the last of them. The
phase is looked at when the load starts and again before the commit, because the modules may have
moved it.
-/

namespace Phrasebook

/-- An engine and what its callbacks share. -/
structure Session (σ : Type) where
  engine : Engine
  /-- In the order in which they were added. -/
  listeners : List (Listener σ)
  supply : Supply
  /-- The events reported so far, in order. -/
  log : List Log.Event
  memory : σ

/-- What running a callback leaves. -/
structure Outcome (σ : Type) where
  result : Except RegistryError Unit
  batch : Batch
  session : Session σ

/-- A callback seen from outside. -/
abbrev Routine (σ : Type) := Batch → Session σ → Outcome σ

/-- Runs modules one after the other, up to the first that fails. -/
def Routine.runAll {σ : Type} : List (Routine σ) → Routine σ
  | [], batch, s => ⟨.ok (), batch, s⟩
  | m :: rest, batch, s =>
    match m batch s with
    | ⟨.ok (), batch, s⟩ => runAll rest batch s
    | failed => failed

namespace Session

variable {σ : Type}

/-- A session in which nothing has happened. -/
def start (core : Addon) (memory : σ) : Session σ :=
  { engine := .start core, listeners := [], supply := .fresh, log := [], memory }

/-- Reports events. -/
def report (s : Session σ) (events : List Log.Event) : Session σ :=
  { s with log := s.log ++ events }

/-- Changes the engine. -/
def setEngine (s : Session σ) (e : Engine) : Session σ := { s with engine := e }

/-- Puts a listener behind the others. -/
def addListener (s : Session σ) (l : Listener σ) : Session σ :=
  { s with listeners := s.listeners ++ [l] }

/-- Builds a descriptor from the session's supply. -/
def build (s : Session σ) (d : Draft) : Except RegistryError Descriptor × Session σ :=
  let (answer, supply) := d.build s.supply
  (answer, { s with supply })

/-! ### Loading -/

/-- The event of a load that was refused for the phase. -/
def rejectedClosed (addon : Addon) (phase : Phase) : Log.Event where
  level := .warn
  message := "addon rejected: registration closed"
  fields := [("addon", addon.name), ("state", phase.name)]

/-- The event of a load that was refused for its name. -/
def rejectedDuplicate (addon : Addon) : Log.Event where
  level := .warn
  message := "addon rejected: duplicate name"
  fields := [("addon", addon.name)]

/-- The event of a load whose modules outlasted registration. -/
def discarded (addon : Addon) (phase : Phase) : Log.Event where
  level := .warn
  message := "addon load discarded: registration ended while loading"
  fields := [("addon", addon.name), ("state", phase.name)]

/-- The event of a load that succeeded. -/
def registered (addon : Addon) (modules syntaxes : Nat) : Log.Event where
  level := .info
  message := "registered addon"
  fields := [("addon", addon.name), ("modules", toString modules), ("syntaxes", toString syntaxes)]

/-- Stages a registration in the batch of the running load, if the registry can still take it. -/
def stage (s : Session σ) (batch : Batch) (key : Key) (d : Descriptor) :
    Except RegistryError Unit × Batch :=
  if s.engine.registry.closed then (.error (.registrationClosed (some key.name)), batch)
  else batch.push key d

/-- Commits a batch to the engine's registry. -/
def commit (s : Session σ) (batch : Batch) : Except RegistryError Nat × Session σ :=
  let reply := s.engine.registry.commit batch
  (reply.answer, (s.setEngine { s.engine with registry := reply.registry }).report reply.log)

/-- The end of a load whose modules have all succeeded. -/
def conclude (s : Session σ) (addon : Addon) (modules : Nat) (batch : Batch) :
    Except EngineError Unit × Session σ :=
  if s.engine.accepts then
    match s.commit batch with
    | (.error e, s) => (.error (.registry e), s.setEngine (s.engine.release addon.name))
    | (.ok count, s) =>
      (.ok (), (s.setEngine (s.engine.addLoaded addon)).report [registered addon modules count])
  else
    (.error (.registrationClosed s.engine.phase),
      (s.setEngine (s.engine.release addon.name)).report [discarded addon s.engine.phase])

/-- Loads an addon: runs its modules and commits what they have staged. -/
def load (s : Session σ) (addon : Addon) (modules : List (Routine σ)) :
    Except EngineError Unit × Session σ :=
  if !s.engine.accepts then
    (.error (.registrationClosed s.engine.phase), s.report [rejectedClosed addon s.engine.phase])
  else if s.engine.reserved.contains addon.name then
    (.error (.duplicateAddon addon.name), s.report [rejectedDuplicate addon])
  else
    match Routine.runAll modules .empty (s.setEngine (s.engine.reserve addon.name)) with
    | ⟨.error e, _, s⟩ =>
      (.error (.module addon.name e), s.setEngine (s.engine.release addon.name))
    | ⟨.ok (), batch, s⟩ => s.conclude addon modules.length batch

/-! ### Entering a phase -/

/-- The event of a new phase. -/
def changed (previous next : Phase) : Log.Event where
  level := .info
  message := "engine state changed"
  fields := [("from", previous.name), ("to", next.name)]

/-- Enters a phase. The last one freezes the registry first. -/
def enter (s : Session σ) (next : Phase) : Except RegistryError Unit × Session σ :=
  let reply : Reply Unit :=
    if next = .closedRegistration then s.engine.registry.close
    else ⟨.ok (), s.engine.registry, []⟩
  let s' := (s.setEngine { s.engine with registry := reply.registry }).report reply.log
  match reply.answer with
  | .error e => (.error e, s')
  | .ok () =>
    (.ok (), (s'.setEngine { s'.engine with phase := next }).report [changed s.engine.phase next])

end Session

end Phrasebook
