import Phrasebook.Addon.Submission
/-!
# Phrasebook.Proofs.Engine.Trail

The trail of a run: every moment that an engine passes through, from inside callbacks too.

Running a callback gives its outcome only. What holds *at any time* is a statement about the moments
in between, so this module lists them. A moment has an **incident**, which is what has just
happened, and the **situation** after it: the session, and the stack of what is under way. That
stack has a frame for every load whose modules are running, with the batch they have filled so far,
and for every listener that is being told of a phase.

* Trails follow the recursion of what they trace, and every session in them is computed by the
  operations themselves. There is no second evaluator here.
* There is one moment for each call that a callback makes, for the start and the end of each load,
  for each phase that is entered, and for the start and the end of each notification.
* A life of an engine is its own load followed by requests of the host.
* A trail is that of one thread. Two loads are under way at a time only if one was started from
  inside the other, and the stack tells which. Loads on several threads at a time are not covered,
  and the registration gate and the transition lock, which are there for them, have no counterpart.
-/

namespace Phrasebook

/-- Something that is under way. -/
inductive Frame
  /-- The modules of a load are running and have staged this much. -/
  | load (addon : Addon) (batch : Batch)
  /-- A listener is being told of a phase. -/
  | notice (phase : Phase)

namespace Frame

def isNotice : Frame → Bool
  | load _ _ => false
  | notice _ => true

def addon? : Frame → Option Addon
  | load addon _ => some addon
  | notice _ => none

/-- The addons whose loads are in flight, innermost first. -/
def loading (frames : List Frame) : List Addon := frames.filterMap addon?

/-- The scope of the modules of a load that is started while this is under way. -/
def scope (frames : List Frame) : Scope :=
  if frames.any isNotice then .loadingInNotice else .loading

end Frame

/-- A session, and what is under way, innermost first. -/
structure Situation (σ : Type) where
  frames : List Frame
  session : Session σ

abbrev Situation.engine {σ : Type} (x : Situation σ) : Engine := x.session.engine

/-- What has just happened. -/
inductive Incident (σ : Type)
  | built (answer : Except RegistryError Descriptor)
  | remembered
  | observed
  | listened
  | staged (key : Key) (d : Descriptor) (answer : Except RegistryError Unit)
  /-- A load has taken its name and is about to run its modules. -/
  | began (addon : Addon)
  /-- A load is over, also one that was refused at once. -/
  | returned (addon : Addon) (answer : Except EngineError Unit)
  | entered (phase : Phase) (answer : Except RegistryError Unit)
  /-- A listener is about to run. -/
  | told (phase : Phase) (listener : Listener σ)
  /-- A listener is done. -/
  | heard (phase : Phase)
  | advanced (target : Phase) (answer : Except EngineError Unit)

/-- An incident and the situation after it. -/
structure Moment (σ : Type) where
  incident : Incident σ
  situation : Situation σ

/-- Moments, in the order in which they come. -/
abbrev Trail (σ : Type) := List (Moment σ)

variable {σ : Type}

/-! ### Loads -/

/-- A routine that can be followed. -/
structure Traced (σ : Type) where
  run : Routine σ
  trail : Batch → Session σ → Trail σ

/-- The trail of modules that run one after the other, up to the first that fails. -/
def Traced.trailAll : List (Traced σ) → Batch → Session σ → Trail σ
  | [], _, _ => []
  | m :: rest, batch, s =>
    m.trail batch s ++
      match m.run batch s with
      | ⟨.ok (), batch, s⟩ => trailAll rest batch s
      | _ => []

/-- The trail of a load that is started on top of `frames`. -/
def Session.loadTrail (s : Session σ) (frames : List Frame) (addon : Addon)
    (modules : List (Traced σ)) : Trail σ :=
  let (answer, s') := s.load addon (modules.map Traced.run)
  (if !s.engine.accepts then []
    else if s.engine.reserved.contains addon.name then []
    else
      let s := s.setEngine (s.engine.reserve addon.name)
      ⟨.began addon, .load addon .empty :: frames, s⟩ :: Traced.trailAll modules .empty s)
    ++ [⟨.returned addon answer, frames, s'⟩]

/-! ### Callbacks -/

namespace Scope

theorem advances_of_nested {s : Scope} (h : s.nested.advances = true) : s.advances = true := by
  rwa [advances_nested] at h

theorem not_advances {s : Scope} (quiet : s.advances = false) : ¬ s.advances = true := by
  rw [quiet]
  exact Bool.false_ne_true

theorem notice_quiet : notice.advances = false := rfl

end Scope

/-- Advancing a callback from the scope that nests it. -/
abbrev Advance.nested {s : Scope} (adv : Advance σ s) : Advance σ s.nested :=
  fun h => adv (Scope.advances_of_nested h)

/-- The trail of moving the engine on, where a callback may do so. -/
abbrev AdvanceTrail (σ : Type) (s : Scope) :=
  s.advances = true → Phase → List Frame → Session σ → Trail σ

abbrev AdvanceTrail.nested {s : Scope} (advTrail : AdvanceTrail σ s) : AdvanceTrail σ s.nested :=
  fun h => advTrail (Scope.advances_of_nested h)

/-- The trail of a callback. What is under way depends on the batch of the running load, which is on
top of the stack. -/
def Callback.trailWith : {s : Scope} → Callback σ s → Advance σ s → AdvanceTrail σ s →
    (Batch → List Frame) → Batch → Session σ → Trail σ
  | _, .done _, _, _, _, _, _ => []
  | _, .recall next, adv, advTrail, stack, batch, w =>
    (next w.memory).trailWith adv advTrail stack batch w
  | _, .remember memory next, adv, advTrail, stack, batch, w =>
    let w := { w with memory }
    ⟨.remembered, stack batch, w⟩ :: next.trailWith adv advTrail stack batch w
  | _, .build draft next, adv, advTrail, stack, batch, w =>
    let (answer, w) := w.build draft
    ⟨.built answer, stack batch, w⟩ :: (next answer).trailWith adv advTrail stack batch w
  | _, .stage _ key d next, adv, advTrail, stack, batch, w =>
    let (answer, batch) := w.stage batch key d
    ⟨.staged key d answer, stack batch, w⟩ :: (next answer).trailWith adv advTrail stack batch w
  | _, .staged _ key next, adv, advTrail, stack, batch, w =>
    (next (batch.staged key)).trailWith adv advTrail stack batch w
  | _, .observe next, adv, advTrail, stack, batch, w =>
    ⟨.observed, stack batch, w⟩ :: (next w.engine).trailWith adv advTrail stack batch w
  | _, .listen listener next, adv, advTrail, stack, batch, w =>
    let w := w.addListener listener
    ⟨.listened, stack batch, w⟩ :: next.trailWith adv advTrail stack batch w
  | _, .load addon _ modules next, adv, advTrail, stack, batch, w =>
    let traced : List (Traced σ) := List.ofFn fun i =>
      { run := (modules i).runWith adv.nested
        trail := (modules i).trailWith adv.nested advTrail.nested
          fun b => .load addon b :: stack batch }
    let (answer, w') := w.load addon (traced.map Traced.run)
    w.loadTrail (stack batch) addon traced ++
      (next answer).trailWith adv advTrail stack batch w'
  | _, .advance allowed target next, adv, advTrail, stack, batch, w =>
    let (answer, w') := adv allowed target w
    advTrail allowed target (stack batch) w ++
      (next answer).trailWith adv advTrail stack batch w'

/-- The trail of a callback that cannot move the engine on. -/
def Callback.trailQuiet {s : Scope} (quiet : s.advances = false) (c : Callback σ s)
    (stack : Batch → List Frame) : Batch → Session σ → Trail σ :=
  c.trailWith (fun h => absurd h (Scope.not_advances quiet))
    (fun h => absurd h (Scope.not_advances quiet)) stack

/-! ### Phases -/

namespace Session

def tellTrail (s : Session σ) (frames : List Frame) (phase : Phase) (l : Listener σ) : Trail σ :=
  ⟨.told phase l, .notice phase :: frames, s⟩ ::
    ((l phase).trailQuiet Scope.notice_quiet (fun _ => .notice phase :: frames) .empty s ++
      [⟨.heard phase, frames, s.tell phase l⟩])

def tellAllTrail (frames : List Frame) (phase : Phase) : List (Listener σ) → Session σ → Trail σ
  | [], _ => []
  | l :: rest, s => s.tellTrail frames phase l ++ tellAllTrail frames phase rest (s.tell phase l)

/-- The trail of entering and announcing phases. -/
def enterAllTrail (frames : List Frame) : List Phase → Session σ → Trail σ
  | [], _ => []
  | next :: rest, s =>
    let (answer, s) := s.enter next
    ⟨.entered next answer, frames, s⟩ ::
      match answer with
      | .error _ => []
      | .ok () =>
        tellAllTrail frames next s.listeners s ++ enterAllTrail frames rest (s.announce next)

def advanceTrail (s : Session σ) (frames : List Frame) (target : Phase) : Trail σ :=
  let (answer, s') := s.advance target
  (if target ≤ s.engine.phase then []
    else enterAllTrail frames (s.engine.phase.pathTo target) s)
    ++ [⟨.advanced target answer, frames, s'⟩]

end Session

def Callback.run {s : Scope} (c : Callback σ s) : Routine σ :=
  c.runWith fun _ target w => w.advance target

def Callback.trail {s : Scope} (c : Callback σ s) (stack : Batch → List Frame) :
    Batch → Session σ → Trail σ :=
  c.trailWith (fun _ target w => w.advance target)
    (fun _ target frames w => w.advanceTrail frames target) stack

/-- A module of a load that is started on top of `frames`. -/
def Callback.traced {s : Scope} (c : Callback σ s) (frames : List Frame) (addon : Addon) :
    Traced σ where
  run := c.run
  trail := c.trail fun batch => .load addon batch :: frames

/-! ### Lives -/

/-- What a host asks of an engine. -/
inductive Request (σ : Type)
  | build (draft : Draft)
  | remember (memory : σ)
  | listen (listener : Listener σ)
  | load (addon : Addon) (modules : List (Module σ))
  | loadSubmitted (submissions : List (Submission σ))
  | advance (target : Phase)

namespace Session

/-- Does what the host asks for. -/
def serve (s : Session σ) : Request σ → Session σ
  | .build draft => (s.build draft).2
  | .remember memory => { s with memory }
  | .listen listener => s.addListener listener
  | .load addon modules => (s.registerAddon addon modules).2
  | .loadSubmitted xs => (s.loadSubmitted xs).2
  | .advance target => (s.advance target).2

def registerAddonTrail (s : Session σ) (addon : Addon) (modules : List (Module σ)) : Trail σ :=
  s.loadTrail [] addon (modules.map fun m => Callback.traced m [] addon)

/-- The trail of loading submissions, up to the first that fails. -/
def loadEachTrail : List (Submission σ) → Session σ → Trail σ
  | [], _ => []
  | x :: rest, s =>
    s.registerAddonTrail x.addon x.modules ++
      match s.registerAddon x.addon x.modules with
      | (.ok (), s) => loadEachTrail rest s
      | (.error _, _) => []

def serveTrail (s : Session σ) : Request σ → Trail σ
  | .build draft => [⟨.built (s.build draft).1, [], (s.build draft).2⟩]
  | .remember memory => [⟨.remembered, [], { s with memory }⟩]
  | .listen listener => [⟨.listened, [], s.addListener listener⟩]
  | .load addon modules => s.registerAddonTrail addon modules
  | .loadSubmitted xs => loadEachTrail (Submission.ordered xs) s
  | .advance target => s.advanceTrail [] target

def serveAll (s : Session σ) (requests : List (Request σ)) : Session σ :=
  requests.foldl serve s

def serveAllTrail : List (Request σ) → Session σ → Trail σ
  | [], _ => []
  | r :: rest, s => s.serveTrail r ++ serveAllTrail rest (s.serve r)

/-- The life of an engine: it loads itself, with the modules of its own addon, and then serves its
host. -/
def life (core : Addon) (modules : List (Module σ)) (memory : σ) (requests : List (Request σ)) :
    Trail σ :=
  serveAllTrail (.load core modules :: requests) (start core memory)

end Session

end Phrasebook
