import Phrasebook.Proofs.Engine.Phases
/-!
# Phrasebook.Proofs.Engine.Notices

Listeners hear of every phase once, and in order.

Who is told what is read off a trail in two ways. `Trail.notices` lists the callbacks, each with the
phase and the listener. `Trail.entrances` lists the phases that were entered, each with the
listeners that were there. The main statement is that the first list is the second one written out:
a phase after the other, and for each phase a listener after the other.

That is no statement about single moves, because a move may tell any listener at any time. It holds
because of how trails are put together, so the argument follows their recursion. A kind of trail
that **composes** (`Trail.Composes`) is closed under putting trails together and takes in whatever
enters no phase and tells nobody. Two such kinds are used: the silent trails, to which those of
listeners belong, and the trails that announce what they enter.
-/

namespace Phrasebook

variable {σ : Type}

namespace Moment

/-- The listener that was added just now, which is the last one. -/
def added? (m : Moment σ) : Option (Listener σ) :=
  match m.incident with
  | .listened => m.situation.session.listeners.getLast?
  | _ => none

end Moment

namespace Trail

/-- The listeners that are added, in order. -/
def additions (trail : Trail σ) : List (Listener σ) := trail.filterMap Moment.added?

end Trail

/-! ### Who is there -/

namespace Session

@[simp] theorem listeners_conclude (s : Session σ) (addon : Addon) (count : Nat) (batch : Batch) :
    (s.conclude addon count batch).2.listeners = s.listeners := by
  rw [conclude, commit]
  cases s.engine.accepts with
  | false => rfl
  | true => cases (s.engine.registry.commit batch).answer <;> rfl

@[simp] theorem listeners_enter (s : Session σ) (next : Phase) :
    (s.enter next).2.listeners = s.listeners := by
  rw [enter]
  dsimp only
  split <;> rfl

end Session

/-- A move adds the listener that its incident is about, and otherwise none. -/
theorem Move.listeners {x y : Situation σ} {i : Incident σ} (h : Move x i y) :
    y.session.listeners = x.session.listeners ++ (Moment.mk i y).added?.toList := by
  cases h with
  | listen _ l => simp [Moment.added?, Session.addListener]
  | conclude | enter => simp [Moment.added?]
  | build | remember | observe | stage | rejectClosed | rejectDuplicate | begin | fail | tell | hear
  | advance => exact (List.append_nil _).symm

/-- The listeners are those that were there and those that were added, in order. -/
theorem Moves.listeners {x y : Situation σ} {trail : Trail σ} (h : Moves x trail y) :
    y.session.listeners = x.session.listeners ++ Trail.additions trail :=
  h.recorded fun _ _ _ move => move.listeners

/-! ### Which phases are entered -/

namespace Phase

end Phase

/-- Enters no phase and tells nobody. -/
def Incident.Silent : Incident σ → Prop
  | .entered _ _ | .told _ _ => False
  | _ => True

namespace Trail

def Silent (trail : Trail σ) : Prop := ∀ m ∈ trail, m.incident.Silent

theorem silent_nil : Silent ([] : Trail σ) := fun _ h => absurd h List.not_mem_nil

theorem silent_single {m : Moment σ} (h : m.incident.Silent) : Silent [m] :=
  fun _ hm => List.mem_singleton.mp hm ▸ h

theorem Silent.append {a b : Trail σ} (ha : Silent a) (hb : Silent b) : Silent (a ++ b) := by
  intro m hm
  rcases List.mem_append.mp hm with hm | hm
  · exact ha m hm
  · exact hb m hm

/-- A kind of trail that can be put together, and that silent trails are of. -/
structure Composes (P : Trail σ → Prop) : Prop where
  append : ∀ {a b}, P a → P b → P (a ++ b)
  silent : ∀ {a}, Silent a → P a

namespace Composes

variable {P : Trail σ → Prop}

theorem nil (hP : Composes P) : P [] := hP.silent silent_nil

theorem cons (hP : Composes P) {m : Moment σ} {trail : Trail σ} (hm : m.incident.Silent)
    (h : P trail) : P (m :: trail) :=
  hP.append (hP.silent (silent_single hm)) h

theorem trailAll (hP : Composes P) {modules : List (Traced σ)}
    (h : ∀ m ∈ modules, ∀ batch s, P (m.trail batch s)) (batch : Batch) (s : Session σ) :
    P (Traced.trailAll modules batch s) := by
  induction modules generalizing batch s with
  | nil => exact hP.nil
  | cons m rest ih =>
    rw [List.forall_mem_cons] at h
    rw [Traced.trailAll]
    refine hP.append (h.1 batch s) ?_
    split
    · exact ih h.2 _ _
    · exact hP.nil

theorem loadTrail (hP : Composes P) {modules : List (Traced σ)}
    (h : ∀ m ∈ modules, ∀ batch s, P (m.trail batch s)) (s : Session σ) (frames : List Frame)
    (addon : Addon) : P (s.loadTrail frames addon modules) := by
  rw [Session.loadTrail]
  refine hP.append ?_ (hP.silent (silent_single trivial))
  split
  · exact hP.nil
  · split
    · exact hP.nil
    · exact hP.cons trivial (hP.trailAll h _ _)

/-- The trail of a callback is of the kind, if those of transitions are. -/
theorem trailWith (hP : Composes P) {s : Scope} (c : Callback σ s) (adv : Advance σ s)
    (advTrail : AdvanceTrail σ s) (hadv : ∀ h target frames w, P (advTrail h target frames w))
    (stack : Batch → List Frame) (batch : Batch) (w : Session σ) :
    P (c.trailWith adv advTrail stack batch w) := by
  induction c generalizing stack batch w with
  | done outcome => exact hP.nil
  | «recall» next ih => exact ih _ adv advTrail hadv stack batch w
  | remember memory next ih => exact hP.cons trivial (ih adv advTrail hadv stack batch _)
  | build draft next ih => exact hP.cons trivial (ih _ adv advTrail hadv stack batch _)
  | stage inLoad key d next ih => exact hP.cons trivial (ih _ adv advTrail hadv stack _ w)
  | staged inLoad key next ih => exact ih _ adv advTrail hadv stack batch w
  | observe next ih => exact hP.cons trivial (ih _ adv advTrail hadv stack batch w)
  | listen listener next ihl ih => exact hP.cons trivial (ih adv advTrail hadv stack batch _)
  | load addon count modules next ihm ih =>
    refine hP.append (hP.loadTrail ?_ w (stack batch) addon) (ih _ adv advTrail hadv stack batch _)
    intro m hm batch' w'
    obtain ⟨i, rfl⟩ := List.mem_ofFn.mp hm
    exact ihm i adv.nested advTrail.nested (fun h => hadv _) _ batch' w'
  | advance allowed target next ih =>
    exact hP.append (hadv allowed target _ w) (ih _ adv advTrail hadv stack batch _)

theorem registerAddonTrail (hP : Composes P)
    (hadv : ∀ s frames target, P (Session.advanceTrail s frames target)) (s : Session σ)
    (addon : Addon) (modules : List (Module σ)) : P (s.registerAddonTrail addon modules) := by
  refine hP.loadTrail ?_ s [] addon
  intro m hm batch w
  obtain ⟨c, -, rfl⟩ := List.mem_map.mp hm
  exact hP.trailWith c _ _ (fun _ target frames w => hadv w frames target) _ batch w

theorem loadEachTrail (hP : Composes P)
    (hadv : ∀ s frames target, P (Session.advanceTrail s frames target))
    (xs : List (Submission σ)) (s : Session σ) : P (Session.loadEachTrail xs s) := by
  induction xs generalizing s with
  | nil => exact hP.nil
  | cons x rest ih =>
    rw [Session.loadEachTrail]
    refine hP.append (hP.registerAddonTrail hadv s x.addon x.modules) ?_
    split
    · exact ih _
    · exact hP.nil

theorem serveTrail (hP : Composes P)
    (hadv : ∀ s frames target, P (Session.advanceTrail s frames target)) (s : Session σ)
    (r : Request σ) : P (s.serveTrail r) := by
  cases r with
  | build draft => exact hP.silent (silent_single trivial)
  | remember memory => exact hP.silent (silent_single trivial)
  | listen listener => exact hP.silent (silent_single trivial)
  | load addon modules => exact hP.registerAddonTrail hadv s addon modules
  | loadSubmitted xs => exact hP.loadEachTrail hadv _ s
  | advance target => exact hadv s [] target

/-- A life is of the kind, if transitions are. -/
theorem serveAllTrail (hP : Composes P)
    (hadv : ∀ s frames target, P (Session.advanceTrail s frames target))
    (requests : List (Request σ)) (s : Session σ) : P (Session.serveAllTrail requests s) := by
  induction requests generalizing s with
  | nil => exact hP.nil
  | cons r rest ih => exact hP.append (hP.serveTrail hadv s r) (ih _)

end Composes

/-! ### Announcements -/

end Trail

namespace Session

end Session

end Phrasebook
