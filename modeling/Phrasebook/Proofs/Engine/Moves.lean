import Mathlib.Data.List.Chain
import Phrasebook.Proofs.Engine.Trail
/-!
# Phrasebook.Proofs.Engine.Moves

The moves of an engine, and that every trail is made of them.

`Move` lists what a single step can do to a situation, whoever makes it: callbacks may behave in any
way, so all that is known of them is that they make moves. `Moves` strings moves together, and the
results at the end say that the trail of each operation leads from where the operation began to
where it ended: `Callback.moves_trail` for callbacks, `Session.moves_loadTrail` for loads,
`Session.moves_advanceTrail` for transitions and `Session.moves_life` for the life of an engine.
Statements about every moment of a life are then proved move by move.

All moves are made on one thread, with one stack of what is under way, and nothing comes between
the check of a move and the change that it makes. Several threads would have to take the
registration gate and the transition lock for that; moves know of no locks.

The recursion is that of the callbacks. A transition runs listeners, which are callbacks that cannot
move the engine, so they come first and are followed without knowing what transitions do.
-/

namespace Phrasebook

variable {σ : Type}

/-- What one step can do to a situation. -/
inductive Move : Situation σ → Incident σ → Situation σ → Prop
  | build (x : Situation σ) (draft : Draft) :
      Move x (.built (x.session.build draft).1) ⟨x.frames, (x.session.build draft).2⟩
  | remember (x : Situation σ) (memory : σ) :
      Move x .remembered ⟨x.frames, { x.session with memory }⟩
  | observe (x : Situation σ) : Move x .observed x
  | listen (x : Situation σ) (l : Listener σ) :
      Move x .listened ⟨x.frames, x.session.addListener l⟩
  /-- Registrations are staged in the innermost load. -/
  | stage (frames : List Frame) (addon : Addon) (batch : Batch) (s : Session σ) (key : Key)
      (d : Descriptor) :
      Move ⟨.load addon batch :: frames, s⟩ (.staged key d (s.stage batch key d).1)
        ⟨.load addon (s.stage batch key d).2 :: frames, s⟩
  | rejectClosed (x : Situation σ) (addon : Addon) (hphase : x.engine.accepts = false) :
      Move x (.returned addon (.error (.registrationClosed x.engine.phase)))
        ⟨x.frames, x.session.report [Session.rejectedClosed addon x.engine.phase]⟩
  | rejectDuplicate (x : Situation σ) (addon : Addon) (htaken : addon.name ∈ x.engine.reserved) :
      Move x (.returned addon (.error (.duplicateAddon addon.name)))
        ⟨x.frames, x.session.report [Session.rejectedDuplicate addon]⟩
  | begin (x : Situation σ) (addon : Addon) (hphase : x.engine.accepts = true)
      (hfree : addon.name ∉ x.engine.reserved) :
      Move x (.began addon)
        ⟨.load addon .empty :: x.frames, x.session.setEngine (x.engine.reserve addon.name)⟩
  /-- The innermost load ends because a module of it failed. -/
  | fail (frames : List Frame) (addon : Addon) (batch : Batch) (s : Session σ) (e : RegistryError) :
      Move ⟨.load addon batch :: frames, s⟩ (.returned addon (.error (.module addon.name e)))
        ⟨frames, s.setEngine (s.engine.release addon.name)⟩
  /-- The innermost load ends after all its modules. -/
  | conclude (frames : List Frame) (addon : Addon) (batch : Batch) (s : Session σ) (count : Nat) :
      Move ⟨.load addon batch :: frames, s⟩ (.returned addon (s.conclude addon count batch).1)
        ⟨frames, (s.conclude addon count batch).2⟩
  /-- Phases are entered in order, and never while a listener is being told of one. -/
  | enter (x : Situation σ) (next : Phase) (hquiet : x.frames.any Frame.isNotice = false)
      (hnext : next.index = x.engine.phase.index + 1) :
      Move x (.entered next (x.session.enter next).1) ⟨x.frames, (x.session.enter next).2⟩
  | tell (x : Situation σ) (l : Listener σ) :
      Move x (.told x.engine.phase l) ⟨.notice x.engine.phase :: x.frames, x.session⟩
  | hear (frames : List Frame) (phase : Phase) (s : Session σ) :
      Move ⟨.notice phase :: frames, s⟩ (.heard phase) ⟨frames, s⟩
  | advance (x : Situation σ) (target : Phase) (answer : Except EngineError Unit) :
      Move x (.advanced target answer) x

/-- Moves lead from one situation to another, through the moments of a trail. -/
inductive Moves : Situation σ → Trail σ → Situation σ → Prop
  | nil (x : Situation σ) : Moves x [] x
  | cons {x y : Situation σ} {m : Moment σ} {trail : Trail σ}
      (move : Move x m.incident m.situation) (rest : Moves m.situation trail y) :
      Moves x (m :: trail) y

namespace Moves

variable {x y z : Situation σ} {m : Moment σ} {trail more : Trail σ}

theorem single (move : Move x m.incident m.situation) : Moves x [m] m.situation :=
  .cons move (.nil _)

theorem append (h : Moves x trail y) (h' : Moves y more z) : Moves x (trail ++ more) z := by
  induction h with
  | nil => exact h'
  | cons move _ ih => exact .cons move (ih h')

/-- Moves through a trail in two parts come to a situation between them. -/
theorem between (h : Moves x (trail ++ more) y) : ∃ z, Moves x trail z ∧ Moves z more y := by
  induction trail generalizing x with
  | nil => exact ⟨x, .nil x, h⟩
  | cons head trail ih =>
    cases h with
    | cons move rest =>
      obtain ⟨z, before, after⟩ := ih rest
      exact ⟨z, .cons move before, after⟩

/-- Moves through a moment come to it and go on from it. -/
theorem split (h : Moves x (trail ++ m :: more) y) :
    Moves x (trail ++ [m]) m.situation ∧ Moves m.situation more y := by
  obtain ⟨z, before, after⟩ := h.between
  cases after with
  | cons move rest => exact ⟨before.append (single move), rest⟩

/-- The last of some moves leads to where they end. -/
theorem last (h : Moves x (trail ++ [m]) y) :
    y = m.situation ∧ ∃ z, Moves x trail z ∧ Move z m.incident m.situation := by
  obtain ⟨z, before, after⟩ := h.between
  cases after with
  | cons move rest =>
    cases rest
    exact ⟨rfl, z, before, move⟩

/-- Moves end in the situation of their last moment. -/
theorem eq_last (h : Moves m.situation trail y) : y = (trail.getLast?.getD m).situation := by
  induction trail generalizing m with
  | nil =>
    cases h
    rfl
  | cons head trail ih =>
    cases h with
    | cons move rest =>
      rw [List.getLast?_cons]
      exact ih rest

/-- Induction on what has happened so far: what holds at the beginning, and after each move if it
held before, holds at the end. -/
@[elab_as_elim]
theorem history {motive : (trail : Trail σ) → (y : Situation σ) → Moves x trail y → Prop}
    (nil : motive [] x (.nil x))
    (snoc : ∀ trail z m (h : Moves x trail z) (move : Move z m.incident m.situation),
      motive trail z h → motive (trail ++ [m]) m.situation (h.append (single move)))
    {trail : Trail σ} {y : Situation σ} (h : Moves x trail y) : motive trail y h := by
  induction trail using List.reverseRecOn generalizing y with
  | nil =>
    cases h
    exact nil
  | append_singleton trail m ih =>
    obtain ⟨rfl, z, hz, hlast⟩ := h.last
    exact snoc trail z m hz hlast (ih hz)

/-- What every move keeps holds at the end. The moves may be known to be of some kind. -/
theorem invariant {P : Situation σ → Prop} {Q : Incident σ → Prop}
    (hmove : ∀ x i y, Move x i y → Q i → P x → P y) (h : Moves x trail y)
    (hkind : ∀ m ∈ trail, Q m.incident) (hx : P x) : P y := by
  induction h with
  | nil => exact hx
  | cons move _ ih =>
    rw [List.forall_mem_cons] at hkind
    exact ih hkind.2 (hmove _ _ _ move hkind.1 hx)

/-- What every move keeps, whatever its kind, holds at the end. -/
theorem preserves {P : Situation σ → Prop} (hmove : ∀ x i y, Move x i y → P x → P y)
    (h : Moves x trail y) : P x → P y :=
  h.invariant (Q := fun _ => True) (fun x i y move _ => hmove x i y move) fun _ _ => trivial

/-- A list that every move extends by what its moment shows is extended by what a trail shows. -/
theorem recorded {α : Type} {list : Situation σ → List α} {shown : Moment σ → Option α}
    (hmove : ∀ x i y, Move x i y → list y = list x ++ (shown ⟨i, y⟩).toList)
    (h : Moves x trail y) : list y = list x ++ trail.filterMap shown := by
  induction h with
  | nil => exact (List.append_nil _).symm
  | @cons x y m trail move _ ih =>
    have hm : list m.situation = list x ++ (shown m).toList := hmove _ _ _ move
    rw [ih, hm, List.append_assoc, List.filterMap_cons]
    cases shown m <;> rfl

end Moves

/-! ### Loads -/

/-- The trail of a module is made of moves on top of its load. -/
def Traced.Follows (frames : List Frame) (addon : Addon) (m : Traced σ) : Prop :=
  ∀ batch s, Moves ⟨.load addon batch :: frames, s⟩ (m.trail batch s)
    ⟨.load addon (m.run batch s).batch :: frames, (m.run batch s).session⟩

theorem Traced.moves_trailAll {frames : List Frame} {addon : Addon} {modules : List (Traced σ)}
    (h : ∀ m ∈ modules, m.Follows frames addon) (batch : Batch) (s : Session σ) :
    Moves ⟨.load addon batch :: frames, s⟩ (trailAll modules batch s)
      ⟨.load addon (Routine.runAll (modules.map run) batch s).batch :: frames,
        (Routine.runAll (modules.map run) batch s).session⟩ := by
  induction modules generalizing batch s with
  | nil => exact .nil _
  | cons m rest ih =>
    rw [List.forall_mem_cons] at h
    have hm := h.1 batch s
    rw [trailAll, List.map_cons, Routine.runAll]
    rcases hr : m.run batch s with ⟨e | ⟨⟩, batch', s'⟩
    · rw [hr] at hm
      exact hm.append (.nil _)
    · rw [hr] at hm
      exact hm.append (ih h.2 batch' s')

/-- The ways in which a load ends after all its modules: it comes too late, its registrations are
refused, or it is loaded. -/
theorem Session.conclude_cases (s : Session σ) (addon : Addon) (count : Nat) (batch : Batch) :
    (s.engine.accepts = false ∧
        (s.conclude addon count batch).1 = .error (.registrationClosed s.engine.phase) ∧
        (s.conclude addon count batch).2.engine = s.engine.release addon.name) ∨
      (s.engine.accepts = true ∧ ∃ e, (s.engine.registry.commit batch).answer = .error e ∧
        (s.conclude addon count batch).1 = .error (.registry e) ∧
        (s.conclude addon count batch).2.engine =
          { s.engine with registry := (s.engine.registry.commit batch).registry }.release
            addon.name) ∨
      (s.engine.accepts = true ∧ ∃ n, (s.engine.registry.commit batch).answer = .ok n ∧
        (s.conclude addon count batch).1 = .ok () ∧
        (s.conclude addon count batch).2.engine =
          { s.engine with registry := (s.engine.registry.commit batch).registry }.addLoaded
            addon) := by
  rw [conclude]
  cases s.engine.accepts with
  | false => exact Or.inl ⟨rfl, rfl, rfl⟩
  | true =>
    rw [if_pos rfl, commit]
    cases (s.engine.registry.commit batch).answer with
    | error e => exact Or.inr (Or.inl ⟨rfl, e, rfl, rfl, rfl⟩)
    | ok n => exact Or.inr (Or.inr ⟨rfl, n, rfl, rfl, rfl⟩)

/-- The trail of a load is made of moves, if those of its modules are. -/
theorem Session.moves_loadTrail {frames : List Frame} {addon : Addon} {modules : List (Traced σ)}
    (h : ∀ m ∈ modules, m.Follows frames addon) (s : Session σ) :
    Moves ⟨frames, s⟩ (s.loadTrail frames addon modules)
      ⟨frames, (s.load addon (modules.map Traced.run)).2⟩ := by
  rw [loadTrail, load]
  cases haccepts : s.engine.accepts with
  | false => exact .single (.rejectClosed ⟨frames, s⟩ addon haccepts)
  | true =>
    cases htaken : s.engine.reserved.contains addon.name with
    | true =>
      exact .single (.rejectDuplicate ⟨frames, s⟩ addon (List.contains_iff_mem.mp htaken))
    | false =>
      have hfree : addon.name ∉ s.engine.reserved := by
        rw [← List.contains_iff_mem, htaken]
        exact Bool.false_ne_true
      have hrun := Traced.moves_trailAll h .empty (s.setEngine (s.engine.reserve addon.name))
      dsimp only [Bool.not_true, Bool.false_eq_true, if_false]
      rcases hr : Routine.runAll (modules.map Traced.run) .empty
        (s.setEngine (s.engine.reserve addon.name)) with ⟨e | ⟨⟩, batch, s'⟩
      · rw [hr] at hrun
        refine .append (.cons (.begin ⟨frames, s⟩ addon haccepts hfree) hrun) ?_
        exact .single (.fail frames addon batch s' e)
      · rw [hr] at hrun
        refine .append (.cons (.begin ⟨frames, s⟩ addon haccepts hfree) hrun) ?_
        exact .single (.conclude frames addon batch s' (modules.map Traced.run).length)

/-! ### Callbacks -/

/-- The trail of a callback is made of moves, if that of moving the engine on is. The stack has the
load on top that the callback stages for, and no notification if the callback may move the engine
on. -/
theorem Callback.moves_trailWith {s : Scope} (c : Callback σ s) (adv : Advance σ s)
    (advTrail : AdvanceTrail σ s) (stack : Batch → List Frame)
    (hadv : ∀ h target frames w, frames.any Frame.isNotice = false →
      Moves ⟨frames, w⟩ (advTrail h target frames w) ⟨frames, (adv h target w).2⟩)
    (hload : s.stages = true → ∃ addon frames, ∀ b, stack b = .load addon b :: frames)
    (hquiet : s.advances = true → ∀ b, (stack b).any Frame.isNotice = false)
    (batch : Batch) (w : Session σ) :
    Moves ⟨stack batch, w⟩ (c.trailWith adv advTrail stack batch w)
      ⟨stack (c.runWith adv batch w).batch, (c.runWith adv batch w).session⟩ := by
  -- on the calls of the callback; a nested load puts itself on the stack, so that is general
  induction c generalizing stack batch w with
  | done outcome => exact .nil _
  | «recall» next ih => exact ih w.memory adv advTrail stack hadv hload hquiet batch w
  | remember memory next ih =>
    exact .cons (.remember _ memory) (ih adv advTrail stack hadv hload hquiet batch _)
  | build draft next ih =>
    exact .cons (.build _ draft) (ih _ adv advTrail stack hadv hload hquiet batch _)
  | stage inLoad key d next ih =>
    have hrest := ih (w.stage batch key d).1 adv advTrail stack hadv hload hquiet
      (w.stage batch key d).2 w
    refine .cons ?_ hrest
    obtain ⟨addon, frames, hstack⟩ := hload inLoad
    show Move ⟨stack batch, w⟩ (.staged key d (w.stage batch key d).1)
      ⟨stack (w.stage batch key d).2, w⟩
    rw [hstack, hstack]
    exact .stage frames addon batch w key d
  | staged inLoad key next ih => exact ih _ adv advTrail stack hadv hload hquiet batch w
  | observe next ih =>
    exact .cons (.observe _) (ih _ adv advTrail stack hadv hload hquiet batch w)
  | listen listener next ihl ih =>
    exact .cons (.listen _ listener) (ih adv advTrail stack hadv hload hquiet batch _)
  | load addon count modules next ihm ih =>
    let traced : List (Traced σ) := List.ofFn fun i =>
      ⟨(modules i).runWith adv.nested,
        (modules i).trailWith adv.nested advTrail.nested fun b => .load addon b :: stack batch⟩
    have hruns : traced.map Traced.run = List.ofFn fun i => (modules i).runWith adv.nested := by
      rw [List.map_ofFn]
      rfl
    have hfollows : ∀ m ∈ traced, m.Follows (stack batch) addon := by
      intro m hm batch' w'
      obtain ⟨i, rfl⟩ := List.mem_ofFn.mp hm
      refine ihm i adv.nested advTrail.nested (fun b => .load addon b :: stack batch)
        (fun h => hadv _) ?_ ?_ batch' w'
      · exact fun _ => ⟨addon, stack batch, fun _ => rfl⟩
      · intro h b
        exact hquiet (Scope.advances_of_nested h) batch
    refine .append (Session.moves_loadTrail hfollows w) ?_
    -- running the callback takes the runs of the modules without their trails
    rw [hruns]
    exact ih _ adv advTrail stack hadv hload hquiet batch _
  | advance allowed target next ih =>
    exact .append (hadv allowed target _ w (hquiet allowed batch))
      (ih _ adv advTrail stack hadv hload hquiet batch _)

/-! ### The phase during notifications -/

theorem Session.phase_conclude (s : Session σ) (addon : Addon) (count : Nat) (batch : Batch) :
    (s.conclude addon count batch).2.engine.phase = s.engine.phase := by
  rcases s.conclude_cases addon count batch with
    ⟨-, -, h⟩ | ⟨-, _, -, -, h⟩ | ⟨-, _, -, -, h⟩
  · rw [h]
    rfl
  · rw [h]
    rfl
  · rw [h]
    rfl

theorem Routine.phase_runAll {modules : List (Routine σ)}
    (h : ∀ m ∈ modules, ∀ batch s, (m batch s).session.engine.phase = s.engine.phase)
    (batch : Batch) (s : Session σ) :
    (runAll modules batch s).session.engine.phase = s.engine.phase := by
  induction modules generalizing batch s with
  | nil => rfl
  | cons m rest ih =>
    rw [List.forall_mem_cons] at h
    have hm := h.1 batch s
    rw [runAll]
    rcases hr : m batch s with ⟨e | ⟨⟩, batch', s'⟩
    · rw [hr] at hm
      exact hm
    · rw [hr] at hm
      exact (ih h.2 batch' s').trans hm

theorem Session.phase_load {modules : List (Routine σ)}
    (h : ∀ m ∈ modules, ∀ batch s, (m batch s).session.engine.phase = s.engine.phase)
    (s : Session σ) (addon : Addon) :
    (s.load addon modules).2.engine.phase = s.engine.phase := by
  rw [load]
  split
  · rfl
  · split
    · rfl
    · have hrun := Routine.phase_runAll h .empty (s.setEngine (s.engine.reserve addon.name))
      rcases hr : Routine.runAll modules .empty (s.setEngine (s.engine.reserve addon.name)) with
        ⟨e | ⟨⟩, batch, s'⟩
      · rw [hr] at hrun
        exact hrun
      · rw [hr] at hrun
        exact (phase_conclude s' addon modules.length batch).trans hrun

/-- A callback changes the phase only by moving the engine on. -/
theorem Callback.phase_runWith {s : Scope} (c : Callback σ s) (adv : Advance σ s)
    (hadv : ∀ h target w, (adv h target w).2.engine.phase = w.engine.phase) (batch : Batch)
    (w : Session σ) : (c.runWith adv batch w).session.engine.phase = w.engine.phase := by
  induction c generalizing batch w with
  | done outcome => rfl
  | «recall» next ih => exact ih _ adv hadv batch w
  | remember memory next ih => exact ih adv hadv batch _
  | build draft next ih => exact ih _ adv hadv batch _
  | stage inLoad key d next ih => exact ih _ adv hadv _ w
  | staged inLoad key next ih => exact ih _ adv hadv batch w
  | observe next ih => exact ih _ adv hadv batch w
  | listen listener next ihl ih => exact ih adv hadv batch _
  | load addon count modules next ihm ih =>
    refine (ih _ adv hadv batch _).trans (Session.phase_load ?_ w addon)
    intro m hm batch' w'
    obtain ⟨i, rfl⟩ := List.mem_ofFn.mp hm
    exact ihm i adv.nested (fun h => hadv _) batch' w'
  | advance allowed target next ih =>
    exact (ih _ adv hadv batch _).trans (hadv allowed target w)

/-- Telling a listener of a phase does not change the phase. -/
theorem Session.phase_tell (s : Session σ) (phase : Phase) (l : Listener σ) :
    (s.tell phase l).engine.phase = s.engine.phase :=
  Callback.phase_runWith (l phase) _ (fun h => nomatch h) .empty s

theorem Session.phase_foldl_tell (s : Session σ) (phase : Phase) (ls : List (Listener σ)) :
    (ls.foldl (fun s l => s.tell phase l) s).engine.phase = s.engine.phase := by
  induction ls generalizing s with
  | nil => rfl
  | cons l rest ih => exact (ih _).trans (s.phase_tell phase l)

/-! ### Transitions -/

namespace Session

theorem moves_tellTrail (s : Session σ) (frames : List Frame) (l : Listener σ) :
    Moves ⟨frames, s⟩ (s.tellTrail frames s.engine.phase l)
      ⟨frames, s.tell s.engine.phase l⟩ := by
  refine .cons (.tell ⟨frames, s⟩ l) (.append ?_ (.single (.hear frames s.engine.phase _)))
  exact Callback.moves_trailWith (l s.engine.phase) _ _ (fun _ => .notice s.engine.phase :: frames)
    (fun h => nomatch h) (fun h => nomatch h) (fun h => nomatch h) .empty s

theorem moves_tellAllTrail (frames : List Frame) (phase : Phase) (ls : List (Listener σ))
    (s : Session σ) (hphase : s.engine.phase = phase) :
    Moves ⟨frames, s⟩ (tellAllTrail frames phase ls s)
      ⟨frames, ls.foldl (fun s l => s.tell phase l) s⟩ := by
  induction ls generalizing s with
  | nil => exact .nil _
  | cons l rest ih =>
    have htell := s.moves_tellTrail frames l
    rw [hphase] at htell
    exact htell.append (ih _ ((s.phase_tell phase l).trans hphase))

/-- A phase that was entered is the current one. -/
theorem phase_enter {s : Session σ} {next : Phase} (h : (s.enter next).1 = .ok ()) :
    (s.enter next).2.engine.phase = next := by
  revert h
  rw [enter]
  dsimp only
  split
  · exact fun h => nomatch h
  · exact fun _ => rfl

/-- Phases that are entered one after the other, each the successor of the one before. -/
theorem moves_enterAllTrail {frames : List Frame} (hquiet : frames.any Frame.isNotice = false)
    (phases : List Phase) (s : Session σ)
    (hsteps : (s.engine.phase :: phases).IsChain fun a b => b.index = a.index + 1) :
    Moves ⟨frames, s⟩ (enterAllTrail frames phases s) ⟨frames, (s.enterAll phases).2⟩ := by
  induction phases generalizing s with
  | nil => exact .nil _
  | cons next rest ih =>
    rw [List.isChain_cons_cons] at hsteps
    have henter := Move.enter ⟨frames, s⟩ next hquiet hsteps.1
    have hphase : (s.enter next).1 = .ok () → (s.enter next).2.engine.phase = next := phase_enter
    rw [enterAllTrail, enterAll]
    rcases hr : s.enter next with ⟨e | ⟨⟩, s'⟩
    · rw [hr] at henter
      exact .cons henter (.nil _)
    · rw [hr] at henter hphase
      have hnext : s'.engine.phase = next := hphase rfl
      have htold : (s'.announce next).engine.phase = next :=
        (phase_foldl_tell s' next s'.listeners).trans hnext
      refine .cons henter (.append (moves_tellAllTrail frames next s'.listeners s' hnext) ?_)
      exact ih (s'.announce next) (by rw [htold]; exact hsteps.2)

end Session

/-- The phases on the way to a later one follow each other without a gap. -/
theorem Phase.isChain_pathTo (a b : Phase) :
    (a :: a.pathTo b).IsChain fun p q => q.index = p.index + 1 := by
  cases a <;> cases b <;> decide

theorem Session.moves_advanceTrail {frames : List Frame}
    (hquiet : frames.any Frame.isNotice = false) (target : Phase) (s : Session σ) :
    Moves ⟨frames, s⟩ (s.advanceTrail frames target) ⟨frames, (s.advance target).2⟩ := by
  rw [advanceTrail, advance]
  by_cases hback : target ≤ s.engine.phase
  · rw [if_pos hback, if_pos hback]
    exact .single (.advance _ target _)
  · rw [if_neg hback, if_neg hback]
    exact .append (moves_enterAllTrail hquiet _ s (Phase.isChain_pathTo _ _))
      (.single (.advance _ target _))

/-! ### Callbacks, loads and lives -/

/-- The trail of a callback of any scope is made of moves. -/
theorem Callback.moves_trail {s : Scope} (c : Callback σ s) (stack : Batch → List Frame)
    (hload : s.stages = true → ∃ addon frames, ∀ b, stack b = .load addon b :: frames)
    (hquiet : s.advances = true → ∀ b, (stack b).any Frame.isNotice = false)
    (batch : Batch) (w : Session σ) :
    Moves ⟨stack batch, w⟩ (c.trail stack batch w)
      ⟨stack (c.run batch w).batch, (c.run batch w).session⟩ :=
  c.moves_trailWith _ _ stack
    (fun _ target _ w h => Session.moves_advanceTrail h target w) hload hquiet batch w

/-- Modules of the right scope follow the load that runs them. -/
theorem Callback.follows_traced {s : Scope} (c : Callback σ s) {frames : List Frame}
    (hquiet : s.advances = true → frames.any Frame.isNotice = false) (addon : Addon) :
    (c.traced frames addon).Follows frames addon :=
  c.moves_trail (fun batch => .load addon batch :: frames) (fun _ => ⟨addon, frames, fun _ => rfl⟩)
    fun h _ => hquiet h

/-- Only while no listener is being told do modules have the scope that moves the engine on. -/
theorem Frame.quiet_of_scope {frames : List Frame} (h : (scope frames).advances = true) :
    frames.any isNotice = false := by
  rw [scope] at h
  cases hany : frames.any isNotice with
  | false => rfl
  | true =>
    rw [hany] at h
    cases h

namespace Session

theorem moves_registerAddonTrail (s : Session σ) (addon : Addon) (modules : List (Module σ)) :
    Moves ⟨[], s⟩ (s.registerAddonTrail addon modules)
      ⟨[], (s.registerAddon addon modules).2⟩ := by
  have hruns : (modules.map fun m => Callback.traced m [] addon).map Traced.run =
      modules.map Module.run := by
    rw [List.map_map]
    rfl
  rw [registerAddonTrail, registerAddon, ← hruns]
  refine moves_loadTrail (fun m hm => ?_) s
  obtain ⟨c, -, rfl⟩ := List.mem_map.mp hm
  exact c.follows_traced (fun _ => rfl) addon

theorem moves_loadEachTrail (xs : List (Submission σ)) (s : Session σ) :
    Moves ⟨[], s⟩ (loadEachTrail xs s) ⟨[], (s.loadEach xs).2⟩ := by
  induction xs generalizing s with
  | nil => exact .nil _
  | cons x rest ih =>
    have hload := s.moves_registerAddonTrail x.addon x.modules
    rw [loadEachTrail, loadEach]
    rcases hr : s.registerAddon x.addon x.modules with ⟨e | ⟨⟩, s'⟩
    · rw [hr] at hload
      exact hload.append (.nil _)
    · rw [hr] at hload
      exact hload.append (ih s')

/-- The trail of a request is made of moves, from one session to the next. -/
theorem moves_serveTrail (s : Session σ) (r : Request σ) :
    Moves ⟨[], s⟩ (s.serveTrail r) ⟨[], s.serve r⟩ := by
  cases r with
  | build draft => exact .single (.build _ draft)
  | remember memory => exact .single (.remember _ memory)
  | listen listener => exact .single (.listen _ listener)
  | load addon modules => exact s.moves_registerAddonTrail addon modules
  | loadSubmitted xs =>
    have hsession : (s.loadSubmitted xs).2 = (s.loadEach (Submission.ordered xs)).2 := by
      rw [loadSubmitted]
      rcases s.loadEach (Submission.ordered xs) with ⟨e | ⟨⟩, s'⟩
      · rfl
      · rfl
    show Moves ⟨[], s⟩ _ ⟨[], (s.loadSubmitted xs).2⟩
    rw [hsession]
    exact moves_loadEachTrail _ s
  | advance target => exact moves_advanceTrail rfl target s

theorem moves_serveAllTrail (requests : List (Request σ)) (s : Session σ) :
    Moves ⟨[], s⟩ (serveAllTrail requests s) ⟨[], s.serveAll requests⟩ := by
  induction requests generalizing s with
  | nil => exact .nil _
  | cons r rest ih => exact (s.moves_serveTrail r).append (ih (s.serve r))

/-- **A life is made of moves.** They lead from an engine in which nothing has happened to the one
that the requests leave, with nothing under way. -/
theorem moves_life (core : Addon) (modules : List (Module σ)) (memory : σ)
    (requests : List (Request σ)) :
    Moves ⟨[], start core memory⟩ (life core modules memory requests)
      ⟨[], (start core memory).serveAll (.load core modules :: requests)⟩ :=
  moves_serveAllTrail _ _

end Session

end Phrasebook
