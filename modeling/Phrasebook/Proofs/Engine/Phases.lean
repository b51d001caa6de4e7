import Phrasebook.Proofs.Engine.Ended
import Phrasebook.Proofs.Registry.Freeze
/-!
# Phrasebook.Proofs.Engine.Phases

The phase of an engine and its registry go together.

The registry is closed on the way into the last phase, and closing has an answer of its own. If it
were ever refused, a transition would end in the middle with the listeners of earlier phases already
told. It is not: the registry is closed in the last phase and in no other (`Engine.Aligned`), every
move keeps this, whatever callbacks do, and so a transition finds the registry open when it comes to
the last phase (`Session.enter_of_aligned`). What is left to decide whether it succeeds is the order
of the phases.

None of this depends on what is registered.
-/

namespace Phrasebook

variable {σ : Type}

/-- The registry is all open or all frozen, and it is closed in the last phase only. -/
structure Engine.Aligned (e : Engine) : Prop where
  gated : e.registry.Gated
  closed_iff : e.registry.closed = true ↔ e.phase = .closedRegistration

theorem Engine.aligned_start (core : Addon) : (Engine.start core).Aligned where
  gated := Registry.gated_empty
  closed_iff := ⟨fun h => (by cases h), fun h => (by cases h)⟩

/-- No phase comes after the last one. -/
theorem Phase.ne_last_of_next {p next : Phase} (hnext : next.index = p.index + 1) :
    p ≠ .closedRegistration := by
  rintro rfl
  cases next <;> cases hnext

theorem Engine.Aligned.open_of_next {e : Engine} (h : e.Aligned) {next : Phase}
    (hnext : next.index = e.phase.index + 1) : e.registry.closed = false :=
  Bool.eq_false_iff.mpr fun hclosed => Phase.ne_last_of_next hnext (h.closed_iff.mp hclosed)

/-- While registration is possible, the registry is open. -/
theorem Engine.Aligned.open_of_accepts {e : Engine} (h : e.Aligned) (haccepts : e.accepts = true) :
    e.registry.closed = false := by
  refine Bool.eq_false_iff.mpr fun hclosed => ?_
  rw [Engine.accepts, h.closed_iff.mp hclosed] at haccepts
  cases haccepts

/-! ### Entering a phase -/

namespace Session

/-- Entering a phase with an open registry succeeds. It changes the registry and the phase only, and
closes the registry if the phase is the last one. -/
theorem enter_of_open {s : Session σ} {P : Registry → Prop} (next : Phase)
    (hopen : s.engine.registry.slots.Open) (hclosed : s.engine.registry.closed = false)
    (hbefore : P s.engine.registry) (hafter : P s.engine.registry.close.registry) :
    ∃ r, P r ∧ (r.closed = true ↔ next = .closedRegistration) ∧ (s.enter next).1 = .ok () ∧
      (s.enter next).2.engine = { s.engine with registry := r, phase := next } := by
  rw [enter]
  by_cases hlast : next = .closedRegistration
  · obtain ⟨total, hclose⟩ := Registry.close_of_open hopen hclosed
    rw [hclose] at hafter
    rw [if_pos hlast, hclose]
    exact ⟨_, hafter, iff_of_true rfl hlast, rfl, rfl⟩
  · rw [if_neg hlast]
    exact ⟨_, hbefore, iff_of_false (by simp [hclosed]) hlast, rfl, rfl⟩

/-- **Entering the next phase** succeeds. -/
theorem enter_of_aligned {s : Session σ} {next : Phase} (h : s.engine.Aligned)
    (hnext : next.index = s.engine.phase.index + 1) :
    (s.enter next).1 = .ok () ∧ (s.enter next).2.engine.phase = next ∧
      (s.enter next).2.engine.Aligned := by
  have hopen := h.open_of_next hnext
  obtain ⟨r, hgated, hclosed, hok, hengine⟩ := enter_of_open next (h.gated.isOpen hopen) hopen
    h.gated (h.gated.close hopen).2.2
  rw [hengine]
  exact ⟨hok, rfl, hgated, hclosed⟩

end Session

/-! ### Moves -/

/-- A registry of the same kind in an engine of the same phase. -/
theorem Engine.Aligned.replace {e e' : Engine} (h : e.Aligned) (hgated : e'.registry.Gated)
    (hclosed : e'.registry.closed = e.registry.closed) (hphase : e'.phase = e.phase) :
    e'.Aligned := by
  refine ⟨hgated, ?_⟩
  rw [hclosed, hphase]
  exact h.closed_iff

namespace Move

variable {x y : Situation σ} {i : Incident σ}

/-- **One move** keeps phase and registry together. -/
theorem aligned (h : Move x i y) (hx : x.engine.Aligned) : y.engine.Aligned := by
  cases h with
  | conclude frames addon batch s count =>
    have hcommit := (hx.gated.perform (.commit batch)).1
    have hclosed := Registry.closed_commit s.engine.registry batch
    rcases s.conclude_cases addon count batch with
      ⟨-, -, hs⟩ | ⟨-, e, -, -, hs⟩ | ⟨-, n, -, -, hs⟩
    · rw [Situation.engine, hs]
      exact ⟨hx.gated, hx.closed_iff⟩
    · rw [Situation.engine, hs]
      exact hx.replace hcommit hclosed rfl
    · rw [Situation.engine, hs]
      exact hx.replace hcommit hclosed rfl
  | enter _ next hquiet hnext => exact (Session.enter_of_aligned hx hnext).2.2
  | build | remember | observe | listen | stage | rejectClosed | rejectDuplicate | begin | fail
  | tell | hear | advance => exact ⟨hx.gated, hx.closed_iff⟩

/-- No move leads back to an earlier phase. -/
theorem phase_le (h : Move x i y) : x.engine.phase ≤ y.engine.phase := by
  cases h with
  | conclude frames addon batch s count =>
    exact Nat.le_of_eq (congrArg Phase.index (s.phase_conclude addon count batch).symm)
  | enter _ next hquiet hnext =>
    rcases (x.session.enter_cases next).2 with hphase | hphase
    · rw [Phase.le_iff, Situation.engine, hphase, hnext]
      exact Nat.le_succ _
    · exact Nat.le_of_eq (congrArg Phase.index hphase.symm)
  | build | remember | observe | listen | stage | rejectClosed | rejectDuplicate | begin | fail
  | tell | hear | advance => exact Nat.le_refl _

end Move

namespace Moves

variable {x y : Situation σ} {trail : Trail σ}

theorem aligned (h : Moves x trail y) (hx : x.engine.Aligned) : y.engine.Aligned :=
  h.preserves (P := fun z => z.engine.Aligned) (fun _ _ _ move => move.aligned) hx

theorem phase_le (h : Moves x trail y) : x.engine.phase ≤ y.engine.phase :=
  h.preserves (P := fun z => x.engine.phase ≤ z.engine.phase)
    (fun _ _ _ move hz => Nat.le_trans hz move.phase_le) (Nat.le_refl _)

/-- Moves lead to each of their moments. -/
theorem upTo (h : Moves x trail y) {m : Moment σ} (hm : m ∈ trail) :
    ∃ before, Moves x before m.situation := by
  obtain ⟨before, after, rfl⟩ := List.append_of_mem hm
  exact ⟨_, h.split.1⟩

/-- The phases of the moments follow each other in order. -/
theorem pairwise_phase (h : Moves x trail y) :
    trail.Pairwise fun m m' => m.situation.engine.phase ≤ m'.situation.engine.phase := by
  induction h with
  | nil => exact .nil
  | cons _ rest ih =>
    refine List.pairwise_cons.mpr ⟨fun m' hm' => ?_, ih⟩
    obtain ⟨_, hbefore⟩ := rest.upTo hm'
    exact hbefore.phase_le

end Moves

/-! ### Transitions -/

theorem Phase.getLast?_pathTo {a b : Phase} (h : a < b) : (a.pathTo b).getLast? = some b := by
  revert h
  cases a <;> cases b <;> decide

namespace Session

/-- Announcing a phase keeps phase and registry together, whatever the listeners do. -/
theorem aligned_announce {s : Session σ} {phase : Phase} (h : s.engine.Aligned)
    (hphase : s.engine.phase = phase) : (s.announce phase).engine.Aligned :=
  (moves_tellAllTrail [] phase s.listeners s hphase).aligned h

/-- All phases of a path are entered. -/
theorem enterAll_of_aligned (phases : List Phase) {s : Session σ} (h : s.engine.Aligned)
    (hsteps : (s.engine.phase :: phases).IsChain fun a b => b.index = a.index + 1) :
    (s.enterAll phases).1 = .ok () ∧
      (s.enterAll phases).2.engine.phase = phases.getLast?.getD s.engine.phase := by
  induction phases generalizing s with
  | nil => exact ⟨rfl, rfl⟩
  | cons next rest ih =>
    rw [List.isChain_cons_cons] at hsteps
    obtain ⟨hok, hphase, haligned⟩ := enter_of_aligned h hsteps.1
    rw [enterAll]
    rcases hr : s.enter next with ⟨e | ⟨⟩, s'⟩
    · rw [hr] at hok
      cases hok
    · rw [hr] at hphase haligned
      have htold : (s'.announce next).engine.phase = next :=
        (phase_foldl_tell s' next s'.listeners).trans hphase
      -- the listeners may do anything but move the engine on, so the path is still the right one
      have hrest := ih (aligned_announce haligned hphase) (by rw [htold]; exact hsteps.2)
      rw [htold] at hrest
      rw [List.getLast?_cons, Option.getD_some]
      exact hrest

theorem advance_of_lt {s : Session σ} {target : Phase} (h : s.engine.Aligned)
    (hlt : s.engine.phase < target) :
    (s.advance target).1 = .ok () ∧ (s.advance target).2.engine.phase = target := by
  have hall := enterAll_of_aligned _ h (Phase.isChain_pathTo s.engine.phase target)
  have hforward : ¬ target ≤ s.engine.phase := Nat.not_le_of_lt hlt
  rw [Phase.getLast?_pathTo hlt] at hall
  rw [advance, if_neg hforward]
  exact hall

/-- A transition that does not lead to a later phase is refused at once. -/
theorem advance_of_not_lt {s : Session σ} {target : Phase} (hlt : ¬ s.engine.phase < target) :
    s.advance target = (.error (.invalidTransition s.engine.phase target), s) ∧
      ∀ frames, s.advanceTrail frames target =
        [⟨.advanced target (.error (.invalidTransition s.engine.phase target)), frames, s⟩] := by
  have hback : target ≤ s.engine.phase := Nat.le_of_not_lt hlt
  have hrefused : s.advance target = (.error (.invalidTransition s.engine.phase target), s) := by
    rw [advance, if_pos hback]
  refine ⟨hrefused, fun frames => ?_⟩
  rw [advanceTrail, hrefused, if_pos hback]
  rfl

/-! ### Lives -/

/-- **Phase and registry agree.** At every moment of a life, from inside callbacks too, the registry
is closed exactly in the last phase, and no later moment has an earlier phase. Wherever a transition
may be asked for, which is while no listener is being told of one, it succeeds exactly if it leads
to a later phase, and ends in that phase. It never ends with an error of the registry. One that does
not lead to a later phase is refused, and then nothing else happens. -/
theorem phase_and_registry_agree (core : Addon) (modules : List (Module σ)) (memory : σ)
    (requests : List (Request σ)) :
    (∀ m ∈ life core modules memory requests,
        m.situation.engine.registry.closed = true ↔
          m.situation.engine.phase = .closedRegistration) ∧
      (life core modules memory requests).Pairwise
        (fun m m' => m.situation.engine.phase ≤ m'.situation.engine.phase) ∧
      ∀ m ∈ life core modules memory requests, m.situation.frames.any Frame.isNotice = false →
        ∀ target, let s := m.situation.session
          ((s.advance target).1 = .ok () ↔ s.engine.phase < target) ∧
          (s.engine.phase < target → (s.advance target).2.engine.phase = target ∧
            ((s.advance target).2.engine.registry.closed = true ↔
              target = .closedRegistration)) ∧
          (∀ e, (s.advance target).1 ≠ .error (.registry e)) ∧
          (¬ s.engine.phase < target →
            s.advance target = (.error (.invalidTransition s.engine.phase target), s) ∧
            s.advanceTrail m.situation.frames target =
              [⟨.advanced target (.error (.invalidTransition s.engine.phase target)),
                m.situation.frames, s⟩]) := by
  have hlife := moves_life core modules memory requests
  have haligned : ∀ m ∈ life core modules memory requests, m.situation.engine.Aligned := by
    intro m hm
    obtain ⟨_, hbefore⟩ := hlife.upTo hm
    exact hbefore.aligned (Engine.aligned_start core)
  refine ⟨fun m hm => (haligned m hm).closed_iff, hlife.pairwise_phase, ?_⟩
  intro m hm hquiet target s
  have hs : s.engine.Aligned := haligned m hm
  by_cases hlt : s.engine.phase < target
  · obtain ⟨hok, hphase⟩ := advance_of_lt hs hlt
    have hend : (s.advance target).2.engine.Aligned :=
      (moves_advanceTrail hquiet target s).aligned hs
    have hclosed := hend.closed_iff
    rw [hphase] at hclosed
    refine ⟨iff_of_true hok hlt, fun _ => ⟨hphase, hclosed⟩, fun e => ?_, fun h => absurd hlt h⟩
    rw [hok]
    exact fun h => by cases h
  · obtain ⟨hrefused, htrail⟩ := advance_of_not_lt hlt
    refine ⟨iff_of_false ?_ hlt, fun h => absurd h hlt, fun e => ?_,
      fun _ => ⟨hrefused, htrail _⟩⟩
    · rw [hrefused]
      exact fun h => by cases h
    · rw [hrefused]
      exact fun h => by cases h

/-- A module has ended registration while its own load is in flight. It could go on and close the
registry, but it cannot go back. -/
theorem phase_and_registry_agree_in_module :
    let requests : List (Request Unit) :=
      [.load (.ofName "Slow") [.advance rfl .endedRegistration fun _ => .done (.ok ())]]
    ∃ m ∈ life (.ofName "Core") [] () requests,
      Frame.loading m.situation.frames = [.ofName "Slow"] ∧
      m.situation.engine.phase = .endedRegistration ∧
      (m.situation.session.advance .closedRegistration).2.engine.registry.closed = true ∧
      (m.situation.session.advance .addonRegistration).1 =
        .error (.invalidTransition .endedRegistration .addonRegistration) := by
  intro requests
  obtain ⟨m, hm, hframes, hphase⟩ : ∃ m ∈ life (.ofName "Core") [] () requests,
      m.situation.frames = [.load (.ofName "Slow") .empty] ∧
        m.situation.engine.phase = .endedRegistration := by
    have hlength : 4 < (life (.ofName "Core") [] () requests).length := by decide
    exact ⟨_, List.getElem_mem hlength, rfl, rfl⟩
  have hquiet : m.situation.frames.any Frame.isNotice = false := by
    rw [hframes]
    rfl
  obtain ⟨-, -, htransition⟩ := phase_and_registry_agree (.ofName "Core") [] () requests
  obtain ⟨-, hforward, -⟩ := htransition m hm hquiet .closedRegistration
  obtain ⟨-, -, -, hback⟩ := htransition m hm hquiet .addonRegistration
  rw [hphase] at hforward hback
  refine ⟨m, hm, by rw [hframes]; rfl, hphase, (hforward (by decide)).2.mpr rfl, ?_⟩
  rw [(hback (by decide)).1]

end Session

end Phrasebook
