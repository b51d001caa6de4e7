import Phrasebook.Proofs.Engine.Moves
import Phrasebook.Proofs.Registry.Listing
/-!
# Phrasebook.Proofs.Engine.Ended

Nothing lands once registration has ended.

Registration ends for good, because phases only move forward. From then on no load can start, and
one that is in flight finds at its second look at the phase that it came too late. Freezing the
registers changes nothing that can be read. So a move from a situation in which registration has
ended leads to one with the same contents (`Move.staysEnded`), and what is in flight comes down from
the stack with an error (`Move.loading_cases`). `Session.settled_of_ended` says so of every later
moment of a life.
-/

namespace Phrasebook

variable {σ : Type}

/-! ### What can be read -/

/-- All that loads have filled reads the same in both: the list of every key, the names of the keys
and the loaded addons. -/
structure Engine.SameContents (e e' : Engine) : Prop where
  syntaxes : ∀ key, e'.syntaxes key = e.syntaxes key
  keys : e'.view.keys = e.view.keys
  loaded : e'.loaded = e.loaded

namespace Engine.SameContents

variable {e e' e'' : Engine}

theorem refl (e : Engine) : e.SameContents e := ⟨fun _ => rfl, rfl, rfl⟩

theorem trans (h : e.SameContents e') (h' : e'.SameContents e'') : e.SameContents e'' where
  syntaxes key := (h'.syntaxes key).trans (h.syntaxes key)
  keys := h'.keys.trans h.keys
  loaded := h'.loaded.trans h.loaded

end Engine.SameContents

/-! ### Moves after the end of registration -/

theorem Phase.acceptsRegistration_eq_false {p : Phase} :
    p.acceptsRegistration = false ↔ 2 ≤ p.index := by
  cases p <;> decide

namespace Session

/-- A phase is entered, or closing was refused and the phase stays. Either way what can be read
stays as it is. -/
theorem enter_cases (s : Session σ) (next : Phase) :
    s.engine.SameContents (s.enter next).2.engine ∧
      ((s.enter next).2.engine.phase = next ∨
        (s.enter next).2.engine.phase = s.engine.phase) := by
  rw [enter]
  by_cases hlast : next = .closedRegistration
  · rw [if_pos hlast]
    obtain ⟨hsyntaxes, hkeys⟩ := s.engine.registry.contents_close
    rcases hr : s.engine.registry.close with ⟨e | ⟨⟩, r, log⟩
    · rw [hr] at hsyntaxes hkeys
      exact ⟨⟨hsyntaxes, hkeys, rfl⟩, Or.inr rfl⟩
    · rw [hr] at hsyntaxes hkeys
      exact ⟨⟨hsyntaxes, hkeys, rfl⟩, Or.inl rfl⟩
  · rw [if_neg hlast]
    exact ⟨⟨fun _ => rfl, rfl, rfl⟩, Or.inl rfl⟩

end Session

/-- What holds after a move from where registration has ended. -/
structure StaysEnded (x : Situation σ) (i : Incident σ) (y : Situation σ) : Prop where
  ended : y.engine.accepts = false
  same : x.engine.SameContents y.engine
  refused : ∀ addon answer, i = .returned addon answer → ∃ e, answer = .error e

/-- **One move.** Registration does not begin again, what can be read stays as it is, and a load
that returns was refused. -/
theorem Move.staysEnded {x y : Situation σ} {i : Incident σ} (h : Move x i y)
    (hended : x.engine.accepts = false) : StaysEnded x i y := by
  cases h with
  | begin _ addon hphase hfree => exact absurd (hended.symm.trans hphase) Bool.false_ne_true
  | conclude frames addon batch s count =>
    rcases s.conclude_cases addon count batch with ⟨-, hanswer, hengine⟩ | ⟨hphase, -⟩ | ⟨hphase, -⟩
    · rw [hanswer]
      refine ⟨?_, ?_, fun _ _ hi => ?_⟩
      · rw [Situation.engine, hengine]
        exact hended
      · rw [Situation.engine, Situation.engine, hengine]
        exact ⟨fun _ => rfl, rfl, rfl⟩
      · cases hi
        exact ⟨_, rfl⟩
    · exact absurd (hended.symm.trans hphase) Bool.false_ne_true
    · exact absurd (hended.symm.trans hphase) Bool.false_ne_true
  | fail | rejectClosed | rejectDuplicate =>
    refine ⟨hended, ⟨fun _ => rfl, rfl, rfl⟩, fun _ _ hi => ?_⟩
    cases hi
    exact ⟨_, rfl⟩
  | enter _ next hquiet hnext =>
    obtain ⟨hsame, hphase⟩ := x.session.enter_cases next
    refine ⟨?_, hsame, fun _ _ hi => nomatch hi⟩
    have hlate : 2 ≤ x.engine.phase.index := Phase.acceptsRegistration_eq_false.mp hended
    refine Phase.acceptsRegistration_eq_false.mpr ?_
    show 2 ≤ (x.session.enter next).2.engine.phase.index
    -- the next phase is later still, and if closing was refused the phase stays
    rcases hphase with h | h
    · rw [h]
      omega
    · rw [h]
      exact hlate
  | build | remember | observe | listen | stage | tell | hear | advance =>
    exact ⟨hended, ⟨fun _ => rfl, rfl, rfl⟩, fun _ _ hi => nomatch hi⟩

/-- **Many moves.** Every moment of them has the contents from before. -/
theorem Moves.staysEnded {x y : Situation σ} {trail : Trail σ} (h : Moves x trail y)
    (hended : x.engine.accepts = false) :
    ∀ m ∈ trail, StaysEnded x m.incident m.situation := by
  induction h with
  | nil => exact fun _ hm => absurd hm List.not_mem_nil
  | cons move _ ih =>
    have hfirst := move.staysEnded hended
    refine List.forall_mem_cons.mpr ⟨hfirst, fun m hm => ?_⟩
    have hlater := ih hfirst.ended m hm
    exact ⟨hlater.ended, hfirst.same.trans hlater.same, hlater.refused⟩

/-! ### Loads in flight -/

/-- A load that is in flight stays so, or the move ends it. -/
theorem Move.loading_cases {x y : Situation σ} {i : Incident σ} (h : Move x i y) {addon : Addon}
    (hload : addon ∈ Frame.loading x.frames) :
    addon ∈ Frame.loading y.frames ∨ ∃ answer, i = .returned addon answer := by
  cases h with
  | begin _ other hphase hfree => exact Or.inl (List.mem_cons_of_mem _ hload)
  | fail frames other batch s e =>
    rcases List.mem_cons.mp hload with rfl | hload
    · exact Or.inr ⟨_, rfl⟩
    · exact Or.inl hload
  | conclude frames other batch s count =>
    rcases List.mem_cons.mp hload with rfl | hload
    · exact Or.inr ⟨_, rfl⟩
    · exact Or.inl hload
  | build | remember | observe | listen | stage | rejectClosed | rejectDuplicate | enter | tell
  | hear | advance => exact Or.inl hload

/-- Where nothing is under way in the end, what was in flight has returned. -/
theorem Moves.returned {x y : Situation σ} {trail : Trail σ} (h : Moves x trail y)
    (hend : y.frames = []) {addon : Addon} (hload : addon ∈ Frame.loading x.frames) :
    ∃ m ∈ trail, ∃ answer, m.incident = .returned addon answer := by
  induction h with
  | nil =>
    rw [hend] at hload
    exact absurd hload List.not_mem_nil
  | @cons x y m trail move _ ih =>
    rcases move.loading_cases hload with hstill | ⟨answer, hanswer⟩
    · obtain ⟨m', hm', hreturned⟩ := ih hend hstill
      exact ⟨m', List.mem_cons_of_mem _ hm', hreturned⟩
    · exact ⟨m, List.mem_cons_self, answer, hanswer⟩

/-! ### Lives -/

namespace Session

/-- **Nothing lands once registration has ended.** From any moment on at which it has, no list of a
key, no name of a key and no loaded addon comes or goes, every load that returns returns an error,
and those that are in flight at that moment do return. -/
theorem settled_of_ended {core : Addon} {modules : List (Module σ)} {memory : σ}
    {requests : List (Request σ)} {before after : Trail σ} {m : Moment σ}
    (hlife : life core modules memory requests = before ++ m :: after)
    (hended : m.situation.engine.phase = .endedRegistration ∨
      m.situation.engine.phase = .closedRegistration) :
    (∀ m' ∈ after,
      (∀ key, m'.situation.engine.syntaxes key = m.situation.engine.syntaxes key) ∧
      m'.situation.engine.view.keys = m.situation.engine.view.keys ∧
      m'.situation.engine.loaded = m.situation.engine.loaded ∧
      ∀ addon answer, m'.incident = .returned addon answer → ∃ e, answer = .error e) ∧
    ∀ addon ∈ Frame.loading m.situation.frames,
      ∃ m' ∈ after, ∃ e, m'.incident = .returned addon (.error e) := by
  have hmoves := moves_life core modules memory requests
  rw [hlife] at hmoves
  have hafter := hmoves.split.2
  have haccepts : m.situation.engine.accepts = false := by
    rw [Engine.accepts]
    rcases hended with h | h
    · rw [h]
      rfl
    · rw [h]
      rfl
  have hsettled := hafter.staysEnded haccepts
  refine ⟨fun m' hm' => ?_, fun addon haddon => ?_⟩
  · obtain ⟨-, hsame, hrefused⟩ := hsettled m' hm'
    exact ⟨hsame.syntaxes, hsame.keys, hsame.loaded, hrefused⟩
  · obtain ⟨m', hm', answer, hanswer⟩ := hafter.returned rfl haddon
    obtain ⟨e, rfl⟩ := (hsettled m' hm').refused addon answer hanswer
    exact ⟨m', hm', e, hanswer⟩

/-- A module moves the engine on while its own load is in flight. The load is discarded. -/
theorem settled_of_ended_by_module :
    let requests : List (Request Unit) :=
      [.load (.ofName "Slow") [.advance rfl .endedRegistration fun _ => .done (.ok ())]]
    ∃ before m after, life (.ofName "Core") [] () requests = before ++ m :: after ∧
      m.situation.engine.phase = .endedRegistration ∧
      ∃ m' ∈ after, ∃ e, m'.incident = .returned (.ofName "Slow") (.error e) := by
  intro requests
  let trail := life (.ofName "Core") [] () requests
  have hlength : 4 < trail.length := by decide
  have hlife : trail = trail.take 4 ++ trail[4] :: trail.drop 5 := by
    rw [← List.drop_eq_getElem_cons hlength, List.take_append_drop]
  have hphase : trail[4].situation.engine.phase = .endedRegistration := rfl
  obtain ⟨-, hflight⟩ := settled_of_ended hlife (Or.inl hphase)
  exact ⟨_, _, _, hlife, hphase, hflight (.ofName "Slow") List.mem_cons_self⟩

end Session

end Phrasebook
