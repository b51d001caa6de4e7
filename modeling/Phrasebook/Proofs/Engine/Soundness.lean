import Phrasebook.Proofs.Engine.Phases
import Phrasebook.Proofs.Engine.Reservations
import Phrasebook.Proofs.Registry.Atomicity
/-!
# Phrasebook.Proofs.Engine.Soundness

What holds of an engine at any time, also from inside a callback.

A situation is **sound** (`Situation.Sound`) if its registry is, if phase and registry go together
(`Engine.Aligned`), if the names are booked (`Situation.Booked`), and if everything that the loads
in flight have staged could be committed as far as kinds go. Every move keeps this (`Move.sound`).

Descriptors come from builds. Those of a trail are built one after the other from one supply
(`Moves.exists_builds_eq`), so their ids tell them apart. A trail is **genuine** if all that is
staged in it was built in it; a descriptor cannot be made in any other way.
-/

namespace Phrasebook

variable {σ : Type} {D : Descriptor → Prop}

/-! ### Builds -/

namespace Moment

/-- The descriptor that has just been built. -/
def built? (m : Moment σ) : Option Descriptor :=
  match m.incident with
  | .built (.ok d) => some d
  | _ => none

/-- The descriptor that was just to be staged. -/
def staged? (m : Moment σ) : Option Descriptor :=
  match m.incident with
  | .staged _ d _ => some d
  | _ => none

end Moment

/-- What the incident stages, if it stages anything, is in `D`. -/
def Incident.Stages (D : Descriptor → Prop) (i : Incident σ) : Prop :=
  ∀ key d answer, i = .staged key d answer → D d

namespace Trail

/-- The descriptors that are built in a trail, in order. -/
def builds (trail : Trail σ) : List Descriptor := trail.filterMap Moment.built?

/-- The descriptors that are staged in a trail, in order, also those that are refused. -/
def stagings (trail : Trail σ) : List Descriptor := trail.filterMap Moment.staged?

/-- All that is staged in the trail is built in it. -/
def Genuine (trail : Trail σ) : Prop := stagings trail ⊆ builds trail

theorem Genuine.stages {trail : Trail σ} (h : Genuine trail) :
    ∀ m ∈ trail, m.incident.Stages fun d => d ∈ builds trail := by
  intro m hm key d answer hi
  refine h (List.mem_filterMap.mpr ⟨m, hm, ?_⟩)
  rw [Moment.staged?, hi]

end Trail

namespace Session

@[simp] theorem supply_conclude (s : Session σ) (addon : Addon) (count : Nat) (batch : Batch) :
    (s.conclude addon count batch).2.supply = s.supply := by
  rw [conclude, commit]
  cases s.engine.accepts with
  | false => rfl
  | true => cases (s.engine.registry.commit batch).answer <;> rfl

@[simp] theorem supply_enter (s : Session σ) (next : Phase) :
    (s.enter next).2.supply = s.supply := by
  rw [enter]
  dsimp only
  split <;> rfl

end Session

/-- A move is a build, or it builds nothing and leaves the supply alone. -/
theorem Move.build_cases {x y : Situation σ} {i : Incident σ} (h : Move x i y) :
    (∃ draft, i = .built (x.session.build draft).1 ∧ y.session = (x.session.build draft).2) ∨
      ((∀ answer, i ≠ .built answer) ∧ y.session.supply = x.session.supply) := by
  cases h with
  | build _ draft => exact Or.inl ⟨draft, rfl, rfl⟩
  | conclude frames addon batch s count =>
    exact Or.inr ⟨fun _ hi => (nomatch hi), s.supply_conclude addon count batch⟩
  | enter _ next hquiet hnext =>
    exact Or.inr ⟨fun _ hi => (nomatch hi), x.session.supply_enter next⟩
  | remember | observe | listen | stage | rejectClosed | rejectDuplicate | begin | fail | tell
  | hear | advance => exact Or.inr ⟨fun _ hi => (nomatch hi), rfl⟩

/-- The builds of a trail are made one after the other. -/
theorem Moves.exists_builds_eq {x y : Situation σ} {trail : Trail σ} (h : Moves x trail y) :
    ∃ drafts, Trail.builds trail = Draft.produce drafts x.session.supply := by
  -- the supply of each situation is what the builds before it have left
  induction h with
  | nil => exact ⟨[], rfl⟩
  | @cons x y m trail move _ ih =>
    obtain ⟨drafts, hdrafts⟩ := ih
    rw [Trail.builds, List.filterMap_cons, Moment.built?, ← Trail.builds, hdrafts]
    rcases move.build_cases with ⟨draft, hi, hsession⟩ | ⟨hi, hsupply⟩
    · refine ⟨draft :: drafts, ?_⟩
      rw [hi, hsession, Session.build, Draft.produce]
      rcases draft.build x.session.supply with ⟨e | d, supply⟩
      · rfl
      · rfl
    · refine ⟨drafts, ?_⟩
      rw [hsupply]
      split
      next hnone => rfl
      next d hsome =>
        split at hsome
        next d' hbuilt => exact absurd hbuilt (hi _)
        next => cases hsome

/-- No two descriptors that are built in a trail share an id. -/
theorem Moves.toldApart_builds {x y : Situation σ} {trail : Trail σ} (h : Moves x trail y) :
    ToldApart fun d => d ∈ Trail.builds trail := by
  obtain ⟨drafts, hdrafts⟩ := h.exists_builds_eq
  rw [hdrafts]
  exact Draft.toldApart_produce drafts _

/-! ### The invariant -/

/-- An entry of a batch that can be committed as far as its kind goes. -/
def Staged.Fits (D : Descriptor → Prop) (x : Staged) : Prop := D x.descriptor ∧ x.Accepted

/-- Of a load: all that its modules have staged fits. -/
def Frame.Fits (D : Descriptor → Prop) : Frame → Prop
  | load _ batch => ∀ e ∈ batch.entries, e.Fits D
  | notice _ => True

/-- What holds of a situation at any time, if all that is staged is in `D`. -/
structure Situation.Sound (D : Descriptor → Prop) (x : Situation σ) : Prop where
  registry : x.engine.registry.Sound D
  aligned : x.engine.Aligned
  booked : x.Booked
  fits : ∀ frame ∈ x.frames, frame.Fits D

theorem Session.sound_start (D : Descriptor → Prop) (core : Addon) (memory : σ) :
    Situation.Sound D ⟨[], start core memory⟩ where
  registry := Registry.sound_empty D
  aligned := Engine.aligned_start core
  booked := booked_start core memory
  fits _ h := absurd h List.not_mem_nil

/-! ### Every move keeps it -/

/-- What has been staged can be committed as far as kinds go. -/
theorem Session.fits_stage (s : Session σ) {batch : Batch} {key : Key} {d : Descriptor} (hd : D d)
    (hbatch : ∀ e ∈ batch.entries, e.Fits D) : ∀ e ∈ (s.stage batch key d).2.entries, e.Fits D := by
  rw [stage]
  split
  · exact hbatch
  · exact Batch.forall_mem_push hbatch fun hacc => ⟨hd, hacc⟩

namespace Move

variable {x y : Situation σ} {i : Incident σ}

/-- The registry stays sound. Only the end of a load and the last phase touch it. -/
theorem registry_sound (h : Move x i y) (hD : ToldApart D) (hx : x.Sound D) :
    y.engine.registry.Sound D := by
  cases h with
  | conclude frames addon batch s count =>
    have hfits : ∀ e ∈ batch.entries, e.Fits D := hx.fits _ List.mem_cons_self
    have hcommit := hx.registry.commit hD batch fun e he => (hfits e he).1
    rw [Situation.engine]
    rcases s.conclude_cases addon count batch with
      ⟨-, -, hs⟩ | ⟨-, e, -, -, hs⟩ | ⟨-, n, -, -, hs⟩
    · rw [hs]
      exact hx.registry
    · rw [hs]
      exact hcommit.sound
    · rw [hs]
      exact hcommit.sound
  | enter _ next hquiet hnext =>
    have hopen := hx.aligned.open_of_next hnext
    obtain ⟨r, hr, -, -, hengine⟩ := Session.enter_of_open (P := Registry.Sound D) next
      (hx.registry.isOpen hopen) hopen hx.registry hx.registry.close.1
    rw [Situation.engine, hengine]
    exact hr
  | build | remember | observe | listen | stage | rejectClosed | rejectDuplicate | begin | fail
  | tell | hear | advance => exact hx.registry

/-- What the loads in flight have staged goes on to fit. -/
theorem fits (h : Move x i y) (hx : x.Sound D) (hstaged : i.Stages D) :
    ∀ frame ∈ y.frames, frame.Fits D := by
  cases h with
  | stage frames addon batch s key d =>
    obtain ⟨hbatch, hrest⟩ := List.forall_mem_cons.mp hx.fits
    exact List.forall_mem_cons.mpr ⟨s.fits_stage (hstaged key d _ rfl) hbatch, hrest⟩
  | begin _ addon hphase hfree =>
    refine List.forall_mem_cons.mpr ⟨?_, hx.fits⟩
    exact fun _ he => absurd he List.not_mem_nil
  | tell _ l => exact List.forall_mem_cons.mpr ⟨trivial, hx.fits⟩
  | fail | conclude | hear => exact (List.forall_mem_cons.mp hx.fits).2
  | build | remember | observe | listen | rejectClosed | rejectDuplicate | enter | advance =>
    exact hx.fits

/-- **One move** keeps a situation sound, if what it stages is in `D`. -/
theorem sound (h : Move x i y) (hD : ToldApart D) (hx : x.Sound D)
    (hstaged : i.Stages D) : y.Sound D where
  registry := h.registry_sound hD hx
  aligned := h.aligned hx.aligned
  booked := h.booked hx.booked
  fits := h.fits hx hstaged

end Move

/-- **Many moves** keep a situation sound. -/
theorem Moves.sound {x y : Situation σ} {trail : Trail σ} (h : Moves x trail y) (hD : ToldApart D)
    (hx : x.Sound D) (hstaged : ∀ m ∈ trail, m.incident.Stages D) : y.Sound D :=
  h.invariant (fun _ _ _ move hi hx => move.sound hD hx hi) hstaged hx

/-! ### Incidents that change what can be read -/

/-- The lists of all keys, the loaded addons and the phase are the same. -/
structure Engine.Agree (e e' : Engine) : Prop where
  syntaxes : ∀ key, (e'.syntaxes key).entries = (e.syntaxes key).entries
  loaded : e'.loaded = e.loaded
  phase : e'.phase = e.phase

namespace Engine.Agree

variable {e e' e'' : Engine}

theorem refl (e : Engine) : e.Agree e := ⟨fun _ => rfl, rfl, rfl⟩

theorem trans (h : e.Agree e') (h' : e'.Agree e'') : e.Agree e'' where
  syntaxes key := (h'.syntaxes key).trans (h.syntaxes key)
  loaded := h'.loaded.trans h.loaded
  phase := h'.phase.trans h.phase

theorem of_listed (hlisted : e'.registry.slots.listed = e.registry.slots.listed)
    (hloaded : e'.loaded = e.loaded) (hphase : e'.phase = e.phase) : e.Agree e' := by
  refine ⟨fun key => ?_, hloaded, hphase⟩
  rw [Engine.syntaxes, Engine.syntaxes, Registry.entries_syntaxes, Registry.entries_syntaxes,
    hlisted]

end Engine.Agree

/-- A load that has failed at the end leaves the lists, the loaded addons and the phase. -/
theorem Session.agree_conclude {s : Session σ} (hs : s.engine.registry.Sound D) (hD : ToldApart D)
    {batch : Batch} (hfits : ∀ e ∈ batch.entries, e.Fits D) {addon : Addon} {count : Nat}
    {e : EngineError} (he : (s.conclude addon count batch).1 = .error e) :
    s.engine.Agree (s.conclude addon count batch).2.engine := by
  have hcommit := hs.commit hD batch fun e he => (hfits e he).1
  rcases s.conclude_cases addon count batch with
    ⟨-, -, hengine⟩ | ⟨-, e', hanswer, -, hengine⟩ | ⟨-, n, -, hok, -⟩
  · rw [hengine]
    exact ⟨fun _ => rfl, rfl, rfl⟩
  · rw [hengine]
    exact .of_listed (hcommit.unchanged e' hanswer) rfl rfl
  · rw [hok] at he
    cases he

namespace Move

variable {x y : Situation σ} {i : Incident σ}

end Move

namespace Moves

variable {x y : Situation σ} {trail : Trail σ}

end Moves

end Phrasebook
