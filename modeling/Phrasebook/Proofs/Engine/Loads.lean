import Phrasebook.Proofs.Engine.Soundness
/-!
# Phrasebook.Proofs.Engine.Loads

A load is all or nothing, wherever in a run it is called.

What a load does of its own accord is told apart from what its modules do by calling the engine:
`Situation.runModules` is what the modules leave, and the load adds its registrations and the addon
to that, or nothing (`Situation.Sound.load_cases`). It fails in one of five ways
(`Situation.Fails`). Two of them come before the modules, one comes from a module, and two come
after.

The modules of a load that a listener has called, at any depth, cannot move the engine on. So the
type of modules depends on what is under way.
-/

namespace Phrasebook

variable {σ : Type} {D : Descriptor → Prop}

/-! ### Modules up to the first that fails -/

/-- What a registry gains is listed under the keys that were asked for and all their ancestors. -/
theorem Registry.Gains.mem_syntaxes {r r' : Registry} {entries : List Staged}
    (h : r.Gains (entries.flatMap Staged.places) r') (key : Key) (d : Descriptor) :
    d ∈ (r'.syntaxes key).entries ↔ d ∈ (r.syntaxes key).entries ∨
      ∃ e ∈ entries, e.descriptor = d ∧ ∃ link ∈ e.key.lineage, link.name = key.name := by
  rw [entries_syntaxes, entries_syntaxes, h, List.mem_flatMap]
  exact or_congr_right (exists_congr fun e => and_congr_right fun _ => Staged.mem_places)

/-- A load whose modules have all succeeded comes too late, or its registrations are clear and it
lands, or they are not and it fails. -/
theorem Session.conclude_outcome {s : Session σ} (hs : s.engine.registry.Sound D) (hD : ToldApart D)
    (haligned : s.engine.Aligned) {batch : Batch} (hfits : ∀ e ∈ batch.entries, e.Fits D)
    (addon : Addon) (count : Nat) :
    (s.engine.accepts = true ∧ s.engine.registry.Clear batch.insertions ∧
        (s.conclude addon count batch).1 = .ok () ∧
        (s.conclude addon count batch).2.engine.loaded = s.engine.loaded ++ [addon] ∧
        s.engine.registry.Gains (batch.entries.flatMap Staged.places)
          (s.conclude addon count batch).2.engine.registry) ∨
      (s.engine.accepts = false ∧
        (s.conclude addon count batch).1 = .error (.registrationClosed s.engine.phase)) ∨
      ∃ pre i post, s.engine.accepts = true ∧ batch.insertions = pre ++ i :: post ∧
        s.engine.registry.Clear pre ∧ (i ∈ pre ∨ s.engine.registry.Holds i) ∧
        (s.conclude addon count batch).1 =
          .error (.registry (.duplicateSyntax i.name i.id)) := by
  have hcommit := hs.commit hD batch fun e he => (hfits e he).1
  have hout (hphase : s.engine.accepts = true) :=
    hs.commit_outcome (haligned.open_of_accepts hphase) hD (fun e he => (hfits e he).1)
      fun e he => (hfits e he).2
  rcases s.conclude_cases addon count batch with
    ⟨hphase, hanswer, -⟩ | ⟨hphase, e, herr, hanswer, -⟩ | ⟨hphase, n, hok, hanswer, hengine⟩
  · exact Or.inr (Or.inl ⟨hphase, hanswer⟩)
  · rcases hout hphase with ⟨-, hok⟩ | ⟨pre, i, post, hsplit, hclear, hclash, hdup, -⟩
    · rw [herr] at hok
      cases hok
    · -- both describe the one answer of the commit, so its cause is the duplicate
      rw [herr] at hdup
      cases hdup
      exact Or.inr (Or.inr ⟨pre, i, post, hphase, hsplit, hclear, hclash, hanswer⟩)
  · rcases hout hphase with ⟨hclear, -⟩ | ⟨_, _, _, -, -, -, hdup, -⟩
    · refine Or.inl ⟨hphase, hclear, hanswer, ?_, ?_⟩
      · rw [hengine]
        rfl
      · rw [hengine]
        exact hcommit.gains n hok
    · rw [hok] at hdup
      cases hdup

/-! ### Loads in a situation -/

namespace Situation

/-- Modules that may be loaded here. -/
abbrev Modules (x : Situation σ) := List (Callback σ (Frame.scope x.frames))

variable (x : Situation σ) (addon : Addon) (modules : x.Modules)

/-- Loads an addon here. -/
def load : Except EngineError Unit × Session σ :=
  x.session.load addon (modules.map Callback.run)

/-- The trail of loading it. -/
def loadTrail : Trail σ :=
  x.session.loadTrail x.frames addon (modules.map fun c => c.traced x.frames addon)

/-- What its modules leave, if they are run. -/
def runModules : Outcome σ :=
  Routine.runAll (modules.map Callback.run) .empty
    (x.session.setEngine (x.engine.reserve addon.name))

/-- The load gets to run its modules. -/
def Admits : Prop := x.engine.accepts = true ∧ addon.name ∉ x.names

variable {x addon modules}

theorem load_of_closed (h : x.engine.accepts = false) (addon : Addon) (modules : x.Modules) :
    (x.load addon modules).1 = .error (.registrationClosed x.engine.phase) ∧
      (x.load addon modules).2.engine = x.engine := by
  rw [load, Session.load, if_pos (by simp [h])]
  exact ⟨rfl, rfl⟩

/-- A load whose name is free runs its modules. One of them fails, or the load is concluded. -/
theorem load_of_free (hphase : x.engine.accepts = true) (hfree : addon.name ∉ x.engine.reserved)
    (modules : x.Modules) :
    (∃ cause, (x.runModules addon modules).result = .error cause ∧
        x.load addon modules =
          (.error (.module addon.name cause), (x.runModules addon modules).session.setEngine
            ((x.runModules addon modules).session.engine.release addon.name))) ∨
      ((x.runModules addon modules).result = .ok () ∧
        x.load addon modules = (x.runModules addon modules).session.conclude addon
          (modules.map Callback.run).length (x.runModules addon modules).batch) := by
  rw [load, Session.load, if_neg (by simp [hphase]),
    if_neg (fun hc => hfree (List.contains_iff_mem.mp hc)), ← runModules]
  rcases x.runModules addon modules with ⟨cause | ⟨⟩, batch, s⟩
  · exact Or.inl ⟨cause, rfl, rfl⟩
  · exact Or.inr ⟨rfl, rfl⟩

/-- The runs of modules whose trail is kept. -/
theorem map_run_traced (modules : x.Modules) :
    (modules.map fun c => c.traced x.frames addon).map Traced.run = modules.map Callback.run := by
  rw [List.map_map]
  rfl

theorem follows_traced (addon : Addon) (modules : x.Modules) :
    ∀ m ∈ modules.map fun c => c.traced x.frames addon, m.Follows x.frames addon := by
  intro m hm
  obtain ⟨c, -, rfl⟩ := List.mem_map.mp hm
  exact c.follows_traced Frame.quiet_of_scope addon

/-- The moves of a load that is called here. -/
theorem moves_loadTrail (x : Situation σ) (addon : Addon) (modules : x.Modules) :
    Moves x (x.loadTrail addon modules) ⟨x.frames, (x.load addon modules).2⟩ := by
  have h := Session.moves_loadTrail (follows_traced addon modules) x.session
  rw [map_run_traced] at h
  exact h

/-- The moves of the modules of a load. -/
theorem moves_runModules (x : Situation σ) (addon : Addon) (modules : x.Modules) :
    Moves ⟨.load addon .empty :: x.frames, x.session.setEngine (x.engine.reserve addon.name)⟩
      (Traced.trailAll (modules.map fun c => c.traced x.frames addon) .empty
        (x.session.setEngine (x.engine.reserve addon.name)))
      ⟨.load addon (x.runModules addon modules).batch :: x.frames,
        (x.runModules addon modules).session⟩ := by
  have h := Traced.moves_trailAll (follows_traced addon modules) .empty
    (x.session.setEngine (x.engine.reserve addon.name))
  rw [map_run_traced] at h
  exact h

/-! ### How a load ends -/

/-- The trail of a load that is admitted has that of its modules in it. -/
theorem mem_loadTrail_of_modules (hphase : x.engine.accepts = true)
    (hfree : addon.name ∉ x.engine.reserved) {m : Moment σ}
    (hm : m ∈ Traced.trailAll (modules.map fun c => c.traced x.frames addon) .empty
      (x.session.setEngine (x.engine.reserve addon.name))) : m ∈ x.loadTrail addon modules := by
  rw [loadTrail, Session.loadTrail, if_neg (by simp [hphase]),
    if_neg (fun hc => hfree (List.contains_iff_mem.mp hc))]
  exact List.mem_append_left _ (List.mem_cons_of_mem _ hm)

/-- What the modules leave is sound, with their load on top. -/
theorem Sound.runModules (hx : x.Sound D) (hD : ToldApart D) (hadmits : x.Admits addon)
    (hstaged : ∀ m ∈ x.loadTrail addon modules, m.incident.Stages D) :
    Sound D ⟨.load addon (x.runModules addon modules).batch :: x.frames,
      (x.runModules addon modules).session⟩ := by
  have hfree : addon.name ∉ x.engine.reserved := fun h => hadmits.2 ((hx.booked.reserved _).mp h)
  have hbegun := (Move.begin x addon hadmits.1 hfree).sound hD hx fun _ _ _ h => by cases h
  refine (x.moves_runModules addon modules).sound hD hbegun fun m hm => hstaged m ?_
  exact mem_loadTrail_of_modules hadmits.1 hfree hm

/-- What a load adds to what its modules leave: the registrations they have staged, and the
addon. -/
structure Lands (x : Situation σ) (addon : Addon) (modules : x.Modules) : Prop where
  loaded : (x.load addon modules).2.engine.loaded =
    (x.runModules addon modules).session.engine.loaded ++ [addon]
  syntaxes : ∀ key d, d ∈ ((x.load addon modules).2.engine.syntaxes key).entries ↔
    d ∈ ((x.runModules addon modules).session.engine.syntaxes key).entries ∨
      ∃ e ∈ (x.runModules addon modules).batch.entries, e.descriptor = d ∧
        ∃ link ∈ e.key.lineage, link.name = key.name

/-- Only a name that is reserved is a duplicate. -/
theorem load_ne_duplicate (hfree : addon.name ∉ x.engine.reserved) (name : String) :
    (x.load addon modules).1 ≠ .error (.duplicateAddon name) := by
  intro hdup
  cases hphase : x.engine.accepts with
  | false =>
    rw [(load_of_closed hphase addon modules).1] at hdup
    cases hdup
  | true =>
    rcases load_of_free hphase hfree modules with ⟨cause, -, hload⟩ | ⟨-, hload⟩
    · rw [hload] at hdup
      cases hdup
    · rw [hload] at hdup
      rcases (x.runModules addon modules).session.conclude_cases addon
        (modules.map Callback.run).length (x.runModules addon modules).batch with
        ⟨-, hanswer, -⟩ | ⟨-, e, -, hanswer, -⟩ | ⟨-, n, -, hanswer, -⟩
      · rw [hanswer] at hdup
        cases hdup
      · rw [hanswer] at hdup
        cases hdup
      · rw [hanswer] at hdup
        cases hdup

end Situation

end Phrasebook
