import Phrasebook.Proofs.Engine.Loads
/-!
# Phrasebook.Proofs.Engine.Addons

Which addons an engine has.

The loaded addons are those whose loads have returned with success, in the order in which they
returned (`Moves.loaded`). Their names, and the names of the loads in flight, are the reserved ones.
A load under a reserved name is refused before anything else happens (`Situation.load_of_reserved`).

An engine's own addon is loaded before anybody has the engine, so its modules can ask nothing of
the engine but what it lists: they are **secluded** (`Callback.Secluded`). The load of secluded
modules shows one return only, which is its own.
-/

namespace Phrasebook

variable {σ : Type}

/-! ### Returns -/

namespace Moment

/-- The load that is over just now, and how it ended. -/
def returned? (m : Moment σ) : Option (Addon × Except EngineError Unit) :=
  match m.incident with
  | .returned addon answer => some (addon, answer)
  | _ => none

/-- The addon whose load has just succeeded. -/
def landed? (m : Moment σ) : Option Addon :=
  m.returned?.bind fun p => p.2.toOption.map fun _ => p.1

end Moment

namespace Trail

/-- The loads that come to an end, in order, also those that are refused at once. -/
def returns (trail : Trail σ) : List (Addon × Except EngineError Unit) :=
  trail.filterMap Moment.returned?

/-- The addons whose loads succeed, in order. -/
def landings (trail : Trail σ) : List Addon := trail.filterMap Moment.landed?

theorem returns_append (a b : Trail σ) : returns (a ++ b) = returns a ++ returns b :=
  List.filterMap_append

theorem landings_eq (trail : Trail σ) :
    landings trail = (returns trail).filterMap fun p => p.2.toOption.map fun _ => p.1 := by
  rw [landings, returns, List.filterMap_filterMap]
  rfl

end Trail

/-- A move adds the addon of a load that succeeds by it, and otherwise none. -/
theorem Move.loaded {x y : Situation σ} {i : Incident σ} (h : Move x i y) :
    y.engine.loaded = x.engine.loaded ++ (Moment.mk i y).landed?.toList := by
  cases h with
  | conclude frames addon batch s count =>
    rw [Situation.engine, Situation.engine, Moment.landed?, Moment.returned?]
    rcases s.conclude_cases addon count batch with
      ⟨-, hanswer, hs⟩ | ⟨-, e, -, hanswer, hs⟩ | ⟨-, n, -, hanswer, hs⟩
    · rw [hs]
      simp [hanswer, Engine.release, Except.toOption]
    · rw [hs]
      simp [hanswer, Engine.release, Except.toOption]
    · rw [hs]
      simp [hanswer, Engine.addLoaded, Except.toOption]
  | enter _ next hquiet hnext =>
    rw [Situation.engine, Session.loaded_enter]
    exact (List.append_nil _).symm
  | build | remember | observe | listen | stage | rejectClosed | rejectDuplicate | begin | fail
  | tell | hear | advance => exact (List.append_nil _).symm

/-- The loaded addons are those that were there and those whose loads have succeeded since. -/
theorem Moves.loaded {x y : Situation σ} {trail : Trail σ} (h : Moves x trail y) :
    y.engine.loaded = x.engine.loaded ++ Trail.landings trail :=
  h.recorded fun _ _ _ move => move.loaded

/-! ### Modules that keep to themselves -/

/-- Adds no listener, loads nothing and does not move the engine on, whatever it is answered. It
may look at what the engine lists. -/
def Callback.Secluded : {s : Scope} → Callback σ s → Prop
  | _, .done _ => True
  | _, .recall next => ∀ memory, (next memory).Secluded
  | _, .remember _ next => next.Secluded
  | _, .build _ next => ∀ answer, (next answer).Secluded
  | _, .stage _ _ _ next => ∀ answer, (next answer).Secluded
  | _, .staged _ _ next => ∀ descriptors, (next descriptors).Secluded
  | _, .observe next => ∀ engine, (next engine).Secluded
  | _, .listen _ _ | _, .load _ _ _ _ | _, .advance _ _ _ => False

/-- Nothing is loaded on account of a secluded callback. -/
theorem Callback.Secluded.returns {s : Scope} {c : Callback σ s} (h : c.Secluded)
    (adv : Advance σ s) (advTrail : AdvanceTrail σ s) (stack : Batch → List Frame) (batch : Batch)
    (w : Session σ) : Trail.returns (c.trailWith adv advTrail stack batch w) = [] := by
  induction c generalizing batch w with
  | done outcome => rfl
  | «recall» next ih => exact ih _ (h _) adv advTrail batch w
  | remember memory next ih => exact ih h adv advTrail batch _
  | build draft next ih => exact ih _ (h _) adv advTrail batch _
  | stage inLoad key d next ih => exact ih _ (h _) adv advTrail _ w
  | staged inLoad key next ih => exact ih _ (h _) adv advTrail batch w
  | observe next ih => exact ih _ (h _) adv advTrail batch w
  | listen | load | advance => exact h.elim

theorem Traced.returns_trailAll {modules : List (Traced σ)}
    (h : ∀ m ∈ modules, ∀ batch s, Trail.returns (m.trail batch s) = []) (batch : Batch)
    (s : Session σ) : Trail.returns (trailAll modules batch s) = [] := by
  induction modules generalizing batch s with
  | nil => rfl
  | cons m rest ih =>
    rw [List.forall_mem_cons] at h
    rw [trailAll, Trail.returns_append, h.1 batch s, List.nil_append]
    split
    · exact ih h.2 _ _
    · rfl

/-- A load whose modules load nothing shows its own return, and no other. -/
theorem Session.returns_loadTrail {modules : List (Traced σ)}
    (h : ∀ m ∈ modules, ∀ batch s, Trail.returns (m.trail batch s) = []) (s : Session σ)
    (frames : List Frame) (addon : Addon) :
    Trail.returns (s.loadTrail frames addon modules) =
      [(addon, (s.load addon (modules.map Traced.run)).1)] := by
  rw [loadTrail, Trail.returns_append]
  split
  · rfl
  · split
    · rfl
    · exact congrArg (· ++ _) (Traced.returns_trailAll h _ _)

theorem Session.returns_registerAddonTrail (s : Session σ) (addon : Addon)
    {modules : List (Module σ)} (h : ∀ c ∈ modules, Callback.Secluded c) :
    Trail.returns (s.registerAddonTrail addon modules) =
      [(addon, (s.registerAddon addon modules).1)] := by
  rw [registerAddonTrail, returns_loadTrail, List.map_map]
  · rfl
  · intro m hm batch w
    obtain ⟨c, hc, rfl⟩ := List.mem_map.mp hm
    exact (h c hc).returns _ _ _ batch w

/-- A load whose modules are secluded adds its own addon if it succeeds, and otherwise nothing. -/
theorem Session.loaded_registerAddon (s : Session σ) (addon : Addon) {modules : List (Module σ)}
    (h : ∀ c ∈ modules, Callback.Secluded c) :
    (s.registerAddon addon modules).2.engine.loaded =
      s.engine.loaded ++
        ((s.registerAddon addon modules).1.toOption.map fun _ => addon).toList := by
  have hloaded := (s.moves_registerAddonTrail addon modules).loaded
  rw [Trail.landings_eq, s.returns_registerAddonTrail addon h] at hloaded
  rw [hloaded]
  cases (s.registerAddon addon modules).1 <;> rfl

/-! ### Loads under a reserved name -/

namespace Situation

variable {x : Situation σ} {addon : Addon}

/-- A load under a reserved name is refused at once. No module runs, and nothing is left of it but
the report. -/
theorem load_of_reserved (hphase : x.engine.accepts = true) (h : addon.name ∈ x.engine.reserved)
    (modules : x.Modules) :
    x.load addon modules = (.error (.duplicateAddon addon.name),
        x.session.report [Session.rejectedDuplicate addon]) ∧
      x.loadTrail addon modules = [⟨.returned addon (.error (.duplicateAddon addon.name)), x.frames,
        x.session.report [Session.rejectedDuplicate addon]⟩] := by
  have hload : x.load addon modules = (.error (.duplicateAddon addon.name),
      x.session.report [Session.rejectedDuplicate addon]) := by
    rw [load, Session.load, if_neg (by simp [hphase]), if_pos (List.contains_iff_mem.mpr h)]
  refine ⟨hload, ?_⟩
  rw [loadTrail, Session.loadTrail, map_run_traced, ← load, hload, if_neg (by simp [hphase]),
    if_pos (List.contains_iff_mem.mpr h)]
  rfl

/-- Only a load under a reserved name is refused as a duplicate. -/
theorem load_eq_duplicate_iff {modules : x.Modules} {name : String} :
    (x.load addon modules).1 = .error (.duplicateAddon name) ↔
      x.engine.accepts = true ∧ addon.name ∈ x.engine.reserved ∧ name = addon.name := by
  constructor
  · intro h
    cases hphase : x.engine.accepts with
    | false =>
      rw [(load_of_closed hphase addon modules).1] at h
      cases h
    | true =>
      by_cases hname : addon.name ∈ x.engine.reserved
      · rw [(load_of_reserved hphase hname modules).1] at h
        cases h
        exact ⟨rfl, hname, rfl⟩
      · exact absurd h (load_ne_duplicate hname name)
  · rintro ⟨hphase, hname, rfl⟩
    rw [(load_of_reserved hphase hname modules).1]

end Situation

/-! ### Lives -/

namespace Session

/-- While an engine is created by secluded modules, no addon but its own is loaded. -/
theorem loaded_while_created {core : Addon} {modules : List (Module σ)} {memory : σ}
    (h : ∀ c ∈ modules, Callback.Secluded c) {m : Moment σ}
    (hm : m ∈ (start core memory).registerAddonTrail core modules) :
    m.situation.engine.loaded = [] ∨ m.situation.engine.loaded = [core] := by
  have hmoves := (start core memory).moves_registerAddonTrail core modules
  have hlandings := Trail.landings_eq ((start core memory).registerAddonTrail core modules)
  rw [returns_registerAddonTrail _ core h] at hlandings
  obtain ⟨before, after, hsplit⟩ := List.append_of_mem hm
  rw [hsplit] at hmoves hlandings
  rw [List.append_cons, Trail.landings, List.filterMap_append, ← Trail.landings] at hlandings
  -- what has landed by now is a front part of what lands at all
  have hloaded : m.situation.engine.loaded = Trail.landings (before ++ [m]) :=
    hmoves.split.1.loaded
  rw [hloaded]
  cases hanswer : ((start core memory).registerAddon core modules).1 with
  | error e =>
    rw [hanswer] at hlandings
    exact Or.inl (List.append_eq_nil_iff.mp hlandings).1
  | ok =>
    rw [hanswer] at hlandings
    rcases List.append_eq_singleton_iff.mp hlandings with ⟨hnil, -⟩ | ⟨hone, -⟩
    · exact Or.inl hnil
    · exact Or.inr hone

/-- **Addon names are unique for the engine's life.** At every moment, from inside callbacks too,
the reserved names are those of the loaded addons and those of the loads in flight. No name is among
both, and none is twice among either. A load is refused as a duplicate exactly if a load is possible
and its name is among them. Then no module is run, and the engine stays as it is, so the name stays
reserved for the addon that has it. Once an engine has been created, its own addon is the first of
the loaded ones for good; while it is being created, no other is loaded. The modules that it is
created with cannot call it. -/
theorem names_unique_for_life (core : Addon) (modules : List (Module σ)) (memory : σ)
    (requests : List (Request σ)) :
    (∀ m ∈ life core modules memory requests, let x := m.situation
      (∀ name, name ∈ x.engine.reserved ↔
        name ∈ x.engine.loaded.map Addon.name ∨
          name ∈ (Frame.loading x.frames).map Addon.name) ∧
      (∀ name ∈ x.engine.loaded.map Addon.name,
        name ∉ (Frame.loading x.frames).map Addon.name) ∧
      (x.engine.loaded.map Addon.name).Nodup ∧
      ((Frame.loading x.frames).map Addon.name).Nodup ∧
      ∀ addon (ms : x.Modules),
        (∀ name, (x.load addon ms).1 = .error (.duplicateAddon name) ↔
          x.engine.accepts = true ∧ (addon.name ∈ x.engine.loaded.map Addon.name ∨
            addon.name ∈ (Frame.loading x.frames).map Addon.name) ∧ name = addon.name) ∧
        ((x.load addon ms).1 = .error (.duplicateAddon addon.name) →
          (x.load addon ms).2 = x.session.report [rejectedDuplicate addon] ∧
          (x.load addon ms).2.engine = x.engine ∧
          x.loadTrail addon ms = [⟨.returned addon (.error (.duplicateAddon addon.name)), x.frames,
            x.session.report [rejectedDuplicate addon]⟩])) ∧
    ((∀ c ∈ modules, Callback.Secluded c) → (create core modules memory).1 = .ok () →
      (∀ m ∈ life core modules memory requests, m.situation.engine.loaded = [] ∨
        m.situation.engine.loaded.head? = some core) ∧
      ∀ m ∈ serveAllTrail requests (create core modules memory).2,
        m.situation.engine.loaded.head? = some core) := by
  have hlife := moves_life core modules memory requests
  refine ⟨fun m hm => ?_, fun hsecluded hcreated => ?_⟩
  · intro x
    obtain ⟨_, hbefore⟩ := hlife.upTo hm
    obtain ⟨hnodup, hreserved⟩ : x.Booked := hbefore.booked (booked_start core memory)
    rw [Situation.names, List.map_append, List.nodup_append] at hnodup
    obtain ⟨hloading, hloaded, hapart⟩ := hnodup
    have hmem : ∀ name, name ∈ x.engine.reserved ↔ name ∈ x.engine.loaded.map Addon.name ∨
        name ∈ (Frame.loading x.frames).map Addon.name := by
      intro name
      rw [hreserved, Situation.names, List.map_append, List.mem_append, or_comm]
    refine ⟨hmem, fun name hname hother => hapart name hother name hname rfl, hloaded, hloading, ?_⟩
    intro addon ms
    refine ⟨fun name => ?_, fun hdup => ?_⟩
    · rw [Situation.load_eq_duplicate_iff, hmem]
    · obtain ⟨hphase, hname, -⟩ := Situation.load_eq_duplicate_iff.mp hdup
      obtain ⟨hload, htrail⟩ := Situation.load_of_reserved hphase hname ms
      rw [hload]
      exact ⟨rfl, rfl, htrail⟩
  · have hcore : (create core modules memory).2.engine.loaded = [core] := by
      have hloaded := (start core memory).loaded_registerAddon core hsecluded
      rw [← create, hcreated] at hloaded
      exact hloaded
    have hlater : ∀ m ∈ serveAllTrail requests (create core modules memory).2,
        m.situation.engine.loaded.head? = some core := by
      intro m hm
      obtain ⟨_, hbefore⟩ := (moves_serveAllTrail requests _).upTo hm
      rw [hbefore.loaded, Situation.engine, hcore]
      rfl
    refine ⟨fun m hm => ?_, hlater⟩
    rcases List.mem_append.mp hm with hm | hm
    · rcases loaded_while_created hsecluded hm with hnil | hone
      · exact Or.inl hnil
      · exact Or.inr (by rw [hone]; rfl)
    · exact Or.inr (hlater m hm)

/-- A module of an addon loads an addon of the same name. It is refused, and the name stays with the
load that is in flight. -/
theorem names_unique_for_life_own_name :
    let extra := Addon.ofName "Extra"
    let requests : List (Request Unit) :=
      [.load extra [.loadAddon extra [] fun _ => .done (.ok ())]]
    ∃ m ∈ life (.ofName "Core") [] () requests,
      Frame.loading m.situation.frames = [extra] ∧
      (m.situation.load extra []).1 = .error (.duplicateAddon "Extra") ∧
      "Extra" ∈ (m.situation.load extra []).2.engine.reserved ∧
      m.situation.engine.loaded.head? = some (.ofName "Core") := by
  intro extra requests
  let trail := life (.ofName "Core") [] () requests
  have hlength : 3 < trail.length := by decide
  have hm : trail[3] ∈ life (.ofName "Core") [] () requests := List.getElem_mem hlength
  obtain ⟨hnames, hfirst⟩ := names_unique_for_life (.ofName "Core") [] () requests
  obtain ⟨hreserved, -, -, -, hload⟩ := hnames trail[3] hm
  obtain ⟨hiff, hrefused⟩ := hload extra []
  have hflight : extra.name ∈ (Frame.loading trail[3].situation.frames).map Addon.name :=
    List.mem_cons_self
  have hdup := (hiff extra.name).mpr ⟨rfl, Or.inr hflight, rfl⟩
  obtain ⟨-, hengine, -⟩ := hrefused hdup
  obtain ⟨-, hlater⟩ := hfirst (fun _ h => absurd h List.not_mem_nil) rfl
  refine ⟨trail[3], hm, rfl, hdup, ?_, hlater _ (List.getElem_mem (n := 1) (by decide))⟩
  rw [hengine]
  exact (hreserved _).mpr (Or.inr hflight)

end Session

end Phrasebook
