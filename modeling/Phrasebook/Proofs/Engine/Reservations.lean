import Phrasebook.Proofs.Engine.Moves
/-!
# Phrasebook.Proofs.Engine.Reservations

Which names are reserved.

The engine keeps two records of its addons, which are written at different times: the reserved names
and the loaded addons. In between, a load is in flight. A situation is **booked**
(`Situation.Booked`) if the reserved names are those of the addons that are loading or loaded, and
no two of these share a name. Every move keeps this (`Move.booked`), whatever is registered.
-/

namespace Phrasebook

variable {σ : Type}

namespace Session

@[simp] theorem reserved_enter (s : Session σ) (next : Phase) :
    (s.enter next).2.engine.reserved = s.engine.reserved := by
  rw [enter]
  dsimp only
  split <;> rfl

@[simp] theorem loaded_enter (s : Session σ) (next : Phase) :
    (s.enter next).2.engine.loaded = s.engine.loaded := by
  rw [enter]
  dsimp only
  split <;> rfl

end Session

namespace Situation

/-- The names of the addons that are loading or loaded. -/
def names (x : Situation σ) : List String :=
  (Frame.loading x.frames ++ x.engine.loaded).map Addon.name

/-- The reserved names are those of the addons that are loading or loaded, each of which has its
name for itself. -/
structure Booked (x : Situation σ) : Prop where
  nodup : x.names.Nodup
  reserved : ∀ name, name ∈ x.engine.reserved ↔ name ∈ x.names

namespace Booked

variable {x y : Situation σ} {frames : List Frame} {addon : Addon} {batch : Batch}
  {s s' : Session σ}

theorem congr (h : x.Booked) (hloading : Frame.loading y.frames = Frame.loading x.frames)
    (hloaded : y.engine.loaded = x.engine.loaded)
    (hreserved : y.engine.reserved = x.engine.reserved) : y.Booked := by
  have hnames : y.names = x.names := by rw [names, names, hloading, hloaded]
  refine ⟨by rw [hnames]; exact h.nodup, fun name => ?_⟩
  rw [hreserved, hnames]
  exact h.reserved name

/-- A load takes a name that was free. -/
theorem push (h : Booked ⟨frames, s⟩) (hfree : addon.name ∉ s.engine.reserved) (batch : Batch) :
    Booked ⟨.load addon batch :: frames, s.setEngine (s.engine.reserve addon.name)⟩ where
  nodup := by
    refine List.nodup_cons.mpr ⟨?_, h.nodup⟩
    exact fun hmem => hfree ((h.reserved _).mpr hmem)
  reserved name := by
    show name ∈ addon.name :: s.engine.reserved ↔ name ∈ addon.name :: names ⟨frames, s⟩
    rw [List.mem_cons, List.mem_cons, h.reserved]

/-- A load that fails gives its name back. Its commit may have touched the registry. -/
theorem release (h : Booked ⟨.load addon batch :: frames, s⟩) {r : Registry}
    (hs : s'.engine = { s.engine with registry := r }.release addon.name) :
    Booked ⟨frames, s'⟩ := by
  have hnames : names ⟨.load addon batch :: frames, s⟩ = addon.name :: names ⟨frames, s'⟩ := by
    rw [names, names, engine, engine, hs]
    rfl
  have hnodup := h.nodup
  rw [hnames, List.nodup_cons] at hnodup
  refine ⟨hnodup.2, fun name => ?_⟩
  rw [engine, hs]
  show name ∈ s.engine.reserved.filter (fun n => n != addon.name) ↔ _
  rw [List.mem_filter, h.reserved, hnames, List.mem_cons, bne_iff_ne]
  constructor
  · rintro ⟨heq | hmem, hne⟩
    · exact absurd heq hne
    · exact hmem
  · intro hmem
    exact ⟨Or.inr hmem, fun heq => hnodup.1 (heq ▸ hmem)⟩

/-- A load that succeeds keeps its name. -/
theorem keep (h : Booked ⟨.load addon batch :: frames, s⟩) {r : Registry}
    (hs : s'.engine = { s.engine with registry := r }.addLoaded addon) : Booked ⟨frames, s'⟩ := by
  have hnames : (names ⟨frames, s'⟩).Perm (names ⟨.load addon batch :: frames, s⟩) := by
    rw [names, names, engine, engine, hs]
    show (Frame.loading frames ++ (s.engine.loaded ++ [addon])).map Addon.name |>.Perm
      ((addon :: (Frame.loading frames ++ s.engine.loaded)).map Addon.name)
    rw [← List.append_assoc]
    exact (List.perm_append_singleton addon _).map _
  refine ⟨hnames.nodup_iff.mpr h.nodup, fun name => ?_⟩
  rw [hnames.mem_iff, ← h.reserved, engine, hs]
  rfl

end Booked

end Situation

theorem Session.booked_start (core : Addon) (memory : σ) :
    Situation.Booked ⟨[], start core memory⟩ where
  nodup := List.nodup_nil
  reserved _ := Iff.rfl

/-- **One move** keeps a situation booked. -/
theorem Move.booked {x y : Situation σ} {i : Incident σ} (h : Move x i y) (hx : x.Booked) :
    y.Booked := by
  cases h with
  | begin _ addon hphase hfree => exact hx.push hfree .empty
  | fail frames addon batch s e => exact hx.release (r := s.engine.registry) rfl
  | conclude frames addon batch s count =>
    rcases s.conclude_cases addon count batch with
      ⟨-, -, hs⟩ | ⟨-, e, -, -, hs⟩ | ⟨-, n, -, -, hs⟩
    · exact hx.release (r := s.engine.registry) hs
    · exact hx.release hs
    · exact hx.keep hs
  | enter _ next hquiet hnext =>
    exact hx.congr rfl (x.session.loaded_enter next) (x.session.reserved_enter next)
  | build | remember | observe | listen | stage | rejectClosed | rejectDuplicate | tell | hear
  | advance => exact hx.congr rfl rfl rfl

theorem Moves.booked {x y : Situation σ} {trail : Trail σ} (h : Moves x trail y) :
    x.Booked → y.Booked :=
  h.preserves fun _ _ _ move => move.booked

end Phrasebook
