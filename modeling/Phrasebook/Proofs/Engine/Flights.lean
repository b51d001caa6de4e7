import Phrasebook.Proofs.Engine.Moves
/-!
# Phrasebook.Proofs.Engine.Flights

Loads in flight: where their frames come from, and what is in them.

Loads nest, so the frames of those in flight are a stack. `Shift` says what a single move can do to
it. Two facts about one shift carry the rest: a frame stays where it is as long as the stack is
higher than what is below it (`Shift.stays`), and a frame was put where it is or was there before
(`Shift.source`). Along moves they become these.

* The frame of a load holds the registrations that were accepted for it since it began
  (`Moves.frame_of_flight`). They are told from those of other loads by the height of the stack.
* A frame on the stack was put there by the beginning of a load (`Moves.flight_of_frame`), unless it
  was there from the start.
-/

namespace Phrasebook

variable {σ : Type}

/-! ### One move -/

/-- The registration that the running load has just taken. -/
def Incident.accepted? : Incident σ → Option Staged
  | .staged key d (.ok ()) => some ⟨key, d⟩
  | _ => none

/-- What a move can do to the stack. -/
inductive Shift : List Frame → Incident σ → List Frame → Prop
  | keep {i : Incident σ} (frames : List Frame) (hquiet : i.accepted? = none) :
      Shift frames i frames
  | begin (frames : List Frame) (addon : Addon) :
      Shift frames (.began addon) (.load addon .empty :: frames)
  | tell (frames : List Frame) (phase : Phase) (l : Listener σ) :
      Shift frames (.told phase l) (.notice phase :: frames)
  | stage {i : Incident σ} (frames : List Frame) (addon : Addon) (batch batch' : Batch)
      (hentries : batch'.entries = batch.entries ++ i.accepted?.toList) :
      Shift (.load addon batch :: frames) i (.load addon batch' :: frames)
  | leave {i : Incident σ} (f : Frame) (frames : List Frame) (hquiet : i.accepted? = none) :
      Shift (f :: frames) i frames

/-- Staging puts an accepted registration behind the others, and leaves the batch alone if it is
refused. -/
theorem Session.entries_stage (s : Session σ) (batch : Batch) (key : Key) (d : Descriptor) :
    (s.stage batch key d).2.entries = batch.entries ++
      (Incident.accepted? (.staged key d (s.stage batch key d).1 : Incident σ)).toList := by
  rw [stage]
  split
  · exact (List.append_nil _).symm
  · rw [Batch.push]
    split
    · exact (List.append_nil _).symm
    · rfl

theorem Move.shift {x y : Situation σ} {i : Incident σ} (h : Move x i y) :
    Shift x.frames i y.frames := by
  cases h with
  | stage frames addon batch s key d =>
    exact .stage frames addon batch _ (s.entries_stage batch key d)
  | begin _ addon hphase hfree => exact .begin x.frames addon
  | tell _ l => exact .tell x.frames _ l
  | fail | conclude | hear => exact .leave _ _ rfl
  | build | remember | observe | listen | rejectClosed | rejectDuplicate | enter | advance =>
    exact .keep _ rfl

namespace Shift

variable {frames frames' above below : List Frame} {i : Incident σ} {addon : Addon} {batch : Batch}

/-- The frame of a load stays where it is as long as the stack is higher than what is below it. What
is accepted goes into it exactly if it is on top. -/
theorem stays (h : Shift frames i frames') (hframes : frames = above ++ .load addon batch :: below)
    (hheight : below.length < frames'.length) :
    ∃ above' batch', frames' = above' ++ .load addon batch' :: below ∧
      batch'.entries = batch.entries ++
        (if frames'.length = below.length + 1 then i.accepted? else none).toList := by
  cases h with
  | keep _ hquiet => exact ⟨above, batch, hframes, by simp [hquiet]⟩
  | begin _ other =>
    exact ⟨.load other .empty :: above, batch, by simp [hframes], by simp [Incident.accepted?]⟩
  | tell _ phase l =>
    exact ⟨.notice phase :: above, batch, by simp [hframes], by simp [Incident.accepted?]⟩
  | stage rest other old new hentries =>
    rcases List.cons_eq_append_iff.mp hframes with ⟨rfl, htop⟩ | ⟨above, rfl, rfl⟩
    · cases htop
      exact ⟨[], new, rfl, by simp [hentries]⟩
    · refine ⟨.load other new :: above, batch, rfl, ?_⟩
      rw [if_neg (by simp only [List.length_cons, List.length_append]; omega)]
      exact (List.append_nil _).symm
  | leave f _ hquiet =>
    rcases List.cons_eq_append_iff.mp hframes with ⟨rfl, htop⟩ | ⟨above, rfl, hrest⟩
    · cases htop
      exact absurd hheight (Nat.lt_irrefl _)
    · exact ⟨above, batch, hrest, by simp [hquiet]⟩

/-- The frame of a load was put where it is just now, or was there before. -/
theorem source (h : Shift frames i frames')
    (hframes : frames' = above ++ .load addon batch :: below) :
    (i = .began addon ∧ above = [] ∧ frames = below) ∨
      ∃ above' batch', frames = above' ++ .load addon batch' :: below := by
  cases h with
  | keep => exact Or.inr ⟨above, batch, hframes⟩
  | begin _ other =>
    rcases List.cons_eq_append_iff.mp hframes with ⟨rfl, htop⟩ | ⟨above, rfl, hrest⟩
    · cases htop
      exact Or.inl ⟨rfl, rfl, rfl⟩
    · exact Or.inr ⟨above, batch, hrest⟩
  | tell _ phase l =>
    rcases List.cons_eq_append_iff.mp hframes with ⟨rfl, htop⟩ | ⟨above, rfl, hrest⟩
    · cases htop
    · exact Or.inr ⟨above, batch, hrest⟩
  | stage rest other old new =>
    rcases List.cons_eq_append_iff.mp hframes with ⟨rfl, htop⟩ | ⟨above, rfl, rfl⟩
    · cases htop
      exact Or.inr ⟨[], old, rfl⟩
    · exact Or.inr ⟨.load other old :: above, batch, rfl⟩
  | leave f => exact Or.inr ⟨f :: above, batch, by rw [hframes]; rfl⟩

end Shift

/-! ### Many moves -/

namespace Moment

/-- How many loads and notifications are under way. -/
def height (m : Moment σ) : Nat := m.situation.frames.length

/-- The registration that was taken just now, if it was for a load of that height. -/
def acceptedAt? (height : Nat) (m : Moment σ) : Option Staged :=
  if m.height = height then m.incident.accepted? else none

end Moment

namespace Trail

/-- The registrations that are accepted for loads of that height, in order. -/
def acceptedAt (height : Nat) (trail : Trail σ) : List Staged :=
  trail.filterMap (Moment.acceptedAt? height)

theorem acceptedAt_concat (height : Nat) (trail : Trail σ) (m : Moment σ) :
    acceptedAt height (trail ++ [m]) =
      acceptedAt height trail ++ (m.acceptedAt? height).toList := by
  rw [acceptedAt, List.filterMap_append, List.filterMap_cons]
  cases m.acceptedAt? height <;> rfl

/-- A load begins at `start` and is still in flight after the moments `during`. -/
structure Flight (addon : Addon) (start : Moment σ) (during : Trail σ) : Prop where
  began : start.incident = .began addon
  above : ∀ m ∈ during, start.height ≤ m.height

end Trail

/-- A load begins with a frame of its own, on top of the others. -/
theorem Move.frames_of_began {x y : Situation σ} {addon : Addon} (h : Move x (.began addon) y) :
    y.frames = .load addon .empty :: x.frames := by
  cases h
  rfl

namespace Moves

variable {x y : Situation σ} {trail before during : Trail σ} {start : Moment σ} {addon : Addon}
  {above below : List Frame} {batch : Batch}

/-- As long as the stack is higher than what is below the frame of a load, the frame stays where it
is, and takes what is accepted at its height. -/
theorem frame_stays (h : Moves x trail y) (hx : x.frames = .load addon batch :: below)
    (habove : ∀ m ∈ trail, below.length < m.height) :
    ∃ above batch', y.frames = above ++ .load addon batch' :: below ∧
      batch'.entries = batch.entries ++ Trail.acceptedAt (below.length + 1) trail := by
  induction h using Moves.history with
  | nil => exact ⟨[], batch, hx, (List.append_nil _).symm⟩
  | snoc trail z m _ move ih =>
    rw [List.forall_mem_append, List.forall_mem_singleton] at habove
    obtain ⟨above, batch', hz, hentries⟩ := ih habove.1
    obtain ⟨above', batch'', hm, hentries'⟩ := move.shift.stays hz habove.2
    refine ⟨above', batch'', hm, ?_⟩
    rw [hentries', hentries, List.append_assoc, Trail.acceptedAt_concat]
    rfl

/-- **The frame of a load in flight** is on the stack, and its batch has the registrations that were
accepted for the load, in order. -/
theorem frame_of_flight (h : Moves x (before ++ start :: during) y)
    (hflight : Trail.Flight addon start during) :
    ∃ above batch below, start.situation.frames = .load addon .empty :: below ∧
      y.frames = above ++ .load addon batch :: below ∧
      batch.entries = Trail.acceptedAt start.height during := by
  obtain ⟨hbefore, hduring⟩ := h.split
  obtain ⟨-, z, -, move⟩ := hbefore.last
  rw [hflight.began] at move
  have hstart := move.frames_of_began
  have hheight : start.height = z.frames.length + 1 := by
    rw [Moment.height, hstart, List.length_cons]
  obtain ⟨above, batch, hy, hentries⟩ :=
    hduring.frame_stays hstart fun m hm => hheight.symm.le.trans (hflight.above m hm)
  rw [hheight]
  exact ⟨above, batch, z.frames, hstart, hy, hentries⟩

/-- **A frame on the stack** is that of a load in flight, unless it was there from the start. -/
theorem flight_of_frame (h : Moves x trail y) (hbase : ∀ m ∈ trail, x.frames.length ≤ m.height)
    (hy : y.frames = above ++ .load addon batch :: below)
    (hbelow : x.frames.length ≤ below.length) :
    ∃ before start during, trail = before ++ start :: during ∧ Trail.Flight addon start during ∧
      start.situation.frames = .load addon .empty :: below := by
  induction h using Moves.history generalizing above batch with
  | nil =>
    rw [hy] at hbelow
    simp only [List.length_append, List.length_cons] at hbelow
    omega
  | snoc trail z m _ move ih =>
    rw [List.forall_mem_append, List.forall_mem_singleton] at hbase
    rcases move.shift.source hy with ⟨hbegan, rfl, rfl⟩ | ⟨above', batch', hz⟩
    · rw [hbegan] at move
      have hflight : Trail.Flight addon m [] := ⟨hbegan, fun _ h => absurd h List.not_mem_nil⟩
      exact ⟨trail, m, [], rfl, hflight, move.frames_of_began⟩
    · obtain ⟨before, start, during, rfl, hflight, hstart⟩ := ih hbase.1 hz
      refine ⟨before, start, during ++ [m], by simp, ⟨hflight.began, ?_⟩, hstart⟩
      rw [List.forall_mem_append, List.forall_mem_singleton]
      refine ⟨hflight.above, ?_⟩
      -- the frame is still there, so the stack is at least as high as when it was put there
      rw [Moment.height, Moment.height, hstart, hy]
      simp only [List.length_append, List.length_cons]
      omega

end Moves

end Phrasebook
