import Phrasebook.Proofs.Registry.Runs
/-!
# Phrasebook.Proofs.Registry.Freeze

A registry takes writes everywhere or nowhere.

Closing sets the flag first and freezes the registers after that, one by one. If one of them refused
to be closed, the rest would stay live behind a registry that calls itself closed. None refuses,
because as long as the flag is not set no register was ever closed (`Registry.Gated`).

This does not depend on what is registered. What every insertion keeps a whole write keeps, wherever
it stops (`Writing.registerAll_meets`), and taking insertions back keeps it too. So it suffices to
look at one insertion and at the four ways in which a call can go (`Registry.Course`).
-/

namespace Phrasebook

/-! ### Whole writes -/

namespace Writing

/-- The result of a write after which `P` holds of the registers and of what is noted. If it is an
error, it is one of `E`. -/
structure Meets (P : Slots → List Insertion → Prop) (E : RegistryError → Prop)
    (r : Except RegistryError Unit × Writing) : Prop where
  kept : P r.2.slots r.2.done
  error : ∀ e, r.1 = .error e → E e

variable {P : Slots → List Insertion → Prop} {E : RegistryError → Prop} {w : Writing}

theorem insertAll_meets
    (hinsert : ∀ (w : Writing) name d, P w.slots w.done → Meets P E (w.insert name d))
    (h : P w.slots w.done) (d : Descriptor) (links : List Key) :
    Meets P E (w.insertAll d links) := by
  induction links generalizing w with
  | nil => exact ⟨h, fun e he => by cases he⟩
  | cons link rest ih =>
    have hone := hinsert w link.name d h
    rw [insertAll]
    rcases hr : w.insert link.name d with ⟨e | ⟨⟩, w'⟩
    · rw [hr] at hone
      exact ⟨hone.kept, hone.error⟩
    · rw [hr] at hone
      exact ih hone.kept

theorem register_meets
    (hinsert : ∀ (w : Writing) name d, P w.slots w.done → Meets P E (w.insert name d))
    (h : P w.slots w.done) (x : Staged) :
    Meets P (fun e => E e ∨ Mismatch [x] e) (w.register x.key x.descriptor) := by
  rw [register]
  rcases check_cases x.descriptor.payload x.key.lineage with ⟨hok, -⟩ | ⟨link, hmem, herr, hrej⟩
  · rw [hok]
    dsimp only
    have hall := insertAll_meets hinsert h x.descriptor x.key.lineage
    rcases hr : w.insertAll x.descriptor x.key.lineage with ⟨e | ⟨⟩, w'⟩
    · rw [hr] at hall
      exact ⟨hall.kept, fun e he => Or.inl (hall.error e he)⟩
    · rw [hr] at hall
      exact ⟨hall.kept, fun e he => by cases he⟩
  · rw [herr]
    refine ⟨h, fun e he => Or.inr ⟨x, List.mem_singleton_self x, link, hmem, hrej, ?_⟩⟩
    exact (Except.error.inj he).symm

/-- What every insertion keeps is kept by a whole write, wherever it stops. -/
theorem registerAll_meets
    (hinsert : ∀ (w : Writing) name d, P w.slots w.done → Meets P E (w.insert name d))
    (h : P w.slots w.done) (entries : List Staged) :
    Meets P (fun e => E e ∨ Mismatch entries e) (w.registerAll entries) := by
  induction entries generalizing w with
  | nil => exact ⟨h, fun e he => by cases he⟩
  | cons x rest ih =>
    have hone := register_meets hinsert h x
    rw [registerAll]
    rcases hr : w.register x.key x.descriptor with ⟨e | ⟨⟩, w'⟩
    · rw [hr] at hone
      exact ⟨hone.kept, fun e he => (hone.error e he).imp id (Mismatch.mono (by simp))⟩
    · rw [hr] at hone
      have hrest := ih hone.kept
      exact ⟨hrest.kept, fun e he => (hrest.error e he).imp id
        (Mismatch.mono fun y hy => List.mem_cons_of_mem x hy)⟩

/-- Into open registers an insertion fails only because a place is taken. -/
theorem insert_meets_open {w : Writing} (h : w.slots.Open) (name : String) (d : Descriptor) :
    Meets (fun slots _ => slots.Open) (fun e => e = .duplicateSyntax name d.id)
      (w.insert name d) := by
  rcases insert_cases h name d with ⟨l, w', -, hw, hopen, -⟩ | ⟨w', -, hw, hopen, -⟩
  · rw [hw]
    exact ⟨hopen, fun e he => by cases he⟩
  · rw [hw]
    exact ⟨hopen, fun e he => (Except.error.inj he).symm⟩

end Writing

namespace Registry

variable {r : Registry}

/-! ### The gate -/

/-- A write into an open registry leaves the registers open, also after it was undone, and is not
refused for coming after closing. -/
theorem Gated.registerAll (h : r.Gated) (hclosed : r.closed = false) (entries : List Staged) :
    Writing.Meets (fun slots _ => slots.Open)
      (fun e => (∃ name id, e = .duplicateSyntax name id) ∨ Writing.Mismatch entries e)
      ((Writing.start r.slots).registerAll entries) := by
  refine Writing.registerAll_meets (fun w name d hopen => ?_) (h.isOpen hclosed) entries
  have hone := Writing.insert_meets_open hopen name d
  exact ⟨hone.kept, fun e he => ⟨name, d.id, hone.error e he⟩⟩

/-- **Every call** keeps the gate, and only closing shuts it. -/
theorem Gated.perform (h : r.Gated) (c : Call) :
    (r.perform c).registry.Gated ∧
      ((r.perform c).registry.closed = true ↔ r.closed = true ∨ c = .close) := by
  cases r.course c with
  | refused closed answer registry =>
    rw [registry]
    exact ⟨h, ⟨Or.inl, fun _ => closed⟩⟩
  | closing opened call =>
    subst call
    show r.close.registry.Gated ∧ (r.close.registry.closed = true ↔ _)
    obtain ⟨-, hshut, hgated⟩ := h.close opened
    exact ⟨hgated, ⟨fun _ => Or.inr rfl, fun _ => hshut⟩⟩
  | written opened call write answer registry =>
    have hmeets := h.registerAll opened c.entries
    rw [write] at hmeets
    rw [registry]
    exact ⟨gated_of_open opened hmeets.kept, by simp [opened, call]⟩
  | undone opened call write answer registry =>
    have hmeets := h.registerAll opened c.entries
    rw [write] at hmeets
    rw [registry]
    refine ⟨gated_of_open opened (Slots.listed_foldl_retract hmeets.kept _).1, ?_⟩
    simp [opened, call]

/-- Before the registry is closed, no call is refused for coming too late. -/
theorem Gated.not_refused (h : r.Gated) (hclosed : r.closed = false) (c : Call)
    (key : Option String) : (r.perform c).answer ≠ .error (.registrationClosed key) := by
  cases r.course c with
  | refused closed answer registry => exact absurd (hclosed.symm.trans closed) Bool.false_ne_true
  | closing opened call =>
    subst call
    rw [Registry.perform, (h.close opened).1]
    exact fun h => by cases h
  | written opened call write answer registry =>
    rw [answer]
    exact fun h => by cases h
  | undone opened call write answer registry =>
    have hmeets := h.registerAll opened c.entries
    rw [write] at hmeets
    rw [answer]
    intro herr
    rcases hmeets.error _ rfl with ⟨name, id, rfl⟩ | ⟨x, -, link, -, -, rfl⟩
    · cases herr
    · cases herr

/-! ### Whole runs -/

theorem Gated.run (h : r.Gated) (calls : List Call) :
    (r.run calls).Gated ∧ ((r.run calls).closed = true ↔ r.closed = true ∨ .close ∈ calls) := by
  induction calls generalizing r with
  | nil => exact ⟨h, by simp⟩
  | cons c rest ih =>
    obtain ⟨hgated, hclosed⟩ := h.perform c
    obtain ⟨hrest, hclosed'⟩ := ih hgated
    refine ⟨hrest, ?_⟩
    rw [run_cons, hclosed', hclosed, List.mem_cons, or_assoc, eq_comm (a := c)]

/-- From closing on nothing changes. -/
theorem run_of_closed (hclosed : r.closed = true) (calls : List Call) : r.run calls = r := by
  induction calls with
  | nil => rfl
  | cons c rest ih => rw [run_cons, (perform_of_closed hclosed c).2, ih]

/-- **The freeze never stops halfway.** A run closes the registry by its first call of closing.
Before that every register takes writes, so closing succeeds and no call is refused for coming too
late. Afterwards every register is frozen, every call is refused, and nothing changes any more.
Closing itself changes nothing that is read. -/
theorem open_or_frozen (calls : List Call) :
    ((empty.run calls).closed = true ↔ .close ∈ calls) ∧
      ((empty.run calls).closed = false →
        (∀ p ∈ (empty.run calls).slots, ∃ live, p.2 = .live live ∧ live.closed = false) ∧
        (empty.run calls).close.answer = .ok () ∧
        ∀ c key, ((empty.run calls).perform c).answer ≠ .error (.registrationClosed key)) ∧
      ((empty.run calls).closed = true →
        (∀ p ∈ (empty.run calls).slots, ∃ frozen, p.2 = .frozen frozen) ∧
        (∀ c, ((empty.run calls).perform c).answer =
          .error (.registrationClosed c.refusedKey)) ∧
        ∀ more, empty.run (calls ++ more) = empty.run calls) ∧
      (∀ k, (empty.run calls).close.registry.syntaxes k = (empty.run calls).syntaxes k) ∧
      (empty.run calls).close.registry.keys = (empty.run calls).keys := by
  obtain ⟨hgated, hclosed⟩ := gated_empty.run calls
  refine ⟨?_, fun hopen => ⟨fun p hp => ?_, (hgated.close hopen).1, fun c key => ?_⟩,
    fun hshut => ⟨hgated.isFrozen hshut, fun c => (perform_of_closed hshut c).1, fun more => ?_⟩,
    contents_close _⟩
  · rw [hclosed]
    exact or_iff_right Bool.false_ne_true
  · have htakes := hgated.isOpen hopen p hp
    rcases hslot : p.2 with live | frozen
    · rw [hslot] at htakes
      exact ⟨live, rfl, htakes.2⟩
    · rw [hslot] at htakes
      exact htakes.elim
  · exact hgated.not_refused hopen c key
  · rw [run_append, run_of_closed hshut]

/-- An effect is registered and the registry closed. There is a register, it is frozen, and the same
registration would now be refused. -/
theorem open_or_frozen_effect :
    let say := Descriptor.statement 1 0 "say"
    let calls : List Call := [.register .effects say, .close]
    (empty.run calls).slots.names = ["effect", "statement"] ∧
      (∀ p ∈ (empty.run calls).slots, ∃ frozen, p.2 = .frozen frozen) ∧
      ((empty.run calls).perform (.register .effects say)).answer =
        .error (.registrationClosed (some "effect")) := by
  intro say calls
  obtain ⟨hclosed, -, hshut, -⟩ := open_or_frozen calls
  obtain ⟨hfrozen, hrefused, -⟩ := hshut (hclosed.mpr (by simp [calls]))
  exact ⟨rfl, hfrozen, hrefused (.register .effects say)⟩

end Registry

end Phrasebook
