import Mathlib.Logic.Function.Basic
import Phrasebook.Registry
/-!
# Phrasebook.Proofs.Registry.Listing

What readers get from the registers: under each name a snapshot (`Slots.snapshots`), and with it a
list of descriptors (`Slots.listed`).

Readers see nothing else of the registers, so this is the view in which writes are described: an
insertion updates the snapshot of one name (`Writing.insert_cases`), taking it back erases an id
there (`Slots.snapshots_retract`), creating a register changes nothing (`Writing.resolve_of_open`),
and neither does freezing (`Slots.map_snapshot_freeze`).

Writes go through as long as every register takes them, which is what `Slots.Open` says.
-/

namespace Phrasebook

/-- What is listed under each name. -/
abbrev Listing := String → List Descriptor

/-- Takes the first descriptor of an id out of the list of one name. -/
def Listing.erase (L : Listing) (i : Insertion) : Listing :=
  Function.update L i.name ((L i.name).eraseP fun e => e.id == i.id)

namespace Slots

/-- What is read under each name. -/
def snapshots (slots : Slots) (name : String) : Snapshot :=
  ((slots.find? name).map Slot.snapshot).getD (.empty name)

/-- The descriptors in the register of that name, none if there is no such register. -/
def listed (slots : Slots) : Listing := fun name =>
  ((slots.find? name).map fun slot => slot.snapshot.entries).getD []

theorem snapshots_of_find? {slots : Slots} {name : String} {slot : Slot}
    (h : slots.find? name = some slot) : slots.snapshots name = slot.snapshot := by
  rw [snapshots, h]
  rfl

theorem snapshots_of_find?_none {slots : Slots} {name : String} (h : slots.find? name = none) :
    slots.snapshots name = .empty name := by
  rw [snapshots, h]
  rfl

@[simp] theorem snapshots_put (name : String) (slot : Slot) (slots : Slots) :
    (slots.put name slot).snapshots = Function.update slots.snapshots name slot.snapshot := by
  funext other
  by_cases h : other = name
  · subst h
    rw [Function.update_self, snapshots_of_find? (find?_put_self _ slot slots)]
  · rw [Function.update_of_ne h, snapshots, find?_put_of_ne h, snapshots]

theorem entries_snapshots (slots : Slots) (name : String) :
    (slots.snapshots name).entries = slots.listed name := by
  rw [snapshots, listed]
  cases slots.find? name <;> rfl

theorem listed_congr {slots slots' : Slots} (h : slots'.snapshots = slots.snapshots) :
    slots'.listed = slots.listed := by
  funext name
  rw [← entries_snapshots, h, entries_snapshots]

theorem listed_of_update {slots slots' : Slots} {name : String} {s : Snapshot}
    (h : slots'.snapshots = Function.update slots.snapshots name s) :
    slots'.listed = Function.update slots.listed name s.entries := by
  funext other
  rw [← entries_snapshots, h]
  by_cases hname : other = name
  · rw [hname, Function.update_self, Function.update_self]
  · rw [Function.update_of_ne hname, Function.update_of_ne hname, entries_snapshots]

theorem mem_of_find? {slots : Slots} {name : String} {slot : Slot}
    (h : slots.find? name = some slot) : (name, slot) ∈ slots := by
  induction slots with
  | nil => simp [find?] at h
  | cons head rest ih =>
    obtain ⟨n, s⟩ := head
    rw [find?, List.lookup_cons] at h
    by_cases hn : name = n
    · subst hn
      obtain rfl : s = slot := by simpa using h
      exact List.mem_cons_self
    · rw [show (name == n) = false by simpa using hn] at h
      exact List.mem_cons_of_mem _ (ih h)

theorem mem_of_mem_put {name : String} {slot : Slot} {slots : Slots} {p : String × Slot}
    (h : p ∈ slots.put name slot) : p = (name, slot) ∨ p ∈ slots := by
  induction slots with
  | nil => exact Or.inl (by simpa [put] using h)
  | cons head rest ih =>
    obtain ⟨n, s⟩ := head
    rw [put] at h
    split at h
    next hn =>
      rcases List.mem_cons.mp h with h | h
      · exact Or.inl (hn ▸ h)
      · exact Or.inr (List.mem_cons_of_mem _ h)
    next =>
      rcases List.mem_cons.mp h with h | h
      · exact Or.inr (h ▸ List.mem_cons_self)
      · exact (ih h).imp id (List.mem_cons_of_mem _)

end Slots

namespace Registry

theorem syntaxes_eq (r : Registry) (k : Key) : r.syntaxes k = r.slots.snapshots k.name := by
  rw [syntaxes, Slots.snapshots]
  cases r.slots.find? k.name <;> rfl

theorem entries_syntaxes (r : Registry) (k : Key) :
    (r.syntaxes k).entries = r.slots.listed k.name := by
  rw [syntaxes_eq, Slots.entries_snapshots]

end Registry

/-! ### Registers that take writes -/

/-- A live register of that name which was not closed. -/
def Slot.TakesWrites (name : String) : Slot → Prop
  | .live r => r.key = name ∧ r.closed = false
  | .frozen _ => False

/-- Every register takes writes. -/
def Slots.Open (slots : Slots) : Prop := ∀ p ∈ slots, p.2.TakesWrites p.1

namespace Slots

theorem open_nil : Slots.Open [] := fun _ h => absurd h List.not_mem_nil

theorem Open.put {slots : Slots} (h : slots.Open) {name : String} {r : Register}
    (hkey : r.key = name) (hclosed : r.closed = false) : (slots.put name (.live r)).Open := by
  intro p hp
  rcases mem_of_mem_put hp with rfl | hp
  · exact ⟨hkey, hclosed⟩
  · exact h p hp

/-- What is found in open registers. -/
theorem Open.find? {slots : Slots} (h : slots.Open) {name : String} {slot : Slot}
    (hf : slots.find? name = some slot) :
    ∃ r, slot = .live r ∧ r.key = name ∧ r.closed = false := by
  have htakes := h _ (mem_of_find? hf)
  cases slot with
  | live r => exact ⟨r, rfl, htakes⟩
  | frozen r => exact htakes.elim

/-- A snapshot bears the name under which it is read. -/
theorem Open.key_snapshots {slots : Slots} (h : slots.Open) (name : String) :
    (slots.snapshots name).key = name := by
  cases hf : slots.find? name with
  | none => rw [snapshots_of_find?_none hf, Snapshot.empty]
  | some slot =>
    obtain ⟨r, rfl, hkey, -⟩ := h.find? hf
    rw [snapshots_of_find? hf]
    exact hkey

end Slots

/-! ### Insertions -/

namespace Writing

/-- The register that an insertion goes to has what is read under its name. Creating it does not
show. -/
theorem resolve_of_open {slots : Slots} (h : slots.Open) (name : String) :
    ∃ r slots', resolve slots name = (.live r, slots') ∧ r.key = name ∧ r.closed = false ∧
      r.snapshot = slots.snapshots name ∧ slots'.Open ∧ slots'.snapshots = slots.snapshots := by
  rw [resolve]
  cases hf : slots.find? name with
  | some slot =>
    obtain ⟨r, rfl, hkey, hclosed⟩ := h.find? hf
    exact ⟨r, slots, rfl, hkey, hclosed, (Slots.snapshots_of_find? hf).symm, h, rfl⟩
  | none =>
    have hempty : slots.snapshots name = .empty name := Slots.snapshots_of_find?_none hf
    refine ⟨.empty name, slots.put name (.live (.empty name)), rfl, rfl, rfl, hempty.symm,
      h.put rfl rfl, ?_⟩
    rw [Slots.snapshots_put]
    show Function.update slots.snapshots name (.empty name) = slots.snapshots
    rw [← hempty, Function.update_eq_self]

/-- An insertion into open registers either publishes a new list under its name and is noted, or
finds the descriptor's place taken and changes nothing that is read. -/
theorem insert_cases {w : Writing} (h : w.slots.Open) (name : String) (d : Descriptor) :
    (∃ l w', Register.insert? d (w.slots.listed name) = some l ∧
        w.insert name d = (.ok (), w') ∧ w'.slots.Open ∧
        w'.slots.snapshots = Function.update w.slots.snapshots name
          ⟨name, (w.slots.snapshots name).publication + 1, l⟩ ∧
        w'.done = ⟨name, d.id⟩ :: w.done ∧ w'.log = w.log) ∨
      (∃ w', Register.insert? d (w.slots.listed name) = none ∧
        w.insert name d = (.error (.duplicateSyntax name d.id), w') ∧ w'.slots.Open ∧
        w'.slots.snapshots = w.slots.snapshots ∧ w'.done = w.done ∧ w'.log = w.log) := by
  obtain ⟨r, slots', hres, hkey, hclosed, hsnapshot, hopen, hsame⟩ := resolve_of_open h name
  have hentries : r.entries = w.slots.listed name := by
    rw [← Slots.entries_snapshots, ← hsnapshot]
    rfl
  rw [insert, hres]
  dsimp only
  rw [Register.add, hclosed, hentries, hkey, if_neg Bool.false_ne_true]
  cases hi : Register.insert? d (w.slots.listed name) with
  | none => exact Or.inr ⟨_, rfl, rfl, hopen, hsame, rfl, rfl⟩
  | some l =>
    refine Or.inl ⟨l, _, rfl, rfl, hopen.put hkey hclosed, ?_, rfl, rfl⟩
    show (slots'.put name (.live (r.publish l))).snapshots = _
    have hpublish : (Slot.live (r.publish l)).snapshot = ⟨name, r.snapshot.publication + 1, l⟩ := by
      rw [← hkey]
      rfl
    rw [Slots.snapshots_put, hsame, ← hsnapshot, hpublish]

end Writing

/-! ### Taking insertions back -/

/-- Taking an insertion back erases its id from the list of its name. What is read there is
published anew, or there was nothing to erase. -/
theorem Slots.snapshots_retract {slots : Slots} (h : slots.Open) (i : Insertion) :
    ∃ s : Snapshot, (Writing.retract slots i).Open ∧
      (Writing.retract slots i).snapshots = Function.update slots.snapshots i.name s ∧
      s.entries = ((slots.listed i.name).eraseP fun e => e.id == i.id) ∧
      (slots.snapshots i.name).publication ≤ s.publication := by
  rw [Writing.retract]
  cases hf : slots.find? i.name with
  | none =>
    have hempty : slots.snapshots i.name = .empty i.name := snapshots_of_find?_none hf
    refine ⟨slots.snapshots i.name, h, (Function.update_eq_self _ _).symm, ?_, Nat.le_refl _⟩
    rw [← entries_snapshots, hempty]
    rfl
  | some slot =>
    obtain ⟨r, rfl, hkey, hclosed⟩ := h.find? hf
    have hsnapshot : slots.snapshots i.name = r.snapshot := snapshots_of_find? hf
    have hretract : (r.retract i.id).key = i.name ∧ (r.retract i.id).closed = false ∧
        (r.retract i.id).entries = (r.entries.eraseP fun e => e.id == i.id) ∧
        r.publication ≤ (r.retract i.id).publication := by
      rw [Register.retract]
      split
      · exact ⟨hkey, hclosed, rfl, Nat.le_succ _⟩
      next hany =>
        refine ⟨hkey, hclosed, (List.eraseP_of_forall_not fun e he hid => hany ?_).symm,
          Nat.le_refl _⟩
        exact List.any_eq_true.mpr ⟨e, he, hid⟩
    obtain ⟨hkey', hclosed', hentries', hpublication⟩ := hretract
    refine ⟨(r.retract i.id).snapshot, h.put hkey' hclosed', snapshots_put _ _ _, ?_, ?_⟩
    · rw [← entries_snapshots, hsnapshot]
      exact hentries'
    · rw [hsnapshot]
      exact hpublication

theorem Slots.listed_retract {slots : Slots} (h : slots.Open) (i : Insertion) :
    (Writing.retract slots i).Open ∧
      (Writing.retract slots i).listed = slots.listed.erase i := by
  obtain ⟨s, hopen, hsnapshots, hentries, -⟩ := snapshots_retract h i
  refine ⟨hopen, ?_⟩
  rw [listed_of_update hsnapshots, hentries, Listing.erase]

/-- Taking several insertions back, one after the other. -/
theorem Slots.listed_foldl_retract {slots : Slots} (h : slots.Open) (is : List Insertion) :
    (is.foldl Writing.retract slots).Open ∧
      (is.foldl Writing.retract slots).listed = is.foldl Listing.erase slots.listed := by
  induction is generalizing slots with
  | nil => exact ⟨h, rfl⟩
  | cons i rest ih =>
    obtain ⟨hopen, hlisted⟩ := listed_retract h i
    rw [List.foldl_cons, List.foldl_cons, ← hlisted]
    exact ih hopen

/-! ### Freezing -/

namespace Slots

/-- Freezing leaves the snapshot of every name as it is, however far it gets. -/
theorem map_snapshot_freeze (slots : Slots) (name : String) :
    (slots.freeze.2.find? name).map Slot.snapshot = (slots.find? name).map Slot.snapshot := by
  induction slots with
  | nil => rfl
  | cons head rest ih =>
    obtain ⟨n, slot⟩ := head
    cases slot with
    | frozen r =>
      show (List.lookup name ((n, Slot.frozen r) :: (freeze rest).2)).map Slot.snapshot = _
      rw [List.lookup_cons, find?, List.lookup_cons]
      cases name == n with
      | true => rfl
      | false => exact ih
    | live r =>
      rw [freeze, Register.close]
      by_cases hclosed : r.closed = true
      · rw [if_pos hclosed]
      · rw [if_neg hclosed]
        show (List.lookup name ((n, Slot.frozen ⟨r.key, r.snapshot⟩) :: (freeze rest).2)).map
          Slot.snapshot = _
        rw [List.lookup_cons, find?, List.lookup_cons]
        cases name == n with
        | true => rfl
        | false => exact ih

@[simp] theorem snapshots_freeze (slots : Slots) : slots.freeze.2.snapshots = slots.snapshots := by
  funext name
  rw [snapshots, map_snapshot_freeze, snapshots]

@[simp] theorem listed_freeze (slots : Slots) : slots.freeze.2.listed = slots.listed :=
  listed_congr (snapshots_freeze slots)

@[simp] theorem names_freeze (slots : Slots) : slots.freeze.2.names = slots.names := by
  induction slots with
  | nil => rfl
  | cons head rest ih =>
    obtain ⟨n, slot⟩ := head
    cases slot with
    | frozen r => exact congrArg (n :: ·) ih
    | live r =>
      rw [freeze, Register.close]
      by_cases hclosed : r.closed = true
      · rw [if_pos hclosed]
      · rw [if_neg hclosed]
        exact congrArg (n :: ·) ih

/-- Open registers are all frozen. -/
theorem freeze_of_open {slots : Slots} (h : slots.Open) :
    (∃ total, slots.freeze.1 = .ok total) ∧ ∀ p ∈ slots.freeze.2, ∃ r, p.2 = .frozen r := by
  induction slots with
  | nil => exact ⟨⟨0, rfl⟩, fun _ hp => absurd hp List.not_mem_nil⟩
  | cons head rest ih =>
    obtain ⟨n, slot⟩ := head
    obtain ⟨⟨total, htotal⟩, hrest⟩ := ih fun p hp => h p (List.mem_cons_of_mem _ hp)
    have htakes := h _ List.mem_cons_self
    cases slot with
    | frozen r => exact htakes.elim
    | live r =>
      rw [freeze, Register.close, if_neg (by simp [htakes.2])]
      refine ⟨⟨r.snapshot.entries.length + total, ?_⟩, fun p hp => ?_⟩
      · show Except.map _ (freeze rest).1 = _
        rw [htotal]
        rfl
      · rcases List.mem_cons.mp hp with rfl | hp
        · exact ⟨_, rfl⟩
        · exact hrest p hp

end Slots

namespace Registry

theorem keys_eq_of_names {r r' : Registry} (h : r'.slots.names = r.slots.names) :
    r'.keys = r.keys := by
  rw [keys, h, keys]

/-- Closing freezes, or is refused. -/
theorem slots_close (r : Registry) :
    r.close.registry.slots = r.slots ∨ r.close.registry.slots = r.slots.freeze.2 := by
  rw [close]
  split
  · exact Or.inl rfl
  · rcases r.slots.freeze with ⟨e | total, slots⟩
    · exact Or.inr rfl
    · exact Or.inr rfl

theorem snapshots_close (r : Registry) : r.close.registry.slots.snapshots = r.slots.snapshots := by
  rcases r.slots_close with h | h
  · rw [h]
  · rw [h, Slots.snapshots_freeze]

theorem names_close (r : Registry) : r.close.registry.slots.names = r.slots.names := by
  rcases r.slots_close with h | h
  · rw [h]
  · rw [h, Slots.names_freeze]

/-- Closing leaves every list as it is, and the names. This is so of any registry, also if a
register refuses to be closed. -/
theorem contents_close (r : Registry) :
    (∀ key, r.close.registry.syntaxes key = r.syntaxes key) ∧ r.close.registry.keys = r.keys := by
  refine ⟨fun key => ?_, keys_eq_of_names r.names_close⟩
  rw [syntaxes_eq, syntaxes_eq, snapshots_close]

end Registry

end Phrasebook
