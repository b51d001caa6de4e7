import Phrasebook.Descriptor
/-!
# Phrasebook.Register

The descriptors of one key, in match order.

* A register lists its descriptors by priority; the id breaks ties, so descriptors of equal
  priority are all kept.
* Readers take **snapshots**. A snapshot never changes, and it carries the number of the publication
  it was taken from, so that what was derived from it can be kept for as long as the number stays.
  Every insertion and every removal publishes anew, also one that is undone right after.
* Once closed, a register refuses every write. Its successor is a **frozen register**, which holds
  the snapshot of the moment of closing for good.
-/

namespace Phrasebook

open Text

/-- The contents of one register at one moment. -/
structure Snapshot where
  /-- The name of the key it was read from. -/
  key : String
  /-- The number of its publication within the register. -/
  publication : Nat
  entries : List Descriptor

namespace Snapshot

/-- What is read from a key that has no register. -/
def empty (key : String) : Snapshot := ⟨key, 0, []⟩

/-- Whether two snapshots of one registry are of the same publication. -/
def same (a b : Snapshot) : Bool := a.key = b.key && a.publication = b.publication

/-- The inspection text. -/
def inspect (s : Snapshot) : String := listed (s.entries.map Descriptor.inspect)

end Snapshot

/-- The register that a closed one leaves behind. -/
structure FrozenRegister where
  key : String
  snapshot : Snapshot

namespace FrozenRegister

/-- Always refused. -/
def add (r : FrozenRegister) (_ : Descriptor) : Except RegistryError Unit :=
  .error (.registrationClosed (some r.key))

/-- Always refused: the register is closed already. -/
def close (r : FrozenRegister) : Except RegistryError FrozenRegister :=
  .error (.registrationClosed (some r.key))

end FrozenRegister

/-- The register of one key. -/
structure Register where
  key : String
  entries : List Descriptor
  closed : Bool
  /-- How often contents were published after the first, empty one. -/
  publication : Nat

namespace Register

/-- A register before the first write. -/
def empty (key : String) : Register := ⟨key, [], false, 0⟩

/-- The current contents. -/
def snapshot (r : Register) : Snapshot := ⟨r.key, r.publication, r.entries⟩

/-- Publishes new contents. -/
def publish (r : Register) (entries : List Descriptor) : Register :=
  { r with entries, publication := r.publication + 1 }

/-- Inserts a descriptor before the first one that it precedes, or gives `none` if its very place is
taken. -/
def insert? (d : Descriptor) : List Descriptor → Option (List Descriptor)
  | [] => some [d]
  | e :: rest =>
    if d.Precedes e then some (d :: e :: rest)
    else if d.SamePlace e then none
    else (insert? d rest).map (e :: ·)

/-- An insertion leaves the new descriptor and all that was there. -/
theorem perm_of_insert? {d : Descriptor} {l l' : List Descriptor} (h : insert? d l = some l') :
    l'.Perm (d :: l) := by
  induction l generalizing l' with
  | nil =>
    obtain rfl : [d] = l' := by simpa [insert?] using h
    exact .refl _
  | cons e rest ih =>
    rw [insert?] at h
    split at h
    · obtain rfl : d :: e :: rest = l' := by simpa using h
      exact .refl _
    · split at h
      · cases h
      · obtain ⟨r, hr, rfl⟩ := Option.map_eq_some_iff.mp h
        exact ((ih hr).cons e).trans (.swap d e rest)

/-- An insertion keeps the match order. -/
theorem pairwise_of_insert? {d : Descriptor} {l l' : List Descriptor}
    (hl : l.Pairwise Descriptor.Precedes) (h : insert? d l = some l') :
    l'.Pairwise Descriptor.Precedes := by
  induction l generalizing l' with
  | nil =>
    obtain rfl : [d] = l' := by simpa [insert?] using h
    exact List.pairwise_singleton _ _
  | cons e rest ih =>
    rw [List.pairwise_cons] at hl
    rw [insert?] at h
    split at h
    next hde =>
      obtain rfl : d :: e :: rest = l' := by simpa using h
      refine List.pairwise_cons.mpr ⟨fun x hx => ?_, List.pairwise_cons.mpr hl⟩
      rcases List.mem_cons.mp hx with rfl | hx
      · exact hde
      · exact hde.trans (hl.1 x hx)
    next hde =>
      split at h
      · cases h
      next hsame =>
        obtain ⟨r, hr, rfl⟩ := Option.map_eq_some_iff.mp h
        have hed : e.Precedes d := by
          rcases d.precedes_trichotomy e with g | g | g
          · exact absurd g hde
          · exact absurd g hsame
          · exact g
        refine List.pairwise_cons.mpr ⟨fun x hx => ?_, ih hl.2 hr⟩
        rcases List.mem_cons.mp ((perm_of_insert? hr).mem_iff.mp hx) with rfl | hx
        · exact hed
        · exact hl.1 x hx

/-- In match order an insertion finds its place unless a descriptor stands there. -/
theorem insert?_eq_none_iff {d : Descriptor} {l : List Descriptor}
    (hl : l.Pairwise Descriptor.Precedes) : insert? d l = none ↔ ∃ e ∈ l, d.SamePlace e := by
  induction l with
  | nil => simp [insert?]
  | cons e rest ih =>
    rw [List.pairwise_cons] at hl
    rw [insert?]
    split
    next hde =>
      simp only [reduceCtorEq, List.mem_cons, exists_eq_or_imp, false_iff, not_or, not_exists,
        not_and]
      refine ⟨hde.not_samePlace, fun x hx => (hde.trans (hl.1 x hx)).not_samePlace⟩
    next hde =>
      split
      next hsame => simp [hsame]
      next hsame => simp [ih hl.2, hsame]

/-- Removing what was inserted gives back what was there. -/
theorem eraseP_of_insert? {d : Descriptor} {l l' : List Descriptor} (h : insert? d l = some l')
    (hid : ∀ e ∈ l, e.id ≠ d.id) : l'.eraseP (fun e => e.id == d.id) = l := by
  induction l generalizing l' with
  | nil =>
    obtain rfl : [d] = l' := by simpa [insert?] using h
    simp
  | cons e rest ih =>
    rw [insert?] at h
    split at h
    · obtain rfl : d :: e :: rest = l' := by simpa using h
      simp
    · split at h
      · cases h
      · obtain ⟨r, hr, rfl⟩ := Option.map_eq_some_iff.mp h
        have he : e.id ≠ d.id := hid e List.mem_cons_self
        simpa [List.eraseP_cons, he] using ih hr fun x hx => hid x (List.mem_cons_of_mem e hx)

/-- Adds a descriptor in match order. -/
def add (r : Register) (d : Descriptor) : Except RegistryError Unit × Register :=
  if r.closed then (.error (.registrationClosed (some r.key)), r)
  else
    match insert? d r.entries with
    | none => (.error (.duplicateSyntax r.key d.id), r)
    | some entries => (.ok (), r.publish entries)

/-- Removes the descriptor of that id, if it is there. -/
def retract (r : Register) (id : Nat) : Register :=
  if r.entries.any fun e => e.id == id then r.publish (r.entries.eraseP fun e => e.id == id) else r

/-- Closes the register and hands out its successor. -/
def close (r : Register) : Except RegistryError FrozenRegister × Register :=
  if r.closed then (.error (.registrationClosed (some r.key)), r)
  else (.ok ⟨r.key, r.snapshot⟩, { r with closed := true })

/-- The inspection text. -/
def inspect (r : Register) : String :=
  record "SyntaxRegister"
    [("key", quoted r.key), ("len", toString r.entries.length), ("closed", truth r.closed)]

end Register

end Phrasebook
