import Phrasebook.Proofs.Builds
import Phrasebook.Proofs.Precedence
import Phrasebook.Register
/-!
# Phrasebook.Proofs.Additions

Adding descriptors to one register, one after the other.

A register that takes writes refuses exactly the descriptors it lists already
(`Orderly.gained_add`). So what it lists in the end is what it listed and what was offered, in match
order, and the order in which the descriptors came leaves no trace
(`Orderly.snapshot_addAll_of_perm`), not even in the number of the publication, which counts what
was taken.
-/

namespace Phrasebook

namespace Register

variable {D : Descriptor → Prop} {r : Register} {d : Descriptor} {ds es : List Descriptor}

/-- Offers descriptors one after the other; some may be refused. -/
def addAll (r : Register) (ds : List Descriptor) : Register := ds.foldl (fun r d => (r.add d).2) r

@[simp] theorem addAll_nil (r : Register) : r.addAll [] = r := rfl

@[simp] theorem addAll_cons (r : Register) (d : Descriptor) (ds : List Descriptor) :
    r.addAll (d :: ds) = (r.add d).2.addAll ds := rfl

/-- None of the descriptors is refused. -/
def TakesAll : Register → List Descriptor → Prop
  | _, [] => True
  | r, d :: ds => (r.add d).1 = .ok () ∧ (r.add d).2.TakesAll ds

/-- The register takes writes, and lists descriptors of `D` in match order. -/
structure Orderly (D : Descriptor → Prop) (r : Register) : Prop where
  isOpen : r.closed = false
  sorted : r.entries.Pairwise Descriptor.Precedes
  known : ∀ d ∈ r.entries, D d

theorem orderly_empty (D : Descriptor → Prop) (key : String) : (empty key).Orderly D :=
  ⟨rfl, List.Pairwise.nil, fun _ h => absurd h List.not_mem_nil⟩

/-- What `r'` has over `r`: the descriptors `ds`, and one publication for each new one. -/
structure Gained (D : Descriptor → Prop) (r : Register) (ds : List Descriptor) (r' : Register) :
    Prop where
  orderly : r'.Orderly D
  mem_entries : ∀ d, d ∈ r'.entries ↔ d ∈ r.entries ∨ d ∈ ds
  key : r'.key = r.key
  publication : r'.publication + r.entries.length = r.publication + r'.entries.length

theorem Gained.trans {r' r'' : Register} (h : Gained D r ds r') (h' : Gained D r' es r'') :
    Gained D r (ds ++ es) r'' where
  orderly := h'.orderly
  mem_entries d := by rw [h'.mem_entries, h.mem_entries, List.mem_append, or_assoc]
  key := h'.key.trans h.key
  publication := by
    have hp := h.publication
    have hp' := h'.publication
    omega

namespace Orderly

/-- One addition succeeds exactly if the descriptor is new. -/
theorem gained_add (h : r.Orderly D) (hD : ToldApart D) (hd : D d) :
    ((r.add d).1 = .ok () ↔ d ∉ r.entries) ∧ Gained D r [d] (r.add d).2 := by
  have hnone := insert?_eq_none_iff (d := d) h.sorted
  rw [add, h.isOpen, if_neg Bool.false_ne_true]
  rcases hi : insert? d r.entries with _ | l
  · obtain ⟨e, he, -, hid⟩ := hnone.mp hi
    have hmem : d ∈ r.entries := hD hd (h.known e he) hid ▸ he
    exact ⟨by simp [hmem], h, by simp [hmem], rfl, rfl⟩
  · have hperm := perm_of_insert? hi
    have hnew : d ∉ r.entries := by
      intro hmem
      rw [hnone.mpr ⟨d, hmem, rfl, rfl⟩] at hi
      cases hi
    have hmem (e : Descriptor) : e ∈ l ↔ e ∈ r.entries ∨ e ∈ [d] := by
      rw [hperm.mem_iff, List.mem_cons, List.mem_singleton, or_comm]
    refine ⟨by simp [hnew], ⟨h.isOpen, pairwise_of_insert? h.sorted hi, ?_⟩, hmem, rfl, ?_⟩
    · intro e he
      rcases (hmem e).mp he with he | he
      · exact h.known e he
      · exact List.mem_singleton.mp he ▸ hd
    · have hlength := hperm.length_eq
      simp only [publish, List.length_cons] at hlength ⊢
      omega

theorem gained_addAll (h : r.Orderly D) (hD : ToldApart D) (hds : ∀ d ∈ ds, D d) :
    Gained D r ds (r.addAll ds) := by
  induction ds generalizing r with
  | nil => exact ⟨h, by simp, rfl, rfl⟩
  | cons d rest ih =>
    rw [List.forall_mem_cons] at hds
    have hadd := (h.gained_add hD hds.1).2
    exact hadd.trans (ih hadd.orderly hds.2)

/-- Whether the descriptors are all taken is a matter of which they are. -/
theorem takesAll_iff (h : r.Orderly D) (hD : ToldApart D) (hds : ∀ d ∈ ds, D d) :
    r.TakesAll ds ↔ ds.Nodup ∧ ∀ d ∈ ds, d ∉ r.entries := by
  induction ds generalizing r with
  | nil => simp [TakesAll]
  | cons d rest ih =>
    rw [List.forall_mem_cons] at hds
    obtain ⟨hok, hadd⟩ := h.gained_add hD hds.1
    rw [TakesAll, hok, ih hadd.orderly hds.2, List.nodup_cons, List.forall_mem_cons]
    simp only [hadd.mem_entries, List.mem_singleton, not_or]
    constructor
    · rintro ⟨hnew, hnodup, hall⟩
      exact ⟨⟨fun hd => (hall d hd).2 rfl, hnodup⟩, hnew, fun e he => (hall e he).1⟩
    · rintro ⟨⟨hd, hnodup⟩, hnew, hall⟩
      exact ⟨hnew, hnodup, fun e he => ⟨hall e he, fun heq => hd (heq ▸ he)⟩⟩

/-- The order in which descriptors come leaves no trace. -/
theorem snapshot_addAll_of_perm (h : r.Orderly D) (hD : ToldApart D) (hds : ∀ d ∈ ds, D d)
    (hperm : es.Perm ds) : (r.addAll es).snapshot = (r.addAll ds).snapshot := by
  have he : Gained D r es (r.addAll es) :=
    h.gained_addAll hD fun d hd => hds d (hperm.mem_iff.mp hd)
  have hd := h.gained_addAll hD hds
  have hentries : (r.addAll es).entries = (r.addAll ds).entries := by
    refine Descriptor.eq_of_mem_iff he.orderly.sorted hd.orderly.sorted fun d => ?_
    rw [he.mem_entries, hd.mem_entries, hperm.mem_iff]
  have hpublication : (r.addAll es).publication = (r.addAll ds).publication := by
    have hcount := he.publication
    have hcount' := hd.publication
    rw [hentries] at hcount
    omega
  rw [snapshot, snapshot, he.key, hd.key, hentries, hpublication]

end Orderly

end Register

end Phrasebook
