import Mathlib.Data.List.Nodup
import Phrasebook.Proofs.Builds
import Phrasebook.Proofs.Registry.Listing
/-!
# Phrasebook.Proofs.Registry.Rollback

How far a write has come, and that it can be taken back from there.

A write is a sequence of insertions, each of one descriptor under one name. `Wrote D before ps w`
says that a writing which began with the listing `before` has made the insertions `ps`: they are
listed now, none of them was before, and taking back what is noted gives `before` again. One
insertion keeps this, whether it succeeds or finds its place taken (`Wrote.insert`), and so does a
whole write, wherever it stops (`Wrote.registerAll`).

Insertions are taken back by id. That this takes out the descriptor that was put in, and not one
which had been there, rests on ids telling descriptors apart.
-/

namespace Phrasebook

/-- The insertions that a registration asks for: the descriptor under its key, then under the
ancestors. -/
def Staged.places (e : Staged) : List (String × Descriptor) :=
  e.key.lineage.map fun link => (link.name, e.descriptor)

theorem Staged.mem_places {e : Staged} {name : String} {d : Descriptor} :
    (name, d) ∈ e.places ↔ e.descriptor = d ∧ ∃ link ∈ e.key.lineage, link.name = name := by
  simp only [places, List.mem_map, Prod.mk.injEq]
  constructor
  · rintro ⟨link, hlink, hname, hd⟩
    exact ⟨hd, link, hlink, hname⟩
  · rintro ⟨hd, link, hlink, hname⟩
    exact ⟨link, hlink, hname, hd⟩

/-- The key of the registration takes the payload, and so do all its ancestors. -/
def Staged.Accepted (e : Staged) : Prop :=
  ∀ link ∈ e.key.lineage, link.accepts e.descriptor.payload = true

namespace Writing

variable {D : Descriptor → Prop} {before : Listing} {ps qs : List (String × Descriptor)}
  {w : Writing}

/-- The writing began with the listing `before` and has made the insertions `ps`, of descriptors of
`D` all of them. -/
structure Wrote (D : Descriptor → Prop) (before : Listing) (ps : List (String × Descriptor))
    (w : Writing) : Prop where
  isOpen : w.slots.Open
  sorted : ∀ name, (w.slots.listed name).Pairwise Descriptor.Precedes
  known : ∀ name, ∀ d ∈ w.slots.listed name, D d
  mem_listed : ∀ name d, d ∈ w.slots.listed name ↔ d ∈ before name ∨ (name, d) ∈ ps
  nodup : ps.Nodup
  /-- No insertion found its descriptor there already. -/
  absent : ∀ p ∈ ps, p.2 ∉ before p.1
  /-- Each insertion is noted, by its id. -/
  noted : w.done = (ps.map fun p => ⟨p.1, p.2.id⟩).reverse
  /-- What is noted is exactly what has to be taken back. -/
  undoes : w.done.foldl Listing.erase w.slots.listed = before

theorem wrote_start {slots : Slots} (hopen : slots.Open)
    (hsorted : ∀ name, (slots.listed name).Pairwise Descriptor.Precedes)
    (hknown : ∀ name, ∀ d ∈ slots.listed name, D d) :
    Wrote D slots.listed [] (start slots) where
  isOpen := hopen
  sorted := hsorted
  known := hknown
  mem_listed name d := by simp [start]
  nodup := List.nodup_nil
  absent p hp := absurd hp List.not_mem_nil
  noted := rfl
  undoes := rfl

/-- Reporting events has nothing to do with what was written. -/
theorem Wrote.report (h : Wrote D before ps w) (log : List Log.Event) :
    Wrote D before ps { w with log } :=
  ⟨h.isOpen, h.sorted, h.known, h.mem_listed, h.nodup, h.absent, h.noted, h.undoes⟩

/-- Undoing a write restores the listing it began with. -/
theorem Wrote.undo (h : Wrote D before ps w) : w.undo.Open ∧ w.undo.listed = before := by
  obtain ⟨hopen, hlisted⟩ := Slots.listed_foldl_retract h.isOpen w.done
  exact ⟨hopen, hlisted.trans h.undoes⟩

/-! ### One insertion -/

/-- In a list of told-apart descriptors in match order, a place is taken only by the very
descriptor. -/
theorem Wrote.insert?_eq_none_iff (h : Wrote D before ps w) (hD : ToldApart D) {d : Descriptor}
    (hd : D d) (name : String) :
    Register.insert? d (w.slots.listed name) = none ↔ d ∈ before name ∨ (name, d) ∈ ps := by
  rw [Register.insert?_eq_none_iff (h.sorted name), ← h.mem_listed]
  constructor
  · rintro ⟨e, he, -, hid⟩
    exact hD hd (h.known name e he) hid ▸ he
  · intro hmem
    exact ⟨d, hmem, rfl, rfl⟩

/-- A successful insertion: the new list is sorted, it has the new descriptor beside the old ones,
and erasing the new id restores the old one. -/
theorem Wrote.extend (h : Wrote D before ps w) (hD : ToldApart D) {d : Descriptor} (hd : D d)
    {name : String} {l : List Descriptor} {w' : Writing}
    (hl : Register.insert? d (w.slots.listed name) = some l) (hopen : w'.slots.Open)
    (hlisted : w'.slots.listed = Function.update w.slots.listed name l)
    (hdone : w'.done = ⟨name, d.id⟩ :: w.done) : Wrote D before (ps ++ [(name, d)]) w' := by
  have hnew : ¬(d ∈ before name ∨ (name, d) ∈ ps) := by
    rw [← h.insert?_eq_none_iff hD hd name, hl]
    exact Option.some_ne_none l
  have hperm : l.Perm (d :: w.slots.listed name) := Register.perm_of_insert? hl
  -- nothing else of this id is listed there, so erasing the id takes `d` out again
  have hid : ∀ e ∈ w.slots.listed name, e.id ≠ d.id := by
    intro e he hid
    exact hnew ((h.mem_listed name d).mp (hD (h.known name e he) hd hid ▸ he))
  have herase : Listing.erase (Function.update w.slots.listed name l) ⟨name, d.id⟩ =
      w.slots.listed := by
    rw [Listing.erase, Function.update_self, Function.update_idem,
      Register.eraseP_of_insert? hl hid, Function.update_eq_self]
  refine ⟨hopen, ?_, ?_, ?_, ?_, ?_, ?_, ?_⟩
  · rw [hlisted]
    refine (Function.forall_update_iff _ fun _ (l : List Descriptor) =>
      l.Pairwise Descriptor.Precedes).mpr ⟨?_, fun n _ => h.sorted n⟩
    exact Register.pairwise_of_insert? (h.sorted name) hl
  · rw [hlisted]
    refine (Function.forall_update_iff _ fun _ (l : List Descriptor) => ∀ d ∈ l, D d).mpr
      ⟨fun e he => ?_, fun n _ => h.known n⟩
    rcases List.mem_cons.mp (hperm.mem_iff.mp he) with rfl | he
    · exact hd
    · exact h.known name e he
  · intro n e
    rw [hlisted, List.mem_append, List.mem_singleton, Prod.mk.injEq, ← or_assoc,
      ← h.mem_listed n e]
    by_cases hn : n = name
    · subst hn
      rw [Function.update_self, hperm.mem_iff, List.mem_cons]
      tauto
    · rw [Function.update_of_ne hn]
      tauto
  · rw [List.nodup_append]
    refine ⟨h.nodup, List.nodup_singleton _, fun p hp q hq hpq => hnew (Or.inr ?_)⟩
    rwa [← List.mem_singleton.mp hq, ← hpq]
  · intro p hp
    rcases List.mem_append.mp hp with hp | hp
    · exact h.absent p hp
    · rw [List.mem_singleton.mp hp]
      exact fun hmem => hnew (Or.inl hmem)
  · rw [hdone, h.noted, List.map_append, List.reverse_append]
    rfl
  · rw [hdone, hlisted, List.foldl_cons, herase]
    exact h.undoes

/-- An insertion succeeds and has then been made, or finds the descriptor listed under that name and
changes nothing. -/
theorem Wrote.insert (h : Wrote D before ps w) (hD : ToldApart D) {d : Descriptor} (hd : D d)
    (name : String) :
    (∃ w', w.insert name d = (.ok (), w') ∧ Wrote D before (ps ++ [(name, d)]) w') ∨
      (∃ w', w.insert name d = (.error (.duplicateSyntax name d.id), w') ∧
        Wrote D before ps w' ∧ (d ∈ before name ∨ (name, d) ∈ ps)) := by
  rcases insert_cases h.isOpen name d with
    ⟨l, w', hl, hw, hopen, hupdate, hdone, -⟩ | ⟨w', hl, hw, hopen, hsame, hdone, -⟩
  · exact Or.inl ⟨w', hw, h.extend hD hd hl hopen (Slots.listed_of_update hupdate) hdone⟩
  · have hlisted := Slots.listed_congr hsame
    refine Or.inr ⟨w', hw, ?_, (h.insert?_eq_none_iff hD hd name).mp hl⟩
    refine ⟨hopen, ?_, ?_, ?_, h.nodup, h.absent, hdone.trans h.noted, ?_⟩
    · rw [hlisted]
      exact h.sorted
    · rw [hlisted]
      exact h.known
    · rw [hlisted]
      exact h.mem_listed
    · rw [hdone, hlisted]
      exact h.undoes

/-! ### Many insertions -/

/-- How a write that has made `ps` and is to make `qs` ends: all of it was made, or it stopped
before the first insertion that finds its descriptor there, or it was refused for one of the other
reasons. -/
inductive Ends (D : Descriptor → Prop) (before : Listing) (ps qs : List (String × Descriptor))
    (refusal : RegistryError → Prop) : Except RegistryError Unit × Writing → Prop
  | all {w : Writing} (wrote : Wrote D before (ps ++ qs) w) :
      Ends D before ps qs refusal (.ok (), w)
  | clash {w : Writing} (pre post : List (String × Descriptor)) {p : String × Descriptor}
      (split : qs = pre ++ p :: post) (wrote : Wrote D before (ps ++ pre) w)
      (taken : p.2 ∈ before p.1 ∨ p ∈ ps ++ pre) :
      Ends D before ps qs refusal (.error (.duplicateSyntax p.1 p.2.id), w)
  | refused {w : Writing} (pre post : List (String × Descriptor)) {e : RegistryError}
      (split : qs = pre ++ post) (wrote : Wrote D before (ps ++ pre) w) (reason : refusal e) :
      Ends D before ps qs refusal (.error e, w)

/-- What comes after `qs` was made goes on from there. -/
theorem Ends.append {refusal : RegistryError → Prop} {rs : List (String × Descriptor)}
    {r : Except RegistryError Unit × Writing} (h : Ends D before (ps ++ qs) rs refusal r) :
    Ends D before ps (qs ++ rs) refusal r := by
  cases h with
  | all wrote => exact .all (by rwa [← List.append_assoc])
  | clash pre post split wrote taken =>
    refine .clash (qs ++ pre) post ?_ ?_ ?_
    · rw [split, List.append_assoc]
    · rwa [← List.append_assoc]
    · rwa [← List.append_assoc]
  | refused pre post split wrote reason =>
    refine .refused (qs ++ pre) post ?_ ?_ reason
    · rw [split, List.append_assoc]
    · rwa [← List.append_assoc]

/-- A write that stopped in `qs` is not helped by what would have come after. -/
theorem Ends.of_error {refusal : RegistryError → Prop} {e : RegistryError}
    (h : Ends D before ps qs refusal (.error e, w)) (rs : List (String × Descriptor)) :
    Ends D before ps (qs ++ rs) refusal (.error e, w) := by
  cases h with
  | clash pre post split wrote taken =>
    refine .clash pre (post ++ rs) ?_ wrote taken
    rw [split, List.append_assoc, List.cons_append]
  | refused pre post split wrote reason =>
    refine .refused pre (post ++ rs) ?_ wrote reason
    rw [split, List.append_assoc]

theorem Ends.mono {refusal refusal' : RegistryError → Prop}
    {r : Except RegistryError Unit × Writing} (h : Ends D before ps qs refusal r)
    (himp : ∀ e, refusal e → refusal' e) : Ends D before ps qs refusal' r := by
  cases h with
  | all wrote => exact .all wrote
  | clash pre post split wrote taken => exact .clash pre post split wrote taken
  | refused pre post split wrote reason => exact .refused pre post split wrote (himp _ reason)

theorem Wrote.insertAll (h : Wrote D before ps w) (hD : ToldApart D) {d : Descriptor} (hd : D d)
    (links : List Key) :
    Ends D before ps (links.map fun link => (link.name, d)) (fun _ => False)
      (w.insertAll d links) := by
  induction links generalizing ps w with
  | nil => exact .all (by rwa [List.map_nil, List.append_nil])
  | cons link rest ih =>
    rw [Writing.insertAll, List.map_cons]
    rcases h.insert hD hd link.name with ⟨w', hw, hwrote⟩ | ⟨w', hw, hwrote, htaken⟩
    · rw [hw]
      show Ends D before ps ([(link.name, d)] ++ rest.map fun link => (link.name, d)) _ _
      exact (ih hwrote).append
    · rw [hw]
      exact .clash [] _ rfl (by rwa [List.append_nil]) (by rwa [List.append_nil])

/-! ### Registrations -/

/-- Kinds are checked along the lineage, nearest link first. -/
theorem check_cases (p : Payload) (links : List Key) :
    (check p links = .ok () ∧ ∀ link ∈ links, link.accepts p = true) ∨
      ∃ link ∈ links, check p links = .error (link.mismatch p) ∧ link.accepts p = false := by
  induction links with
  | nil => exact Or.inl ⟨rfl, fun _ h => absurd h List.not_mem_nil⟩
  | cons link rest ih =>
    rw [check]
    cases hacc : link.accepts p with
    | false => exact Or.inr ⟨link, List.mem_cons_self, rfl, hacc⟩
    | true =>
      rw [if_pos rfl]
      rcases ih with ⟨hok, hall⟩ | ⟨bad, hmem, herr, hrej⟩
      · exact Or.inl ⟨hok, List.forall_mem_cons.mpr ⟨hacc, hall⟩⟩
      · exact Or.inr ⟨bad, List.mem_cons_of_mem _ hmem, herr, hrej⟩

theorem accepted_of_register {w w' : Writing} {x : Staged}
    (h : w.register x.key x.descriptor = (.ok (), w')) : x.Accepted := by
  rw [Writing.register] at h
  rcases check_cases x.descriptor.payload x.key.lineage with ⟨-, hall⟩ | ⟨link, -, herr, -⟩
  · exact hall
  · rw [herr] at h
    cases h

theorem accepted_of_registerAll {w w' : Writing} {entries : List Staged}
    (h : w.registerAll entries = (.ok (), w')) : ∀ x ∈ entries, x.Accepted := by
  induction entries generalizing w with
  | nil => simp
  | cons x rest ih =>
    rw [Writing.registerAll] at h
    rcases hr : w.register x.key x.descriptor with ⟨e | ⟨⟩, w''⟩
    · rw [hr] at h
      cases h
    · rw [hr] at h
      exact List.forall_mem_cons.mpr ⟨accepted_of_register hr, ih h⟩

/-- The refusals of entries whose keys do not take their payload. -/
def Mismatch (entries : List Staged) (e : RegistryError) : Prop :=
  ∃ x ∈ entries, ∃ link ∈ x.key.lineage, link.accepts x.descriptor.payload = false ∧
    e = link.mismatch x.descriptor.payload

theorem Wrote.register (h : Wrote D before ps w) (hD : ToldApart D) (x : Staged)
    (hx : D x.descriptor) :
    Ends D before ps x.places (Mismatch [x]) (w.register x.key x.descriptor) := by
  rw [Writing.register]
  rcases check_cases x.descriptor.payload x.key.lineage with ⟨hok, -⟩ | ⟨link, hmem, herr, hrej⟩
  · rw [hok]
    dsimp only
    have hends : Ends D before ps x.places (Mismatch [x])
        (w.insertAll x.descriptor x.key.lineage) :=
      (h.insertAll hD hx x.key.lineage).mono fun _ hf => hf.elim
    rcases hr : w.insertAll x.descriptor x.key.lineage with ⟨e | ⟨⟩, w'⟩
    · rw [hr] at hends
      exact hends
    · rw [hr] at hends
      cases hends with
      | all wrote => exact .all (wrote.report _)
  · rw [herr]
    exact .refused [] _ rfl (by rwa [List.append_nil])
      ⟨x, List.mem_singleton_self x, link, hmem, hrej, rfl⟩

theorem Mismatch.mono {xs ys : List Staged} (h : ∀ x ∈ xs, x ∈ ys) {e : RegistryError}
    (he : Mismatch xs e) : Mismatch ys e := by
  obtain ⟨x, hx, hrest⟩ := he
  exact ⟨x, h x hx, hrest⟩

/-- A whole write, entry by entry. -/
theorem Wrote.registerAll (h : Wrote D before ps w) (hD : ToldApart D) (entries : List Staged)
    (hentries : ∀ x ∈ entries, D x.descriptor) :
    Ends D before ps (entries.flatMap Staged.places) (Mismatch entries)
      (w.registerAll entries) := by
  induction entries generalizing ps w with
  | nil => exact .all (by rwa [List.flatMap_nil, List.append_nil])
  | cons x rest ih =>
    rw [List.forall_mem_cons] at hentries
    rw [Writing.registerAll, List.flatMap_cons]
    have hends : Ends D before ps x.places (Mismatch (x :: rest))
        (w.register x.key x.descriptor) :=
      (h.register hD x hentries.1).mono fun _ => Mismatch.mono (by simp)
    rcases hr : w.register x.key x.descriptor with ⟨e | ⟨⟩, w'⟩
    · rw [hr] at hends
      exact hends.of_error _
    · rw [hr] at hends
      cases hends with
      | all wrote =>
        exact (ih wrote hentries.2).append.mono fun _ =>
          Mismatch.mono fun y hy => List.mem_cons_of_mem x hy

end Writing

end Phrasebook
