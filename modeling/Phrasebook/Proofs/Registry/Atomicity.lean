import Phrasebook.Proofs.Registry.Runs
/-!
# Phrasebook.Proofs.Registry.Atomicity

When a batch is committed, and what becomes of one that is not.

A batch stands for a sequence of insertions, `Batch.insertions`: entry by entry, and within an entry
from the key up to the root. It is **clear** for a registry if none of them comes twice and none is
there already (`Registry.Clear`). A clear batch is committed; otherwise the first insertion that
makes it unclear is reported and every list stays as it was (`Sound.commit_outcome`).

The statements are about batches that were filled by pushing, since pushing is what checks kinds.
-/

namespace Phrasebook

/-! ### Filling batches -/

namespace Batch

/-- The batch that staging these registrations gives, where those that are refused are left out. -/
def ofPushes (xs : List Staged) : Batch :=
  xs.foldl (fun b x => (b.push x.key x.descriptor).2) .empty

/-- Staging is refused, or puts the registration behind the others. -/
theorem push_cases (b : Batch) (key : Key) (d : Descriptor) :
    (∃ e, b.push key d = (.error e, b)) ∨
      (b.push key d = (.ok (), ⟨b.entries ++ [⟨key, d⟩]⟩) ∧
        ∀ link ∈ key.lineage, link.accepts d.payload = true) := by
  rw [push]
  split
  next link h => exact Or.inl ⟨_, rfl⟩
  next h => exact Or.inr ⟨rfl, by simpa using h⟩

theorem push_of_accepted (b : Batch) {key : Key} {d : Descriptor}
    (h : ∀ link ∈ key.lineage, link.accepts d.payload = true) :
    b.push key d = (.ok (), ⟨b.entries ++ [⟨key, d⟩]⟩) := by
  rcases b.push_cases key d with ⟨e, he⟩ | ⟨hok, -⟩
  · have herr : (b.push key d).1 = .error e := by rw [he]
    rw [push_ok_iff.mpr h] at herr
    cases herr
  · exact hok

/-- Pushing keeps what holds of all entries, if it holds of what is pushed and taken. -/
theorem forall_mem_push {b : Batch} {key : Key} {d : Descriptor} {P : Staged → Prop}
    (hb : ∀ x ∈ b.entries, P x)
    (hx : (∀ link ∈ key.lineage, link.accepts d.payload = true) → P ⟨key, d⟩) :
    ∀ x ∈ (b.push key d).2.entries, P x := by
  rcases b.push_cases key d with ⟨e, he⟩ | ⟨hok, hacc⟩
  · rw [he]
    exact hb
  · rw [hok]
    intro x hmem
    rcases List.mem_append.mp hmem with hmem | hmem
    · exact hb x hmem
    · rw [List.mem_singleton.mp hmem]
      exact hx hacc

/-- What is in a pushed batch was pushed, and its key and all ancestors take it. -/
theorem mem_ofPushes {xs : List Staged} {x : Staged} (h : x ∈ (ofPushes xs).entries) :
    x ∈ xs ∧ ∀ link ∈ x.key.lineage, link.accepts x.descriptor.payload = true := by
  have hfold : ∀ (ys : List Staged) (b : Batch), (∀ y ∈ ys, y ∈ xs) →
      (∀ y ∈ b.entries, y ∈ xs ∧ ∀ link ∈ y.key.lineage, link.accepts y.descriptor.payload = true) →
      ∀ y ∈ (ys.foldl (fun b x => (b.push x.key x.descriptor).2) b).entries,
        y ∈ xs ∧ ∀ link ∈ y.key.lineage, link.accepts y.descriptor.payload = true := by
    intro ys
    induction ys with
    | nil => exact fun b _ hb => hb
    | cons y rest ih =>
      intro b hys hb
      rw [List.forall_mem_cons] at hys
      exact ih _ hys.2 (forall_mem_push hb fun hacc => ⟨hys.1, hacc⟩)
  exact hfold xs .empty (fun _ hy => hy) (fun _ hy => absurd hy List.not_mem_nil) x h

/-! ### What a batch asks for -/

/-- The insertions that a batch stands for, in the order in which they are made. -/
def insertions (b : Batch) : List Insertion :=
  b.entries.flatMap fun x => x.key.lineage.map fun link => ⟨link.name, x.descriptor.id⟩

end Batch

/-- How an insertion is noted. -/
def Insertion.of (p : String × Descriptor) : Insertion := ⟨p.1, p.2.id⟩

theorem Batch.insertions_eq (b : Batch) :
    b.insertions = (b.entries.flatMap Staged.places).map Insertion.of := by
  simp only [insertions, List.map_flatMap, Staged.places, List.map_map]
  rfl

theorem Batch.insertions_append (xs ys : List Staged) :
    insertions ⟨xs ++ ys⟩ = insertions ⟨xs⟩ ++ insertions ⟨ys⟩ :=
  List.flatMap_append

namespace Registry

variable {D : Descriptor → Prop} {r : Registry}

/-- A descriptor of that id is listed under that name. -/
def Holds (r : Registry) (i : Insertion) : Prop := ∃ d ∈ r.slots.listed i.name, d.id = i.id

/-- No insertion comes twice, and none finds its id there. -/
def Clear (r : Registry) (is : List Insertion) : Prop := is.Nodup ∧ ∀ i ∈ is, ¬ r.Holds i

/-- Where ids tell descriptors apart, an id is there exactly if its descriptor is. -/
theorem Sound.holds_of_iff (h : r.Sound D) (hD : ToldApart D) {p : String × Descriptor}
    (hp : D p.2) : r.Holds (.of p) ↔ p.2 ∈ r.slots.listed p.1 := by
  constructor
  · rintro ⟨d, hd, hid⟩
    exact hD (h.known _ d hd) hp hid ▸ hd
  · intro hmem
    exact ⟨p.2, hmem, rfl⟩

/-- Where ids tell descriptors apart, noting an insertion loses nothing. -/
theorem eq_of_insertion_eq (hD : ToldApart D) {p q : String × Descriptor} (hp : D p.2) (hq : D q.2)
    (h : Insertion.of p = Insertion.of q) : p = q := by
  rw [Insertion.of, Insertion.of, Insertion.mk.injEq] at h
  exact Prod.ext h.1 (hD hp hq h.2)

/-- Insertions that were made one after the other were clear. -/
theorem Sound.clear_of_wrote (h : r.Sound D) (hD : ToldApart D) {ps : List (String × Descriptor)}
    {w : Writing} (hps : ∀ p ∈ ps, D p.2) (hw : Writing.Wrote D r.slots.listed ps w) :
    r.Clear (ps.map .of) := by
  refine ⟨hw.nodup.map_on fun p hp q hq => eq_of_insertion_eq hD (hps p hp) (hps q hq), ?_⟩
  intro i hi
  obtain ⟨p, hp, rfl⟩ := List.mem_map.mp hi
  rw [h.holds_of_iff hD (hps p hp)]
  exact hw.absent p hp

/-- **One write.** Into an open registry accepted entries are either clear, and all their insertions
made, or writing stops at the first insertion that repeats an earlier one or finds its id there. -/
theorem Sound.write_outcome (h : r.Sound D) (hclosed : r.closed = false) (hD : ToldApart D)
    {entries : List Staged} (hentries : ∀ x ∈ entries, D x.descriptor)
    (hacc : ∀ x ∈ entries, x.Accepted) :
    (∃ w, (Writing.start r.slots).registerAll entries = (.ok (), w) ∧
        r.Clear (Batch.insertions ⟨entries⟩) ∧ w.done = (Batch.insertions ⟨entries⟩).reverse) ∨
      ∃ w pre i post, (Writing.start r.slots).registerAll entries =
          (.error (.duplicateSyntax i.name i.id), w) ∧
        Batch.insertions ⟨entries⟩ = pre ++ i :: post ∧ r.Clear pre ∧ (i ∈ pre ∨ r.Holds i) ∧
        w.done = pre.reverse := by
  have hplaces : ∀ p ∈ entries.flatMap Staged.places, D p.2 := by
    intro p hp
    obtain ⟨x, hx, hpx⟩ := List.mem_flatMap.mp hp
    obtain ⟨hd, -⟩ := Staged.mem_places.mp hpx
    exact hd ▸ hentries x hx
  have hends := h.registerAll hclosed hD entries hentries
  rw [Batch.insertions_eq]
  rcases hr : (Writing.start r.slots).registerAll entries with ⟨e | ⟨⟩, w⟩
  · right
    rw [hr] at hends
    cases hends with
    | @clash _ pre post p split wrote taken =>
      rw [split] at hplaces
      have hp : D p.2 := hplaces p (by simp)
      refine ⟨w, pre.map .of, .of p, post.map .of, rfl, ?_, ?_, ?_, wrote.noted⟩
      · rw [split, List.map_append, List.map_cons]
      · exact h.clear_of_wrote hD (fun q hq => hplaces q (List.mem_append_left _ hq)) wrote
      · rcases taken with hmem | hmem
        · exact Or.inr ((h.holds_of_iff hD hp).mpr hmem)
        · exact Or.inl (List.mem_map_of_mem hmem)
    | refused pre post split wrote reason =>
      obtain ⟨x, hx, link, hlink, hrej, -⟩ := reason
      rw [hacc x hx link hlink] at hrej
      cases hrej
  · left
    rw [hr] at hends
    cases hends with
    | all wrote => exact ⟨w, rfl, h.clear_of_wrote hD hplaces wrote, wrote.noted⟩

/-- **One commit.** In an open registry a batch of accepted entries is either clear, and committed,
or it is refused for its first insertion that repeats an earlier one or finds its id there. -/
theorem Sound.commit_outcome (h : r.Sound D) (hclosed : r.closed = false) (hD : ToldApart D)
    {b : Batch} (hb : ∀ x ∈ b.entries, D x.descriptor)
    (hacc : ∀ x ∈ b.entries, ∀ link ∈ x.key.lineage, link.accepts x.descriptor.payload = true) :
    (r.Clear b.insertions ∧ (r.commit b).answer = .ok b.entries.length) ∨
      ∃ pre i post, b.insertions = pre ++ i :: post ∧ r.Clear pre ∧ (i ∈ pre ∨ r.Holds i) ∧
        (r.commit b).answer = .error (.duplicateSyntax i.name i.id) ∧
        (r.commit b).registry.slots.listed = r.slots.listed := by
  rcases h.write_outcome hclosed hD hb hacc with
    ⟨w, hr, hclear, -⟩ | ⟨w, pre, i, post, hr, hsplit, hclear, hclash, -⟩
  · exact Or.inl ⟨hclear, by rw [commit_of_ok hclosed hr]⟩
  · have hanswer : (r.commit b).answer = .error (.duplicateSyntax i.name i.id) := by
      rw [commit_of_error hclosed hr]
    have hsame := (h.commit hD b hb).unchanged _ hanswer
    exact Or.inr ⟨pre, i, post, hsplit, hclear, hclash, hanswer, hsame⟩

/-- An insertion that repeats an earlier one, or finds its id there, is not clear. -/
theorem not_clear_of_clash {pre post : List Insertion} {i : Insertion}
    (h : i ∈ pre ∨ r.Holds i) : ¬ r.Clear (pre ++ i :: post) := by
  rintro ⟨hnodup, habsent⟩
  rcases h with h | h
  · exact (List.nodup_append.mp hnodup).2.2 i h i List.mem_cons_self rfl
  · exact habsent i (List.mem_append_right _ List.mem_cons_self) h

/-- **The outcome of a batch.** A pushed batch of built descriptors is committed exactly if it is
clear. Otherwise its first insertion that is not clear is reported, and every list stays as it was.
A registration that its key takes is the commit of one entry. -/
theorem commit_after_run (drafts : List Draft) (calls : List Call) (xs : List Staged)
    (hcalls : ∀ c ∈ calls, ∀ x ∈ c.entries, x.descriptor ∈ Draft.produce drafts .fresh)
    (hxs : ∀ x ∈ xs, x.descriptor ∈ Draft.produce drafts .fresh)
    (hclosed : (empty.run calls).closed = false) :
    ((((empty.run calls).commit (.ofPushes xs)).answer = .ok (Batch.ofPushes xs).entries.length ↔
        (empty.run calls).Clear (Batch.ofPushes xs).insertions) ∧
      (¬ (empty.run calls).Clear (Batch.ofPushes xs).insertions →
        ∃ pre i post, (Batch.ofPushes xs).insertions = pre ++ i :: post ∧
          (empty.run calls).Clear pre ∧ (i ∈ pre ∨ (empty.run calls).Holds i) ∧
          ((empty.run calls).commit (.ofPushes xs)).answer =
            .error (.duplicateSyntax i.name i.id) ∧
          ∀ k, (((empty.run calls).commit (.ofPushes xs)).registry.syntaxes k).entries =
            ((empty.run calls).syntaxes k).entries)) ∧
      ∀ key d, (∀ link ∈ key.lineage, link.accepts d.payload = true) →
        (empty.run calls).commit (.ofPushes [⟨key, d⟩]) =
          ⟨((empty.run calls).register key d).answer.map fun _ => 1,
            ((empty.run calls).register key d).registry,
            ((empty.run calls).register key d).log⟩ := by
  have hD := Draft.toldApart_produce drafts .fresh
  have hsound := ((sound_empty _).run hD calls hcalls).1
  have hout := hsound.commit_outcome hclosed hD (b := .ofPushes xs)
    (fun x hx => hxs x (Batch.mem_ofPushes hx).1) (fun x hx => (Batch.mem_ofPushes hx).2)
  refine ⟨?_, fun key d hacc => ?_⟩
  · rcases hout with ⟨hclear, hok⟩ | ⟨pre, i, post, hsplit, hpre, hclash, herr, hsame⟩
    · exact ⟨⟨fun _ => hclear, fun _ => hok⟩, fun hn => absurd hclear hn⟩
    · have hn : ¬ (empty.run calls).Clear (Batch.ofPushes xs).insertions := by
        rw [hsplit]
        exact not_clear_of_clash hclash
      refine ⟨⟨fun hok => ?_, fun hc => absurd hc hn⟩, fun _ => ?_⟩
      · rw [hok] at herr
        cases herr
      · refine ⟨pre, i, post, hsplit, hpre, hclash, herr, fun k => ?_⟩
        rw [entries_syntaxes, entries_syntaxes, hsame]
  · have hpush : Batch.ofPushes [⟨key, d⟩] = ⟨[⟨key, d⟩]⟩ := by
      show (Batch.empty.push key d).2 = _
      rw [Batch.push_of_accepted _ hacc]
      rfl
    rw [hpush, commit_singleton hclosed]

/-- A batch that stages one statement as an effect and as a condition. Neither register has it yet,
but the two meet at their parent: the second insertion there repeats the first, and is reported. The
effect that was listed before is left alone. -/
theorem commit_after_run_common_parent :
    let say := Descriptor.statement 1 0 "say"
    let shout := Descriptor.statement 2 1 "shout"
    let drafts : List Draft := [.statement "say", .statement "shout"]
    let calls : List Call := [.register .effects shout]
    let xs : List Staged := [⟨.effects, say⟩, ⟨.conditions, say⟩]
    (∀ c ∈ calls, ∀ x ∈ c.entries, x.descriptor ∈ Draft.produce drafts .fresh) ∧
      (∀ x ∈ xs, x.descriptor ∈ Draft.produce drafts .fresh) ∧
      (empty.run calls).closed = false ∧
      ((empty.run calls).commit (.ofPushes xs)).answer =
        .error (.duplicateSyntax "statement" 1) ∧
      (∃ pre post, (Batch.ofPushes xs).insertions = pre ++ ⟨"statement", 1⟩ :: post ∧
        ⟨"statement", 1⟩ ∈ pre) ∧
      (((empty.run calls).commit (.ofPushes xs)).registry.syntaxes .effects).entries = [shout] := by
  intro say shout drafts calls xs
  have hcalls : ∀ c ∈ calls, ∀ x ∈ c.entries, x.descriptor ∈ Draft.produce drafts .fresh := by
    rw [Draft.produce_statements]
    simp [calls, Call.entries, shout]
  have hxs : ∀ x ∈ xs, x.descriptor ∈ Draft.produce drafts .fresh := by
    rw [Draft.produce_statements]
    simp [xs, say]
  have hanswer : ((empty.run calls).commit (.ofPushes xs)).answer =
      .error (.duplicateSyntax "statement" 1) := rfl
  obtain ⟨⟨-, hunclear⟩, -⟩ := commit_after_run drafts calls xs hcalls hxs rfl
  have hn : ¬ (empty.run calls).Clear (Batch.ofPushes xs).insertions := by
    intro hclear
    exact absurd hclear.1 (by decide)
  obtain ⟨pre, ⟨name, id⟩, post, hsplit, -, hclash, herr, hsame⟩ := hunclear hn
  rw [hanswer] at herr
  cases herr
  have hmem : ⟨"statement", 1⟩ ∈ pre := by
    refine hclash.resolve_right ?_
    intro hholds
    obtain ⟨d, hd, hid⟩ := hholds
    obtain rfl : d = shout := List.mem_singleton.mp hd
    cases hid
  exact ⟨hcalls, hxs, rfl, hanswer, ⟨pre, post, hsplit, hmem⟩, hsame .effects⟩

end Registry

end Phrasebook
