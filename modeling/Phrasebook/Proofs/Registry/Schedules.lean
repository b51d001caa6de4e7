import Phrasebook.Proofs.Additions
import Phrasebook.Proofs.Registry.Atomicity
import Phrasebook.Proofs.Registry.Names
/-!
# Phrasebook.Proofs.Registry.Schedules

Neither the order of registrations matters, nor how they are cut into batches.

A **schedule** applies registrations piece by piece. Each piece is one registration by itself, or
several that are pushed to a batch, which is then committed. Either way it does what the commit of
its entries does (`Registry.perform_call`). A schedule passes if nothing in it is refused, and
that comes down to all of its entries together being accepted by their keys and clear
(`Registry.Sound.passes_iff`), whatever the pieces. What is there after it has passed is what was
there before and the places of its entries (`Registry.Sound.applied`). Neither depends on an order.
-/

namespace Phrasebook

/-- A part of a schedule. -/
inductive Piece
  /-- One registration by itself. -/
  | single (x : Staged)
  /-- Registrations that are pushed to a batch in this order. The batch is then committed. -/
  | batch (xs : List Staged)

namespace Piece

/-- What the piece is to register. -/
def entries : Piece → List Staged
  | single x => [x]
  | batch xs => xs

def call : Piece → Registry.Call
  | single x => .register x.key x.descriptor
  | batch xs => .commit (.ofPushes xs)

/-- No push is refused, so that the call is made for all that the piece is to register. -/
def Taken (p : Piece) : Prop := p.call.entries = p.entries

end Piece

/-- A schedule in which every push and every call succeeds. -/
def Registry.Passes : Registry → List Piece → Prop
  | _, [] => True
  | r, p :: ps =>
    p.Taken ∧ (r.perform p.call).answer = .ok () ∧ (r.perform p.call).registry.Passes ps

/-! ### Pieces that are taken -/

theorem Batch.entries_ofPushes {xs : List Staged} (h : ∀ x ∈ xs, x.Accepted) :
    (ofPushes xs).entries = xs := by
  have hfold : ∀ (ys : List Staged) (b : Batch), (∀ y ∈ ys, y.Accepted) →
      (ys.foldl (fun b x => (b.push x.key x.descriptor).2) b).entries = b.entries ++ ys := by
    intro ys
    induction ys with
    | nil => simp
    | cons y rest ih =>
      intro b hys
      rw [List.forall_mem_cons] at hys
      rw [List.foldl_cons, b.push_of_accepted hys.1, ih _ hys.2]
      simp
  exact hfold xs .empty h

theorem Piece.taken_of_accepted {p : Piece} (h : ∀ x ∈ p.entries, x.Accepted) : p.Taken := by
  cases p with
  | single x => rfl
  | batch xs => exact Batch.entries_ofPushes h

namespace Registry

variable {D : Descriptor → Prop} {r r' r'' : Registry}

/-- A piece that is taken does what the commit of its entries does. -/
theorem perform_call (hclosed : r.closed = false) {p : Piece} (hp : p.Taken) :
    r.perform p.call = r.perform (.commit ⟨p.entries⟩) := by
  cases p with
  | single x =>
    show r.register x.key x.descriptor = _
    rw [perform, Piece.entries, commit_singleton hclosed]
    rcases r.register x.key x.descriptor with ⟨e | ⟨⟩, r', log⟩
    · rfl
    · rfl
  | batch xs =>
    have hb : Batch.ofPushes xs = ⟨xs⟩ := congrArg Batch.mk hp
    rw [Piece.call, hb]
    rfl

/-! ### What a commit does to those after it -/

/-- What is there in `r'` is what was there in `r` and the places of `xs`. -/
structure Applied (D : Descriptor → Prop) (r : Registry) (xs : List Staged) (r' : Registry) :
    Prop where
  sound : r'.Sound D
  isOpen : r'.closed = false
  gains : r.Gains (xs.flatMap Staged.places) r'
  names : ∀ n, n ∈ r'.slots.names ↔
    n ∈ r.slots.names ∨ n ∈ (xs.flatMap Staged.places).map Prod.fst

namespace Applied

variable {xs ys : List Staged}

theorem refl (h : r.Sound D) (hclosed : r.closed = false) : Applied D r [] r :=
  ⟨h, hclosed, fun name d => by simp, fun n => by simp⟩

theorem trans (h : Applied D r xs r') (h' : Applied D r' ys r'') :
    Applied D r (xs ++ ys) r'' where
  sound := h'.sound
  isOpen := h'.isOpen
  gains name d := by
    rw [h'.gains, h.gains, List.flatMap_append, List.mem_append, or_assoc]
  names n := by
    rw [h'.names, h.names, List.flatMap_append, List.map_append, List.mem_append, or_assoc]

theorem holds_iff (h : Applied D r xs r') (i : Insertion) :
    r'.Holds i ↔ r.Holds i ∨ i ∈ Batch.insertions ⟨xs⟩ := by
  rw [Batch.insertions_eq, List.mem_map]
  constructor
  · rintro ⟨d, hd, hid⟩
    rcases (h.gains i.name d).mp hd with hd | hd
    · exact Or.inl ⟨d, hd, hid⟩
    · refine Or.inr ⟨(i.name, d), hd, ?_⟩
      rw [Insertion.of, hid]
  · rintro (⟨d, hd, hid⟩ | ⟨p, hp, rfl⟩)
    · exact ⟨d, (h.gains i.name d).mpr (Or.inl hd), hid⟩
    · exact ⟨p.2, (h.gains p.1 p.2).mpr (Or.inr hp), rfl⟩

/-- What comes later is clear if it is clear together with what came before. -/
theorem clear_append (h : Applied D r xs r') :
    r.Clear (Batch.insertions ⟨xs ++ ys⟩) ↔
      r.Clear (Batch.insertions ⟨xs⟩) ∧ r'.Clear (Batch.insertions ⟨ys⟩) := by
  simp only [Clear, Batch.insertions_append, List.nodup_append, List.forall_mem_append, h.holds_iff,
    not_or]
  constructor
  · rintro ⟨⟨hxs, hys, hne⟩, habsent, habsent'⟩
    exact ⟨⟨hxs, habsent⟩, hys, fun i hi => ⟨habsent' i hi, fun hi' => hne i hi' i hi rfl⟩⟩
  · rintro ⟨⟨hxs, habsent⟩, hys, habsent'⟩
    refine ⟨⟨hxs, hys, fun i hi j hj hij => ?_⟩, habsent, fun i hi => (habsent' i hi).1⟩
    exact (habsent' j hj).2 (hij ▸ hi)

/-- The same entries in any order lead to the same lists and names. -/
theorem same_of_perm (h : Applied D r xs r') (h' : Applied D r ys r'') (hperm : xs.Perm ys)
    (hnodup : r'.slots.names.Nodup) (hnodup' : r''.slots.names.Nodup) :
    (∀ k, (r''.syntaxes k).entries = (r'.syntaxes k).entries) ∧ r''.keys = r'.keys := by
  have hplaces := hperm.flatMap_right Staged.places
  constructor
  · intro k
    rw [entries_syntaxes, entries_syntaxes]
    refine Descriptor.eq_of_mem_iff (h'.sound.sorted _) (h.sound.sorted _) fun d => ?_
    rw [h'.gains, h.gains, hplaces.mem_iff]
  · refine keys_eq_of_mem_iff hnodup' hnodup fun n => ?_
    rw [h'.names, h.names, (hplaces.map Prod.fst).mem_iff]

end Applied

/-- A commit of built descriptors succeeds if their keys take them and they are clear. -/
theorem Sound.commit_ok_iff (h : r.Sound D) (hclosed : r.closed = false) (hD : ToldApart D)
    {xs : List Staged} (hxs : ∀ x ∈ xs, D x.descriptor) :
    (r.perform (.commit ⟨xs⟩)).answer = .ok () ↔
      (∀ x ∈ xs, x.Accepted) ∧ r.Clear (Batch.insertions ⟨xs⟩) := by
  constructor
  · intro hok
    have hacc : ∀ x ∈ xs, x.Accepted := accepted_of_perform hok
    rcases h.commit_outcome hclosed hD (b := ⟨xs⟩) hxs hacc with
      ⟨hclear, -⟩ | ⟨pre, i, post, -, -, -, herr, -⟩
    · exact ⟨hacc, hclear⟩
    · rw [Registry.perform, herr] at hok
      cases hok
  · rintro ⟨hacc, hclear⟩
    rcases h.commit_outcome hclosed hD (b := ⟨xs⟩) hxs hacc with
      ⟨-, hok⟩ | ⟨pre, i, post, hsplit, -, hclash, -⟩
    · rw [Registry.perform, hok]
      rfl
    · rw [hsplit] at hclear
      exact absurd hclear (not_clear_of_clash hclash)

theorem Sound.applied_commit (h : r.Sound D) (hclosed : r.closed = false) (hD : ToldApart D)
    {xs : List Staged} (hxs : ∀ x ∈ xs, D x.descriptor)
    (hok : (r.perform (.commit ⟨xs⟩)).answer = .ok ()) :
    Applied D r xs (r.perform (.commit ⟨xs⟩)).registry := by
  have hsettled := h.perform hD (.commit ⟨xs⟩) hxs
  refine ⟨hsettled.sound, (closed_commit r ⟨xs⟩).trans hclosed, hsettled.gains () hok, fun n => ?_⟩
  rw [(r.asksFor_perform (.commit ⟨xs⟩)).eq_addNames hok, mem_addNames]
  rfl

/-! ### Schedules -/

/-- **Whether a schedule passes.** How its entries are ordered and cut does not enter into it. -/
theorem Sound.passes_iff (h : r.Sound D) (hclosed : r.closed = false) (hD : ToldApart D)
    (ps : List Piece) (hps : ∀ x ∈ ps.flatMap Piece.entries, D x.descriptor) :
    r.Passes ps ↔ (∀ x ∈ ps.flatMap Piece.entries, x.Accepted) ∧
      r.Clear (Batch.insertions ⟨ps.flatMap Piece.entries⟩) := by
  induction ps generalizing r with
  | nil => simp [Passes, Clear, Batch.insertions]
  | cons p rest ih =>
    simp only [List.flatMap_cons, List.forall_mem_append] at hps ⊢
    have hcommit := h.commit_ok_iff hclosed hD hps.1
    have happlied := h.applied_commit hclosed hD hps.1
    constructor
    · rintro ⟨htaken, hok, hrest⟩
      rw [perform_call hclosed htaken] at hok hrest
      obtain ⟨hacc, hclear⟩ := hcommit.mp hok
      have ha := happlied hok
      obtain ⟨hacc', hclear'⟩ := (ih ha.sound ha.isOpen hps.2).mp hrest
      exact ⟨⟨hacc, hacc'⟩, ha.clear_append.mpr ⟨hclear, hclear'⟩⟩
    · rintro ⟨⟨hacc, hacc'⟩, hclear⟩
      have htaken := Piece.taken_of_accepted hacc
      -- that the whole is clear says so of the first piece; only then is the rest looked at
      have hfirst : r.Clear (Batch.insertions ⟨p.entries⟩) := by
        rw [Batch.insertions_append] at hclear
        exact ⟨(List.nodup_append.mp hclear.1).1, (List.forall_mem_append.mp hclear.2).1⟩
      have hok := hcommit.mpr ⟨hacc, hfirst⟩
      have ha := happlied hok
      have hrest := (ih ha.sound ha.isOpen hps.2).mpr ⟨hacc', (ha.clear_append.mp hclear).2⟩
      rw [Passes, perform_call hclosed htaken]
      exact ⟨htaken, hok, hrest⟩

/-- What is there after a schedule has passed. -/
theorem Sound.applied (h : r.Sound D) (hclosed : r.closed = false) (hD : ToldApart D)
    (ps : List Piece) (hps : ∀ x ∈ ps.flatMap Piece.entries, D x.descriptor)
    (hpasses : r.Passes ps) :
    Applied D r (ps.flatMap Piece.entries) (r.run (ps.map Piece.call)) := by
  induction ps generalizing r with
  | nil => exact .refl h hclosed
  | cons p rest ih =>
    simp only [List.flatMap_cons, List.forall_mem_append] at hps ⊢
    obtain ⟨htaken, hok, hrest⟩ := hpasses
    rw [List.map_cons, run_cons]
    rw [perform_call hclosed htaken] at hok hrest ⊢
    have ha := h.applied_commit hclosed hD hps.1 hok
    exact ha.trans (ih ha.sound ha.isOpen hps.2 hrest)

/-- **Schedules of the same registrations.** If one of them passes so do all, and they lead to the
same lists and names. In one register likewise, descriptors are all taken in one order if they are
in any other, and the snapshot is the same. -/
theorem schedules_agree (drafts : List Draft) (calls : List Call) (xs : List Staged)
    (ps qs : List Piece)
    (hcalls : ∀ c ∈ calls, ∀ x ∈ c.entries, x.descriptor ∈ Draft.produce drafts .fresh)
    (hxs : ∀ x ∈ xs, x.descriptor ∈ Draft.produce drafts .fresh)
    (hclosed : (empty.run calls).closed = false)
    (hps : (ps.flatMap Piece.entries).Perm xs) (hqs : (qs.flatMap Piece.entries).Perm xs)
    (hpasses : (empty.run calls).Passes ps) :
    ((empty.run calls).Passes qs ∧
      (∀ k, (((empty.run calls).run (qs.map Piece.call)).syntaxes k).entries =
        (((empty.run calls).run (ps.map Piece.call)).syntaxes k).entries) ∧
      ((empty.run calls).run (qs.map Piece.call)).keys =
        ((empty.run calls).run (ps.map Piece.call)).keys) ∧
    ∀ (key : String) (before ds es : List Descriptor),
      (∀ d ∈ before ++ ds, d ∈ Draft.produce drafts .fresh) → es.Perm ds →
        (((Register.empty key).addAll before).TakesAll es ↔ ds.Nodup ∧ ∀ d ∈ ds, d ∉ before) ∧
        (((Register.empty key).addAll before).addAll es).snapshot =
          (((Register.empty key).addAll before).addAll ds).snapshot := by
  have hD := Draft.toldApart_produce drafts .fresh
  have hsound := ((sound_empty _).run hD calls hcalls).1
  have hbuilt {zs : List Staged} (hzs : zs.Perm xs) :
      ∀ x ∈ zs, x.descriptor ∈ Draft.produce drafts .fresh :=
    fun x hx => hxs x (hzs.mem_iff.mp hx)
  have hperm := hqs.trans hps.symm
  have hpasses' : (empty.run calls).Passes qs := by
    obtain ⟨hacc, hnodup, habsent⟩ := (hsound.passes_iff hclosed hD ps (hbuilt hps)).mp hpasses
    have hinsertions := hperm.flatMap_right
      fun x : Staged => x.key.lineage.map fun link => (⟨link.name, x.descriptor.id⟩ : Insertion)
    refine (hsound.passes_iff hclosed hD qs (hbuilt hqs)).mpr ⟨?_, ?_, ?_⟩
    · exact fun x hx => hacc x (hperm.mem_iff.mp hx)
    · exact hinsertions.nodup_iff.mpr hnodup
    · exact fun i hi => habsent i (hinsertions.mem_iff.mp hi)
  refine ⟨⟨hpasses', ?_⟩, fun key before ds es hds hes => ?_⟩
  · have hnames := nodup_names_run (r := empty) List.nodup_nil
    refine (hsound.applied hclosed hD ps (hbuilt hps) hpasses).same_of_perm
      (hsound.applied hclosed hD qs (hbuilt hqs) hpasses') hperm.symm ?_ ?_
    · rw [← run_append]
      exact hnames _
    · rw [← run_append]
      exact hnames _
  · rw [List.forall_mem_append] at hds
    have hbefore := (Register.orderly_empty _ key).gained_addAll hD hds.1
    have hlisted (d : Descriptor) :
        d ∈ ((Register.empty key).addAll before).entries ↔ d ∈ before := by
      rw [hbefore.mem_entries]
      simp [Register.empty]
    refine ⟨?_, hbefore.orderly.snapshot_addAll_of_perm hD hds.2 hes⟩
    rw [hbefore.orderly.takesAll_iff hD fun d hd => hds.2 d (hes.mem_iff.mp hd), hes.nodup_iff]
    simp only [hlisted, hes.mem_iff]

/-- An effect and a condition, registered in turn or, the other way round, from one batch. Both come
to be listed among the statements, where there was nothing before. -/
theorem schedules_agree_one_batch :
    let say := Descriptor.statement 1 0 "say"
    let shout := Descriptor.statement 2 1 "shout"
    let drafts : List Draft := [.statement "say", .statement "shout"]
    let calls : List Call := [.register .sections say]
    let ps : List Piece := [.single ⟨.effects, say⟩, .single ⟨.conditions, shout⟩]
    let qs : List Piece := [.batch [⟨.conditions, shout⟩, ⟨.effects, say⟩]]
    (∀ c ∈ calls, ∀ x ∈ c.entries, x.descriptor ∈ Draft.produce drafts .fresh) ∧
      (∀ x ∈ ps.flatMap Piece.entries, x.descriptor ∈ Draft.produce drafts .fresh) ∧
      (empty.run calls).closed = false ∧
      (qs.flatMap Piece.entries).Perm (ps.flatMap Piece.entries) ∧
      (empty.run calls).Passes ps ∧ (empty.run calls).Passes qs ∧
      (((empty.run calls).run (qs.map Piece.call)).syntaxes .statements).entries =
        [say, shout] := by
  intro say shout drafts calls ps qs
  have hcalls : ∀ c ∈ calls, ∀ x ∈ c.entries, x.descriptor ∈ Draft.produce drafts .fresh := by
    rw [Draft.produce_statements]
    simp [calls, Call.entries, say]
  have hps : ∀ x ∈ ps.flatMap Piece.entries, x.descriptor ∈ Draft.produce drafts .fresh := by
    rw [Draft.produce_statements]
    simp [ps, Piece.entries, say, shout]
  have hperm : (qs.flatMap Piece.entries).Perm (ps.flatMap Piece.entries) := List.Perm.swap _ _ []
  have hpasses : (empty.run calls).Passes ps := ⟨rfl, rfl, rfl, rfl, trivial⟩
  obtain ⟨⟨hpasses', hlists, -⟩, -⟩ :=
    schedules_agree drafts calls _ ps qs hcalls hps rfl (.refl _) hperm hpasses
  exact ⟨hcalls, hps, rfl, hperm, hpasses, hpasses', (hlists .statements).trans rfl⟩

end Registry

end Phrasebook
