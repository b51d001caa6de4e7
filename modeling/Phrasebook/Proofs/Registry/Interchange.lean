import Mathlib.Data.List.Find
import Phrasebook.Proofs.Registry.Schedules
/-!
# Phrasebook.Proofs.Registry.Interchange

When equal keys can stand for each other.

Keys are compared by name alone, and so are registers found. But whether a descriptor is taken, and
where else it is listed, is a matter of the kind and the parent that the key at hand carries. So
keys that are equal need not do the same (`Registry.equal_effects_differ`). They do if their
lineages give the same **verdict** on the payload (`Key.verdict`): the same refusal, or the same
names to register under. Nothing less will do, unless a lineage repeats a name, in which case
nothing can be registered under it anyway (`Registry.interchangeable_iff_verdict`).
-/

namespace Phrasebook

/-! ### Verdicts -/

namespace Key

/-- The nearest link of the lineage that does not take the payload. -/
def refusal? (k : Key) (p : Payload) : Option Key := k.lineage.find? fun link => !link.accepts p

/-- What the lineage makes of a payload: the name and the kind of the nearest link that refuses it,
or the names under which the descriptor is to be listed. -/
def verdict (k : Key) (p : Payload) : Except (String × String) (List String) :=
  match k.refusal? p with
  | some link => .error (link.name, link.kind.name)
  | none => .ok (k.lineage.map name)

theorem refusal?_eq_none_iff {k : Key} {p : Payload} :
    k.refusal? p = none ↔ ∀ link ∈ k.lineage, link.accepts p = true := by
  simp [refusal?]

/-- Equal verdicts: links are refused in the same way, or none is and the names are the same. -/
theorem verdict_eq_iff {a b : Key} {p : Payload} : a.verdict p = b.verdict p ↔
    (∃ link link', a.refusal? p = some link ∧ b.refusal? p = some link' ∧
        link.mismatch p = link'.mismatch p) ∨
      (a.refusal? p = none ∧ b.refusal? p = none ∧ a.lineage.map name = b.lineage.map name) := by
  rw [verdict, verdict]
  rcases a.refusal? p with _ | link <;> rcases b.refusal? p with _ | link' <;> simp [mismatch]

end Key

/-! ### Equal verdicts suffice -/

namespace Writing

theorem insertAll_congr {links links' : List Key} (h : links.map Key.name = links'.map Key.name)
    (w : Writing) (d : Descriptor) : w.insertAll d links = w.insertAll d links' := by
  induction links generalizing links' w with
  | nil =>
    obtain rfl : links' = [] := by simpa using h.symm
    rfl
  | cons link rest ih =>
    cases links' with
    | nil => cases h
    | cons link' rest' =>
      obtain ⟨hname, hrest⟩ := List.cons_eq_cons.mp h
      rw [insertAll, insertAll, hname]
      rcases w.insert link'.name d with ⟨e | ⟨⟩, w'⟩
      · rfl
      · exact ih hrest w'

theorem check_lineage (p : Payload) (k : Key) : check p k.lineage =
    match k.refusal? p with
    | some link => .error (link.mismatch p)
    | none => .ok () := by
  rw [Key.refusal?]
  induction k.lineage with
  | nil => rfl
  | cons link rest ih =>
    rw [check, List.find?_cons]
    cases link.accepts p with
    | false => rfl
    | true => exact ih

theorem register_congr {a b : Key} {d : Descriptor} (hname : a.name = b.name)
    (h : a.verdict d.payload = b.verdict d.payload) (w : Writing) :
    w.register a d = w.register b d := by
  rw [register, register, check_lineage, check_lineage]
  rcases Key.verdict_eq_iff.mp h with ⟨link, link', ha, hb, hmismatch⟩ | ⟨ha, hb, hnames⟩
  · rw [ha, hb]
    exact congrArg (fun e => (Except.error e, w)) hmismatch
  · rw [ha, hb]
    dsimp only
    rw [insertAll_congr hnames, registered, registered, hname]

theorem registerAll_append_congr {a b : Key} {d : Descriptor}
    (h : ∀ w : Writing, w.register a d = w.register b d) (w : Writing) (xs : List Staged) :
    w.registerAll (xs ++ [⟨a, d⟩]) = w.registerAll (xs ++ [⟨b, d⟩]) := by
  induction xs generalizing w with
  | nil =>
    show registerAll w [⟨a, d⟩] = registerAll w [⟨b, d⟩]
    rw [registerAll, registerAll, h]
  | cons x rest ih =>
    rw [List.cons_append, List.cons_append, registerAll, registerAll]
    rcases w.register x.key x.descriptor with ⟨e | ⟨⟩, w'⟩
    · rfl
    · exact ih w'

end Writing

namespace Registry

variable {D : Descriptor → Prop} {r : Registry} {a b : Key} {d : Descriptor}

theorem register_congr (hname : a.name = b.name)
    (h : a.verdict d.payload = b.verdict d.payload) (r : Registry) :
    r.register a d = r.register b d := by
  rw [register, register, Writing.register_congr hname h, registrationRejected,
    registrationRejected, hname]

theorem push_congr (hname : a.name = b.name) (h : a.verdict d.payload = b.verdict d.payload)
    (r : Registry) (batch : Batch) :
    (batch.push a d).1 = (batch.push b d).1 ∧
      r.commit (batch.push a d).2 = r.commit (batch.push b d).2 := by
  have hpush (k : Key) : batch.push k d =
      match k.refusal? d.payload with
      | some link => (.error (link.mismatch d.payload), batch)
      | none => (.ok (), ⟨batch.entries ++ [⟨k, d⟩]⟩) := rfl
  rw [hpush a, hpush b]
  rcases Key.verdict_eq_iff.mp h with ⟨link, link', ha, hb, hmismatch⟩ | ⟨ha, hb, -⟩
  · rw [ha, hb]
    exact ⟨congrArg Except.error hmismatch, rfl⟩
  · rw [ha, hb]
    refine ⟨rfl, ?_⟩
    rw [commit, commit, batchRejected, batchRejected,
      Writing.registerAll_append_congr (Writing.register_congr hname h)]
    simp only [List.length_append, List.length_singleton]

/-! ### Equal verdicts are needed -/

/-- The answer to a registration that all kinds take, by the first name under which the descriptor
is listed already. -/
def clash (d : Descriptor) : Option String → Except RegistryError Unit
  | some n => .error (.duplicateSyntax n d.id)
  | none => .ok ()

theorem clash_injective (d : Descriptor) : Function.Injective (clash d) := by
  intro x y h
  cases x with
  | none =>
    cases y with
    | none => rfl
    | some m => cases h
  | some n =>
    cases y with
    | none => cases h
    | some m =>
      rw [clash, clash, Except.error.injEq, RegistryError.duplicateSyntax.injEq] at h
      rw [h.1]

theorem Sound.answer_register (h : r.Sound D) (hclosed : r.closed = false) (hD : ToldApart D)
    (hd : D d) (hacc : a.refusal? d.payload = none) (hnodup : (a.lineage.map Key.name).Nodup)
    {names : List String} (hnames : ∀ n, r.Holds ⟨n, d.id⟩ ↔ n ∈ names) :
    (r.register a d).answer = clash d ((a.lineage.map Key.name).find? (· ∈ names)) := by
  have hout := h.commit_outcome hclosed hD (b := ⟨[⟨a, d⟩]⟩) (by simpa using hd)
    (by simpa using Key.refusal?_eq_none_iff.mp hacc)
  have hinsertions : Batch.insertions ⟨[⟨a, d⟩]⟩ =
      (a.lineage.map Key.name).map fun n => ⟨n, d.id⟩ := by simp [Batch.insertions]
  rw [hinsertions, commit_singleton hclosed] at hout
  rcases hout with ⟨⟨-, habsent⟩, hok⟩ | ⟨pre, i, post, hsplit, ⟨-, habsent⟩, hclash, herr, -⟩
  · have hnone : (a.lineage.map Key.name).find? (· ∈ names) = none := by
      refine List.find?_eq_none.mpr fun n hn hmem => ?_
      exact habsent ⟨n, d.id⟩ (List.mem_map_of_mem hn) ((hnames n).mpr (of_decide_eq_true hmem))
    rw [hnone]
    rcases hans : (r.register a d).answer with e | ⟨⟩
    · rw [hans] at hok
      cases hok
    · rfl
  · obtain ⟨front, back, hlineage, rfl, hback⟩ := List.map_eq_append_iff.mp hsplit
    obtain ⟨n, back, rfl, rfl, rfl⟩ := List.map_eq_cons_iff.mp hback
    rw [hlineage] at hnodup
    -- the names are distinct, so the clash is with what is listed already
    have hheld : n ∈ names := by
      rcases hclash with hmem | hheld
      · obtain ⟨m, hm, heq⟩ := List.mem_map.mp hmem
        obtain rfl : m = n := congrArg Insertion.name heq
        exact absurd rfl ((List.nodup_append.mp hnodup).2.2 m hm m List.mem_cons_self)
      · exact (hnames n).mp hheld
    have hfront : front.find? (· ∈ names) = none := by
      refine List.find?_eq_none.mpr fun m hm hmem => ?_
      exact habsent ⟨m, d.id⟩ (List.mem_map_of_mem hm) ((hnames m).mpr (of_decide_eq_true hmem))
    rw [hlineage, List.find?_append, hfront, Option.none_or, List.find?_cons_of_pos (by simpa)]
    rcases hans : (r.register a d).answer with e | ⟨⟩
    · rw [hans] at herr
      exact congrArg Except.error (Except.error.inj herr)
    · rw [hans] at herr
      cases herr

theorem answer_register_empty (hacc : a.refusal? d.payload = none)
    (hnodup : (a.lineage.map Key.name).Nodup) : (empty.register a d).answer = .ok () := by
  have hfree : ∀ n, empty.Holds ⟨n, d.id⟩ ↔ n ∈ ([] : List String) := by
    simp [Holds, empty, Slots.listed, Slots.find?]
  have hnone : (a.lineage.map Key.name).find? (· ∈ ([] : List String)) = none :=
    List.find?_eq_none.mpr (by simp)
  rw [(sound_empty _).answer_register rfl (toldApart_eq d) rfl hacc hnodup hfree, hnone]
  rfl

/-- A refusal comes before anything is changed or reported. -/
theorem register_of_refusal (hclosed : r.closed = false) {link : Key}
    (h : a.refusal? d.payload = some link) :
    r.register a d = ⟨.error (link.mismatch d.payload), r, []⟩ := by
  rw [register, if_neg (by simp [hclosed]), Writing.register, Writing.check_lineage, h]
  rfl

theorem answer_register_of_refusal (hclosed : r.closed = false) {link : Key}
    (h : a.refusal? d.payload = some link) :
    (r.register a d).answer = .error (link.mismatch d.payload) := by
  rw [register_of_refusal hclosed h]

/-- A key that takes everything. -/
def anything (name : String) : Key := .root name ⟨"anything", fun _ => true⟩

/-- Any names can be those under which a descriptor is listed. -/
theorem exists_run_holds (d : Descriptor) {names : List String} (hnodup : names.Nodup) :
    ∃ calls : List Call, (∀ c ∈ calls, ∀ x ∈ c.entries, x.descriptor = d) ∧
      (empty.run calls).Sound (· = d) ∧ (empty.run calls).closed = false ∧
      ∀ n, (empty.run calls).Holds ⟨n, d.id⟩ ↔ n ∈ names := by
  let ps : List Piece := names.map fun n => .single ⟨anything n, d⟩
  have hentries : ps.flatMap Piece.entries = names.map fun n => ⟨anything n, d⟩ := by
    simp [ps, List.flatMap_map, Piece.entries, ← List.map_eq_flatMap]
  have hbuilt : ∀ x ∈ ps.flatMap Piece.entries, x.descriptor = d := by simp [hentries]
  have hinsertions : Batch.insertions ⟨ps.flatMap Piece.entries⟩ =
      names.map fun n => ⟨n, d.id⟩ := by
    simp [hentries, Batch.insertions, List.flatMap_map, anything, Key.name, ← List.map_eq_flatMap]
  have hpasses : empty.Passes ps := by
    refine ((sound_empty _).passes_iff rfl (toldApart_eq d) ps hbuilt).mpr ⟨?_, ?_, ?_⟩
    · simp [hentries, Staged.Accepted, anything, Key.accepts, Key.kind]
    · rw [hinsertions]
      exact hnodup.map fun m n heq => congrArg Insertion.name heq
    · rintro i - ⟨e, he, -⟩
      exact absurd he List.not_mem_nil
  have happlied := (sound_empty _).applied rfl (toldApart_eq d) ps hbuilt hpasses
  refine ⟨ps.map Piece.call, by simp [ps, Piece.call, Call.entries], happlied.sound,
    happlied.isOpen, fun n => ?_⟩
  rw [happlied.holds_iff, hinsertions]
  have hempty : ¬ empty.Holds ⟨n, d.id⟩ := by
    rintro ⟨e, he, -⟩
    exact absurd he List.not_mem_nil
  simp [hempty]

/-- A list without repetitions is known from which of its members comes first, for any choice of
members. -/
theorem eq_of_find?_eq {l l' : List String} (hl : l.Nodup) (hl' : l'.Nodup)
    (h : ∀ names : List String, names.Nodup → l.find? (· ∈ names) = l'.find? (· ∈ names)) :
    l = l' := by
  induction l generalizing l' with
  | nil =>
    cases l' with
    | nil => rfl
    | cons y rest' =>
      have hy := h [y] (List.nodup_singleton y)
      simp at hy
  | cons x rest ih =>
    cases l' with
    | nil =>
      have hx := h [x] (List.nodup_singleton x)
      simp at hx
    | cons y rest' =>
      rw [List.nodup_cons] at hl hl'
      obtain rfl : x = y := by
        by_contra hxy
        have hpair := h [x, y] (by simpa using hxy)
        simp [hxy] at hpair
      rw [ih hl.2 hl'.2 fun names hnames => ?_]
      -- look for the members other than `x`
      have hothers := h (names.erase x) (hnames.erase x)
      have hx : x ∉ names.erase x := hnames.not_mem_erase
      have hfind : ∀ m : List String, x ∉ m →
          m.find? (· ∈ names.erase x) = m.find? (· ∈ names) := by
        intro m hm
        refine List.find?_congr fun n hn => ?_
        have hne : n ≠ x := fun heq => hm (heq ▸ hn)
        simp [List.mem_erase_of_ne hne]
      rwa [List.find?_cons_of_neg (by simpa), List.find?_cons_of_neg (by simpa),
        hfind rest hl.1, hfind rest' hl'.1] at hothers

/-- Registrations that have the same answer wherever the descriptor is listed already come from
lineages that make the same of it. -/
theorem verdict_eq_of_answers (ha : (a.lineage.map Key.name).Nodup)
    (hb : (b.lineage.map Key.name).Nodup)
    (h : ∀ calls : List Call, (∀ c ∈ calls, ∀ x ∈ c.entries, x.descriptor = d) →
      ((empty.run calls).register a d).answer = ((empty.run calls).register b d).answer) :
    a.verdict d.payload = b.verdict d.payload := by
  have hempty := h [] (fun _ hc => absurd hc List.not_mem_nil)
  rw [run_nil] at hempty
  rw [Key.verdict_eq_iff]
  rcases hra : a.refusal? d.payload with _ | link
  · rcases hrb : b.refusal? d.payload with _ | link'
    · refine Or.inr ⟨rfl, rfl, eq_of_find?_eq ha hb fun names hnames => ?_⟩
      obtain ⟨calls, hcalls, hsound, hclosed, hholds⟩ := exists_run_holds d hnames
      have hsame := h calls hcalls
      rw [hsound.answer_register hclosed (toldApart_eq d) rfl hra ha hholds,
        hsound.answer_register hclosed (toldApart_eq d) rfl hrb hb hholds] at hsame
      exact clash_injective d hsame
    · rw [answer_register_of_refusal rfl hrb, answer_register_empty hra ha] at hempty
      cases hempty
  · rcases hrb : b.refusal? d.payload with _ | link'
    · rw [answer_register_of_refusal rfl hra, answer_register_empty hrb hb] at hempty
      cases hempty
    · rw [answer_register_of_refusal rfl hra, answer_register_of_refusal rfl hrb] at hempty
      exact Or.inl ⟨link, link', rfl, rfl, Except.error.inj hempty⟩

/-! ### Equal keys -/

/-- **Equal keys.** They do the same with a descriptor, in every registry and with every batch, if
their lineages give the same verdict on its payload. This is needed too: if registering under
either has the same answer in every state, and neither lineage repeats a name, then the verdicts are
the same. -/
theorem interchangeable_iff_verdict (a b : Key) (d : Descriptor) (hab : (a == b) = true) :
    (a.verdict d.payload = b.verdict d.payload → ∀ (r : Registry) (batch : Batch),
      r.register a d = r.register b d ∧ (batch.push a d).1 = (batch.push b d).1 ∧
        r.commit (batch.push a d).2 = r.commit (batch.push b d).2) ∧
    ((a.lineage.map Key.name).Nodup → (b.lineage.map Key.name).Nodup →
      (∀ calls : List Call, (∀ c ∈ calls, ∀ x ∈ c.entries, x.descriptor = d) →
        ((empty.run calls).register a d).answer = ((empty.run calls).register b d).answer) →
      a.verdict d.payload = b.verdict d.payload) := by
  have hname := Key.beq_iff.mp hab
  refine ⟨fun h r batch => ?_, fun ha hb h => verdict_eq_of_answers ha hb h⟩
  obtain ⟨hpush, hcommit⟩ := push_congr hname h r batch
  exact ⟨register_congr hname h r, hpush, hcommit⟩

/-- Keys of other kinds throughout, which take plain descriptors as well. -/
theorem interchangeable_iff_verdict_other_kinds :
    let say := Descriptor.statement 1 0 "say"
    let other : Key := .child (.root "statement" .block) "effect" .condition
    (Key.effects == other) = true ∧ Key.effects.verdict say.payload = other.verdict say.payload ∧
      empty.register .effects say = empty.register other say := by
  intro say other
  have hequal : (Key.effects == other) = true := by decide
  obtain ⟨hsame, hneeded⟩ := interchangeable_iff_verdict .effects other say hequal
  have hanswers : ∀ calls : List Call, (∀ c ∈ calls, ∀ x ∈ c.entries, x.descriptor = say) →
      ((empty.run calls).register .effects say).answer =
        ((empty.run calls).register other say).answer :=
    fun calls _ => congrArg Reply.answer (hsame rfl (empty.run calls) .empty).1
  exact ⟨hequal, hneeded (by decide) (by decide) hanswers, (hsame rfl empty .empty).1⟩

/-- The key of effects is equal to a root key of that name, and to one that only takes expressions.
Under the one a descriptor is not listed among the statements, and the other refuses it. -/
theorem equal_effects_differ :
    let say := Descriptor.statement 1 0 "say"
    let root : Key := .root "effect" .effect
    let other : Key := .root "effect" .expression
    say ∈ Draft.produce [.statement "say"] .fresh ∧
      (Key.effects == root) = true ∧ (Key.effects == other) = true ∧
      (empty.register .effects say).answer = .ok () ∧ (empty.register root say).answer = .ok () ∧
      ((empty.register .effects say).registry.syntaxes .statements).entries = [say] ∧
      ((empty.register root say).registry.syntaxes .statements).entries = [] ∧
      (empty.register other say).answer = .error (.kindMismatch "effect" "expression" "syntax") :=
  ⟨List.mem_singleton_self _, by decide, by decide, rfl, rfl, rfl, rfl, rfl⟩

end Registry

end Phrasebook
