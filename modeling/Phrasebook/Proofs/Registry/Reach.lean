import Phrasebook.Proofs.Registry.Atomicity
import Phrasebook.Proofs.Registry.Freeze
import Phrasebook.Proofs.Registry.Names
/-!
# Phrasebook.Proofs.Registry.Reach

How far a call gets, and what that leaves behind.

A call makes the insertions of its entries in turn. It stops at the first entry that its keys do not
take and at the first insertion that clashes, so which ones it makes can be told beforehand
(`Registry.Makes`). Each of them creates the register of its name if there is none, and publishes
the list of that name anew. Taking an insertion back does neither away: the register stays, and what
is restored is another publication (`Slots.Changed`). All other names are as before.

So a call that fails changes no list, and yet it may leave registers behind that were not there
(`Registry.keys_after_failure`).
-/

namespace Phrasebook

instance (x : Staged) : Decidable x.Accepted :=
  inferInstanceAs (Decidable (∀ link ∈ x.key.lineage, link.accepts x.descriptor.payload = true))

/-! ### What insertions leave -/

/-- How registers differ after the insertions `made`, whether or not these were taken back: they
have created the registers of their names, and published there. -/
structure Slots.Changed (before after : Slots) (made : Insertion → Prop) : Prop where
  mem_names : ∀ n, n ∈ after.names ↔ n ∈ before.names ∨ ∃ i, made i ∧ i.name = n
  published : ∀ i, made i →
    (before.snapshots i.name).publication < (after.snapshots i.name).publication
  kept : ∀ n, (∀ i, made i → i.name ≠ n) → after.snapshots n = before.snapshots n

namespace Slots

variable {before slots : Slots} {made made' : Insertion → Prop}

/-- A name is read of only if it has a register. -/
theorem mem_names_of_insert? {name : String} {d : Descriptor}
    (h : Register.insert? d (slots.listed name) = none) : name ∈ slots.names := by
  cases hf : slots.find? name with
  | some slot => exact mem_names_of_find? hf
  | none =>
    rw [← entries_snapshots, snapshots_of_find?_none hf] at h
    cases h

namespace Changed

/-- Where nothing is inserted, all names are as before. -/
theorem of_none (hnone : ∀ i, ¬ made i) (hnames : slots.names = before.names)
    (hsnapshots : slots.snapshots = before.snapshots) : Changed before slots made where
  mem_names n := by simp [hnames, hnone]
  published i hi := absurd hi (hnone i)
  kept n _ := by rw [hsnapshots]

theorem congr (h : Changed before slots made) (hmade : ∀ i, made i ↔ made' i) :
    Changed before slots made' := by
  obtain rfl : made = made' := funext fun i => propext (hmade i)
  exact h

/-- Publications are never withdrawn. -/
theorem publication_le (h : Changed before slots made) (n : String) :
    (before.snapshots n).publication ≤ (slots.snapshots n).publication := by
  by_cases hn : ∀ i, made i → i.name ≠ n
  · exact Nat.le_of_eq (by rw [h.kept n hn])
  · simp only [not_forall, not_not] at hn
    obtain ⟨i, hi, rfl⟩ := hn
    exact Nat.le_of_lt (h.published i hi)

end Changed

end Slots

namespace Writing

variable {before : Slots} {w : Writing}

/-- **One insertion.** If it succeeds it is one more that was made, and otherwise there was a
register already. -/
theorem insert_changed (hopen : w.slots.Open) (h : Slots.Changed before w.slots (· ∈ w.done))
    (name : String) (d : Descriptor) :
    (w.insert name d).2.slots.Open ∧
      Slots.Changed before (w.insert name d).2.slots (· ∈ (w.insert name d).2.done) := by
  have hnames := w.names_insert name d
  rcases insert_cases hopen name d with
    ⟨l, w', -, hw, hopen', hupdate, hdone, -⟩ | ⟨w', hl, hw, hopen', hsame, hdone, -⟩
  · rw [hw] at hnames ⊢
    refine ⟨hopen', fun n => ?_, fun i hi => ?_, fun n hn => ?_⟩
    · rw [hnames, mem_addName, h.mem_names, hdone]
      simp only [List.mem_cons, exists_eq_or_imp]
      rw [or_assoc, or_comm (a := ∃ i, _), eq_comm (a := n)]
    · rw [hupdate]
      -- the new publication is above all earlier ones, also if the name had been written to before
      by_cases hname : i.name = name
      · rw [hname, Function.update_self]
        exact Nat.lt_succ_of_le (h.publication_le name)
      · rw [Function.update_of_ne hname]
        rw [hdone] at hi
        rcases List.mem_cons.mp hi with rfl | hi
        · exact absurd rfl hname
        · exact h.published i hi
    · rw [hdone] at hn
      rw [hupdate, Function.update_of_ne (Ne.symm (hn _ List.mem_cons_self))]
      exact h.kept n fun i hi => hn i (List.mem_cons_of_mem _ hi)
  · rw [hw] at hnames ⊢
    refine ⟨hopen', fun n => ?_, fun i hi => ?_, fun n hn => ?_⟩
    · rw [hnames, addName_of_mem (Slots.mem_names_of_insert? hl), h.mem_names, hdone]
    · rw [hsame]
      exact h.published i (hdone ▸ hi)
    · rw [hsame]
      exact h.kept n (hdone ▸ hn)

/-- Taking back insertions that were made. -/
theorem foldl_retract_changed {slots : Slots} {made : Insertion → Prop} (hopen : slots.Open)
    (h : Slots.Changed before slots made) (is : List Insertion) (his : ∀ i ∈ is, made i) :
    (is.foldl retract slots).Open ∧ Slots.Changed before (is.foldl retract slots) made := by
  induction is generalizing slots with
  | nil => exact ⟨hopen, h⟩
  | cons i rest ih =>
    rw [List.forall_mem_cons] at his
    obtain ⟨s, hopen', hupdate, -, hle⟩ := Slots.snapshots_retract hopen i
    refine ih hopen' ⟨fun n => ?_, fun j hj => ?_, fun n hn => ?_⟩ his.2
    · rw [names_retract, h.mem_names]
    · rw [hupdate]
      have hlt := h.published j hj
      by_cases hname : j.name = i.name
      · rw [hname] at hlt ⊢
        rw [Function.update_self]
        exact Nat.lt_of_lt_of_le hlt hle
      · rwa [Function.update_of_ne hname]
    · rw [hupdate, Function.update_of_ne (Ne.symm (hn i his.1))]
      exact h.kept n hn

/-- What a whole write leaves, wherever it stops. -/
theorem registerAll_changed (hopen : before.Open) (entries : List Staged) :
    ((start before).registerAll entries).2.slots.Open ∧
      Slots.Changed before ((start before).registerAll entries).2.slots
        (· ∈ ((start before).registerAll entries).2.done) := by
  have hmeets := registerAll_meets (E := fun _ => True)
    (P := fun slots done => slots.Open ∧ Slots.Changed before slots (· ∈ done))
    (fun w name d h => ⟨insert_changed h.1 h.2 name d, fun _ _ => trivial⟩)
    (w := start before) ⟨hopen, .of_none (fun _ => List.not_mem_nil) rfl rfl⟩ entries
  exact hmeets.kept

/-- A write does not come to the entries after the first that is not accepted. -/
theorem registerAll_takeWhile (w : Writing) (entries : List Staged) :
    (w.registerAll (entries.takeWhile fun x => x.Accepted)).2 = (w.registerAll entries).2 := by
  induction entries generalizing w with
  | nil => rfl
  | cons x rest ih =>
    rw [List.takeWhile_cons]
    by_cases hacc : x.Accepted
    · rw [if_pos (decide_eq_true hacc), registerAll, registerAll]
      rcases w.register x.key x.descriptor with ⟨e | ⟨⟩, w'⟩
      · rfl
      · exact ih w'
    · rw [if_neg (by simpa using hacc), registerAll, registerAll, register]
      rcases check_cases x.descriptor.payload x.key.lineage with ⟨-, hall⟩ | ⟨link, -, herr, -⟩
      · exact absurd hall hacc
      · rw [herr]

end Writing

namespace Registry

variable {D : Descriptor → Prop} {r : Registry}

/-! ### Which insertions a call makes -/

/-- The call makes this insertion: it finds the registry open, the insertion belongs to one of the
entries before the first that is not accepted, and up to this one none repeats another or finds its
id there. Whether it is taken back later does not matter. -/
def Makes (r : Registry) (c : Call) (i : Insertion) : Prop :=
  r.closed = false ∧ ∃ pre post,
    Batch.insertions ⟨c.entries.takeWhile fun x => x.Accepted⟩ = pre ++ i :: post ∧
      r.Clear (pre ++ [i])

theorem Clear.of_prefix {is js : List Insertion} (h : r.Clear js) (hpre : is <+: js) : r.Clear is :=
  ⟨h.1.sublist hpre.sublist, fun i hi => h.2 i (hpre.subset hi)⟩

/-- In a clear sequence every insertion is made. -/
theorem clear_upTo_iff {is : List Insertion} {i : Insertion} (h : r.Clear is) :
    (∃ pre post, is = pre ++ i :: post ∧ r.Clear (pre ++ [i])) ↔ i ∈ is := by
  constructor
  · rintro ⟨pre, post, rfl, -⟩
    simp
  · intro hi
    obtain ⟨pre, post, rfl⟩ := List.append_of_mem hi
    exact ⟨pre, post, rfl, h.of_prefix ⟨post, by simp⟩⟩

/-- Where an insertion clashes, exactly those before it are made. -/
theorem clear_upTo_clash_iff {pre post : List Insertion} {i j : Insertion} (hpre : r.Clear pre)
    (hclash : j ∈ pre ∨ r.Holds j) :
    (∃ pre' post', pre ++ j :: post = pre' ++ i :: post' ∧ r.Clear (pre' ++ [i])) ↔ i ∈ pre := by
  rw [← clear_upTo_iff hpre]
  constructor
  · rintro ⟨pre', post', hsplit, hclear⟩
    have hj : pre ++ [j] <+: pre ++ j :: post := ⟨post, by simp⟩
    have hi : pre' ++ [i] <+: pre ++ j :: post := ⟨post', by simp [hsplit]⟩
    -- the insertion comes before the clash, or the clash is among what was to be clear
    rcases Nat.lt_or_ge pre'.length pre.length with hlt | hge
    · have hprefix : pre' ++ [i] <+: pre :=
        List.prefix_of_prefix_length_le hi ⟨j :: post, rfl⟩
          (by rwa [List.length_append, List.length_singleton])
      obtain ⟨rest, hrest⟩ := hprefix
      exact ⟨pre', rest, by simp [← hrest], hclear⟩
    · have hprefix : pre ++ [j] <+: pre' ++ [i] :=
        List.prefix_of_prefix_length_le hj hi (by simpa using hge)
      exact absurd (hclear.of_prefix hprefix) (not_clear_of_clash hclash)
  · rintro ⟨pre', post', rfl, hclear⟩
    exact ⟨pre', post' ++ j :: post, by simp, hclear⟩

/-- **A write notes the insertions that it makes.** -/
theorem Sound.mem_done_iff (h : r.Sound D) (hclosed : r.closed = false) (hD : ToldApart D)
    {c : Call} (hc : ∀ x ∈ c.entries, D x.descriptor) (i : Insertion) :
    i ∈ ((Writing.start r.slots).registerAll c.entries).2.done ↔ r.Makes c i := by
  let taken : List Staged := c.entries.takeWhile fun x => x.Accepted
  have hD' : ∀ x ∈ taken, D x.descriptor := fun x hx => hc x ((List.takeWhile_sublist _).subset hx)
  have hacc : ∀ x ∈ taken, x.Accepted :=
    fun x hx => of_decide_eq_true (List.all_eq_true.mp List.all_takeWhile x hx)
  -- writing does not come to the entries behind `taken`, and stops in it only for a clash
  rw [← Writing.registerAll_takeWhile, Makes, and_iff_right hclosed]
  rcases h.write_outcome hclosed hD hD' hacc with
    ⟨w, hr, hclear, hdone⟩ | ⟨w, pre, j, post, hr, hsplit, hclear, hclash, hdone⟩
  · rw [hr, hdone, List.mem_reverse, clear_upTo_iff hclear]
  · rw [hr, hdone, List.mem_reverse, hsplit, clear_upTo_clash_iff hclear hclash]

/-- Nothing is inserted for entries of which the first is not accepted. -/
theorem not_makes_of_takeWhile {c : Call}
    (h : (c.entries.takeWhile fun x => x.Accepted) = []) (i : Insertion) : ¬ r.Makes c i := by
  rintro ⟨-, pre, post, hsplit, -⟩
  rw [h] at hsplit
  cases pre <;> cases hsplit

/-! ### What a call leaves -/

/-- **One call.** What it makes shows in the names and publications, whether it succeeds or not. -/
theorem Sound.changed_perform (h : r.Sound D) (hD : ToldApart D) (c : Call)
    (hc : ∀ x ∈ c.entries, D x.descriptor) :
    Slots.Changed r.slots (r.perform c).registry.slots (r.Makes c) := by
  cases r.course c with
  | refused closed answer registry =>
    rw [registry]
    exact .of_none (fun i hi => absurd (hi.1.symm.trans closed) Bool.false_ne_true) rfl rfl
  | closing opened call =>
    subst call
    exact .of_none (not_makes_of_takeWhile rfl) r.names_close r.snapshots_close
  | written opened call write answer registry =>
    have hwrite := Writing.registerAll_changed (h.isOpen opened) c.entries
    have hdone := h.mem_done_iff opened hD hc
    rw [write] at hwrite hdone
    rw [registry]
    exact hwrite.2.congr hdone
  | undone opened call write answer registry =>
    have hwrite := Writing.registerAll_changed (h.isOpen opened) c.entries
    have hdone := h.mem_done_iff opened hD hc
    rw [write] at hwrite hdone
    rw [registry]
    exact (Writing.foldl_retract_changed hwrite.1 hwrite.2 _ fun i hi => hi).2.congr hdone

theorem mem_keys {n : String} : n ∈ r.keys ↔ n ∈ r.slots.names := List.mem_mergeSort

/-- A call that fails for another reason than a clash makes no insertion, because the kinds of a
batch are checked as it is filled. -/
theorem Sound.not_makes_of_error (h : r.Sound D) (hD : ToldApart D) {c : Call} {e : RegistryError}
    (hc : ∀ x ∈ c.entries, D x.descriptor)
    (hpushed : ∀ b, c = .commit b → ∀ x ∈ b.entries, x.Accepted)
    (herror : (r.perform c).answer = .error e) (hother : ∀ name id, e ≠ .duplicateSyntax name id)
    (i : Insertion) : ¬ r.Makes c i := by
  have hkinds : (∀ x ∈ c.entries, x.Accepted) ∨ (c.entries.takeWhile fun x => x.Accepted) = [] := by
    cases c with
    | commit b => exact Or.inl (hpushed b rfl)
    | close => exact Or.inr rfl
    | register key d =>
      by_cases hacc : Staged.Accepted ⟨key, d⟩
      · exact Or.inl (by simpa [Call.entries] using hacc)
      · exact Or.inr (List.takeWhile_cons_of_neg (by simpa using hacc))
  rcases hkinds with hacc | hnone
  · cases r.course c with
    | refused closed answer registry =>
      exact fun hi => Bool.false_ne_true (hi.1.symm.trans closed)
    | closing opened call =>
      subst call
      exact not_makes_of_takeWhile rfl i
    | written opened call write answer registry =>
      rw [answer] at herror
      cases herror
    | undone opened call write answer registry =>
      rw [answer] at herror
      obtain rfl := Except.error.inj herror
      rcases h.write_outcome opened hD hc hacc with ⟨w, hr, -⟩ | ⟨w, pre, j, post, hr, -⟩
      · rw [hr] at write
        cases write
      · rw [hr, Prod.mk.injEq, Except.error.injEq] at write
        exact absurd write.1.symm (hother _ _)
  · exact not_makes_of_takeWhile hnone i

/-- **What a failed call leaves behind.** The keys after a call are those before it and the names of
the insertions that it makes. So one that fails leaves the keys as they were exactly if all that it
had inserted went to registers that were there already, and always if it fails for another reason
than a clash. -/
theorem keys_after_failure (drafts : List Draft) (calls : List Call) (c : Call) {e : RegistryError}
    (hbuilt : ∀ c' ∈ calls ++ [c], ∀ x ∈ c'.entries, x.descriptor ∈ Draft.produce drafts .fresh)
    (hpushed : ∀ b, c = .commit b → ∃ xs, b = .ofPushes xs)
    (herror : ((empty.run calls).perform c).answer = .error e) :
    (∀ n, n ∈ ((empty.run calls).perform c).registry.keys ↔
        n ∈ (empty.run calls).keys ∨ ∃ i, (empty.run calls).Makes c i ∧ i.name = n) ∧
      (((empty.run calls).perform c).registry.keys = (empty.run calls).keys ↔
        ∀ i, (empty.run calls).Makes c i → i.name ∈ (empty.run calls).keys) ∧
      ((∀ name id, e ≠ .duplicateSyntax name id) →
        ((empty.run calls).perform c).registry.keys = (empty.run calls).keys) := by
  have hD := Draft.toldApart_produce drafts .fresh
  have hsound := ((sound_empty _).run hD calls fun c' hc' => hbuilt c' (by simp [hc'])).1
  have hc := hbuilt c (by simp)
  have hchanged := hsound.changed_perform hD c hc
  have hnodup : (empty.run calls).slots.names.Nodup :=
    nodup_names_run (r := empty) List.nodup_nil calls
  have hmem : ∀ n, n ∈ ((empty.run calls).perform c).registry.keys ↔
      n ∈ (empty.run calls).keys ∨ ∃ i, (empty.run calls).Makes c i ∧ i.name = n := by
    intro n
    rw [mem_keys, mem_keys, hchanged.mem_names]
  have hsame : ((empty.run calls).perform c).registry.keys = (empty.run calls).keys ↔
      ∀ i, (empty.run calls).Makes c i → i.name ∈ (empty.run calls).keys := by
    constructor
    · intro heq i hi
      rw [← heq, hmem]
      exact Or.inr ⟨i, hi, rfl⟩
    · intro hthere
      refine keys_eq_of_mem_iff (((empty.run calls).asksFor_perform c).nodup hnodup) hnodup
        fun n => ?_
      rw [← mem_keys, ← mem_keys, hmem]
      refine or_iff_left_of_imp ?_
      rintro ⟨i, hi, rfl⟩
      exact hthere i hi
  refine ⟨hmem, hsame, fun hother => hsame.mpr fun i hi => ?_⟩
  refine absurd hi (hsound.not_makes_of_error hD hc (fun b hb => ?_) herror hother i)
  obtain ⟨xs, rfl⟩ := hpushed b hb
  exact fun x hx => (Batch.mem_ofPushes hx).2

/-- A statement is registered as an effect too. That fails because it is listed among the statements
already, but there is a register of effects now. -/
theorem keys_after_failure_effect :
    let say := Descriptor.statement 1 0 "say"
    let drafts : List Draft := [.statement "say", .statement "shout"]
    let calls : List Call := [.register .statements say]
    let again : Call := .register .effects say
    (∀ c ∈ calls ++ [again], ∀ x ∈ c.entries, x.descriptor ∈ Draft.produce drafts .fresh) ∧
      ((empty.run calls).perform again).answer = .error (.duplicateSyntax "statement" 1) ∧
      "effect" ∈ ((empty.run calls).perform again).registry.keys := by
  intro say drafts calls again
  have hbuilt : ∀ c ∈ calls ++ [again], ∀ x ∈ c.entries,
      x.descriptor ∈ Draft.produce drafts .fresh := by
    rw [Draft.produce_statements]
    simp [calls, again, Call.entries, say]
  have herror : ((empty.run calls).perform again).answer =
      .error (.duplicateSyntax "statement" 1) := rfl
  obtain ⟨hmem, -⟩ := keys_after_failure drafts calls again hbuilt (by simp [again]) herror
  -- the insertion under the key comes before the one under its parent, which fails
  have hmakes : (empty.run calls).Makes again ⟨"effect", 1⟩ := by
    refine ⟨rfl, [], [⟨"statement", 1⟩], by decide, List.nodup_singleton _, fun i hi => ?_⟩
    obtain rfl := List.mem_singleton.mp hi
    rintro ⟨d, hd, -⟩
    exact List.not_mem_nil hd
  exact ⟨hbuilt, herror, (hmem _).mpr (Or.inr ⟨_, hmakes, rfl⟩)⟩

/-- A call that fails does not in general leave the keys as they were. -/
theorem failed_registration_adds_key :
    let say := Descriptor.statement 1 0 "say"
    let r := empty.run [.register .statements say]
    (r.register .effects say).answer = .error (.duplicateSyntax "statement" 1) ∧
      (r.register .effects say).registry.keys ≠ r.keys := by
  intro say r
  refine ⟨rfl, fun heq => ?_⟩
  have hnew : "effect" ∈ (r.register .effects say).registry.keys := mem_keys.mpr (by decide)
  rw [heq, mem_keys] at hnew
  exact absurd hnew (by decide)

end Registry

end Phrasebook
