import Phrasebook.Proofs.Registry.Rollback
/-!
# Phrasebook.Proofs.Registry.Runs

Runs of a registry: registrations, commits and closings in any order, some of which fail.

A call that comes after closing is refused. Any other closes the registry, or is a write that is
kept or undone (`Registry.course`).

Along a run the registry stays **sound** (`Registry.Sound`): its registers are all open or all
frozen, each lists its descriptors in match order, and every one of them came out of a build. A call
that succeeds adds what it asks for, one that fails and one that closes add nothing
(`Sound.perform`). So a run comes down to the set of what its successful calls asked for
(`Registry.syntaxes_run`).
-/

namespace Phrasebook

namespace Registry

/-- A call that may change a registry. -/
inductive Call
  | register (key : Key) (d : Descriptor)
  | commit (batch : Batch)
  | close

/-- The registrations that a call asks for. -/
def Call.entries : Call → List Staged
  | register key d => [⟨key, d⟩]
  | commit batch => batch.entries
  | close => []

/-- Makes a call. Of a commit only whether it succeeded is kept. -/
def perform (r : Registry) : Call → Reply Unit
  | .register key d => r.register key d
  | .commit batch =>
    ⟨(r.commit batch).answer.map fun _ => (), (r.commit batch).registry, (r.commit batch).log⟩
  | .close => r.close

/-- Makes calls, one after the other. -/
def run (r : Registry) (calls : List Call) : Registry :=
  calls.foldl (fun r c => (r.perform c).registry) r

@[simp] theorem run_nil (r : Registry) : r.run [] = r := rfl

@[simp] theorem run_cons (r : Registry) (c : Call) (calls : List Call) :
    r.run (c :: calls) = (r.perform c).registry.run calls := rfl

theorem run_append (r : Registry) (calls more : List Call) :
    r.run (calls ++ more) = (r.run calls).run more :=
  List.foldl_append

/-! ### How a call can go -/

variable {r : Registry}

/-- A commit that is refused at once. -/
theorem commit_of_closed (hclosed : r.closed = true) (b : Batch) :
    r.commit b = ⟨.error (.registrationClosed none), r, [batchRejected b]⟩ := by
  rw [commit, if_pos hclosed]

theorem commit_of_ok (hclosed : r.closed = false) {b : Batch} {w : Writing}
    (h : (Writing.start r.slots).registerAll b.entries = (.ok (), w)) :
    r.commit b = ⟨.ok b.entries.length, { r with slots := w.slots }, w.log⟩ := by
  rw [commit, if_neg (by simp [hclosed]), h]

theorem commit_of_error (hclosed : r.closed = false) {b : Batch} {e : RegistryError} {w : Writing}
    (h : (Writing.start r.slots).registerAll b.entries = (.error e, w)) :
    r.commit b = ⟨.error e, { r with slots := w.undo }, w.log⟩ := by
  rw [commit, if_neg (by simp [hclosed]), h]

theorem closed_commit (r : Registry) (b : Batch) : (r.commit b).registry.closed = r.closed := by
  rw [commit]
  split
  · rfl
  · rcases (Writing.start r.slots).registerAll b.entries with ⟨e | ⟨⟩, w⟩
    · rfl
    · rfl

/-- A registration is the commit of one entry, in an open registry. -/
theorem commit_singleton (hclosed : r.closed = false) (key : Key) (d : Descriptor) :
    r.commit ⟨[⟨key, d⟩]⟩ =
      ⟨(r.register key d).answer.map fun _ => 1, (r.register key d).registry,
        (r.register key d).log⟩ := by
  rw [commit, register, if_neg (by simp [hclosed]), if_neg (by simp [hclosed])]
  simp only [Writing.registerAll]
  rcases (Writing.start r.slots).register key d with ⟨e | ⟨⟩, w⟩
  · rfl
  · rfl

/-- The key that is named when the call comes after closing. -/
def Call.refusedKey : Call → Option String
  | register key _ => some key.name
  | commit _ | close => none

/-- The ways in which a call can go. -/
inductive Course (r : Registry) (c : Call) : Prop
  /-- It came after closing. -/
  | refused (closed : r.closed = true)
      (answer : (r.perform c).answer = .error (.registrationClosed c.refusedKey))
      (registry : (r.perform c).registry = r)
  | closing (opened : r.closed = false) (call : c = .close)
  /-- All entries were written. -/
  | written {w : Writing} (opened : r.closed = false) (call : c ≠ .close)
      (write : (Writing.start r.slots).registerAll c.entries = (.ok (), w))
      (answer : (r.perform c).answer = .ok ())
      (registry : (r.perform c).registry = { r with slots := w.slots })
  /-- Writing stopped at an entry, and what had been inserted was taken back. -/
  | undone {w : Writing} {e : RegistryError} (opened : r.closed = false) (call : c ≠ .close)
      (write : (Writing.start r.slots).registerAll c.entries = (.error e, w))
      (answer : (r.perform c).answer = .error e)
      (registry : (r.perform c).registry = { r with slots := w.undo })

/-- A call that comes after closing. -/
theorem perform_of_closed (hclosed : r.closed = true) (c : Call) :
    (r.perform c).answer = .error (.registrationClosed c.refusedKey) ∧
      (r.perform c).registry = r := by
  cases c with
  | register key d =>
    rw [perform, Registry.register, if_pos hclosed]
    exact ⟨rfl, rfl⟩
  | commit b =>
    rw [perform, commit_of_closed hclosed]
    exact ⟨rfl, rfl⟩
  | close =>
    rw [perform, Registry.close, if_pos hclosed]
    exact ⟨rfl, rfl⟩

/-- **One call** is refused, closes the registry, or is a write that is kept or undone. -/
theorem course (r : Registry) (c : Call) : Course r c := by
  cases hclosed : r.closed with
  | true =>
    obtain ⟨hanswer, hsame⟩ := perform_of_closed hclosed c
    exact .refused hclosed hanswer hsame
  | false =>
    cases c with
    | close => exact .closing hclosed rfl
    | commit b =>
      rcases hr : (Writing.start r.slots).registerAll b.entries with ⟨e | ⟨⟩, w⟩
      · have hcommit := commit_of_error hclosed hr
        refine .undone hclosed (fun h => by cases h) hr ?_ ?_
        · rw [perform, hcommit]
          rfl
        · rw [perform, hcommit]
      · have hcommit := commit_of_ok hclosed hr
        refine .written hclosed (fun h => by cases h) hr ?_ ?_
        · rw [perform, hcommit]
          rfl
        · rw [perform, hcommit]
    | register key d =>
      rcases hr : (Writing.start r.slots).register key d with ⟨e | ⟨⟩, w⟩
      · have hregister : r.register key d = ⟨.error e, { r with slots := w.undo }, w.log⟩ := by
          rw [Registry.register, if_neg (by simp [hclosed]), hr]
        refine .undone hclosed (fun h => by cases h) (w := w) ?_ (congrArg Reply.answer hregister)
          (congrArg Reply.registry hregister)
        simp only [Call.entries, Writing.registerAll, hr]
      · have hregister : r.register key d = ⟨.ok (), { r with slots := w.slots }, w.log⟩ := by
          rw [Registry.register, if_neg (by simp [hclosed]), hr]
        refine .written hclosed (fun h => by cases h) ?_ (congrArg Reply.answer hregister)
          (congrArg Reply.registry hregister)
        simp only [Call.entries, Writing.registerAll, hr]

/-! ### The invariant -/

/-- The registers take writes as long as the registry is not closed, and are all frozen from then
on. Under each name there is a snapshot of that name. -/
structure Gated (r : Registry) : Prop where
  isOpen : r.closed = false → r.slots.Open
  isFrozen : r.closed = true → ∀ p ∈ r.slots, ∃ f, p.2 = .frozen f
  key : ∀ name, (r.slots.snapshots name).key = name

theorem gated_empty : empty.Gated where
  isOpen _ := Slots.open_nil
  isFrozen h := absurd h Bool.false_ne_true
  key _ := rfl

/-- Replacing the registers of an open registry. -/
theorem gated_of_open {slots : Slots} (hclosed : r.closed = false) (hopen : slots.Open) :
    ({ r with slots } : Registry).Gated where
  isOpen _ := hopen
  isFrozen h := absurd (hclosed.symm.trans h) Bool.false_ne_true
  key := hopen.key_snapshots

/-- Open registers are all closed without a refusal. -/
theorem close_of_open (hopen : r.slots.Open) (hclosed : r.closed = false) :
    ∃ total, r.close = ⟨.ok (), ⟨true, r.slots.freeze.2⟩,
      [registryClosed r.slots.freeze.2.length total]⟩ := by
  obtain ⟨⟨total, htotal⟩, -⟩ := Slots.freeze_of_open hopen
  have hfreeze : r.slots.freeze = (.ok total, r.slots.freeze.2) := by rw [← htotal]
  refine ⟨total, ?_⟩
  rw [Registry.close, if_neg (by simp [hclosed]), hfreeze]

/-- Closing an open registry succeeds. -/
theorem Gated.close (h : r.Gated) (hclosed : r.closed = false) :
    r.close.answer = .ok () ∧ r.close.registry.closed = true ∧ r.close.registry.Gated := by
  have hopen := h.isOpen hclosed
  obtain ⟨total, hclose⟩ := close_of_open hopen hclosed
  rw [hclose]
  refine ⟨rfl, rfl, fun hf => (by cases hf), fun _ => (Slots.freeze_of_open hopen).2,
    fun name => ?_⟩
  -- a frozen register keeps the snapshot of the live one, so the names need not be looked at again
  rw [Slots.snapshots_freeze]
  exact h.key name

variable {D : Descriptor → Prop}

/-- What holds of a registry at any time, if all that is registered is in `D`. -/
structure Sound (D : Descriptor → Prop) (r : Registry) : Prop extends Gated r where
  sorted : ∀ name, (r.slots.listed name).Pairwise Descriptor.Precedes
  known : ∀ name, ∀ d ∈ r.slots.listed name, D d

theorem sound_empty (D : Descriptor → Prop) : empty.Sound D where
  toGated := gated_empty
  sorted _ := List.Pairwise.nil
  known _ _ h := absurd h List.not_mem_nil

/-- Replacing the registers of an open registry. -/
theorem Sound.of_open {slots : Slots} (hclosed : r.closed = false) (hopen : slots.Open)
    (hsorted : ∀ name, (slots.listed name).Pairwise Descriptor.Precedes)
    (hknown : ∀ name, ∀ d ∈ slots.listed name, D d) :
    ({ r with slots } : Registry).Sound D where
  toGated := gated_of_open hclosed hopen
  sorted := hsorted
  known := hknown

/-- Undoing a write leaves a sound registry that lists what it did. -/
theorem Sound.undo {ps : List (String × Descriptor)} {w : Writing} (h : r.Sound D)
    (hclosed : r.closed = false) (hw : Writing.Wrote D r.slots.listed ps w) :
    ({ r with slots := w.undo } : Registry).Sound D ∧ w.undo.listed = r.slots.listed := by
  obtain ⟨hopen, hlisted⟩ := hw.undo
  refine ⟨.of_open hclosed hopen ?_ ?_, hlisted⟩
  · rw [hlisted]
    exact h.sorted
  · rw [hlisted]
    exact h.known

/-- A write into a sound, open registry ends in one of the known ways. -/
theorem Sound.registerAll (h : r.Sound D) (hclosed : r.closed = false) (hD : ToldApart D)
    (entries : List Staged) (hentries : ∀ x ∈ entries, D x.descriptor) :
    Writing.Ends D r.slots.listed [] (entries.flatMap Staged.places) (Writing.Mismatch entries)
      ((Writing.start r.slots).registerAll entries) :=
  (Writing.wrote_start (h.isOpen hclosed) h.sorted h.known).registerAll hD entries hentries

/-! ### What calls do -/

/-- `r'` lists what `r` lists and, under the names given with them, the descriptors of `qs`. -/
def Gains (r : Registry) (qs : List (String × Descriptor)) (r' : Registry) : Prop :=
  ∀ name d, d ∈ r'.slots.listed name ↔ d ∈ r.slots.listed name ∨ (name, d) ∈ qs

/-- What a call leaves: a sound registry, which has gained what was asked for if the call succeeded,
and lists what it did before if it failed. -/
structure Settled (D : Descriptor → Prop) (r : Registry) (entries : List Staged)
    {α : Type} (reply : Reply α) : Prop where
  sound : reply.registry.Sound D
  gains : ∀ a, reply.answer = .ok a → r.Gains (entries.flatMap Staged.places) reply.registry
  unchanged : ∀ e, reply.answer = .error e → reply.registry.slots.listed = r.slots.listed

/-- Closing freezes all registers, unless they are frozen, and changes no list. -/
theorem Sound.close (h : r.Sound D) :
    r.close.registry.Sound D ∧ r.close.registry.slots.listed = r.slots.listed := by
  cases hclosed : r.closed with
  | true =>
    rw [Registry.close, if_pos hclosed]
    exact ⟨h, rfl⟩
  | false =>
    have hlisted : r.close.registry.slots.listed = r.slots.listed := by
      obtain ⟨total, hclose⟩ := close_of_open (h.isOpen hclosed) hclosed
      rw [hclose]
      exact Slots.listed_freeze _
    refine ⟨⟨(h.toGated.close hclosed).2.2, ?_, ?_⟩, hlisted⟩
    · rw [hlisted]
      exact h.sorted
    · rw [hlisted]
      exact h.known

/-- **One call.** Soundness is kept, and what is listed changes by what was asked for or not at
all. -/
theorem Sound.perform (h : r.Sound D) (hD : ToldApart D) (c : Call)
    (hc : ∀ x ∈ c.entries, D x.descriptor) : Settled D r c.entries (r.perform c) := by
  cases r.course c with
  | refused closed answer registry =>
    refine ⟨?_, fun a ha => ?_, fun e he => ?_⟩
    · rwa [registry]
    · rw [answer] at ha
      cases ha
    · rw [registry]
  | closing opened call =>
    subst call
    obtain ⟨hsound, hlisted⟩ := h.close
    refine ⟨hsound, fun _ _ name d => ?_, fun _ _ => hlisted⟩
    show d ∈ r.close.registry.slots.listed name ↔ _
    rw [hlisted]
    simp [Call.entries]
  | written opened call write answer registry =>
    have hends := h.registerAll opened hD c.entries hc
    rw [write] at hends
    cases hends with
    | all wrote =>
      refine ⟨?_, fun a ha => ?_, fun e he => ?_⟩
      · rw [registry]
        exact .of_open opened wrote.isOpen wrote.sorted wrote.known
      · rw [registry]
        exact wrote.mem_listed
      · rw [answer] at he
        cases he
  | @undone w e opened call write answer registry =>
    have hends := h.registerAll opened hD c.entries hc
    rw [write] at hends
    obtain ⟨ps, hw⟩ : ∃ ps, Writing.Wrote D r.slots.listed ps w := by
      cases hends with
      | clash _ _ _ wrote _ => exact ⟨_, wrote⟩
      | refused _ _ _ wrote _ => exact ⟨_, wrote⟩
    obtain ⟨hsound, hlisted⟩ := h.undo opened hw
    refine ⟨?_, fun a ha => ?_, fun e he => ?_⟩
    · rwa [registry]
    · rw [answer] at ha
      cases ha
    · rwa [registry]

theorem Sound.commit (h : r.Sound D) (hD : ToldApart D) (b : Batch)
    (hb : ∀ x ∈ b.entries, D x.descriptor) : Settled D r b.entries (r.commit b) := by
  have hsettled := h.perform hD (.commit b) hb
  refine ⟨hsettled.sound, fun n hn => hsettled.gains () ?_, fun e he => hsettled.unchanged e ?_⟩
  · rw [Registry.perform, hn]
    rfl
  · rw [Registry.perform, he]
    rfl

/-- What a call has registered, its keys and all their ancestors take. -/
theorem accepted_of_perform {c : Call} (h : (r.perform c).answer = .ok ()) :
    ∀ x ∈ c.entries, x.Accepted := by
  cases r.course c with
  | refused closed answer registry =>
    rw [answer] at h
    cases h
  | closing opened call =>
    subst call
    exact fun _ hx => absurd hx List.not_mem_nil
  | written opened call write answer registry => exact Writing.accepted_of_registerAll write
  | undone opened call write answer registry =>
    rw [answer] at h
    cases h

/-! ### Whole runs -/

/-- A call of a run is the first one or one of the rest. -/
theorem exists_call_cons {P : Registry → Call → Prop} {c : Call} {calls : List Call} :
    (∃ pre c' post, c :: calls = pre ++ c' :: post ∧ P (r.run pre) c') ↔
      P r c ∨ ∃ pre c' post, calls = pre ++ c' :: post ∧ P ((r.perform c).registry.run pre) c' := by
  constructor
  · rintro ⟨pre, c', post, hsplit, hp⟩
    cases pre with
    | nil =>
      obtain ⟨rfl, -⟩ := List.cons_eq_cons.mp hsplit
      exact Or.inl hp
    | cons _ pre =>
      rw [List.cons_append, List.cons_eq_cons] at hsplit
      obtain ⟨rfl, hsplit⟩ := hsplit
      exact Or.inr ⟨pre, c', post, hsplit, hp⟩
  · rintro (hp | ⟨pre, c', post, hsplit, hp⟩)
    · exact ⟨[], c, calls, rfl, hp⟩
    · exact ⟨c :: pre, c', post, by rw [hsplit, List.cons_append], hp⟩

/-- `x` was asked for by a call of the run that succeeded. -/
def Granted (r : Registry) (calls : List Call) (x : Staged) : Prop :=
  ∃ pre c post, calls = pre ++ c :: post ∧ ((r.run pre).perform c).answer = .ok () ∧ x ∈ c.entries

theorem granted_cons {c : Call} {calls : List Call} {x : Staged} :
    r.Granted (c :: calls) x ↔
      ((r.perform c).answer = .ok () ∧ x ∈ c.entries) ∨ (r.perform c).registry.Granted calls x :=
  exists_call_cons (P := fun r c => (r.perform c).answer = .ok () ∧ x ∈ c.entries)

/-- **A run.** Soundness is kept, and what is listed is what was listed and what was granted. -/
theorem Sound.run (h : r.Sound D) (hD : ToldApart D) (calls : List Call)
    (hcalls : ∀ c ∈ calls, ∀ x ∈ c.entries, D x.descriptor) :
    (r.run calls).Sound D ∧ ∀ name d, d ∈ (r.run calls).slots.listed name ↔
      d ∈ r.slots.listed name ∨ ∃ x, r.Granted calls x ∧ (name, d) ∈ x.places := by
  induction calls generalizing r with
  | nil =>
    refine ⟨h, fun name d => ⟨Or.inl, ?_⟩⟩
    rintro (hd | ⟨x, ⟨pre, c, post, hsplit, -, -⟩, -⟩)
    · exact hd
    · cases pre <;> cases hsplit
  | cons c rest ih =>
    rw [List.forall_mem_cons] at hcalls
    have hsettled := h.perform hD c hcalls.1
    obtain ⟨hsound, hmem⟩ := ih hsettled.sound hcalls.2
    refine ⟨hsound, fun name d => ?_⟩
    rw [run_cons, hmem]
    simp only [granted_cons]
    rcases hans : (r.perform c).answer with e | ⟨⟩
    · rw [hsettled.unchanged e hans]
      simp
    · rw [hsettled.gains () hans, List.mem_flatMap, or_assoc]
      simp only [true_and, or_and_right, exists_or]

/-- **What a run lists.** The descriptors listed under a key are those of the calls that succeeded,
registered under a key with that name in its lineage. Each is listed once, in match order. A call
that fails and a call that closes change no list. -/
theorem syntaxes_run (drafts : List Draft) (calls : List Call)
    (hbuilt : ∀ c ∈ calls, ∀ x ∈ c.entries, x.descriptor ∈ Draft.produce drafts .fresh) (k : Key) :
    ((empty.run calls).syntaxes k).entries.Pairwise Descriptor.Precedes ∧
      ((empty.run calls).syntaxes k).entries.Nodup ∧
      (∀ d, d ∈ ((empty.run calls).syntaxes k).entries ↔
        ∃ pre c post, calls = pre ++ c :: post ∧ ((empty.run pre).perform c).answer = .ok () ∧
          ∃ x ∈ c.entries, x.descriptor = d ∧ ∃ link ∈ x.key.lineage, link.name = k.name) ∧
      ∀ pre c post, calls = pre ++ c :: post →
        (c = .close ∨ ∃ e, ((empty.run pre).perform c).answer = .error e) →
        ((empty.run (pre ++ [c])).syntaxes k).entries = ((empty.run pre).syntaxes k).entries := by
  have hD := Draft.toldApart_produce drafts .fresh
  obtain ⟨hsound, hmem⟩ := (sound_empty _).run hD calls hbuilt
  have hsorted := hsound.sorted k.name
  simp only [entries_syntaxes]
  refine ⟨hsorted, hsorted.imp fun hab heq => ?_, fun d => ?_, ?_⟩
  · exact Descriptor.Precedes.irrefl _ (heq ▸ hab)
  · rw [hmem]
    constructor
    · rintro (hd | ⟨x, ⟨pre, c, post, hsplit, hok, hx⟩, hplace⟩)
      · exact absurd hd List.not_mem_nil
      · exact ⟨pre, c, post, hsplit, hok, x, hx, Staged.mem_places.mp hplace⟩
    · rintro ⟨pre, c, post, hsplit, hok, x, hx, hplace⟩
      exact Or.inr ⟨x, ⟨pre, c, post, hsplit, hok, hx⟩, Staged.mem_places.mpr hplace⟩
  · rintro pre c post rfl hc
    have hpre := ((sound_empty _).run hD pre fun c hc => hbuilt c (List.mem_append_left _ hc)).1
    rw [run_append, run_cons, run_nil]
    rcases hc with rfl | ⟨e, he⟩
    · show (empty.run pre).close.registry.slots.listed k.name = _
      rw [hpre.close.2]
    · rw [(hpre.perform hD c (hbuilt c (by simp))).unchanged e he]

/-- An effect is registered; a batch that brings a condition but also repeats the effect is refused,
and so is what comes after closing. The effect is listed among the statements. -/
theorem syntaxes_run_refused_batch :
    let say := Descriptor.statement 1 0 "say"
    let shout := Descriptor.statement 2 1 "shout"
    let calls : List Call :=
      [.register .effects say, .commit ⟨[⟨.conditions, shout⟩, ⟨.effects, say⟩]⟩,
        .register .effects shout, .close, .register .conditions shout]
    (∀ c ∈ calls, ∀ x ∈ c.entries,
        x.descriptor ∈ Draft.produce [.statement "say", .statement "shout"] .fresh) ∧
      say ∈ ((empty.run calls).syntaxes .statements).entries := by
  intro say shout calls
  have hbuilt : ∀ c ∈ calls, ∀ x ∈ c.entries,
      x.descriptor ∈ Draft.produce [.statement "say", .statement "shout"] .fresh := by
    rw [Draft.produce_statements]
    simp [calls, Call.entries, say, shout]
  obtain ⟨-, -, hmem, -⟩ := syntaxes_run _ calls hbuilt .statements
  refine ⟨hbuilt, (hmem say).mpr ⟨[], _, _, rfl, rfl, ⟨.effects, say⟩, List.mem_cons_self, rfl, ?_⟩⟩
  exact ⟨.statements, List.mem_cons_of_mem _ (Key.self_mem_lineage _), rfl⟩

end Registry

end Phrasebook
