import Phrasebook.Proofs.Registry.Schedules
/-!
# Phrasebook.Proofs.Registry.Reports

What the log says of registrations.

A registration is reported once its descriptor stands under the key and under all ancestors, and a
registration that fails is not (`Writing.log_register`). A batch is written entry by entry, and each
entry is reported as soon as it is written (`Writing.log_registerAll`). That is too early: if a
later entry fails, what was written is taken back, but what was reported stays in the log. So a
batch that is refused reports the entries before the one that failed, none of which is in effect
afterwards (`Registry.reports_of_call`).
-/

namespace Phrasebook

/-- Whether the event says that a descriptor was registered. -/
def Log.Event.isRegistration (e : Log.Event) : Bool :=
  e.level = .debug && e.message = "registered syntax"

/-- The events of an operation that say that a descriptor was registered. -/
def Reply.reports {α : Type} (reply : Reply α) : List Log.Event :=
  reply.log.filter Log.Event.isRegistration

/-- The event that says that this registration was made. -/
def Staged.report (x : Staged) : Log.Event := Writing.registered x.key x.descriptor

theorem filter_isRegistration_map_report (xs : List Staged) :
    (xs.map Staged.report).filter Log.Event.isRegistration = xs.map Staged.report := by
  refine List.filter_eq_self.mpr fun e he => ?_
  obtain ⟨x, -, rfl⟩ := List.mem_map.mp he
  rfl

/-! ### Writes -/

namespace Writing

theorem log_insert (w : Writing) (name : String) (d : Descriptor) :
    (w.insert name d).2.log = w.log := by
  rw [insert]
  rcases resolve w.slots name with ⟨r | f, slots⟩
  · dsimp only
    rcases r.add d with ⟨e | ⟨⟩, r'⟩
    · rfl
    · rfl
  · rfl

theorem log_insertAll (w : Writing) (d : Descriptor) (links : List Key) :
    (w.insertAll d links).2.log = w.log := by
  induction links generalizing w with
  | nil => rfl
  | cons link rest ih =>
    have hone := w.log_insert link.name d
    rw [insertAll]
    rcases hr : w.insert link.name d with ⟨e | ⟨⟩, w'⟩
    · rw [hr] at hone
      exact hone
    · rw [hr] at hone
      exact (ih w').trans hone

/-- **One registration** is reported exactly if it is made. -/
theorem log_register (w : Writing) (x : Staged) :
    (∃ w', w.register x.key x.descriptor = (.ok (), w') ∧ w'.log = w.log ++ [x.report]) ∨
      ∃ e w', w.register x.key x.descriptor = (.error e, w') ∧ w'.log = w.log := by
  rw [register]
  rcases check x.descriptor.payload x.key.lineage with e | ⟨⟩
  · exact Or.inr ⟨e, w, rfl, rfl⟩
  · have hall := w.log_insertAll x.descriptor x.key.lineage
    rcases hr : w.insertAll x.descriptor x.key.lineage with ⟨e | ⟨⟩, w'⟩
    · rw [hr] at hall
      exact Or.inr ⟨e, w', rfl, hall⟩
    · rw [hr] at hall
      exact Or.inl ⟨_, rfl, by rw [← hall]; rfl⟩

theorem registerAll_cons_of_ok {w w' : Writing} {x : Staged} {xs : List Staged}
    (h : w.register x.key x.descriptor = (.ok (), w')) :
    w.registerAll (x :: xs) = w'.registerAll xs := by
  rw [registerAll, h]

theorem registerAll_cons_of_error {w w' : Writing} {x : Staged} {e : RegistryError}
    (h : w.register x.key x.descriptor = (.error e, w')) (xs : List Staged) :
    w.registerAll (x :: xs) = (.error e, w') := by
  rw [registerAll, h]

/-- **A whole write** reports what it has written, entry by entry: all of its entries, or those
before the one that it stopped at. -/
theorem log_registerAll (w : Writing) (entries : List Staged) :
    (∃ w', w.registerAll entries = (.ok (), w') ∧ w'.log = w.log ++ entries.map Staged.report) ∨
      ∃ pre x post e w', entries = pre ++ x :: post ∧ w.registerAll entries = (.error e, w') ∧
        (w.registerAll pre).1 = .ok () ∧ (w.registerAll (pre ++ [x])).1 = .error e ∧
        w'.log = w.log ++ pre.map Staged.report := by
  induction entries generalizing w with
  | nil => exact Or.inl ⟨w, rfl, (List.append_nil _).symm⟩
  | cons x rest ih =>
    rcases w.log_register x with ⟨w₁, hx, hlog⟩ | ⟨e, w₁, hx, hlog⟩
    · rcases ih w₁ with ⟨w', hrest, hlog'⟩ | ⟨pre, y, post, e, w', hsplit, hrest, hpre, hy, hlog'⟩
      · refine Or.inl ⟨w', by rw [registerAll_cons_of_ok hx, hrest], ?_⟩
        rw [hlog', hlog, List.append_assoc, List.map_cons, List.singleton_append]
      · refine Or.inr ⟨x :: pre, y, post, e, w', by rw [hsplit, List.cons_append], ?_, ?_, ?_, ?_⟩
        · rw [registerAll_cons_of_ok hx, hrest]
        · rw [registerAll_cons_of_ok hx, hpre]
        · rw [List.cons_append, registerAll_cons_of_ok hx, hy]
        · rw [hlog', hlog, List.append_assoc, List.map_cons, List.singleton_append]
    · have hstop := registerAll_cons_of_error hx
      refine Or.inr ⟨[], x, rest, e, w₁, rfl, hstop rest, rfl, by rw [List.nil_append, hstop], ?_⟩
      rw [hlog, List.map_nil, List.append_nil]

end Writing

namespace Registry

variable {D : Descriptor → Prop} {r : Registry}

/-! ### Calls -/

/-- What a call reports before closing is what its write reports. -/
theorem reports_perform (hclosed : r.closed = false) (c : Call) :
    (r.perform c).reports =
      ((Writing.start r.slots).registerAll c.entries).2.log.filter Log.Event.isRegistration := by
  cases c with
  | register key d =>
    rw [perform, Registry.register, if_neg (by simp [hclosed]), Call.entries, Writing.registerAll]
    rcases (Writing.start r.slots).register key d with ⟨e | ⟨⟩, w⟩
    · rfl
    · rfl
  | commit b =>
    rw [perform, Registry.commit, if_neg (by simp [hclosed]), Call.entries]
    rcases (Writing.start r.slots).registerAll b.entries with ⟨e | ⟨⟩, w⟩
    · rfl
    · rfl
  | close =>
    rw [perform, Registry.close, if_neg (by simp [hclosed])]
    rcases r.slots.freeze with ⟨e | total, slots⟩
    · rfl
    · rfl

/-- After closing nothing is registered, and nothing is said to be. -/
theorem reports_perform_of_closed (hclosed : r.closed = true) (c : Call) :
    (r.perform c).reports = [] := by
  cases c with
  | register key d =>
    rw [perform, Registry.register, if_pos hclosed]
    rfl
  | commit b =>
    rw [perform, Registry.commit, if_pos hclosed]
    rfl
  | close =>
    rw [perform, Registry.close, if_pos hclosed]
    rfl

/-- The registrations can be made one after the other: their keys take them, and they are clear. -/
def Lands (r : Registry) (xs : List Staged) : Prop :=
  (∀ x ∈ xs, x.Accepted) ∧ r.Clear (Batch.insertions ⟨xs⟩)

/-- A registration is in effect: its descriptor is listed under the key and all ancestors. -/
def InEffect (r : Registry) (x : Staged) : Prop :=
  ∀ link ∈ x.key.lineage, x.descriptor ∈ (r.syntaxes link).entries

/-- Before closing, a call answers what its write does. -/
theorem Sound.answer_perform (h : r.Sound D) (hclosed : r.closed = false) (c : Call) :
    (r.perform c).answer = ((Writing.start r.slots).registerAll c.entries).1 := by
  cases r.course c with
  | refused closed answer registry => exact absurd (hclosed.symm.trans closed) Bool.false_ne_true
  | closing opened call =>
    subst call
    obtain ⟨total, hclose⟩ := close_of_open (h.isOpen hclosed) hclosed
    exact congrArg Reply.answer hclose
  | written opened call write answer registry => rw [answer, write]
  | undone opened call write answer registry => rw [answer, write]

theorem Sound.registerAll_ok_iff (h : r.Sound D) (hclosed : r.closed = false) (hD : ToldApart D)
    {xs : List Staged} (hxs : ∀ x ∈ xs, D x.descriptor) :
    ((Writing.start r.slots).registerAll xs).1 = .ok () ↔ r.Lands xs := by
  rw [Lands, ← h.commit_ok_iff hclosed hD hxs, h.answer_perform hclosed]
  rfl

/-- What can be made one after the other is not there yet. -/
theorem Lands.not_inEffect {xs : List Staged} (h : r.Lands xs) {x : Staged} (hx : x ∈ xs) :
    ¬ r.InEffect x := by
  intro heffect
  have hlisted := heffect x.key (Key.self_mem_lineage _)
  rw [entries_syntaxes] at hlisted
  refine h.2.2 ⟨x.key.name, x.descriptor.id⟩ ?_ ⟨x.descriptor, hlisted, rfl⟩
  exact List.mem_flatMap.mpr ⟨x, hx, List.mem_map_of_mem (Key.self_mem_lineage _)⟩

/-- What is in effect shows in what is listed. -/
theorem inEffect_congr {r' : Registry} (h : r'.slots.listed = r.slots.listed) (x : Staged) :
    r'.InEffect x ↔ r.InEffect x := by
  simp only [InEffect, entries_syntaxes, h]

theorem Gains.inEffect {r' : Registry} {xs : List Staged}
    (h : r.Gains (xs.flatMap Staged.places) r') {x : Staged} (hx : x ∈ xs) : r'.InEffect x := by
  intro link hlink
  rw [entries_syntaxes, h]
  exact Or.inr (List.mem_flatMap.mpr ⟨x, hx, Staged.mem_places.mpr ⟨rfl, link, hlink, rfl⟩⟩)

/-- Before closing, a call succeeds and reports all its registrations, or it fails and reports those
before the first with which they could not be made. -/
theorem Sound.reports_cases (h : r.Sound D) (hclosed : r.closed = false) (hD : ToldApart D)
    {c : Call} (hc : ∀ x ∈ c.entries, D x.descriptor) :
    ((r.perform c).answer = .ok () ∧ (r.perform c).reports = c.entries.map Staged.report) ∨
      ∃ e pre x post, (r.perform c).answer = .error e ∧ c.entries = pre ++ x :: post ∧
        r.Lands pre ∧ ¬ r.Lands (pre ++ [x]) ∧ (r.perform c).reports = pre.map Staged.report := by
  rw [h.answer_perform hclosed, reports_perform hclosed]
  rcases (Writing.start r.slots).log_registerAll c.entries with
    ⟨w, hw, hlog⟩ | ⟨pre, x, post, e, w, hsplit, hw, hpre, hx, hlog⟩
  · rw [hw, hlog]
    exact Or.inl ⟨rfl, filter_isRegistration_map_report c.entries⟩
  · have hknown : ∀ y ∈ pre ++ [x], D y.descriptor :=
      fun y hy => hc y (by rw [hsplit, List.append_cons]; exact List.mem_append_left post hy)
    have hlands := (h.registerAll_ok_iff hclosed hD fun y hy =>
      hknown y (List.mem_append_left _ hy)).mp hpre
    have hnot : ¬ r.Lands (pre ++ [x]) := by
      rw [← h.registerAll_ok_iff hclosed hD hknown, hx]
      exact fun h => by cases h
    rw [hw, hlog]
    exact Or.inr ⟨e, pre, x, post, rfl, hsplit, hlands, hnot,
      filter_isRegistration_map_report pre⟩

/-- **What a call reports.** A call that succeeds reports its registrations, each of them once and
in their order, and they are in effect. After closing nothing is reported. A call that is refused
before closing reports those of its registrations that come before the first with which they could
not be made. None of these is in effect, so the log tells the truth only if there are none, as
there are none for a single registration. -/
theorem reports_of_call (drafts : List Draft) (calls : List Call) (c : Call)
    (hbuilt : ∀ c' ∈ calls ++ [c], ∀ x ∈ c'.entries, x.descriptor ∈ Draft.produce drafts .fresh) :
    (((empty.run calls).perform c).answer = .ok () →
        ((empty.run calls).perform c).reports = c.entries.map Staged.report ∧
          ∀ x ∈ c.entries, ((empty.run calls).perform c).registry.InEffect x) ∧
      ((empty.run calls).closed = true → ((empty.run calls).perform c).reports = []) ∧
      (∀ e, ((empty.run calls).perform c).answer = .error e → (empty.run calls).closed = false →
        ∃ pre x post, c.entries = pre ++ x :: post ∧
          (empty.run calls).Lands pre ∧ ¬ (empty.run calls).Lands (pre ++ [x]) ∧
          ((empty.run calls).perform c).reports = pre.map Staged.report ∧
          ∀ y ∈ pre, ¬ ((empty.run calls).perform c).registry.InEffect y) ∧
      ∀ key d e, c = .register key d → ((empty.run calls).perform c).answer = .error e →
        ((empty.run calls).perform c).reports = [] := by
  have hD := Draft.toldApart_produce drafts .fresh
  have hsound := ((sound_empty _).run hD calls fun c' hc' => hbuilt c' (by simp [hc'])).1
  have hc := hbuilt c (by simp)
  have hsettled := hsound.perform hD c hc
  cases hclosed : (empty.run calls).closed with
  | true =>
    have hnone := reports_perform_of_closed hclosed c
    obtain ⟨hrefused, -⟩ := perform_of_closed hclosed c
    refine ⟨fun hok => ?_, fun _ => hnone, fun _ _ hopen => (by cases hopen),
      fun _ _ _ _ _ => hnone⟩
    rw [hrefused] at hok
    cases hok
  | false =>
    rcases hsound.reports_cases hclosed hD hc with
      ⟨hok, hreports⟩ | ⟨e, pre, x, post, he, hsplit, hlands, hnot, hreports⟩
    · rw [hok]
      exact ⟨fun _ => ⟨hreports, fun x hx => (hsettled.gains () hok).inEffect hx⟩,
        fun hshut => (by cases hshut), fun _ herr => (by cases herr),
        fun _ _ _ _ herr => (by cases herr)⟩
    · rw [he]
      refine ⟨fun hok => (by cases hok), fun hshut => (by cases hshut), fun _ _ _ =>
        ⟨pre, x, post, hsplit, hlands, hnot, hreports, fun y hy => ?_⟩, ?_⟩
      · rw [inEffect_congr (hsettled.unchanged e he)]
        exact hlands.not_inEffect hy
      · rintro key d _ rfl -
        -- a registration has one entry, so none comes before the one that failed
        obtain ⟨rfl, -⟩ | ⟨z, -, hz⟩ := List.cons_eq_append_iff.mp hsplit
        · exact hreports
        · cases z <;> cases hz

/-- A batch brings a new effect, and one that is registered already. It is refused for the second,
and the first is reported though it is not in effect. -/
theorem reports_of_call_repeated_effect :
    let say := Descriptor.statement 1 0 "say"
    let shout := Descriptor.statement 2 1 "shout"
    let drafts : List Draft := [.statement "say", .statement "shout"]
    let calls : List Call := [.register .effects say]
    let c : Call := .commit (.ofPushes [⟨.effects, shout⟩, ⟨.effects, say⟩])
    (∀ c' ∈ calls ++ [c], ∀ x ∈ c'.entries, x.descriptor ∈ Draft.produce drafts .fresh) ∧
      ((empty.run calls).perform c).answer = .error (.duplicateSyntax "effect" 1) ∧
      ∃ pre : List Staged, pre.length = 1 ∧
        ((empty.run calls).perform c).reports = pre.map Staged.report ∧
        ∀ y ∈ pre, ¬ ((empty.run calls).perform c).registry.InEffect y := by
  intro say shout drafts calls c
  have hbuilt : ∀ c' ∈ calls ++ [c], ∀ x ∈ c'.entries,
      x.descriptor ∈ Draft.produce drafts .fresh := by
    rw [Draft.produce_statements]
    rintro c' hc' x hx
    rcases List.mem_append.mp hc' with hc' | hc' <;> obtain rfl := List.mem_singleton.mp hc'
    · obtain rfl := List.mem_singleton.mp hx
      exact List.mem_cons_self
    · rcases List.mem_cons.mp (Batch.mem_ofPushes hx).1 with rfl | hx
      · exact List.mem_cons_of_mem _ List.mem_cons_self
      · obtain rfl := List.mem_singleton.mp hx
        exact List.mem_cons_self
  have herror : ((empty.run calls).perform c).answer = .error (.duplicateSyntax "effect" 1) := rfl
  obtain ⟨-, -, hrefused, -⟩ := reports_of_call drafts calls c hbuilt
  obtain ⟨pre, -, -, -, -, -, hreports, hnone⟩ := hrefused _ herror rfl
  have hlength : ((empty.run calls).perform c).reports.length = 1 := rfl
  rw [hreports, List.length_map] at hlength
  exact ⟨hbuilt, herror, pre, hlength, hreports, hnone⟩

/-- A call that fails does not in general report nothing. -/
theorem refused_batch_reports_registration :
    let say := Descriptor.statement 1 0 "say"
    let shout := Descriptor.statement 2 1 "shout"
    let r := empty.run [.register .effects say]
    let b := Batch.ofPushes [⟨.effects, shout⟩, ⟨.effects, say⟩]
    (r.commit b).answer = .error (.duplicateSyntax "effect" 1) ∧
      (r.commit b).log = [Writing.registered .effects shout] ∧
      ((r.commit b).registry.syntaxes .effects).entries = [say] :=
  ⟨rfl, rfl, rfl⟩

end Registry

end Phrasebook
