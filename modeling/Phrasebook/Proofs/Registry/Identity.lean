import Phrasebook.Proofs.Registry.Reach
/-!
# Phrasebook.Proofs.Registry.Identity

When two snapshots are the same one.

Whoever derives something from a snapshot keeps it until a later snapshot of the key is another one.
So there must not be another one without need, nor the same one after a change.

A register publishes anew with every insertion and every removal, and never else. Along a run the
publication under a name therefore grows with each call that makes an insertion there, also with one
that fails afterwards and takes it back, and stays with all other calls, whatever they do elsewhere
(`Registry.Sound.touched_cases`).
-/

namespace Phrasebook

namespace Snapshot

theorem same_iff {a b : Snapshot} :
    a.same b = true ↔ a.key = b.key ∧ a.publication = b.publication := by
  simp [same]

theorem same_comm (a b : Snapshot) : a.same b = b.same a := by
  rw [Bool.eq_iff_iff, same_iff, same_iff, eq_comm (a := a.key), eq_comm (a := a.publication)]

end Snapshot

namespace Registry

variable {D : Descriptor → Prop} {r : Registry}

/-- A call of the run makes an insertion under that name. Nothing is ever removed but what the same
call has inserted, so a removal is no case of its own. -/
def Touched (r : Registry) (calls : List Call) (name : String) : Prop :=
  ∃ pre c post, calls = pre ++ c :: post ∧ ∃ i, (r.run pre).Makes c i ∧ i.name = name

theorem not_touched_nil (r : Registry) (name : String) : ¬ r.Touched [] name := by
  rintro ⟨pre, c, post, hsplit, -⟩
  cases pre <;> cases hsplit

theorem touched_cons {c : Call} {calls : List Call} {name : String} :
    r.Touched (c :: calls) name ↔
      (∃ i, r.Makes c i ∧ i.name = name) ∨ (r.perform c).registry.Touched calls name :=
  exists_call_cons (P := fun r c => ∃ i, r.Makes c i ∧ i.name = name)

/-- **A run** publishes anew under a name if it touches it, and leaves what is read there
otherwise. -/
theorem Sound.touched_cases (h : r.Sound D) (hD : ToldApart D) (calls : List Call)
    (hcalls : ∀ c ∈ calls, ∀ x ∈ c.entries, D x.descriptor) (name : String) :
    (r.Touched calls name ∧
        (r.slots.snapshots name).publication <
          ((r.run calls).slots.snapshots name).publication) ∨
      (¬ r.Touched calls name ∧ (r.run calls).slots.snapshots name = r.slots.snapshots name) := by
  induction calls generalizing r with
  | nil => exact Or.inr ⟨r.not_touched_nil name, rfl⟩
  | cons c rest ih =>
    rw [List.forall_mem_cons] at hcalls
    have hchanged := h.changed_perform hD c hcalls.1
    have hrest := ih (h.perform hD c hcalls.1).sound hcalls.2
    rw [touched_cons, run_cons]
    by_cases hmakes : ∃ i, r.Makes c i ∧ i.name = name
    · -- later calls may touch the name again, but they do not go back
      left
      refine ⟨Or.inl hmakes, ?_⟩
      obtain ⟨i, hi, rfl⟩ := hmakes
      have hlt := hchanged.published i hi
      rcases hrest with ⟨-, hlater⟩ | ⟨-, hsame⟩
      · exact Nat.lt_trans hlt hlater
      · rwa [hsame]
    · have hkept := hchanged.kept name fun i hi hname => hmakes ⟨i, hi, hname⟩
      rw [or_iff_right hmakes, ← hkept]
      exact hrest

/-- `s` is read under the key, and lists something. -/
def Reads (r : Registry) (k : Key) (s : Snapshot) : Prop := r.syntaxes k = s ∧ s.entries ≠ []

/-- **Snapshots are the same exactly if the register was not touched in between.** Both are of one
name, and no call in between made an insertion there, not even one that was taken back. The same
snapshots agree in everything. Closing does not change which snapshot is read, and from then on it
is the same one for good. -/
theorem same_iff_untouched (drafts : List Draft) (before between : List Call) {k k' : Key}
    {first second : Snapshot}
    (hbuilt : ∀ c ∈ before ++ between, ∀ x ∈ c.entries,
      x.descriptor ∈ Draft.produce drafts .fresh)
    (hfirst : (empty.run before).Reads k first)
    (hsecond : (empty.run (before ++ between)).Reads k' second) :
    (first.same second = true ↔
        k.name = k'.name ∧ ¬ (empty.run before).Touched between k.name) ∧
      second.same first = first.same second ∧
      (first.same second = true → first = second) ∧
      first.same ((empty.run before).close.registry.syntaxes k) = true ∧
      (.close ∈ before → k.name = k'.name → first.same second = true) := by
  have hD := Draft.toldApart_produce drafts .fresh
  obtain ⟨rfl, -⟩ := hfirst
  obtain ⟨rfl, -⟩ := hsecond
  have hsound := ((sound_empty _).run hD before fun c hc => hbuilt c (by simp [hc])).1
  have hcases := hsound.touched_cases hD between (fun c hc => hbuilt c (by simp [hc])) k.name
  have hkey := (gated_empty.run before).1.key
  have hkey' := (gated_empty.run (before ++ between)).1.key
  have hiff : ((empty.run before).syntaxes k).same ((empty.run (before ++ between)).syntaxes k') =
      true ↔ k.name = k'.name ∧ ¬ (empty.run before).Touched between k.name := by
    rw [Snapshot.same_iff, syntaxes_eq, syntaxes_eq, hkey, hkey']
    refine and_congr_right fun hname => ?_
    rw [← hname, run_append]
    rcases hcases with ⟨htouched, hlt⟩ | ⟨huntouched, hsame⟩
    · exact iff_of_false (Nat.ne_of_lt hlt) (not_not_intro htouched)
    · exact iff_of_true (by rw [hsame]) huntouched
  refine ⟨hiff, Snapshot.same_comm _ _, fun hsame => ?_, ?_, fun hclose hname => ?_⟩
  · obtain ⟨hname, huntouched⟩ := hiff.mp hsame
    rcases hcases with ⟨htouched, -⟩ | ⟨-, heq⟩
    · exact absurd htouched huntouched
    · rw [syntaxes_eq, syntaxes_eq, ← hname, run_append, heq]
  · rw [(contents_close _).1, Snapshot.same_iff]
    exact ⟨rfl, rfl⟩
  · have hclosed : (empty.run before).closed = true :=
      (gated_empty.run before).2.mpr (Or.inr hclose)
    rw [Snapshot.same_iff, syntaxes_eq, syntaxes_eq, run_append, run_of_closed hclosed, hname]
    exact ⟨rfl, rfl⟩

/-- A batch brings a new statement and then repeats an old one, so the new one is taken out again.
What is listed is as before, but in another snapshot. -/
theorem same_iff_untouched_undone :
    let say := Descriptor.statement 1 0 "say"
    let shout := Descriptor.statement 2 1 "shout"
    let drafts : List Draft := [.statement "say", .statement "shout"]
    let before : List Call := [.register .statements say]
    let batch : Call := .commit ⟨[⟨.statements, shout⟩, ⟨.statements, say⟩]⟩
    let between : List Call := [batch]
    let first := (empty.run before).syntaxes .statements
    let second := (empty.run (before ++ between)).syntaxes .statements
    (∀ c ∈ before ++ between, ∀ x ∈ c.entries, x.descriptor ∈ Draft.produce drafts .fresh) ∧
      (empty.run before).Reads .statements first ∧
      (empty.run (before ++ between)).Reads .statements second ∧
      first.entries = second.entries ∧ first.same second = false := by
  intro say shout drafts before batch between first second
  have hbuilt : ∀ c ∈ before ++ between, ∀ x ∈ c.entries,
      x.descriptor ∈ Draft.produce drafts .fresh := by
    rw [Draft.produce_statements]
    simp [before, between, batch, Call.entries, say, shout]
  have hfirst : (empty.run before).Reads .statements first := ⟨rfl, List.cons_ne_nil say []⟩
  have hsecond : (empty.run (before ++ between)).Reads .statements second :=
    ⟨rfl, List.cons_ne_nil say []⟩
  obtain ⟨hiff, -⟩ := same_iff_untouched drafts before between hbuilt hfirst hsecond
  have hmakes : (empty.run before).Makes batch ⟨"statement", 2⟩ := by
    refine ⟨rfl, [], [⟨"statement", 1⟩], by decide, List.nodup_singleton _, fun i hi => ?_⟩
    obtain rfl := List.mem_singleton.mp hi
    rintro ⟨d, hd, hid⟩
    obtain rfl : d = say := List.mem_singleton.mp hd
    exact absurd hid (by decide)
  have hother : ¬ first.same second = true := by
    intro hsame
    exact (hiff.mp hsame).2 (touched_cons.mpr (Or.inl ⟨_, hmakes, rfl⟩))
  exact ⟨hbuilt, hfirst, hsecond, rfl, Bool.eq_false_iff.mpr hother⟩

end Registry

end Phrasebook
