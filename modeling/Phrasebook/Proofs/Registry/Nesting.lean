import Phrasebook.Proofs.Precedence
import Phrasebook.Proofs.Registry.Runs
/-!
# Phrasebook.Proofs.Registry.Nesting

The list of a key is part of its parent's.

A registry goes by the names of keys alone, so this can only be said where names tell keys apart.
Of the keys that a run uses, ancestors included, it is enough that those of one name have the same
kind and parents of the same name (`Key.Agree`): such keys are equal (`Key.Agree.eq`).

A registration that succeeds is made under the key and all its ancestors, and one that fails leaves
no trace in any list, however far it came. So after every call whatever is listed under a key is
listed under its parent too, and is taken by both (`Registry.Nested.perform`).
-/

namespace Phrasebook

/-! ### Lineages -/

namespace Key

theorem lineage_subset {k m : Key} (h : k ∈ m.lineage) : k.lineage ⊆ m.lineage := by
  induction m with
  | root name kind =>
    rw [lineage_root, List.mem_singleton] at h
    rw [h]
    exact List.Subset.refl _
  | child parent name kind ih =>
    rw [lineage_child, List.mem_cons] at h
    rcases h with rfl | h
    · exact List.Subset.refl _
    · exact List.subset_cons_of_subset _ (ih h)

theorem parent_mem_lineage {k p : Key} (h : k.parent? = some p) : p ∈ k.lineage := by
  rw [lineage_eq_cons, h]
  exact List.mem_cons_of_mem _ p.self_mem_lineage

/-- Keys of one name have the same kind. They have parents of one name, or none has a parent. -/
def Agree (U : Key → Prop) : Prop :=
  ∀ ⦃a b : Key⦄, U a → U b → a.name = b.name →
    a.kind = b.kind ∧ a.parent?.map name = b.parent?.map name

/-- Where keys agree by name all the way up, a name is that of one key only. -/
theorem Agree.eq {U : Key → Prop} (h : Agree U) (hup : ∀ k p, U k → k.parent? = some p → U p)
    {a b : Key} (ha : U a) (hb : U b) (hname : a.name = b.name) : a = b := by
  induction a generalizing b with
  | root name kind =>
    obtain ⟨hkind, hparent⟩ := h ha hb hname
    cases b with
    | root name' kind' =>
      obtain rfl : name = name' := hname
      obtain rfl : kind = kind' := hkind
      rfl
    | child parent' name' kind' => cases hparent
  | child parent name kind ih =>
    obtain ⟨hkind, hparent⟩ := h ha hb hname
    cases b with
    | root name' kind' => cases hparent
    | child parent' name' kind' =>
      obtain rfl : name = name' := hname
      obtain rfl : kind = kind' := hkind
      obtain rfl : parent = parent' :=
        ih (hup _ _ ha rfl) (hup _ _ hb rfl) (Option.some.inj hparent)
      rfl

end Key

namespace Registry

variable {D : Descriptor → Prop} {U : Key → Prop} {r : Registry}

/-! ### The invariant -/

/-- What is listed under a key is listed under its parent and taken by the key and all its
ancestors. -/
structure Nested (U : Key → Prop) (r : Registry) : Prop where
  upward : ∀ k p, U k → k.parent? = some p → r.slots.listed k.name ⊆ r.slots.listed p.name
  accepted : ∀ k, U k → ∀ d ∈ r.slots.listed k.name, ∀ link ∈ k.lineage,
    link.accepts d.payload = true

theorem nested_empty (U : Key → Prop) : empty.Nested U where
  upward _ _ _ _ := List.nil_subset _
  accepted _ _ _ h := absurd h List.not_mem_nil

/-- **One call.** The inclusion is there again, whether the call succeeds or fails. -/
theorem Nested.perform (h : r.Nested U) (hr : r.Sound D) (hD : ToldApart D)
    (hinj : ∀ a b, U a → U b → a.name = b.name → a = b) (c : Call)
    (hc : ∀ x ∈ c.entries, D x.descriptor) (hU : ∀ x ∈ c.entries, ∀ link ∈ x.key.lineage, U link) :
    (r.perform c).registry.Nested U := by
  have hsettled := hr.perform hD c hc
  rcases hans : (r.perform c).answer with e | ⟨⟩
  · have hsame := hsettled.unchanged e hans
    refine ⟨fun k p hk hp => ?_, fun k hk => ?_⟩
    · rw [hsame]
      exact h.upward k p hk hp
    · rw [hsame]
      exact h.accepted k hk
  · have hgains := hsettled.gains () hans
    have hacc := accepted_of_perform hans
    -- what is new under a name was registered under a descendant of the key of that name
    have hnew : ∀ k d, U k → (k.name, d) ∈ c.entries.flatMap Staged.places →
        ∃ x ∈ c.entries, x.descriptor = d ∧ k ∈ x.key.lineage := by
      intro k d hk hd
      obtain ⟨x, hx, hplace⟩ := List.mem_flatMap.mp hd
      obtain ⟨hdesc, link, hlink, hname⟩ := Staged.mem_places.mp hplace
      obtain rfl := hinj link k (hU x hx link hlink) hk hname
      exact ⟨x, hx, hdesc, hlink⟩
    refine ⟨fun k p hk hp d hd => ?_, fun k hk d hd => ?_⟩
    · rw [hgains] at hd ⊢
      rcases hd with hd | hd
      · exact Or.inl (h.upward k p hk hp hd)
      · obtain ⟨x, hx, hdesc, hlink⟩ := hnew k d hk hd
        have hpx : p ∈ x.key.lineage := Key.lineage_subset hlink (Key.parent_mem_lineage hp)
        exact Or.inr (List.mem_flatMap.mpr ⟨x, hx, Staged.mem_places.mpr ⟨hdesc, p, hpx, rfl⟩⟩)
    · rcases (hgains _ _).mp hd with hd | hd
      · exact h.accepted k hk d hd
      · obtain ⟨x, hx, rfl, hlink⟩ := hnew k d hk hd
        exact fun link hl => hacc x hx link (Key.lineage_subset hlink hl)

/-- **A run.** -/
theorem Nested.run (h : r.Nested U) (hr : r.Sound D) (hD : ToldApart D)
    (hinj : ∀ a b, U a → U b → a.name = b.name → a = b) (calls : List Call)
    (hcalls : ∀ c ∈ calls, ∀ x ∈ c.entries, D x.descriptor)
    (hU : ∀ c ∈ calls, ∀ x ∈ c.entries, ∀ link ∈ x.key.lineage, U link) :
    (r.run calls).Nested U := by
  induction calls generalizing r with
  | nil => exact h
  | cons c rest ih =>
    rw [List.forall_mem_cons] at hcalls hU
    have hperform := h.perform hr hD hinj c hcalls.1 hU.1
    exact ih hperform (hr.perform hD c hcalls.1).sound hcalls.2 hU.2

/-! ### Runs with keys that agree -/

/-- The key, or a descendant of it, is used by one of the calls. -/
def Used (calls : List Call) (k : Key) : Prop :=
  ∃ c ∈ calls, ∃ x ∈ c.entries, k ∈ x.key.lineage

/-- **Child keys stay inside their parents.** In a run whose keys agree by name, at any time, the
list of a key is a sublist of its parent's, and whatever is listed under the key has a payload that
the key and all its ancestors take. -/
theorem syntaxes_sublist_parent (drafts : List Draft) (calls : List Call)
    (hbuilt : ∀ c ∈ calls, ∀ x ∈ c.entries, x.descriptor ∈ Draft.produce drafts .fresh)
    (hagree : Key.Agree (Used calls)) (pre post : List Call) (hsplit : calls = pre ++ post)
    (k : Key) (hk : Used calls k) :
    (∀ p, k.parent? = some p →
      ((empty.run pre).syntaxes k).entries.Sublist ((empty.run pre).syntaxes p).entries) ∧
    ∀ d ∈ ((empty.run pre).syntaxes k).entries, ∀ link ∈ k.lineage,
      link.accepts d.payload = true := by
  have hD := Draft.toldApart_produce drafts .fresh
  have hup : ∀ k p, Used calls k → k.parent? = some p → Used calls p := by
    rintro k p ⟨c, hc, x, hx, hlink⟩ hp
    exact ⟨c, hc, x, hx, Key.lineage_subset hlink (Key.parent_mem_lineage hp)⟩
  have hmem : ∀ c ∈ pre, c ∈ calls := by
    intro c hc
    rw [hsplit]
    exact List.mem_append_left _ hc
  have hpre : ∀ c ∈ pre, ∀ x ∈ c.entries, x.descriptor ∈ Draft.produce drafts .fresh :=
    fun c hc => hbuilt c (hmem c hc)
  have hsound := ((sound_empty _).run hD pre hpre).1
  have hnested : (empty.run pre).Nested (Used calls) :=
    (nested_empty _).run (sound_empty _) hD (fun a b => hagree.eq hup) pre hpre
      fun c hc x hx link hlink => ⟨c, hmem c hc, x, hx, hlink⟩
  simp only [entries_syntaxes]
  refine ⟨fun p hp => ?_, hnested.accepted k hk⟩
  exact Descriptor.sublist_of_subset (hsound.sorted _) (hsound.sorted _) (hnested.upward k p hk hp)

/-- An effect and a statement are registered. That the statement is an effect too is refused, after
it was inserted among the effects already. -/
theorem syntaxes_sublist_parent_refused_effect :
    let say := Descriptor.statement 1 0 "say"
    let shout := Descriptor.statement 2 1 "shout"
    let calls : List Call :=
      [.register .effects say, .register .statements shout, .register .effects shout]
    (∀ c ∈ calls, ∀ x ∈ c.entries,
        x.descriptor ∈ Draft.produce [.statement "say", .statement "shout"] .fresh) ∧
      Key.Agree (Used calls) ∧ Used calls .effects ∧
      ((empty.run calls).syntaxes .effects).entries.Sublist
        ((empty.run calls).syntaxes .statements).entries := by
  intro say shout calls
  have hbuilt : ∀ c ∈ calls, ∀ x ∈ c.entries,
      x.descriptor ∈ Draft.produce [.statement "say", .statement "shout"] .fresh := by
    rw [Draft.produce_statements]
    simp [calls, Call.entries, say, shout]
  have hused : ∀ k, Used calls k → k = .effects ∨ k = .statements := by
    rintro k ⟨c, hc, x, hx, hk⟩
    simp only [calls, List.mem_cons, List.not_mem_nil, or_false] at hc
    rcases hc with rfl | rfl | rfl
    · simpa [List.mem_singleton.mp hx, Key.effects, Key.statements] using hk
    · exact Or.inr (by simpa [List.mem_singleton.mp hx, Key.statements] using hk)
    · simpa [List.mem_singleton.mp hx, Key.effects, Key.statements] using hk
  have hagree : Key.Agree (Used calls) := by
    intro a b ha hb hname
    rcases hused a ha with rfl | rfl
    · rcases hused b hb with rfl | rfl
      · exact ⟨rfl, rfl⟩
      · exact absurd hname (by decide)
    · rcases hused b hb with rfl | rfl
      · exact absurd hname (by decide)
      · exact ⟨rfl, rfl⟩
  have heffects : Used calls .effects :=
    ⟨_, List.mem_cons_self, _, List.mem_singleton_self _, Key.self_mem_lineage _⟩
  obtain ⟨hsub, -⟩ := syntaxes_sublist_parent _ calls hbuilt hagree calls []
    (List.append_nil calls).symm .effects heffects
  exact ⟨hbuilt, hagree, heffects, hsub .statements rfl⟩

end Registry

end Phrasebook
