import Phrasebook.Proofs.Registry.Runs
/-!
# Phrasebook.Proofs.Registry.Names

Which names have a register.

A register comes into being with the first insertion that goes to its name, and nothing takes it
away again: undoing a write leaves it, and so does freezing. So a write adds the names of the places
it gets to (`Writing.asksFor_registerAll`), and a register is never there twice.
-/

namespace Phrasebook

/-! ### Adding names -/

/-- The names after a register was asked for. -/
def addName (names : List String) (name : String) : List String :=
  if name ∈ names then names else names ++ [name]

theorem addName_of_mem {names : List String} {name : String} (h : name ∈ names) :
    addName names name = names :=
  if_pos h

theorem mem_addName {names : List String} {name n : String} :
    n ∈ addName names name ↔ n ∈ names ∨ n = name := by
  rw [addName]
  split
  next h =>
    constructor
    · exact Or.inl
    · rintro (hn | rfl)
      · exact hn
      · exact h
  next => simp

theorem nodup_addName {names : List String} {name : String} (h : names.Nodup) :
    (addName names name).Nodup := by
  rw [addName]
  split
  · exact h
  next hname =>
    rw [List.nodup_append]
    refine ⟨h, List.nodup_singleton _, fun n hn m hm hnm => hname ?_⟩
    rwa [← List.mem_singleton.mp hm, ← hnm]

/-- The names after several registers were asked for, one after the other. -/
def addNames (names new : List String) : List String := new.foldl addName names

theorem mem_addNames {names new : List String} {n : String} :
    n ∈ addNames names new ↔ n ∈ names ∨ n ∈ new := by
  induction new generalizing names with
  | nil => simp [addNames]
  | cons name rest ih =>
    show n ∈ addNames (addName names name) rest ↔ _
    rw [ih, mem_addName, List.mem_cons, or_assoc]

theorem nodup_addNames {names new : List String} (h : names.Nodup) :
    (addNames names new).Nodup := by
  induction new generalizing names with
  | nil => exact h
  | cons name rest ih => exact ih (nodup_addName h)

/-- Registers were asked for under the names of `wanted` in turn, under all of them if `whole`. -/
def AsksFor (names wanted names' : List String) (whole : Prop) : Prop :=
  ∃ made rest, wanted = made ++ rest ∧ names' = addNames names made ∧ (whole → rest = [])

namespace AsksFor

variable {names names' names'' wanted more : List String} {name : String} {whole whole' : Prop}

theorem refl (names : List String) (whole : Prop) : AsksFor names [] names whole :=
  ⟨[], [], rfl, rfl, fun _ => rfl⟩

theorem cons (h : AsksFor (addName names name) wanted names' whole) :
    AsksFor names (name :: wanted) names' whole := by
  obtain ⟨made, rest, hsplit, hnames, hwhole⟩ := h
  exact ⟨name :: made, rest, by rw [hsplit, List.cons_append], hnames, hwhole⟩

theorem stop (h : AsksFor names wanted names' whole) (hfails : ¬ whole) :
    AsksFor names (wanted ++ more) names' whole := by
  obtain ⟨made, rest, hsplit, hnames, -⟩ := h
  exact ⟨made, rest ++ more, by rw [hsplit, List.append_assoc], hnames, fun h => absurd h hfails⟩

theorem append (h : AsksFor names wanted names' whole) (hdone : whole)
    (h' : AsksFor names' more names'' whole') : AsksFor names (wanted ++ more) names'' whole' := by
  obtain ⟨made, rest, rfl, hnames, hrest⟩ := h
  obtain ⟨made', rest', rfl, hnames', hwhole⟩ := h'
  obtain rfl := hrest hdone
  refine ⟨made ++ made', rest', ?_, ?_, hwhole⟩
  · rw [List.append_nil, List.append_assoc]
  · rw [hnames', hnames, addNames, addNames, addNames, List.foldl_append]

theorem imp (h : AsksFor names wanted names' whole) (himp : whole' → whole) :
    AsksFor names wanted names' whole' := by
  obtain ⟨made, rest, hsplit, hnames, hwhole⟩ := h
  exact ⟨made, rest, hsplit, hnames, fun hw => hwhole (himp hw)⟩

theorem nodup (h : AsksFor names wanted names' whole) (hnodup : names.Nodup) : names'.Nodup := by
  obtain ⟨made, -, -, rfl, -⟩ := h
  exact nodup_addNames hnodup

theorem eq_addNames (h : AsksFor names wanted names' whole) (hdone : whole) :
    names' = addNames names wanted := by
  obtain ⟨made, rest, rfl, hnames, hwhole⟩ := h
  rw [hnames, hwhole hdone, List.append_nil]

end AsksFor

/-! ### Slots -/

namespace Slots

theorem mem_names_of_find? {slots : Slots} {name : String} {slot : Slot}
    (h : slots.find? name = some slot) : name ∈ slots.names :=
  List.mem_map_of_mem (f := Prod.fst) (mem_of_find? h)

@[simp] theorem names_put (name : String) (slot : Slot) (slots : Slots) :
    (slots.put name slot).names = addName slots.names name := by
  induction slots with
  | nil => rfl
  | cons head rest ih =>
    obtain ⟨n, s⟩ := head
    rw [put]
    by_cases h : n = name
    · simp [h, names, addName]
    · rw [if_neg h]
      show n :: names (put name slot rest) = addName (n :: names rest) name
      rw [ih, addName, addName]
      simp only [List.mem_cons, Ne.symm h, false_or]
      split <;> rfl

end Slots

/-! ### Writes -/

namespace Writing

theorem names_resolve (slots : Slots) (name : String) :
    (resolve slots name).2.names = addName slots.names name := by
  rw [resolve]
  split
  next slot h => exact (addName_of_mem (Slots.mem_names_of_find? h)).symm
  next => exact Slots.names_put _ _ _

/-- The register that is asked for stays, also if the insertion fails. -/
theorem names_insert (w : Writing) (name : String) (d : Descriptor) :
    (w.insert name d).2.slots.names = addName w.slots.names name := by
  have hres := names_resolve w.slots name
  rw [insert]
  rcases hr : resolve w.slots name with ⟨r | r, slots⟩
  · rw [hr] at hres
    rcases ha : r.add d with ⟨e | ⟨⟩, r'⟩
    · simpa only [ha] using hres
    · simp only [ha, Slots.names_put]
      rw [addName_of_mem (hres ▸ mem_addName.mpr (Or.inr rfl))]
      exact hres
  · rw [hr] at hres
    exact hres

theorem asksFor_insertAll (w : Writing) (d : Descriptor) (links : List Key) :
    AsksFor w.slots.names (links.map Key.name) (w.insertAll d links).2.slots.names
      ((w.insertAll d links).1 = .ok ()) := by
  induction links generalizing w with
  | nil => exact AsksFor.refl _ _
  | cons link rest ih =>
    have hnames := w.names_insert link.name d
    rw [insertAll, List.map_cons]
    rcases hr : w.insert link.name d with ⟨e | ⟨⟩, w'⟩
    · rw [hr] at hnames
      exact ⟨[link.name], _, rfl, hnames, fun h => by cases h⟩
    · rw [hr] at hnames
      have hrest := ih w'
      rw [hnames] at hrest
      exact hrest.cons

theorem asksFor_register (w : Writing) (x : Staged) :
    AsksFor w.slots.names (x.places.map Prod.fst) (w.register x.key x.descriptor).2.slots.names
      ((w.register x.key x.descriptor).1 = .ok ()) := by
  have hasks := w.asksFor_insertAll x.descriptor x.key.lineage
  have hmap : x.places.map Prod.fst = x.key.lineage.map Key.name := by
    simp [Staged.places, Function.comp_def]
  rw [register, hmap]
  rcases check x.descriptor.payload x.key.lineage with e | ⟨⟩
  · -- nothing is inserted before all kinds are checked
    exact ⟨[], _, rfl, rfl, fun h => by cases h⟩
  · rcases hr : w.insertAll x.descriptor x.key.lineage with ⟨e | ⟨⟩, w'⟩
    · rwa [hr] at hasks
    · rw [hr] at hasks
      exact hasks

/-- A write asks for the registers of its places, one after the other. -/
theorem asksFor_registerAll (w : Writing) (entries : List Staged) :
    AsksFor w.slots.names ((entries.flatMap Staged.places).map Prod.fst)
      (w.registerAll entries).2.slots.names ((w.registerAll entries).1 = .ok ()) := by
  induction entries generalizing w with
  | nil => exact AsksFor.refl _ _
  | cons x rest ih =>
    have hasks := w.asksFor_register x
    rw [registerAll, List.flatMap_cons, List.map_append]
    rcases hr : w.register x.key x.descriptor with ⟨e | ⟨⟩, w'⟩
    · rw [hr] at hasks
      exact hasks.stop fun h => by cases h
    · rw [hr] at hasks
      exact hasks.append rfl (ih w')

/-! ### Taking back -/

theorem names_retract (slots : Slots) (i : Insertion) : (retract slots i).names = slots.names := by
  rw [retract]
  split
  next r h => rw [Slots.names_put, addName_of_mem (Slots.mem_names_of_find? h)]
  next => rfl

/-- Undoing a write takes no register away. -/
theorem names_undo (w : Writing) : w.undo.names = w.slots.names := by
  have hfold : ∀ (is : List Insertion) (slots : Slots),
      (is.foldl retract slots).names = slots.names := by
    intro is
    induction is with
    | nil => exact fun _ => rfl
    | cons i rest ih => exact fun slots => (ih _).trans (names_retract slots i)
  exact hfold w.done w.slots

end Writing

/-! ### Calls -/

namespace Registry

/-- **One call.** It asks for the registers of what it is to register; closing asks for none. -/
theorem asksFor_perform (r : Registry) (c : Call) :
    AsksFor r.slots.names ((c.entries.flatMap Staged.places).map Prod.fst)
      (r.perform c).registry.slots.names ((r.perform c).answer = .ok ()) := by
  have hasks := (Writing.start r.slots).asksFor_registerAll c.entries
  cases r.course c with
  | refused closed answer registry =>
    rw [registry, answer]
    exact ⟨[], _, rfl, rfl, fun h => by cases h⟩
  | closing opened call =>
    subst call
    exact ⟨[], [], rfl, r.names_close, fun _ => rfl⟩
  | written opened call write answer registry =>
    rw [write] at hasks
    rw [registry, answer]
    exact hasks
  | undone opened call write answer registry =>
    rw [write] at hasks
    rw [registry, answer, Writing.names_undo]
    exact hasks.imp fun h => by cases h

/-- No name has two registers. -/
theorem nodup_names_run {r : Registry} (h : r.slots.names.Nodup) (calls : List Call) :
    (r.run calls).slots.names.Nodup := by
  induction calls generalizing r with
  | nil => exact h
  | cons c rest ih => exact ih ((r.asksFor_perform c).nodup h)

/-- The names that are read are sorted, so only which there are counts. -/
theorem keys_eq_of_mem_iff {r r' : Registry} (h : r.slots.names.Nodup) (h' : r'.slots.names.Nodup)
    (hmem : ∀ n, n ∈ r.slots.names ↔ n ∈ r'.slots.names) : r.keys = r'.keys := by
  have hperm : r.keys.Perm r'.keys :=
    ((List.mergeSort_perm _ _).trans ((List.perm_ext_iff_of_nodup h h').mpr hmem)).trans
      (List.mergeSort_perm _ _).symm
  have hsorted (l : List String) : (l.mergeSort fun a b => a ≤ b).Pairwise (· ≤ ·) := by
    refine (List.pairwise_mergeSort ?_ ?_ l).imp fun hab => of_decide_eq_true hab
    · intro a b c hab hbc
      exact decide_eq_true (String.le_trans (of_decide_eq_true hab) (of_decide_eq_true hbc))
    · intro a b
      simpa using String.le_total a b
  exact hperm.eq_of_pairwise (fun a b _ _ hab hba => String.le_antisymm hab hba) (hsorted _)
    (hsorted _)

end Registry

end Phrasebook
