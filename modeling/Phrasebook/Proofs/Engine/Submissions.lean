import Mathlib.Data.List.Nodup
import Phrasebook.Proofs.Engine.Addons
/-!
# Phrasebook.Proofs.Engine.Submissions

Submitted addons load in one order, whatever order they come in.

Load order is by priority and then by name. Submissions that differ in one of the two are therefore
sorted in one way only (`Submission.ordered_eq_of_perm`). Loading goes through them up to the first
that fails (`Session.loadEach_of_loads`, `Session.loadEach_of_error`), and since the modules of
submitted addons are secluded, every load adds its own addon or nothing.
-/

namespace Phrasebook

variable {σ : Type}

namespace Submission

variable {a b c : Submission σ}

/-! ### Load order -/

/-- `a` comes before `b` in load order. -/
def LoadsBefore (a b : Submission σ) : Prop :=
  a.priority < b.priority ∨ a.priority = b.priority ∧ a.name < b.name

/-- What load order goes by. -/
def rank (x : Submission σ) : Int16 × String := (x.priority, x.name)

theorem loadsBy_iff :
    a.loadsBy b = true ↔ a.priority < b.priority ∨ a.priority = b.priority ∧ a.name ≤ b.name := by
  simp [loadsBy]

theorem loadsBy_trans (hab : a.loadsBy b = true) (hbc : b.loadsBy c = true) :
    a.loadsBy c = true := by
  rw [loadsBy_iff] at *
  rcases hab with hab | ⟨hab, hname⟩
  · rcases hbc with hbc | ⟨hbc, -⟩
    · exact Or.inl (Int16.lt_trans hab hbc)
    · exact Or.inl (hbc ▸ hab)
  · rcases hbc with hbc | ⟨hbc, hname'⟩
    · exact Or.inl (hab ▸ hbc)
    · exact Or.inr ⟨hab.trans hbc, String.le_trans hname hname'⟩

theorem loadsBy_total (a b : Submission σ) : (a.loadsBy b || b.loadsBy a) = true := by
  rw [Bool.or_eq_true, loadsBy_iff, loadsBy_iff]
  by_cases hab : a.priority < b.priority
  · exact Or.inl (Or.inl hab)
  · by_cases hba : b.priority < a.priority
    · exact Or.inr (Or.inl hba)
    · have heq : a.priority = b.priority := by
        rw [Int16.lt_iff_toInt_lt] at hab hba
        exact Int16.toInt_inj.mp (by omega)
      rcases String.le_total a.name b.name with hname | hname
      · exact Or.inl (Or.inr ⟨heq, hname⟩)
      · exact Or.inr (Or.inr ⟨heq.symm, hname⟩)

/-- Only what has the same rank can load no later than each other. -/
theorem rank_eq_of_loadsBy (hab : a.loadsBy b = true) (hba : b.loadsBy a = true) :
    a.rank = b.rank := by
  rw [loadsBy_iff] at hab hba
  rcases hab with hab | ⟨hpriority, hname⟩
  · rcases hba with hba | ⟨hba, -⟩
    · exact absurd hba (Int16.lt_asymm hab)
    · exact absurd (hba ▸ hab) Int16.lt_irrefl
  · rcases hba with hba | ⟨-, hname'⟩
    · exact absurd (hpriority ▸ hba) Int16.lt_irrefl
    · exact Prod.ext hpriority (String.le_antisymm hname hname')

theorem loadsBefore_of_loadsBy (h : a.loadsBy b = true) (hne : a.rank ≠ b.rank) :
    a.LoadsBefore b := by
  rw [loadsBy_iff] at h
  rcases h with hpriority | ⟨hpriority, hname⟩
  · exact Or.inl hpriority
  · refine Or.inr ⟨hpriority, String.not_le.mp fun hname' => hne ?_⟩
    exact Prod.ext hpriority (String.le_antisymm hname hname')

variable {xs ys : List (Submission σ)}

theorem perm_ordered (xs : List (Submission σ)) : (ordered xs).Perm xs := List.mergeSort_perm xs _

theorem pairwise_ordered (xs : List (Submission σ)) :
    (ordered xs).Pairwise fun a b => a.loadsBy b = true := by
  rw [ordered]
  refine List.pairwise_mergeSort ?_ loadsBy_total xs
  intro a b c hab hbc
  exact loadsBy_trans hab hbc

theorem pairwise_loadsBefore (hdistinct : (xs.map rank).Nodup) :
    (ordered xs).Pairwise LoadsBefore := by
  have hranks : ((ordered xs).map rank).Nodup :=
    ((perm_ordered xs).map rank).nodup_iff.mpr hdistinct
  rw [List.nodup_iff_pairwise_ne, List.pairwise_map] at hranks
  exact (pairwise_ordered xs).imp₂ (fun _ _ => loadsBefore_of_loadsBy) hranks

/-- **One order.** Submissions of different ranks are sorted in one way only. -/
theorem ordered_eq_of_perm (hdistinct : (xs.map rank).Nodup) (h : ys.Perm xs) :
    ordered ys = ordered xs := by
  have hperm : (ordered ys).Perm (ordered xs) :=
    (perm_ordered ys).trans (h.trans (perm_ordered xs).symm)
  refine hperm.eq_of_pairwise ?_ (pairwise_ordered ys) (pairwise_ordered xs)
  intro a b ha hb hab hba
  have ha' : a ∈ xs := h.mem_iff.mp ((perm_ordered ys).mem_iff.mp ha)
  have hb' : b ∈ xs := (perm_ordered xs).mem_iff.mp hb
  exact List.inj_on_of_nodup_map hdistinct ha' hb' (rank_eq_of_loadsBy hab hba)

end Submission

namespace Session

/-! ### Loading one after the other -/

/-- The submissions are loaded one after the other, all with success. -/
inductive Loads : Session σ → List (Submission σ) → Session σ → Prop
  | nil (s : Session σ) : Loads s [] s
  | cons {s t u : Session σ} {x : Submission σ} {rest : List (Submission σ)}
      (load : s.registerAddon x.addon x.modules = (.ok (), t)) (more : Loads t rest u) :
      Loads s (x :: rest) u

variable {s t u : Session σ} {xs pre : List (Submission σ)}

/-- Submissions that are all loaded with success add their addons. -/
theorem Loads.loaded (h : Loads s xs t)
    (hsecluded : ∀ x ∈ xs, ∀ c ∈ x.modules, Callback.Secluded c) :
    t.engine.loaded = s.engine.loaded ++ xs.map Submission.addon := by
  induction h with
  | nil => exact (List.append_nil _).symm
  | @cons s t u x rest load more ih =>
    rw [List.forall_mem_cons] at hsecluded
    have hfirst := s.loaded_registerAddon x.addon hsecluded.1
    rw [load] at hfirst
    rw [ih hsecluded.2, hfirst, List.append_assoc]
    rfl

theorem loadEach_of_loads (h : Loads s pre t) (rest : List (Submission σ)) :
    s.loadEach (pre ++ rest) = t.loadEach rest := by
  induction h with
  | nil => rfl
  | cons load more ih =>
    rw [List.cons_append, loadEach, load]
    exact ih

theorem loadEach_of_error {x : Submission σ} {e : EngineError} (h : Loads s pre t)
    (he : t.registerAddon x.addon x.modules = (.error e, u)) (post : List (Submission σ)) :
    s.loadEach (pre ++ x :: post) = (.error e, u) := by
  rw [loadEach_of_loads h, loadEach, he]

/-- The loads that come to an end while submissions are loaded are those of the ones that succeed,
and what follows on them. -/
theorem returns_of_loads (h : Loads s pre t)
    (hsecluded : ∀ x ∈ pre, ∀ c ∈ x.modules, Callback.Secluded c) (rest : List (Submission σ)) :
    Trail.returns (loadEachTrail (pre ++ rest) s) =
      pre.map (fun x => (x.addon, .ok ())) ++ Trail.returns (loadEachTrail rest t) := by
  induction h with
  | nil => rfl
  | @cons s t u x more load _ ih =>
    rw [List.forall_mem_cons] at hsecluded
    rw [List.cons_append, loadEachTrail, load, Trail.returns_append,
      s.returns_registerAddonTrail x.addon hsecluded.1, load]
    exact congrArg ((x.addon, .ok ()) :: ·) (ih hsecluded.2)

theorem returns_of_error {x : Submission σ} {e : EngineError}
    (hsecluded : ∀ c ∈ x.modules, Callback.Secluded c)
    (he : t.registerAddon x.addon x.modules = (.error e, u)) (post : List (Submission σ)) :
    Trail.returns (loadEachTrail (x :: post) t) = [(x.addon, .error e)] := by
  rw [loadEachTrail, he, Trail.returns_append, t.returns_registerAddonTrail x.addon hsecluded, he]
  rfl

/-- Either all submissions are loaded with success, or there is a first that fails. -/
theorem loads_or_error (xs : List (Submission σ)) (s : Session σ) :
    (∃ t, Loads s xs t) ∨ ∃ pre x post t e u, xs = pre ++ x :: post ∧ Loads s pre t ∧
      t.registerAddon x.addon x.modules = (.error e, u) := by
  induction xs generalizing s with
  | nil => exact Or.inl ⟨s, .nil s⟩
  | cons x rest ih =>
    rcases hload : s.registerAddon x.addon x.modules with ⟨e | ⟨⟩, s'⟩
    · exact Or.inr ⟨[], x, rest, s, e, s', rfl, .nil s, hload⟩
    · rcases ih s' with ⟨t, h⟩ | ⟨pre, y, post, t, e, u, rfl, h, he⟩
      · exact Or.inl ⟨t, .cons hload h⟩
      · exact Or.inr ⟨x :: pre, y, post, t, e, u, rfl, .cons hload h, he⟩

/-! ### Loading what was submitted -/

/-- **Submissions load in one order.** Here they differ in priority or name, their modules do not
call the engine back, and the session is any. Their load order is strict, by priority and then by
name, and it is the same for all orders in which they may come. Either they are all loaded with
success, in that order, or there is a first that fails. In the first case the answer is how many
there are, and the engine has their addons behind those it had. In the other the answer is the error
of the one that fails, the engine has the addons of those before it, and the load of none behind it
is even tried. -/
theorem submissions_load_in_one_order (xs : List (Submission σ))
    (hdistinct : (xs.map fun x => (x.priority, x.name)).Nodup)
    (hsecluded : ∀ x ∈ xs, ∀ c ∈ x.modules, Callback.Secluded c) (s : Session σ) :
    let order := Submission.ordered xs
    (order.Perm xs ∧ order.Pairwise Submission.LoadsBefore ∧
      ∀ ys : List (Submission σ), ys.Perm xs →
        Submission.ordered ys = order ∧ s.loadSubmitted ys = s.loadSubmitted xs) ∧
    (∀ t, Loads s order t →
      s.loadSubmitted xs = (.ok xs.length, t) ∧
      t.engine.loaded = s.engine.loaded ++ order.map Submission.addon ∧
      Trail.returns (s.serveTrail (.loadSubmitted xs)) = order.map fun x => (x.addon, .ok ())) ∧
    (∀ pre x post t e u, order = pre ++ x :: post → Loads s pre t →
      t.registerAddon x.addon x.modules = (.error e, u) →
      s.loadSubmitted xs = (.error e, u) ∧
      u.engine.loaded = s.engine.loaded ++ pre.map Submission.addon ∧
      Trail.returns (s.serveTrail (.loadSubmitted xs)) =
        pre.map (fun x => (x.addon, .ok ())) ++ [(x.addon, .error e)]) ∧
    ((∃ t, Loads s order t) ∨ ∃ pre x post t e u, order = pre ++ x :: post ∧ Loads s pre t ∧
      t.registerAddon x.addon x.modules = (.error e, u)) := by
  intro order
  have hperm : order.Perm xs := Submission.perm_ordered xs
  have hmodules : ∀ x ∈ order, ∀ c ∈ x.modules, Callback.Secluded c :=
    fun x hx => hsecluded x (hperm.mem_iff.mp hx)
  refine ⟨⟨hperm, Submission.pairwise_loadsBefore hdistinct, fun ys hys => ?_⟩, fun t ht => ?_, ?_,
    loads_or_error order s⟩
  · have horder := Submission.ordered_eq_of_perm hdistinct hys
    refine ⟨horder, ?_⟩
    rw [loadSubmitted, loadSubmitted, horder, hys.length_eq]
  · have heach := loadEach_of_loads ht []
    have hreturns := returns_of_loads ht hmodules []
    rw [List.append_nil] at heach hreturns
    refine ⟨?_, ht.loaded hmodules, ?_⟩
    · rw [loadSubmitted, heach]
      rfl
    · exact hreturns.trans (List.append_nil _)
  · intro pre x post t e u hsplit ht he
    rw [hsplit, List.forall_mem_append, List.forall_mem_cons] at hmodules
    obtain ⟨hpre, hx, -⟩ := hmodules
    have heach := loadEach_of_error ht he post
    rw [← hsplit] at heach
    refine ⟨?_, ?_, ?_⟩
    · rw [loadSubmitted, heach]
    · have hlast := t.loaded_registerAddon x.addon hx
      rw [he, ht.loaded hpre] at hlast
      exact hlast.trans (List.append_nil _)
    · show Trail.returns (loadEachTrail order s) = _
      rw [hsplit, returns_of_loads ht hpre, returns_of_error hx he]

/-- Of four submissions the third in load order bears the name of the engine's own addon. The two
before it are loaded, and the one behind it is not tried. -/
theorem submissions_load_in_one_order_taken_name :
    let greet : Module Unit := .build (.statement "say") fun
      | .error e => .done (.error e)
      | .ok d => .stage rfl .effects d .done
    let chat : Submission Unit := .ofName "Chat" [greet]
    let presence : Submission Unit := { chat with name := "Presence", priority := -1 }
    let taken : Submission Unit := { chat with name := "Core", priority := 7 }
    let zones : Submission Unit := { chat with name := "Zones", priority := 300 }
    let xs := [zones, taken, chat, presence]
    let s := (create (.ofName "Core") [] ()).2
    (xs.map fun x => (x.priority, x.name)).Nodup ∧
      (∀ x ∈ xs, ∀ c ∈ x.modules, Callback.Secluded c) ∧
      (s.loadSubmitted xs).1 = .error (.duplicateAddon "Core") ∧
      (s.loadSubmitted xs).2.engine.loaded.map Addon.name = ["Core", "Presence", "Chat"] ∧
      (Trail.returns (s.serveTrail (.loadSubmitted xs))).map (·.1.name) =
        ["Presence", "Chat", "Core"] := by
  intro greet chat presence taken zones xs s
  have hdistinct : (xs.map fun x => (x.priority, x.name)).Nodup := by decide
  have hgreet : Callback.Secluded greet := by
    intro answer
    cases answer with
    | error e => trivial
    | ok d => exact fun _ => trivial
  have hsecluded : ∀ x ∈ xs, ∀ c ∈ x.modules, Callback.Secluded c := by
    intro x hx c hc
    have hmodules : x.modules = [greet] := by
      simp only [xs, List.mem_cons, List.not_mem_nil, or_false] at hx
      rcases hx with rfl | rfl | rfl | rfl <;> rfl
    rw [hmodules, List.mem_singleton] at hc
    exact hc ▸ hgreet
  obtain ⟨⟨-, -, hsame⟩, -, herror, -⟩ := submissions_load_in_one_order xs hdistinct hsecluded s
  -- in any order they come they are sorted alike, and in this one they are sorted already
  have horder : Submission.ordered xs = [presence, chat] ++ taken :: [zones] := by
    rw [← (hsame [presence, chat, taken, zones] (List.reverse_perm xs)).1]
    exact List.mergeSort_of_pairwise (by decide)
  have hloads : s.Loads [presence, chat] (s.loadEach [presence, chat]).2 :=
    .cons rfl (.cons rfl (.nil _))
  obtain ⟨hanswer, hloaded, hreturns⟩ := herror _ _ _ _ _ _ horder hloads rfl
  refine ⟨hdistinct, hsecluded, congrArg Prod.fst hanswer, ?_, by rw [hreturns]; rfl⟩
  rw [hanswer, hloaded]
  rfl

end Session

end Phrasebook
