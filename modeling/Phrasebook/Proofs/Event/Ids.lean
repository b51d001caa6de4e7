import Mathlib.Data.List.SplitBy
import Phrasebook.Event.Name
import Phrasebook.Proofs.Text.Lowered
/-!
# Phrasebook.Proofs.Event.Ids

The ids of events as a canonical form of their names.

An id is made by one scan over the lower-cased name. What it is can be said in steps: the characters
that have no place in an id are taken out, and in what remains every maximal run of whitespace
becomes one underscore (`idFrom_eq_underscored`). So whitespace on both sides of a character that is
taken out is one run. Nothing that a second scan would change is left, and a lower-cased text stays
as it is, so that an id is the id of itself (`idOf_canonical`).
-/

namespace Phrasebook.Event

open Text

/-! ### Runs of whitespace -/

/-- The text cut up between whitespace and other characters. -/
def runs (cs : List Char) : List (List Char) := cs.splitBy fun a b => isBlank a == isBlank b

/-- The text with an underscore in place of every maximal run of whitespace. -/
def underscored (cs : List Char) : List Char :=
  (runs cs).flatMap fun run => if run.all isBlank then ['_'] else run

/-- A run that is not empty is whitespace throughout, or it has none. -/
structure IsRun (run : List Char) : Prop where
  ne_nil : run ≠ []
  uniform : ∀ c ∈ run, isBlank c = run.all isBlank

theorem isRun_of_isChain {run : List Char} (hne : run ≠ [])
    (h : run.IsChain fun a b => (isBlank a == isBlank b) = true) : IsRun run := by
  have hall : ∀ c ∈ run, isBlank c = run.all isBlank := by
    clear hne
    induction run with
    | nil => exact fun _ h => by cases h
    | cons d rest ih =>
      obtain ⟨hhead, hrest⟩ := List.isChain_cons.mp h
      specialize ih hrest
      cases rest with
      | nil => simp
      | cons e rest =>
        have hde : isBlank d = isBlank e := by simpa using hhead e rfl
        have he : isBlank e = (e :: rest).all isBlank := ih e List.mem_cons_self
        have hd : isBlank d = (d :: e :: rest).all isBlank := by
          rw [List.all_cons, ← he, hde, Bool.and_self]
        intro c hc
        rcases List.mem_cons.mp hc with rfl | hc
        · exact hd
        · rw [ih c hc, ← he, ← hde, hd]
  exact ⟨hne, hall⟩

theorem isRun_of_mem_runs {cs run : List Char} (h : run ∈ runs cs) : IsRun run :=
  isRun_of_isChain (List.ne_nil_of_mem_splitBy h) (List.isChain_of_mem_splitBy h)

/-- Of two runs next to each other, one is whitespace. -/
theorem isChain_runs (cs : List Char) :
    (runs cs).IsChain fun run next => run.all isBlank = !next.all isBlank := by
  have hchain := List.isChain_getLast_head_splitBy (fun a b => isBlank a == isBlank b) cs
  refine hchain.imp_of_mem_imp fun run next hrun hnext h => ?_
  obtain ⟨ha, hb, hne⟩ := h
  rw [(isRun_of_mem_runs hrun).uniform _ (List.getLast_mem ha),
    (isRun_of_mem_runs hnext).uniform _ (List.head_mem hb)] at hne
  exact Bool.eq_not_of_ne (by simpa using hne)

/-! ### The scan -/

/-- The character has a place in an id, be it as an underscore. -/
def kept (c : Char) : Bool := !strippedFromIds.contains c

section Steps

variable {c : Char} {inSpace : Bool} {rest : List Char}

theorem idFrom_cons_of_not_kept (h : kept c = false) :
    idFrom inSpace (c :: rest) = idFrom inSpace rest := by
  rw [kept, Bool.not_eq_false'] at h
  rw [idFrom, if_pos h]

theorem idFrom_cons_of_isBlank (h : kept c = true) (hblank : isBlank c = true) :
    idFrom inSpace (c :: rest) =
      if inSpace then idFrom true rest else '_' :: idFrom true rest := by
  rw [kept, Bool.not_eq_true'] at h
  rw [idFrom, h, hblank, if_neg Bool.false_ne_true, if_pos rfl]

theorem idFrom_cons_of_not_isBlank (h : kept c = true) (hblank : isBlank c = false) :
    idFrom inSpace (c :: rest) = c :: idFrom false rest := by
  rw [kept, Bool.not_eq_true'] at h
  rw [idFrom, h, hblank, if_neg Bool.false_ne_true, if_neg Bool.false_ne_true]

end Steps

/-- What is taken out neither begins nor ends a run. -/
theorem idFrom_filter_kept (inSpace : Bool) (cs : List Char) :
    idFrom inSpace (cs.filter kept) = idFrom inSpace cs := by
  induction cs generalizing inSpace with
  | nil => rfl
  | cons c rest ih =>
    cases hc : kept c with
    | false => rw [List.filter_cons_of_neg (by simp [hc]), idFrom_cons_of_not_kept hc, ih]
    | true =>
      rw [List.filter_cons_of_pos hc]
      cases hblank : isBlank c with
      | true => rw [idFrom_cons_of_isBlank hc hblank, idFrom_cons_of_isBlank hc hblank, ih]
      | false => rw [idFrom_cons_of_not_isBlank hc hblank, idFrom_cons_of_not_isBlank hc hblank, ih]

theorem idFrom_blanks_append {run : List Char} (hkept : ∀ c ∈ run, kept c = true)
    (h : ∀ c ∈ run, isBlank c = true) (rest : List Char) :
    idFrom true (run ++ rest) = idFrom true rest := by
  induction run with
  | nil => rfl
  | cons c run ih =>
    rw [List.forall_mem_cons] at hkept h
    rw [List.cons_append, idFrom_cons_of_isBlank hkept.1 h.1, if_pos rfl, ih hkept.2 h.2]

theorem idFrom_word_append {run : List Char} (hkept : ∀ c ∈ run, kept c = true)
    (h : ∀ c ∈ run, isBlank c = false) (rest : List Char) :
    idFrom false (run ++ rest) = run ++ idFrom false rest := by
  induction run with
  | nil => rfl
  | cons c run ih =>
    rw [List.forall_mem_cons] at hkept h
    rw [List.cons_append, idFrom_cons_of_not_isBlank hkept.1 h.1, ih hkept.2 h.2, List.cons_append]

/-- The scan over a list of runs that alternate. If it has come from whitespace, the first of them
is none. -/
theorem idFrom_flatten {pieces : List (List Char)} (hruns : ∀ run ∈ pieces, IsRun run)
    (hkept : ∀ run ∈ pieces, ∀ c ∈ run, kept c = true)
    (halternate : pieces.IsChain fun run next => run.all isBlank = !next.all isBlank)
    (inSpace : Bool) (hstart : inSpace = true → ∀ run ∈ pieces.head?, run.all isBlank = false) :
    idFrom inSpace pieces.flatten =
      pieces.flatMap fun run => if run.all isBlank then ['_'] else run := by
  induction pieces generalizing inSpace with
  | nil => rfl
  | cons run pieces ih =>
    rw [List.forall_mem_cons] at hruns hkept
    obtain ⟨hnext, htail⟩ := List.isChain_cons.mp halternate
    obtain ⟨⟨hne, huniform⟩, hruns⟩ := hruns
    obtain ⟨hrun, hkept⟩ := hkept
    obtain ⟨c, word, rfl⟩ := List.exists_cons_of_ne_nil hne
    specialize ih hruns hkept htail
    rw [List.flatten_cons, List.flatMap_cons]
    rw [List.forall_mem_cons] at hrun huniform
    cases hall : (c :: word).all isBlank with
    | true =>
      rw [hall] at huniform hnext
      have hout : inSpace = false := by
        cases inSpace with
        | false => rfl
        | true => exact absurd (hstart rfl _ rfl) (by simp [hall])
      rw [List.cons_append, idFrom_cons_of_isBlank hrun.1 huniform.1, hout,
        if_neg Bool.false_ne_true, idFrom_blanks_append hrun.2 huniform.2,
        ih true fun _ next hmem => by simpa using hnext next hmem, if_pos rfl, List.cons_append,
        List.nil_append]
    | false =>
      rw [hall] at huniform
      rw [List.cons_append, idFrom_cons_of_not_isBlank hrun.1 huniform.1,
        idFrom_word_append hrun.2 huniform.2, ih false (fun h => by cases h),
        if_neg Bool.false_ne_true, List.cons_append]

/-- The scan is what its steps say: first the characters without a place go, then the runs. -/
theorem idFrom_eq_underscored (cs : List Char) :
    idFrom false cs = underscored (cs.filter kept) := by
  have hmem : ∀ run ∈ runs (cs.filter kept), ∀ c ∈ run, kept c = true := by
    intro run hrun c hc
    have hflat : c ∈ (runs (cs.filter kept)).flatten := List.mem_flatten.mpr ⟨run, hrun, hc⟩
    rw [runs, List.flatten_splitBy] at hflat
    exact List.of_mem_filter hflat
  have hscan := idFrom_flatten (fun _ => isRun_of_mem_runs) hmem (isChain_runs _) false
    (fun h => by cases h)
  rw [runs, List.flatten_splitBy, idFrom_filter_kept] at hscan
  rw [hscan]
  rfl

/-- What is found in the rest of an id. -/
theorem mem_idFrom {inSpace : Bool} {cs : List Char} {d : Char} (h : d ∈ idFrom inSpace cs) :
    (d = '_' ∨ d ∈ cs) ∧ isBlank d = false ∧ kept d = true := by
  have hline : isBlank '_' = false ∧ kept '_' = true := by decide
  induction cs generalizing inSpace with
  | nil => cases h
  | cons c rest ih =>
    have hrest : ∀ {inSpace}, d ∈ idFrom inSpace rest →
        (d = '_' ∨ d ∈ c :: rest) ∧ isBlank d = false ∧ kept d = true := by
      intro inSpace h
      obtain ⟨hfrom, hd⟩ := ih h
      exact ⟨hfrom.imp_right (List.mem_cons_of_mem c), hd⟩
    cases hc : kept c with
    | false =>
      rw [idFrom_cons_of_not_kept hc] at h
      exact hrest h
    | true =>
      cases hblank : isBlank c with
      | true =>
        rw [idFrom_cons_of_isBlank hc hblank] at h
        split at h
        · exact hrest h
        · rcases List.mem_cons.mp h with rfl | h
          · exact ⟨Or.inl rfl, hline⟩
          · exact hrest h
      | false =>
        rw [idFrom_cons_of_not_isBlank hc hblank] at h
        rcases List.mem_cons.mp h with rfl | h
        · exact ⟨Or.inr List.mem_cons_self, hblank, hc⟩
        · exact hrest h

/-! ### Ids -/

theorem toList_idOf (name : String) :
    (idOf name).toList = idFrom false (lowercase (withoutStar name.toList)) :=
  String.toList_ofList

/-- The characters of an id are such that no step would change them. -/
theorem mem_idOf {name : String} {c : Char} (h : c ∈ (idOf name).toList) :
    Lowered c ∧ isBlank c = false ∧ kept c = true := by
  rw [toList_idOf] at h
  obtain ⟨hfrom, hc⟩ := mem_idFrom h
  refine ⟨?_, hc⟩
  rcases hfrom with rfl | hlower
  · decide +kernel
  · exact lowered_of_mem_lowercase hlower

theorem withoutStar_of_ne {cs : List Char} (h : ∀ rest, cs ≠ '*' :: rest) :
    withoutStar cs = cs := by
  rw [withoutStar]
  exact h

/-- A star in front goes either way: before the name is lower-cased, or after it. -/
theorem idFrom_lowercase_withoutStar (cs : List Char) :
    idFrom false (lowercase (withoutStar cs)) = idFrom false (lowercase cs) := by
  by_cases h : ∃ rest, cs = '*' :: rest
  · obtain ⟨rest, rfl⟩ := h
    have hstar : Lowered '*' ∧ cased.contains '*' = false := by decide +kernel
    rw [lowercase_cons_of_uncased hstar.1 hstar.2, idFrom_cons_of_not_kept (by decide)]
    rfl
  · rw [withoutStar_of_ne fun rest hcs => h ⟨rest, hcs⟩]

theorem idOf_star_append (name : String) : idOf ("*" ++ name) = idOf name := by
  apply String.toList_injective
  rw [toList_idOf, toList_idOf, idFrom_lowercase_withoutStar name.toList, String.toList_append]
  rfl

/-- Lower-casing and the scan leave an id alone. -/
theorem idOf_idOf (name : String) : idOf (idOf name) = idOf name := by
  have hlowered : lowercase (idOf name).toList = (idOf name).toList :=
    lowercase_of_lowered fun _ hc => (mem_idOf hc).1
  have hkept : ∀ c ∈ (idOf name).toList, kept c = true := fun _ hc => (mem_idOf hc).2.2
  have hscan := idFrom_word_append hkept (fun _ hc => (mem_idOf hc).2.1) []
  rw [List.append_nil, idFrom, List.append_nil] at hscan
  apply String.toList_injective
  rw [toList_idOf, idFrom_lowercase_withoutStar, hlowered, hscan]

/-- An id is a canonical form of the name. It is made by steps of their own, no whitespace and
nothing that is taken out is left in it, a star in front of the name makes no difference, and the
id of an id is the same. -/
theorem idOf_canonical (name : String) :
    (idOf name).toList =
        underscored ((lowercase (withoutStar name.toList)).filter fun c =>
          !strippedFromIds.contains c) ∧
      (∀ c ∈ (idOf name).toList, isBlank c = false ∧ c ∉ strippedFromIds) ∧
      idOf ("*" ++ name) = idOf name ∧ idOf (idOf name) = idOf name := by
  refine ⟨?_, fun c hc => ?_, idOf_star_append name, idOf_idOf name⟩
  · rw [toList_idOf, idFrom_eq_underscored]
    rfl
  · obtain ⟨-, hblank, hkept⟩ := mem_idOf hc
    exact ⟨hblank, by simpa [kept] using hkept⟩

/-- The star in front does not count, and the whitespace around what is taken out is one run. -/
example : idOf "*On \t# Join" = "on_join" := by decide +kernel

end Phrasebook.Event
