import Phrasebook.Text.Lowercase
/-!
# Phrasebook.Proofs.Text.Lowered

What is in lower case stays as it is.

No counterpart in the table of lower-case letters has a counterpart itself. The table holds runs, so
this is looked up for pairs of runs (`LowerRun.clears`) and not for single characters. With the two
characters that the table leaves out, it follows that lower-casing yields characters that it leaves
alone (`lowered_of_mem_lowercase`), and leaves texts of these alone (`lowercase_of_lowered`).

What a character becomes depends on its surroundings only for `Σ`, which looks for a character with
a case. One without a case may as well not be there (`lowercase_cons_of_uncased`).
-/

namespace Phrasebook.Text

/-! ### Runs of the table -/

namespace LowerRun

/-- The counterpart of the last character. -/
def lastImage (r : LowerRun) : Nat := r.image + (r.last - r.first)

/-- None of the counterparts in `r` is a character of `q`: they lie before or behind these, or fall
between them. -/
def clears (r q : LowerRun) : Bool :=
  r.lastImage.blt q.first || q.last.blt r.image ||
    (((r.step % q.step).beq 0 || r.first.beq r.last) && !(r.image % q.step).beq (q.first % q.step))

/-- The counterparts in the run are characters, and none of them has a counterpart. -/
def settled (r : LowerRun) : Bool :=
  (r.lastImage.blt 0xd800 || Nat.blt 0xdfff r.image && r.lastImage.blt 0x110000) &&
    (r.lastImage.blt 'İ'.toNat || 'İ'.toNat.blt r.image) &&
    (r.lastImage.blt 'Σ'.toNat || 'Σ'.toNat.blt r.image) && lowerRuns.all r.clears

/-- The table, looked through once. -/
theorem settled_lowerRuns : lowerRuns.all settled = true := by decide +kernel

variable {r q : LowerRun} {c d : Char}

theorem lower?_eq_some_iff : r.lower? c = some d ↔
    (r.first ≤ c.toNat ∧ c.toNat ≤ r.last ∧ (c.toNat - r.first) % r.step = 0) ∧
      d = Char.ofNat (r.image + (c.toNat - r.first)) := by
  rw [lower?]
  split
  next h => simp [h, eq_comm]
  next h => simp [h]

/-- The `k`-th code point of the run `r` has its counterpart out of the reach of `q`. -/
theorem lower?_eq_none (h : r.clears q = true) {k : Nat} (hk : k ≤ r.last - r.first)
    (hstep : k % r.step = 0) (hd : d.toNat = r.image + k) : q.lower? d = none := by
  cases hx : q.lower? d with
  | none => rfl
  | some x =>
    obtain ⟨⟨hfirst, hlast, hmod⟩, -⟩ := lower?_eq_some_iff.mp hx
    simp only [clears, lastImage, Bool.or_eq_true, Bool.and_eq_true, Nat.blt_eq, Nat.beq_eq,
      Bool.not_eq_true'] at h
    rcases h with (hbefore | hbehind) | ⟨halike, hbetween⟩
    · omega
    · omega
    · have hdvd : q.step ∣ k := by
        rcases halike with hsteps | hone
        · exact Nat.dvd_trans (Nat.dvd_of_mod_eq_zero hsteps) (Nat.dvd_of_mod_eq_zero hstep)
        · have hzero : k = 0 := by omega
          exact hzero ▸ Nat.dvd_zero _
      obtain ⟨a, ha⟩ := hdvd
      obtain ⟨b, hb⟩ := Nat.dvd_of_mod_eq_zero hmod
      have hplace : r.image + q.step * a = q.first + q.step * b := by omega
      have hsame := congrArg (· % q.step) hplace
      simp only [Nat.add_mul_mod_self_left] at hsame
      rw [hsame, Nat.beq_refl] at hbetween
      cases hbetween

theorem toNat_of_lower? (hsettled : r.settled = true) (h : r.lower? c = some d) :
    d.toNat = r.image + (c.toNat - r.first) := by
  obtain ⟨⟨hfirst, hlast, -⟩, rfl⟩ := lower?_eq_some_iff.mp h
  simp only [settled, lastImage, Bool.or_eq_true, Bool.and_eq_true, Nat.blt_eq] at hsettled
  obtain ⟨⟨⟨hvalid, -⟩, -⟩, -⟩ := hsettled
  have hvalid : (r.image + (c.toNat - r.first)).isValidChar := by
    rcases hvalid with hlow | ⟨hlow, hhigh⟩
    · exact Or.inl (by omega)
    · exact Or.inr ⟨by omega, by omega⟩
  rw [Char.ofNat, dif_pos hvalid]
  rfl

end LowerRun

/-! ### Characters in lower case -/

/-- Lower-casing leaves the character alone, wherever it stands. -/
def Lowered (c : Char) : Prop := c ≠ 'İ' ∧ c ≠ 'Σ' ∧ lowerChar c = c

instance (c : Char) : Decidable (Lowered c) := inferInstanceAs (Decidable (_ ∧ _))

theorem lowered_of_lower? {r : LowerRun} (hr : r ∈ lowerRuns) {c d : Char}
    (h : r.lower? c = some d) : Lowered d := by
  have hsettled := List.all_eq_true.mp LowerRun.settled_lowerRuns r hr
  have hd := LowerRun.toNat_of_lower? hsettled h
  obtain ⟨⟨hfirst, hlast, hstep⟩, -⟩ := LowerRun.lower?_eq_some_iff.mp h
  simp only [LowerRun.settled, LowerRun.lastImage, Bool.or_eq_true, Bool.and_eq_true, Nat.blt_eq,
    List.all_eq_true] at hsettled
  obtain ⟨⟨⟨-, hdotted⟩, hsigma⟩, hclears⟩ := hsettled
  refine ⟨?_, ?_, ?_⟩
  · rintro rfl
    omega
  · rintro rfl
    omega
  · have hnone : lowerRuns.findSome? (·.lower? d) = none := by
      rw [List.findSome?_eq_none_iff]
      intro q hq
      exact LowerRun.lower?_eq_none (hclears q hq) (by omega) hstep hd
    rw [lowerChar, hnone, Option.getD_none]

theorem lowered_lowerChar {c : Char} (hdotted : c ≠ 'İ') (hsigma : c ≠ 'Σ') :
    Lowered (lowerChar c) := by
  cases h : lowerRuns.findSome? (·.lower? c) with
  | none =>
    have hself : lowerChar c = c := by rw [lowerChar, h, Option.getD_none]
    rw [hself]
    exact ⟨hdotted, hsigma, hself⟩
  | some d =>
    obtain ⟨r, hr, hlower⟩ := List.exists_of_findSome?_eq_some h
    rw [lowerChar, h, Option.getD_some]
    exact lowered_of_lower? hr hlower

/-! ### Texts in lower case -/

theorem lowered_of_mem_lowerAfter {before rest : List Char} {c : Char}
    (h : c ∈ lowerAfter before rest) : Lowered c := by
  induction rest generalizing before with
  | nil => cases h
  | cons d rest ih =>
    rw [lowerAfter] at h
    rcases List.mem_append.mp h with h | h
    · split at h
      · simp only [List.mem_cons, List.not_mem_nil, or_false] at h
        rcases h with rfl | rfl <;> decide +kernel
      · split at h
        · split at h
          · rw [List.mem_singleton.mp h]
            decide +kernel
          · rw [List.mem_singleton.mp h]
            decide +kernel
        next hdotted hsigma =>
          rw [List.mem_singleton.mp h]
          exact lowered_lowerChar hdotted hsigma
    · exact ih h

/-- What comes out is in lower case. -/
theorem lowered_of_mem_lowercase {text : List Char} {c : Char} (h : c ∈ lowercase text) :
    Lowered c :=
  lowered_of_mem_lowerAfter h

theorem lowerAfter_of_lowered {before rest : List Char} (h : ∀ c ∈ rest, Lowered c) :
    lowerAfter before rest = rest := by
  induction rest generalizing before with
  | nil => rfl
  | cons c rest ih =>
    rw [List.forall_mem_cons] at h
    obtain ⟨⟨hdotted, hsigma, hself⟩, hrest⟩ := h
    rw [lowerAfter, if_neg hdotted, if_neg hsigma, hself, ih hrest]
    rfl

/-- What is in lower case stays as it is. -/
theorem lowercase_of_lowered {text : List Char} (h : ∀ c ∈ text, Lowered c) :
    lowercase text = text :=
  lowerAfter_of_lowered h

/-! ### Characters without a case -/

theorem meetsCased_concat {c : Char} (h : cased.contains c = false) (cs : List Char) :
    meetsCased (cs ++ [c]) = meetsCased cs := by
  induction cs with
  | nil =>
    simp only [meetsCased, List.nil_append, List.dropWhile_cons, List.dropWhile_nil]
    cases caseIgnorable.contains c with
    | true => rfl
    | false => exact h
  | cons d rest ih =>
    simp only [meetsCased, List.cons_append, List.dropWhile_cons] at ih ⊢
    cases caseIgnorable.contains d with
    | true => exact ih
    | false => rfl

/-- What a character without a case stands behind is not seen any more. -/
theorem lowerAfter_concat {c : Char} (h : cased.contains c = false) (before rest : List Char) :
    lowerAfter (before ++ [c]) rest = lowerAfter before rest := by
  induction rest generalizing before with
  | nil => rfl
  | cons d rest ih =>
    have hrest := ih (d :: before)
    rw [lowerAfter, lowerAfter, meetsCased_concat h, ← hrest]
    rfl

/-- A character without a case at the beginning of a text is lower-cased apart from the rest. -/
theorem lowercase_cons_of_uncased {c : Char} (hlowered : Lowered c) (h : cased.contains c = false)
    (text : List Char) : lowercase (c :: text) = c :: lowercase text := by
  obtain ⟨hdotted, hsigma, hself⟩ := hlowered
  have hrest : lowerAfter [c] text = lowerAfter [] text := lowerAfter_concat h [] text
  rw [lowercase, lowerAfter, if_neg hdotted, if_neg hsigma, hself, hrest]
  rfl

end Phrasebook.Text
