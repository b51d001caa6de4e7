import Mathlib.Algebra.Group.Nat.Defs
import Phrasebook.Priority
/-!
# Phrasebook.Proofs.Packed

The packed form of a priority keeps both of its parts, and their order.

As a number, the packed form is the category in units of `2 ^ 24` and the rank on top of it
(`packed_eq_some_iff`). The shift takes the 8 bits of a category up to the end of the word and no
further, and a rank that can be packed stays below them. So both parts can be read off the number,
and numbers compare as the pairs that they were made of: first by category, then by rank.
-/

namespace Phrasebook.Priority

variable {p a b : Priority} {v w : UInt32}

/-! ### The word -/

/-- The shift of a category loses none of its bits. -/
theorem toNat_shifted_category (c : UInt8) :
    (c.toUInt32 <<< 24).toNat = c.toNat * 2 ^ 24 := by
  have hc : c.toNat < 2 ^ 8 := c.toNat_lt
  have hfits : c.toNat * 2 ^ 24 < 2 ^ 32 := by omega
  rw [UInt32.toNat_shiftLeft, UInt8.toNat_toUInt32, Nat.shiftLeft_eq]
  exact Nat.mod_eq_of_lt hfits

/-- Rank and category do not overlap if the rank can be packed. -/
theorem toNat_packedWord (hrank : p.rank.toNat < 2 ^ 24) :
    (p.rank ||| p.category.toUInt32 <<< 24).toNat =
      p.category.toNat * 2 ^ 24 + p.rank.toNat := by
  rw [UInt32.toNat_or, toNat_shifted_category, Nat.or_comm, Nat.mul_comm]
  exact (Nat.two_pow_add_eq_or_of_lt hrank _).symm

theorem maxPackedRank_lt_iff (rank : UInt32) : rank > maxPackedRank ↔ 2 ^ 24 ≤ rank.toNat := by
  have hmax : maxPackedRank.toNat + 1 = 2 ^ 24 := rfl
  rw [gt_iff_lt, UInt32.lt_iff_toNat_lt]
  omega

theorem packed_eq_none_iff : p.packed = none ↔ 2 ^ 24 ≤ p.rank.toNat := by
  rw [← maxPackedRank_lt_iff, packed, ite_eq_left_iff]
  simp

/-- **The packed form** is the number with the category in units of `2 ^ 24` and the rank on top. -/
theorem packed_eq_some_iff :
    p.packed = some w ↔
      p.rank.toNat < 2 ^ 24 ∧ w.toNat = p.category.toNat * 2 ^ 24 + p.rank.toNat := by
  by_cases hrank : 2 ^ 24 ≤ p.rank.toNat
  · rw [packed_eq_none_iff.mpr hrank]
    constructor
    · intro h
      cases h
    · rintro ⟨hlt, -⟩
      omega
  · have hlt : p.rank.toNat < 2 ^ 24 := by omega
    rw [packed, if_neg fun h => hrank ((maxPackedRank_lt_iff _).mp h), Option.some.injEq,
      ← UInt32.toNat_inj, toNat_packedWord hlt]
    exact ⟨fun h => ⟨hlt, h.symm⟩, fun h => h.2.symm⟩

/-! ### Order -/

theorem lt_iff_of_packed (ha : a.packed = some v) (hb : b.packed = some w) : a < b ↔ v < w := by
  obtain ⟨harank, hv⟩ := packed_eq_some_iff.mp ha
  obtain ⟨hbrank, hw⟩ := packed_eq_some_iff.mp hb
  rw [lt_iff, UInt8.lt_iff_toNat_lt, UInt32.lt_iff_toNat_lt, UInt32.lt_iff_toNat_lt,
    ← UInt8.toNat_inj]
  -- one unit of category outweighs all ranks that can be packed
  omega

theorem eq_iff_of_packed (ha : a.packed = some v) (hb : b.packed = some w) : a = b ↔ v = w := by
  obtain ⟨harank, hv⟩ := packed_eq_some_iff.mp ha
  obtain ⟨hbrank, hw⟩ := packed_eq_some_iff.mp hb
  constructor
  · rintro rfl
    exact Option.some.inj (ha.symm.trans hb)
  · rintro rfl
    have hcategory : a.category = b.category := UInt8.toNat_inj.mp (by omega)
    have hrank : a.rank = b.rank := UInt32.toNat_inj.mp (by omega)
    cases a
    cases b
    congr

/-- Priorities that can be packed compare as their packed forms. -/
theorem le_iff_packed_le (ha : a.packed ≠ none) (hb : b.packed ≠ none) :
    a ≤ b ↔ a.packed ≤ b.packed := by
  obtain ⟨v, hv⟩ := Option.ne_none_iff_exists'.mp ha
  obtain ⟨w, hw⟩ := Option.ne_none_iff_exists'.mp hb
  rw [hv, hw, Option.some_le_some, UInt32.le_iff_lt_or_eq, le_iff_lt_or_eq,
    lt_iff_of_packed hv hw, eq_iff_of_packed hv hw]

/-! ### Sorting -/

/-- The priorities in their order. -/
def sorted (ps : List Priority) : List Priority := ps.mergeSort fun a b => decide (a ≤ b)

variable {ps qs : List Priority}

theorem perm_sorted (ps : List Priority) : (sorted ps).Perm ps := List.mergeSort_perm ps _

theorem pairwise_sorted (ps : List Priority) : (sorted ps).Pairwise (· ≤ ·) := by
  have htrans : ∀ a b c : Priority, decide (a ≤ b) = true → decide (b ≤ c) = true →
      decide (a ≤ c) = true := by
    intro a b c hab hbc
    exact decide_eq_true (le_trans (of_decide_eq_true hab) (of_decide_eq_true hbc))
  have htotal : ∀ a b : Priority, (decide (a ≤ b) || decide (b ≤ a)) = true := by
    intro a b
    rw [Bool.or_eq_true, decide_eq_true_iff, decide_eq_true_iff]
    exact le_total a b
  exact (List.pairwise_mergeSort htrans htotal ps).imp of_decide_eq_true

/-- There is one way only to put a list in order. -/
theorem pairwise_le_iff (h : qs.Perm ps) : qs.Pairwise (· ≤ ·) ↔ qs = sorted ps := by
  constructor
  · intro hqs
    have hperm : qs.Perm (sorted ps) := h.trans (perm_sorted ps).symm
    exact hperm.eq_of_pairwise (fun _ _ _ _ => le_antisymm) hqs (pairwise_sorted ps)
  · rintro rfl
    exact pairwise_sorted ps

/-- In order by priority and in order by packed form are the same. -/
theorem pairwise_le_iff_packed (hpacked : ∀ p ∈ qs, p.packed ≠ none) :
    qs.Pairwise (· ≤ ·) ↔ qs.Pairwise fun a b => a.packed ≤ b.packed :=
  List.Pairwise.iff_of_mem fun ha hb => le_iff_packed_le (hpacked _ ha) (hpacked _ hb)

/-- **The packed form embeds the order.** It is missing exactly for ranks of `2 ^ 24` and more. All
others keep their rank in the low 24 bits and their category in the 8 bits above them, and the shift
pushes no bit of it out of the word. Two of them compare, and are equal, as their packed forms do.
So of all ways to arrange a list of them, the one that is in order by priority is also the one that
is in order by packed form. -/
theorem packed_embeds_order :
    (∀ p : Priority,
      (p.packed = none ↔ 2 ^ 24 ≤ p.rank.toNat) ∧
      (p.category.toUInt32 <<< 24).toNat = p.category.toNat * 2 ^ 24 ∧
      ∀ w, p.packed = some w →
        w.toNat % 2 ^ 24 = p.rank.toNat ∧ w.toNat / 2 ^ 24 = p.category.toNat) ∧
    (∀ (a b : Priority) (v w : UInt32), a.packed = some v → b.packed = some w →
      (a < b ↔ v < w) ∧ (a = b ↔ v = w)) ∧
    ∀ ps : List Priority, (∀ p ∈ ps, p.packed ≠ none) → ∀ qs : List Priority, qs.Perm ps →
      (qs.Pairwise (· ≤ ·) ↔ qs = sorted ps) ∧
      (qs.Pairwise (fun a b => a.packed ≤ b.packed) ↔ qs = sorted ps) := by
  refine ⟨fun p => ⟨packed_eq_none_iff, toNat_shifted_category _, fun w hw => ?_⟩, ?_, ?_⟩
  · obtain ⟨hrank, hword⟩ := packed_eq_some_iff.mp hw
    omega
  · intro a b v w ha hb
    exact ⟨lt_iff_of_packed ha hb, eq_iff_of_packed ha hb⟩
  · intro ps hpacked qs hperm
    have hmem : ∀ p ∈ qs, p.packed ≠ none := fun p hp => hpacked p (hperm.mem_iff.mp hp)
    refine ⟨pairwise_le_iff hperm, ?_⟩
    rw [← pairwise_le_iff_packed hmem]
    exact pairwise_le_iff hperm

/-- The largest rank of a category and the smallest of the next are neighbours, also where the top
bit of the word comes in. A list that is out of order there is put in the same order by both. -/
theorem packed_embeds_order_next_category :
    let last : Priority := ⟨127, 0xFFFFFF⟩
    let next : Priority := ⟨128, 0⟩
    let ps : List Priority := [⟨255, 7⟩, next, last, next]
    last.packed = some 0x7FFFFFFF ∧ next.packed = some 0x80000000 ∧
      (last < next ↔ (0x7FFFFFFF : UInt32) < 0x80000000) ∧
      (⟨3, 0x1000000⟩ : Priority).packed = none ∧
      (∀ p ∈ ps, p.packed ≠ none) ∧
      sorted ps = [last, next, next, ⟨255, 7⟩] ∧
      ∀ qs : List Priority, qs.Perm ps → qs.Pairwise (fun a b => a.packed ≤ b.packed) →
        qs = [last, next, next, ⟨255, 7⟩] := by
  intro last next ps
  obtain ⟨hform, horder, hsort⟩ := packed_embeds_order
  have hlast : last.packed = some 0x7FFFFFFF := by decide
  have hnext : next.packed = some 0x80000000 := by decide
  have hpacked : ∀ p ∈ ps, p.packed ≠ none := by decide
  have hsorted : sorted ps = [last, next, next, ⟨255, 7⟩] :=
    ((hsort ps hpacked _ (by decide)).1.mp (by decide)).symm
  refine ⟨hlast, hnext, (horder last next _ _ hlast hnext).1, (hform _).1.mpr (by decide), hpacked,
    hsorted, fun qs hqs hbyForm => ?_⟩
  rw [← hsorted]
  exact (hsort ps hpacked qs hqs).2.mp hbyForm

end Phrasebook.Priority
