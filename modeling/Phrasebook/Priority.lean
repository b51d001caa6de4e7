/-!
# Phrasebook.Priority

Where a descriptor sits among the others of its key. Smaller priorities come first and are tried
first by whoever matches a line of script against the patterns.

A priority is a pair compared lexicographically: the **category** dominates and the **rank** breaks
ties within it. Expressions carry the ordinal of their expression type as category, everything else
lives in category `0`.

Hosts that want one number use the *packed* form, which keeps the rank in the low 24 bits and the
category above them. It exists only while the rank fits; the pair itself has no such ceiling.
-/

namespace Phrasebook

/-- The position of a descriptor relative to the others of its key. -/
structure Priority where
  /-- The dominant part. -/
  category : UInt8
  /-- The part that breaks ties within one category. -/
  rank : UInt32
deriving DecidableEq

namespace Priority

/-- An explicit priority of the lowest category. -/
def ofRank (rank : UInt32) : Priority := ⟨0, rank⟩

/-- The same rank in another category. -/
def inCategory (p : Priority) (category : UInt8) : Priority := { p with category }

@[simp] theorem rank_inCategory (p : Priority) (c : UInt8) : (p.inCategory c).rank = p.rank := rfl

@[simp] theorem category_inCategory (p : Priority) (c : UInt8) :
    (p.inCategory c).category = c := rfl

/-! ### The order -/

/-- Lexicographic order on category, then rank. -/
instance : LT Priority where
  lt a b := a.category < b.category ∨ a.category = b.category ∧ a.rank < b.rank

instance : LE Priority where
  le a b := a.category < b.category ∨ a.category = b.category ∧ a.rank ≤ b.rank

theorem lt_iff {a b : Priority} :
    a < b ↔ a.category < b.category ∨ a.category = b.category ∧ a.rank < b.rank := Iff.rfl

theorem le_iff {a b : Priority} :
    a ≤ b ↔ a.category < b.category ∨ a.category = b.category ∧ a.rank ≤ b.rank := Iff.rfl

instance (a b : Priority) : Decidable (a < b) := decidable_of_iff _ lt_iff.symm

instance (a b : Priority) : Decidable (a ≤ b) := decidable_of_iff _ le_iff.symm

theorem lt_irrefl (a : Priority) : ¬ a < a := by
  rw [lt_iff]
  simp [UInt8.lt_irrefl, UInt32.lt_irrefl]

theorem lt_trans {a b c : Priority} (hab : a < b) (hbc : b < c) : a < c := by
  rw [lt_iff] at *
  rcases hab with h | ⟨h, hr⟩ <;> rcases hbc with g | ⟨g, gr⟩
  · exact .inl (UInt8.lt_trans h g)
  · exact .inl (g ▸ h)
  · exact .inl (h ▸ g)
  · exact .inr ⟨h.trans g, UInt32.lt_trans hr gr⟩

/-- Any two priorities are comparable. -/
theorem lt_trichotomy (a b : Priority) : a < b ∨ a = b ∨ b < a := by
  obtain ⟨ca, ra⟩ := a
  obtain ⟨cb, rb⟩ := b
  simp only [lt_iff, Priority.mk.injEq]
  by_cases h : ca = cb
  · by_cases g : ra = rb
    · exact .inr (.inl ⟨h, g⟩)
    · rcases UInt32.lt_or_lt_of_ne g with g | g
      · exact .inl (.inr ⟨h, g⟩)
      · exact .inr (.inr (.inr ⟨h.symm, g⟩))
  · rcases UInt8.lt_or_lt_of_ne h with h | h
    · exact .inl (.inl h)
    · exact .inr (.inr (.inl h))

theorem le_iff_lt_or_eq {a b : Priority} : a ≤ b ↔ a < b ∨ a = b := by
  obtain ⟨ca, ra⟩ := a
  obtain ⟨cb, rb⟩ := b
  simp only [lt_iff, le_iff, Priority.mk.injEq]
  rw [UInt32.le_iff_lt_or_eq]
  grind

theorem le_antisymm {a b : Priority} (hab : a ≤ b) (hba : b ≤ a) : a = b := by
  rcases le_iff_lt_or_eq.mp hab with hlt | heq
  · rcases le_iff_lt_or_eq.mp hba with hgt | heq
    · exact absurd (lt_trans hlt hgt) (lt_irrefl a)
    · exact heq.symm
  · exact heq

theorem le_trans {a b c : Priority} (hab : a ≤ b) (hbc : b ≤ c) : a ≤ c := by
  rcases le_iff_lt_or_eq.mp hab with hlt | rfl
  · rcases le_iff_lt_or_eq.mp hbc with hlt' | rfl
    · exact le_iff_lt_or_eq.mpr (.inl (lt_trans hlt hlt'))
    · exact hab
  · exact hbc

theorem le_total (a b : Priority) : a ≤ b ∨ b ≤ a := by
  rcases lt_trichotomy a b with hlt | heq | hgt
  · exact .inl (le_iff_lt_or_eq.mpr (.inl hlt))
  · exact .inl (le_iff_lt_or_eq.mpr (.inr heq))
  · exact .inr (le_iff_lt_or_eq.mpr (.inl hgt))

/-! ### The packed form -/

/-- The largest rank that the packed form can hold. -/
def maxPackedRank : UInt32 := 0xFFFFFF

/-- Rank and category in one word, `none` when the rank takes more than 24 bits. -/
def packed (p : Priority) : Option UInt32 :=
  if p.rank > maxPackedRank then none else some (p.rank ||| p.category.toUInt32 <<< 24)

/-! ### Texts -/

/-- `category:rank`, or the rank alone in the lowest category. -/
def text (p : Priority) : String :=
  if p.category = 0 then toString p.rank.toNat
  else toString p.category.toNat ++ ":" ++ toString p.rank.toNat

end Priority

end Phrasebook
