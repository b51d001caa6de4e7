import Mathlib.Data.List.Sort
import Phrasebook.Descriptor
/-!
# Phrasebook.Proofs.Precedence

Lists of descriptors in match order.

`Descriptor.Precedes` is a strict order, so such a list has nothing to choose: it is determined by
its members (`Descriptor.eq_of_mem_iff`), a part of it is a sublist (`Descriptor.sublist_of_subset`)
and one member stands before another exactly if it precedes it (`Descriptor.pair_sublist_iff`).
-/

namespace Phrasebook

namespace Descriptor

instance : Std.Irrefl Precedes := ⟨Precedes.irrefl⟩

instance : Std.Antisymm Precedes :=
  ⟨fun a _ hab hba => absurd (hab.trans hba) (Precedes.irrefl a)⟩

variable {l l' : List Descriptor}

theorem eq_of_mem_iff (h : l.Pairwise Precedes) (h' : l'.Pairwise Precedes)
    (hmem : ∀ d, d ∈ l ↔ d ∈ l') : l = l' :=
  h.eq_of_mem_iff h' hmem

theorem sublist_of_subset (h : l.Pairwise Precedes) (h' : l'.Pairwise Precedes) (hsub : l ⊆ l') :
    l.Sublist l' :=
  List.sublist_of_subperm_of_pairwise (List.subperm_of_subset h.nodup hsub) h h'

/-- Where two members stand is told by the order alone. -/
theorem pair_sublist_iff (h : l.Pairwise Precedes) {a b : Descriptor} (ha : a ∈ l) (hb : b ∈ l) :
    [a, b].Sublist l ↔ a.Precedes b := by
  constructor
  · intro hab
    exact List.pairwise_iff_forall_sublist.mp h hab
  · intro hab
    obtain ⟨front, back, rfl⟩ := List.append_of_mem ha
    rw [List.pairwise_append, List.pairwise_cons] at h
    rcases List.mem_append.mp hb with hb | hb
    · have hba : b.Precedes a := h.2.2 b hb a List.mem_cons_self
      exact absurd (hab.trans hba) (Precedes.irrefl a)
    · rcases List.mem_cons.mp hb with rfl | hb
      · exact absurd hab (Precedes.irrefl b)
      · have hpair : [a, b].Sublist (a :: back) := (List.singleton_sublist.mpr hb).cons_cons a
        exact hpair.trans (List.sublist_append_right front _)

end Descriptor

end Phrasebook
