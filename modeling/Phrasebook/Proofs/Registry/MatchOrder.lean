import Mathlib.Data.Prod.Lex
import Phrasebook.Proofs.Draws
import Phrasebook.Proofs.Precedence
import Phrasebook.Proofs.Registry.Runs
/-!
# Phrasebook.Proofs.Registry.MatchOrder

In which order descriptors are matched, told from how they were built.

Registers sort by the place of a descriptor: category, rank and id, compared one after the other
(`Descriptor.precedes_iff_place_lt`). These come from four sources: the class of an expression, the
rank that was asked for, the ranks that were drawn and the ids. The **standing** of a build says
where they lead to, in terms of the attempts and of the order of classes alone, and it is the place
that the descriptor then has (`Draft.Made.place_eq`). When and in which order it was registered does
not count.
-/

namespace Phrasebook

/-! ### Places -/

/-- What registers sort by. -/
def Descriptor.place (x : Descriptor) : ℕ ×ₗ ℕ ×ₗ ℕ :=
  toLex (x.priority.category.toNat, toLex (x.priority.rank.toNat, x.id))

theorem Descriptor.precedes_iff_place_lt {a b : Descriptor} :
    a.Precedes b ↔ a.place < b.place := by
  rw [Precedes, place, place, Prod.Lex.toLex_lt_toLex, Prod.Lex.toLex_lt_toLex]
  obtain ⟨ca, ra⟩ := a.priority
  obtain ⟨cb, rb⟩ := b.priority
  simp only [Priority.lt_iff, Priority.mk.injEq, UInt8.lt_iff_toNat_lt, UInt32.lt_iff_toNat_lt,
    UInt8.toNat_inj, UInt32.toNat_inj]
  tauto

/-! ### Standings -/

namespace Draft

/-- The rank that was asked for, or else how many ranks were drawn by the attempts before. -/
def rank (d : Draft) (pre : List Attempt) : ℕ :=
  match d.outline.priority with
  | some p => p.rank.toNat
  | none => pre.countP Attempt.drawsRank

/-- How many classes are tried before that of the draft. What is no expression stands with the first
of them. -/
def classPlace : Draft → ℕ
  | expression d => (d.type.map fun t => ExpressionType.all.idxOf t).getD 0
  | _ => 0

theorem toNat_category (d : Draft) : d.category.toNat = d.classPlace := by
  cases d with
  | expression d =>
    rw [category, classPlace]
    cases d.type with
    | none => rfl
    | some type => exact type.toNat_ordinal
  | plain o => rfl
  | struct d => rfl
  | event d => rfl

theorem classPlace_of_payload? {d : Draft} {info : ExpressionInfo}
    (h : d.payload? = some (.expression info)) : d.classPlace = info.type.ordinal.toNat := by
  cases d with
  | expression d =>
    obtain ⟨type, htype, hinfo⟩ := Option.map_eq_some_iff.mp h
    cases hinfo
    rw [classPlace, htype]
    exact type.toNat_ordinal.symm
  | plain o => cases h
  | struct d => cases h
  | event d => cases h

/-- Where a draft gets to that is built after the attempts `pre`: by its class, then by its rank, at
last by its position among the builds that succeed. -/
def standing (d : Draft) (pre : List Attempt) : ℕ ×ₗ ℕ ×ₗ ℕ :=
  toLex (d.classPlace, toLex (d.rank pre, pre.countP Attempt.succeeds + 1))

theorem standing_lt_iff {d d' : Draft} {pre pre' : List Attempt} :
    d.standing pre < d'.standing pre' ↔
      d.classPlace < d'.classPlace ∨ d.classPlace = d'.classPlace ∧
        (d.rank pre < d'.rank pre' ∨ d.rank pre = d'.rank pre' ∧
          pre.countP Attempt.succeeds < pre'.countP Attempt.succeeds) := by
  rw [standing, standing, Prod.Lex.toLex_lt_toLex, Prod.Lex.toLex_lt_toLex,
    Nat.add_lt_add_iff_right]

/-- Every priority that is asked for is a mere rank. -/
def AskRanks (ds : List Draft) : Prop :=
  ∀ d ∈ ds, ∀ p, d.outline.priority = some p → ∃ rank, p = .ofRank rank

namespace Made

variable {ds : List Draft} {pre pre' : List Attempt} {d d' : Draft} {x x' : Descriptor}

/-- **The place of a descriptor** is the standing of its build. -/
theorem place_eq (h : Made ds pre d x) (hranks : AskRanks ds)
    (hdraws : (attempts ds .fresh).countP Attempt.drawsRank < UInt32.size) :
    x.place = d.standing pre := by
  have hpriority : x.priority.category = d.category ∧ x.priority.rank.toNat = d.rank pre := by
    rw [rank]
    cases hp : d.outline.priority with
    | some p =>
      obtain ⟨r, rfl⟩ := hranks d h.mem p hp
      rw [h.priority, hp, Option.getD_some, settle_ofRank]
      exact ⟨rfl, rfl⟩
    | none =>
      -- the ranks drawn before are not so many that the counter would have started anew
      have hpre : pre.countP Attempt.drawsRank < UInt32.size := by
        obtain ⟨post, hsplit⟩ := h
        rw [hsplit, List.countP_append] at hdraws
        omega
      refine ⟨?_, h.rank_eq hp hpre⟩
      rw [h.priority, hp, Option.getD_none, settle_ofRank]
  rw [Descriptor.place, hpriority.1, hpriority.2, h.id, toNat_category, standing]

theorem payload? (h : Made ds pre d x) : d.payload? = some x.payload := by
  obtain ⟨post, hsplit⟩ := h
  exact payload?_of_build (outcome_of_attempts hsplit).symm

/-- An expression of an earlier class stands before one of a later class. -/
theorem standing_lt_of_type (h : Made ds pre d x) (h' : Made ds pre' d' x')
    {info info' : ExpressionInfo} (hx : x.payload = .expression info)
    (hx' : x'.payload = .expression info')
    (htype : [info.type, info'.type].Sublist ExpressionType.all) :
    d.standing pre < d'.standing pre' := by
  have hpayload := h.payload?
  have hpayload' := h'.payload?
  rw [hx] at hpayload
  rw [hx'] at hpayload'
  rw [standing_lt_iff, classPlace_of_payload? hpayload, classPlace_of_payload? hpayload']
  exact Or.inl (UInt8.lt_iff_toNat_lt.mp (ExpressionType.ordinal_lt_iff.mpr htype))

/-- Default priorities of one class keep the order of the builds. -/
theorem standing_lt_iff_length_lt (h : Made ds pre d x) (h' : Made ds pre' d' x')
    (hdefault : d.outline.priority = none) (hdefault' : d'.outline.priority = none)
    (hclass : d.classPlace = d'.classPlace) :
    d.standing pre < d'.standing pre' ↔ pre.length < pre'.length := by
  rw [standing_lt_iff, rank, rank, hdefault, hdefault']
  -- whichever of the two is built first has the smaller rank already
  rcases Nat.lt_trichotomy pre.length pre'.length with hlength | hlength | hlength
  · simp [hclass, hlength, h.countP_drawsRank_lt h' hdefault hlength]
  · obtain ⟨post, hsplit⟩ := h
    obtain ⟨post', hsplit'⟩ := h'
    obtain ⟨rfl, -⟩ := List.append_inj (hsplit.symm.trans hsplit') hlength
    simp [hclass]
  · have hrank := h'.countP_drawsRank_lt h hdefault' hlength
    simp [hclass]
    omega

end Made

end Draft

/-! ### Lists -/

namespace Registry

/-- Of the descriptors under a key, `x` is tried before `y`. -/
def TriedBefore (r : Registry) (k : Key) (x y : Descriptor) : Prop :=
  [x, y].Sublist (r.syntaxes k).entries

/-- **The order of matching.** Whatever is listed was built from one of the drafts, and of two
descriptors the one whose build has the smaller standing is tried first. So an expression of an
earlier class comes before every one of a later class, whatever their ranks, and among the default
priorities of one class the builds decide. The order in which the calls register does not enter into
it. -/
theorem tried_in_order_of_standing (drafts : List Draft) (calls : List Call)
    (hranks : Draft.AskRanks drafts)
    (hdraws : (Draft.attempts drafts .fresh).countP Attempt.drawsRank < UInt32.size)
    (hbuilt : ∀ c ∈ calls, ∀ s ∈ c.entries, s.descriptor ∈ Draft.produce drafts .fresh)
    (k : Key) :
    (∀ x ∈ ((empty.run calls).syntaxes k).entries, ∃ pre d, Draft.Made drafts pre d x) ∧
    ∀ x ∈ ((empty.run calls).syntaxes k).entries, ∀ y ∈ ((empty.run calls).syntaxes k).entries,
      ∀ pre d pre' d', Draft.Made drafts pre d x → Draft.Made drafts pre' d' y →
        ((empty.run calls).TriedBefore k x y ↔ d.standing pre < d'.standing pre') ∧
        (∀ info info', x.payload = .expression info → y.payload = .expression info' →
          [info.type, info'.type].Sublist ExpressionType.all →
          (empty.run calls).TriedBefore k x y) ∧
        (d.outline.priority = none → d'.outline.priority = none → d.classPlace = d'.classPlace →
          ((empty.run calls).TriedBefore k x y ↔ pre.length < pre'.length)) := by
  obtain ⟨hsound, -⟩ := (sound_empty _).run (Draft.toldApart_produce drafts .fresh) calls hbuilt
  simp only [TriedBefore, entries_syntaxes]
  refine ⟨fun x hx => ?_, fun x hx y hy pre d pre' d' h h' => ?_⟩
  · exact Draft.mem_produce_iff.mp (hsound.known _ x hx)
  · rw [Descriptor.pair_sublist_iff (hsound.sorted _) hx hy, Descriptor.precedes_iff_place_lt,
      h.place_eq hranks hdraws, h'.place_eq hranks hdraws]
    refine ⟨Iff.rfl, fun info info' hinfo hinfo' htype => ?_, h.standing_lt_iff_length_lt h'⟩
    exact h.standing_lt_of_type h' hinfo hinfo' htype

/-- Three statements and two expressions are registered last first. The first statement asks for
rank one, the next build fails, and the others draw the ranks zero and one. The statement that was
asked to have rank one is tried before the one that came to have it, and the literal before the
expression that matches everything, although the rank it asks for is larger. -/
theorem tried_in_order_of_standing_across_classes :
    let start := Outline.ofElement ⟨⟨"Say"⟩, 0⟩
    let asking : Draft := .plain ((start.set (.pattern "say")).set (.priority (.ofRank 1)))
    let literal : Draft := .phrase .simple 9 "zero"
    let anything : Draft := .phrase .patternMatchesEverything 1 "anything"
    let drafts : List Draft :=
      [asking, .plain start, .statement "shout", .statement "call", anything, literal]
    let say := Descriptor.statement 1 1 "say"
    let shout := Descriptor.statement 2 0 "shout"
    let call := Descriptor.statement 3 1 "call"
    let everything := Descriptor.phrase 4 .patternMatchesEverything ⟨4, 1⟩ "anything"
    let zero := Descriptor.phrase 5 .simple ⟨0, 9⟩ "zero"
    let calls : List Call :=
      [.register .statements call, .register .statements shout, .register .statements say,
        .register .expressions everything, .register .expressions zero]
    Draft.AskRanks drafts ∧
      (Draft.attempts drafts .fresh).countP Attempt.drawsRank < UInt32.size ∧
      (∀ c ∈ calls, ∀ s ∈ c.entries, s.descriptor ∈ Draft.produce drafts .fresh) ∧
      (empty.run calls).TriedBefore .statements shout call ∧
      (empty.run calls).TriedBefore .statements say call ∧
      (empty.run calls).TriedBefore .expressions zero everything := by
  intro start asking literal anything drafts say shout call everything zero calls
  have hranks : Draft.AskRanks drafts := by
    intro d hd p hp
    simp only [drafts, List.mem_cons, List.not_mem_nil, or_false] at hd
    rcases hd with rfl | rfl | rfl | rfl | rfl | rfl
    · exact ⟨1, (Option.some.inj hp).symm⟩
    · cases hp
    · cases hp
    · cases hp
    · exact ⟨1, (Option.some.inj hp).symm⟩
    · exact ⟨9, (Option.some.inj hp).symm⟩
  let as : List Attempt :=
    [⟨asking, .ok say⟩, ⟨.plain start, .error (.emptyPatterns "Say")⟩,
      ⟨.statement "shout", .ok shout⟩, ⟨.statement "call", .ok call⟩, ⟨anything, .ok everything⟩,
      ⟨literal, .ok zero⟩]
  have hattempts : Draft.attempts drafts .fresh = as := rfl
  have hproduce : Draft.produce drafts .fresh = [say, shout, call, everything, zero] := by
    rw [Draft.produce_eq, hattempts]
    rfl
  have hbuilt : ∀ c ∈ calls, ∀ s ∈ c.entries, s.descriptor ∈ Draft.produce drafts .fresh := by
    rw [hproduce]
    simp [calls, Call.entries]
  have hfew : (Draft.attempts drafts .fresh).countP Attempt.drawsRank < UInt32.size := by
    have hdraws : as.countP Attempt.drawsRank = 2 := rfl
    rw [hattempts, hdraws]
    decide
  have hall (k : Key) := (tried_in_order_of_standing drafts calls hranks hfew hbuilt k).2
  have hstatements : ((empty.run calls).syntaxes .statements).entries = [shout, say, call] := by
    rfl
  have hexpressions : ((empty.run calls).syntaxes .expressions).entries = [zero, everything] := by
    rfl
  have hsay : Draft.Made drafts [] asking say := ⟨as.drop 1, hattempts⟩
  have hshout : Draft.Made drafts (as.take 2) (.statement "shout") shout := ⟨as.drop 3, hattempts⟩
  have hcall : Draft.Made drafts (as.take 3) (.statement "call") call := ⟨as.drop 4, hattempts⟩
  have heverything : Draft.Made drafts (as.take 4) anything everything := ⟨as.drop 5, hattempts⟩
  have hzero : Draft.Made drafts (as.take 5) literal zero := ⟨[], hattempts⟩
  refine ⟨hranks, hfew, hbuilt, ?_, ?_, ?_⟩
  · exact (hall .statements shout (by simp [hstatements]) call (by simp [hstatements]) _ _ _ _
      hshout hcall).2.2 rfl rfl rfl |>.mpr (by decide)
  · exact (hall .statements say (by simp [hstatements]) call (by simp [hstatements]) _ _ _ _
      hsay hcall).1.mpr (Draft.standing_lt_iff.mpr (by decide))
  · exact (hall .expressions zero (by simp [hexpressions]) everything (by simp [hexpressions])
      _ _ _ _ hzero heverything).2.1 _ _ rfl rfl (by decide)

end Registry

end Phrasebook
