import Phrasebook.Proofs.Attempts
/-!
# Phrasebook.Proofs.Draws

Which numbers the builds of a sequence draw.

Two numbers are drawn at a build, each under a condition of its own: an id if the build succeeds, a
rank if besides no priority was asked for. So among the successes the ids count on without a gap,
and so do the ranks among those that draw one, whatever attempts come in between
(`Draft.draws_of_builds`). A draft also tells the payload that its descriptor has
(`Draft.payload?`), and with it the category: that of the class for an expression, and for all
others the one that was asked for.
-/

namespace Phrasebook

/-! ### Payloads and priorities -/

theorem Outline.payload_of_finish {o : Outline} {p : Payload} {s : Supply} {x : Descriptor}
    (h : (o.finish p s).1 = .ok x) : x.payload = p := by
  unfold finish at h
  split at h
  · cases h
  · cases h
    rfl

theorem Outline.fst_choosePriority (o : Outline) (s : Supply) :
    (o.choosePriority s).1 = o.priority.getD (.ofRank s.nextRank) := by
  rw [choosePriority]
  cases o.priority with
  | none => rfl
  | some p => rfl

theorem Payload.settle_of_ne {payload : Payload} (h : ∀ info, payload ≠ .expression info)
    (p : Priority) : payload.settle p = p := by
  cases payload with
  | expression info => exact absurd rfl (h info)
  | plain => rfl
  | struct info => rfl
  | event info => rfl

namespace Draft

/-- The payload of the descriptor that the draft is built into. An expression without a class has
none, and cannot be built. -/
def payload? : Draft → Option Payload
  | plain _ => some .plain
  | expression d => d.type.map fun type => .expression ⟨d.returnType, type⟩
  | struct d => some (.struct ⟨d.validator⟩)
  | event d => some (.event d.info)

theorem payload?_of_build {d : Draft} {s : Supply} {x : Descriptor}
    (h : (d.build s).1 = .ok x) : d.payload? = some x.payload := by
  cases d with
  | plain o => rw [Outline.payload_of_finish h, payload?]
  | expression d =>
    simp only [build, ExpressionDraft.build] at h
    split at h
    · cases h
    · cases htype : d.type with
      | none =>
        simp only [htype] at h
        cases h
      | some type =>
        simp only [htype] at h
        rw [Outline.payload_of_finish h, payload?, htype, Option.map_some]
  | struct d => rw [Outline.payload_of_finish h, payload?]
  | event d => rw [Outline.payload_of_finish h, payload?]

/-! ### One build -/

/-- The priority before it is moved to a category: the one that was asked for, or else the next
default one. -/
def wanted (d : Draft) (s : Supply) : Priority := d.outline.priority.getD (.ofRank s.nextRank)

/-- **One build.** The supply is left alone by a build that fails; one that succeeds takes the next
id, and the next rank if no priority was asked for. -/
theorem build_draws (d : Draft) (s : Supply) :
    (∀ e, (d.build s).1 = .error e → (d.build s).2 = s) ∧
    (d.outline.priority ≠ none → (d.build s).2.nextRank = s.nextRank) ∧
    ∀ x, (d.build s).1 = .ok x →
      x.id = s.nextId ∧ (d.build s).2.nextId = s.nextId + 1 ∧
        (d.outline.priority = none → (d.build s).2.nextRank = s.nextRank + 1) ∧
        x.priority = d.settle (d.wanted s) := by
  have hasked (p : d.outline.priority ≠ none) : (d.outline.drawn s).nextRank = s.nextRank := by
    rw [Outline.nextRank_drawn, if_neg (by simpa using p)]
  rcases d.build_cases s with ⟨e, h⟩ | ⟨x, h, hid, hpriority⟩
  · rw [h]
    refine ⟨fun _ _ => rfl, fun _ => rfl, ?_⟩
    intro y hy
    cases hy
  · rw [h]
    refine ⟨?_, hasked, ?_⟩
    · intro e he
      cases he
    · intro y hy
      cases hy
      refine ⟨hid, Outline.nextId_drawn _ s, ?_, ?_⟩
      · intro hnone
        rw [Outline.nextRank_drawn, hnone]
        rfl
      · rw [hpriority, Outline.fst_choosePriority]
        rfl

/-- An expression is moved to the category of its class, whatever category was asked for, and no
other descriptor is moved. -/
theorem settle_eq_of_payload? {d : Draft} {payload : Payload} (h : d.payload? = some payload)
    (p : Priority) : d.settle p = payload.settle p := by
  cases d with
  | expression d =>
    obtain ⟨type, htype, rfl⟩ := Option.map_eq_some_iff.mp h
    rw [settle, category, htype]
    rfl
  | plain o =>
    obtain rfl : Payload.plain = payload := Option.some.inj h
    rfl
  | struct d =>
    obtain rfl : Payload.struct ⟨d.validator⟩ = payload := Option.some.inj h
    rfl
  | event d =>
    obtain rfl : Payload.event d.info = payload := Option.some.inj h
    rfl

/-! ### Many builds -/

/-- The supply that builds made one after the other leave. -/
def supplyAfter (ds : List Draft) (s : Supply) : Supply := ds.foldl (fun s d => (d.build s).2) s

/-- The `j`-th of the attempts that are counted has `j` of them before it. -/
theorem exists_split_of_getElem?_filter {p : Attempt → Bool} {as : List Attempt} {j : Nat}
    {a : Attempt} (h : (as.filter p)[j]? = some a) :
    ∃ pre post, as = pre ++ a :: post ∧ p a = true ∧ pre.countP p = j := by
  obtain ⟨hj, ha⟩ := List.getElem?_eq_some_iff.mp h
  have hsplit : as.filter p = (as.filter p).take j ++ a :: (as.filter p).drop (j + 1) := by
    rw [← ha, ← List.drop_eq_getElem_cons hj, List.take_append_drop]
  obtain ⟨front, back, hfront, htake, hback⟩ := List.filter_eq_append_iff.mp hsplit
  obtain ⟨skipped, post, hskipped, hnone, ha, -⟩ := List.filter_eq_cons_iff.mp hback
  refine ⟨front ++ skipped, post, ?_, ha, ?_⟩
  · rw [hfront, hskipped, List.append_assoc]
  · rw [List.countP_append, List.countP_eq_zero.mpr hnone, List.countP_eq_length_filter, htake,
      List.length_take]
    omega

theorem exists_made_of_split {ds : List Draft} {pre post : List Attempt} {a : Attempt}
    (hsplit : attempts ds .fresh = pre ++ a :: post) (ha : a.succeeds = true) :
    ∃ x, a.outcome = .ok x ∧ Made ds pre a.draft x := by
  obtain ⟨d, e | x⟩ := a
  · cases ha
  · exact ⟨x, rfl, post, hsplit⟩

/-- The rank of a build that draws one counts the ranks drawn before, as long as there are ranks
left. -/
theorem Made.rank_eq {ds : List Draft} {pre : List Attempt} {d : Draft} {x : Descriptor}
    (h : Made ds pre d x) (hdefault : d.outline.priority = none)
    (hfew : pre.countP Attempt.drawsRank < UInt32.size) :
    x.priority.rank.toNat = pre.countP Attempt.drawsRank := by
  rw [h.priority, hdefault, Option.getD_none, settle_ofRank]
  exact UInt32.toNat_ofNat_of_lt' hfew

/-- **All builds.** The `k`-th success, counted from zero, has the id `k + 1`, and the `j`-th
success that asked for no priority has the rank `j`. Each attempt draws what it should of the supply
that those before it have left: nothing if it fails, no rank if a priority was asked for. The
category is that of the class for an expression and the one asked for with all others. -/
theorem draws_of_builds (drafts : List Draft)
    (hfew : (attempts drafts .fresh).countP Attempt.drawsRank < UInt32.size) :
    (∀ (k : Nat) (a : Attempt), ((attempts drafts .fresh).filter Attempt.succeeds)[k]? = some a →
      ∃ x, a.outcome = .ok x ∧ x.id = k + 1) ∧
    (∀ (j : Nat) (a : Attempt), ((attempts drafts .fresh).filter Attempt.drawsRank)[j]? = some a →
      ∃ x, a.outcome = .ok x ∧ x.priority.rank.toNat = j) ∧
    ∀ pre d post, drafts = pre ++ d :: post →
      let s := supplyAfter pre .fresh
      (∀ e, (d.build s).1 = .error e → (d.build s).2 = s) ∧
      (d.outline.priority ≠ none → (d.build s).2.nextRank = s.nextRank) ∧
      ∀ x, (d.build s).1 = .ok x →
        (x.id = s.nextId ∧ (d.build s).2.nextId = s.nextId + 1) ∧
        (d.outline.priority = none → (d.build s).2.nextRank = s.nextRank + 1) ∧
        d.payload? = some x.payload ∧
        (∀ info, x.payload = .expression info →
          x.priority = (d.wanted s).inCategory info.type.ordinal) ∧
        ((∀ info, x.payload ≠ .expression info) → x.priority = d.wanted s) := by
  refine ⟨?ids, ?ranks, ?each⟩
  case ids =>
    intro k a hk
    obtain ⟨pre, post, hsplit, ha, rfl⟩ := exists_split_of_getElem?_filter hk
    obtain ⟨x, hx, hmade⟩ := exists_made_of_split hsplit ha
    exact ⟨x, hx, hmade.id⟩
  case ranks =>
    intro j a hj
    obtain ⟨pre, post, hsplit, ha, rfl⟩ := exists_split_of_getElem?_filter hj
    obtain ⟨hsucceeds, hdefault⟩ := Bool.and_eq_true_iff.mp ha
    obtain ⟨x, hx, hmade⟩ := exists_made_of_split hsplit hsucceeds
    rw [hsplit, List.countP_append] at hfew
    exact ⟨x, hx, hmade.rank_eq (Option.isNone_iff_eq_none.mp hdefault) (by omega)⟩
  case each =>
    intro pre d post _ s
    obtain ⟨herror, hasked, hok⟩ := d.build_draws s
    refine ⟨herror, hasked, fun x hx => ?_⟩
    obtain ⟨hid, hnextId, hnextRank, hpriority⟩ := hok x hx
    have hpayload := payload?_of_build hx
    rw [settle_eq_of_payload? hpayload] at hpriority
    refine ⟨⟨hid, hnextId⟩, hnextRank, hpayload, fun info hinfo => ?_, fun hother => ?_⟩
    · rw [hpriority, hinfo]
      rfl
    · rw [hpriority, Payload.settle_of_ne hother]

/-- Two statements are built behind an expression that asks for a priority in another category, and
among builds that fail. The expression takes the first id and no rank. -/
theorem draws_of_builds_between_failures :
    let start := Outline.ofElement ⟨⟨"Say"⟩, 0⟩
    let asking := (start.set (.pattern "time")).set (.priority ⟨7, 5⟩)
    let property : Draft := .expression ((asking.expression ⟨"Text"⟩).setType .property)
    let classless : Draft := .expression ((start.set (.pattern "it")).expression ⟨"Text"⟩)
    let drafts : List Draft :=
      [.plain start, property, .statement "say", classless, .statement "shout"]
    (attempts drafts .fresh).countP Attempt.drawsRank < UInt32.size ∧
      (∃ x, (property.build (supplyAfter [.plain start] .fresh)).1 = .ok x ∧ x.id = 1 ∧
        x.priority = ⟨3, 5⟩) ∧
      (∃ a x, ((attempts drafts .fresh).filter Attempt.succeeds)[2]? = some a ∧
        a.outcome = .ok x ∧ x.id = 3) ∧
      ∃ a x, ((attempts drafts .fresh).filter Attempt.drawsRank)[1]? = some a ∧
        a.outcome = .ok x ∧ x.priority.rank.toNat = 1 := by
  intro start asking property classless drafts
  have hdraws : (attempts drafts .fresh).countP Attempt.drawsRank = 2 := by decide
  have hfew : (attempts drafts .fresh).countP Attempt.drawsRank < UInt32.size := by
    rw [hdraws]
    decide
  obtain ⟨hids, hranks, heach⟩ := draws_of_builds drafts hfew
  obtain ⟨-, -, hproperty⟩ := heach [.plain start] property _ rfl
  obtain ⟨a, ha⟩ : ∃ a, ((attempts drafts .fresh).filter Attempt.succeeds)[2]? = some a :=
    Option.isSome_iff_exists.mp (by decide)
  obtain ⟨b, hb⟩ : ∃ b, ((attempts drafts .fresh).filter Attempt.drawsRank)[1]? = some b :=
    Option.isSome_iff_exists.mp (by decide)
  obtain ⟨x, hx, hid⟩ := hids 2 a ha
  obtain ⟨y, hy, hrank⟩ := hranks 1 b hb
  refine ⟨hfew, ?_, ⟨a, x, ha, hx, hid⟩, b, y, hb, hy, hrank⟩
  have hsucceeds : (property.build (supplyAfter [.plain start] .fresh)).1.isOk = true := by decide
  cases hz : (property.build (supplyAfter [.plain start] .fresh)).1 with
  | error e =>
    rw [hz] at hsucceeds
    cases hsucceeds
  | ok z =>
    obtain ⟨hdrawn, -, hpayload, hexpression, -⟩ := hproperty z hz
    exact ⟨z, rfl, hdrawn.1, hexpression ⟨⟨"Text"⟩, .property⟩ (Option.some.inj hpayload).symm⟩

end Draft

end Phrasebook
