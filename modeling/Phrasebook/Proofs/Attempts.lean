import Phrasebook.Proofs.Builds
/-!
# Phrasebook.Proofs.Attempts

What the builds of a sequence draw.

An **attempt** is a draft together with what came of its build. Of a sequence of attempts it can be
told how far the supply has come, without looking at it: each success has drawn an id, and those
without a priority of their own have drawn a rank (`Draft.outcome_of_attempts`). So id and priority
of a descriptor are known from its draft and from the attempts before it (`Draft.Made.id`,
`Draft.Made.priority`).
-/

namespace Phrasebook

/-- A draft and what came of its build. -/
structure Attempt where
  draft : Draft
  outcome : Except RegistryError Descriptor

namespace Attempt

def succeeds (a : Attempt) : Bool := a.outcome.isOk

/-- A default rank is drawn for a draft that asks for no priority, unless its build fails. -/
def drawsRank (a : Attempt) : Bool := a.succeeds && a.draft.outline.priority.isNone

theorem drawsRank_ok (d : Draft) (x : Descriptor) :
    drawsRank ⟨d, .ok x⟩ = d.outline.priority.isNone := rfl

end Attempt

/-- Where the supply has come to after the attempts. -/
def Supply.after (s : Supply) (as : List Attempt) : Supply where
  nextId := s.nextId + as.countP Attempt.succeeds
  nextRank := s.nextRank + .ofNat (as.countP Attempt.drawsRank)

@[simp] theorem Supply.after_nil (s : Supply) : s.after [] = s := by
  simp [after]

namespace Draft

/-- The builds of the drafts, made one after the other. -/
def attempts : List Draft → Supply → List Attempt
  | [], _ => []
  | d :: rest, s => ⟨d, (d.build s).1⟩ :: attempts rest (d.build s).2

/-- The descriptors of a sequence of builds are the outcomes of its attempts. -/
theorem produce_eq (ds : List Draft) (s : Supply) :
    produce ds s = (attempts ds s).filterMap fun a => a.outcome.toOption := by
  induction ds generalizing s with
  | nil => rfl
  | cons d rest ih =>
    rw [attempts, produce]
    rcases d.build s with ⟨e | x, s'⟩
    · exact ih s'
    · exact congrArg (x :: ·) (ih s')

theorem map_draft_attempts (ds : List Draft) (s : Supply) :
    (attempts ds s).map Attempt.draft = ds := by
  induction ds generalizing s with
  | nil => rfl
  | cons d rest ih => rw [attempts, List.map_cons, ih]

/-- **One attempt.** The supply that the build leaves is told from its outcome. -/
theorem after_cons (d : Draft) (s : Supply) (as : List Attempt) :
    s.after (⟨d, (d.build s).1⟩ :: as) = (d.build s).2.after as := by
  rcases d.build_cases s with ⟨e, h⟩ | ⟨x, h, -⟩
  · rw [h]
    rfl
  · have hids : (⟨d, .ok x⟩ :: as : List Attempt).countP Attempt.succeeds =
        as.countP Attempt.succeeds + 1 := List.countP_cons_of_pos rfl
    rw [h, Supply.after, Supply.after, Outline.nextId_drawn, Outline.nextRank_drawn, hids,
      ← Attempt.drawsRank_ok d x, Supply.mk.injEq]
    refine ⟨by omega, ?_⟩
    by_cases hdraws : Attempt.drawsRank ⟨d, .ok x⟩ = true
    · rw [List.countP_cons_of_pos hdraws, if_pos hdraws, UInt32.ofNat_add, UInt32.add_assoc,
        UInt32.add_comm 1]
      rfl
    · rw [List.countP_cons_of_neg hdraws, if_neg hdraws]

/-- **All attempts.** Each is made with the supply that those before it have left. -/
theorem outcome_of_attempts {ds : List Draft} {s : Supply} {pre post : List Attempt} {a : Attempt}
    (h : attempts ds s = pre ++ a :: post) : a.outcome = (a.draft.build (s.after pre)).1 := by
  induction ds generalizing s pre with
  | nil => simp [attempts] at h
  | cons d rest ih =>
    rw [attempts] at h
    cases pre with
    | nil =>
      obtain ⟨rfl, -⟩ := List.cons.inj h
      rw [Supply.after_nil]
    | cons b pre =>
      obtain ⟨rfl, hrest⟩ := List.cons.inj h
      rw [after_cons]
      exact ih hrest

/-- The draft `d` was built into `x`, after the attempts `pre`. -/
def Made (ds : List Draft) (pre : List Attempt) (d : Draft) (x : Descriptor) : Prop :=
  ∃ post, attempts ds .fresh = pre ++ ⟨d, .ok x⟩ :: post

theorem mem_produce_iff {ds : List Draft} {x : Descriptor} :
    x ∈ produce ds .fresh ↔ ∃ pre d, Made ds pre d x := by
  rw [produce_eq, List.mem_filterMap]
  constructor
  · rintro ⟨⟨d, e | y⟩, ha, hy⟩
    · cases hy
    · obtain rfl : y = x := Option.some.inj hy
      obtain ⟨pre, post, hsplit⟩ := List.append_of_mem ha
      exact ⟨pre, d, post, hsplit⟩
  · rintro ⟨pre, d, post, hsplit⟩
    refine ⟨⟨d, .ok x⟩, ?_, rfl⟩
    rw [hsplit]
    exact List.mem_append_right pre List.mem_cons_self

namespace Made

variable {ds : List Draft} {pre pre' : List Attempt} {d d' : Draft} {x x' : Descriptor}

theorem mem (h : Made ds pre d x) : d ∈ ds := by
  obtain ⟨post, hsplit⟩ := h
  rw [← map_draft_attempts ds .fresh, hsplit]
  simp

/-- What the attempts before have left is what the descriptor bears. -/
theorem draws (h : Made ds pre d x) :
    x.id = (Supply.fresh.after pre).nextId ∧
      x.priority = d.settle (d.outline.choosePriority (Supply.fresh.after pre)).1 := by
  obtain ⟨post, hsplit⟩ := h
  have hbuild := outcome_of_attempts hsplit
  rcases d.build_cases (Supply.fresh.after pre) with ⟨e, h⟩ | ⟨y, h, hid, hpriority⟩
  · rw [h] at hbuild
    cases hbuild
  · rw [h] at hbuild
    obtain rfl : x = y := Except.ok.inj hbuild
    exact ⟨hid, hpriority⟩

/-- Ids count the successes, from one. -/
theorem id (h : Made ds pre d x) : x.id = pre.countP Attempt.succeeds + 1 := by
  rw [h.draws.1, Nat.add_comm]
  rfl

/-- The priority is the one asked for, or else its rank counts the ranks drawn before. Either way
an expression is moved to its category. -/
theorem priority (h : Made ds pre d x) :
    x.priority = d.settle
      (d.outline.priority.getD (.ofRank (.ofNat (pre.countP Attempt.drawsRank)))) := by
  rw [h.draws.2, Outline.choosePriority]
  cases d.outline.priority with
  | some p => rfl
  | none => simp [Supply.drawPriority, Supply.after, Supply.fresh]

/-- Of two builds made one after the other, the earlier is among the attempts before the later. -/
theorem append_of_length_lt (h : Made ds pre d x) (h' : Made ds pre' d' x')
    (hlt : pre.length < pre'.length) : ∃ between, pre' = pre ++ ⟨d, .ok x⟩ :: between := by
  obtain ⟨post, hsplit⟩ := h
  obtain ⟨post', hsplit'⟩ := h'
  have hpre : pre ++ [⟨d, .ok x⟩] <+: pre' := by
    have hall : pre ++ [⟨d, .ok x⟩] <+: attempts ds .fresh := ⟨post, by simp [hsplit]⟩
    exact List.prefix_of_prefix_length_le hall ⟨_, hsplit'.symm⟩ (by simp; omega)
  obtain ⟨between, hbetween⟩ := hpre
  exact ⟨between, by rw [← hbetween]; simp⟩

/-- A later build finds more ranks drawn than an earlier one that draws a rank itself. -/
theorem countP_drawsRank_lt (h : Made ds pre d x) (h' : Made ds pre' d' x')
    (hdefault : d.outline.priority = none) (hlt : pre.length < pre'.length) :
    pre.countP Attempt.drawsRank < pre'.countP Attempt.drawsRank := by
  obtain ⟨between, rfl⟩ := h.append_of_length_lt h' hlt
  have hdraws : Attempt.drawsRank ⟨d, .ok x⟩ = true := by
    rw [Attempt.drawsRank_ok, hdefault]
    rfl
  rw [List.countP_append, List.countP_cons_of_pos hdraws]
  omega

end Made

end Draft

end Phrasebook
