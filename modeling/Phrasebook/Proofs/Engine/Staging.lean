import Phrasebook.Proofs.Engine.Flights
import Phrasebook.Proofs.Engine.Loads
/-!
# Phrasebook.Proofs.Engine.Staging

What a load has staged, and what it can read.

A load stages into a batch of its own, which is in its frame while it is in flight. What is listed
under a key is another matter: it comes from loads that have landed (`Trail.Landed`), at every
moment and whatever is in flight. The two meet when a load lands. Then the keys it has staged under,
and all their ancestors, list what it has staged, and none of that was listed before.
-/

namespace Phrasebook

variable {σ : Type} {D : Descriptor → Prop}

/-- Committing the registration lists the descriptor under the key. -/
def Staged.Lists (e : Staged) (key : Key) (d : Descriptor) : Prop :=
  e.descriptor = d ∧ ∃ link ∈ e.key.lineage, link.name = key.name

/-! ### One move -/

/-- The incident is the return of a load that lands. -/
def Incident.IsLanding : Incident σ → Prop
  | .returned _ (.ok ()) => True
  | _ => False

/-- The lists of `y` are those of `x` and what the batch brings, none of which was there. -/
structure Situation.Extends (x : Situation σ) (batch : Batch) (y : Situation σ) : Prop where
  adds : ∀ key d, d ∈ (y.engine.syntaxes key).entries ↔
    d ∈ (x.engine.syntaxes key).entries ∨ ∃ e ∈ batch.entries, e.Lists key d
  fresh : ∀ e ∈ batch.entries, ∀ key d, e.Lists key d → d ∉ (x.engine.syntaxes key).entries

/-- A clear batch brings nothing that is listed already. -/
theorem Registry.Clear.fresh {r : Registry} {batch : Batch} (h : r.Clear batch.insertions)
    {e : Staged} (he : e ∈ batch.entries) {key : Key} {d : Descriptor} (hlists : e.Lists key d) :
    d ∉ (r.syntaxes key).entries := by
  obtain ⟨rfl, link, hlink, hname⟩ := hlists
  intro hmem
  rw [entries_syntaxes, ← hname] at hmem
  refine h.2 ⟨link.name, e.descriptor.id⟩ ?_ ⟨e.descriptor, hmem, rfl⟩
  exact List.mem_flatMap.mpr ⟨e, he, List.mem_map_of_mem hlink⟩

/-- A move is the landing of the innermost load, or it changes no list. -/
theorem Move.lists_cases {x y : Situation σ} {i : Incident σ} (h : Move x i y) (hD : ToldApart D)
    (hx : x.Sound D) :
    (¬ i.IsLanding ∧ ∀ key, (y.engine.syntaxes key).entries = (x.engine.syntaxes key).entries) ∨
      ∃ addon batch, i = .returned addon (.ok ()) ∧ x.frames = .load addon batch :: y.frames ∧
        x.Extends batch y := by
  cases h with
  | conclude frames addon batch s count =>
    have hfits : ∀ e ∈ batch.entries, e.Fits D := hx.fits _ List.mem_cons_self
    cases hanswer : (s.conclude addon count batch).1 with
    | error e => exact Or.inl ⟨id, (Session.agree_conclude hx.registry hD hfits hanswer).syntaxes⟩
    | ok =>
      refine Or.inr ⟨addon, batch, rfl, rfl, ?_⟩
      rcases Session.conclude_outcome hx.registry hD hx.aligned hfits addon count with
        ⟨-, hclear, -, -, hgains⟩ | ⟨-, herr⟩ | ⟨_, _, _, -, -, -, -, herr⟩
      · exact ⟨hgains.mem_syntaxes, fun e he key d => hclear.fresh he⟩
      · cases hanswer.symm.trans herr
      · cases hanswer.symm.trans herr
  | enter _ next hquiet hnext =>
    have hkept := (x.session.enter_cases next).1.syntaxes
    exact Or.inl ⟨id, fun key => congrArg (·.entries) (hkept key)⟩
  | build | remember | observe | listen | stage | rejectClosed | rejectDuplicate | begin | fail
  | tell | hear | advance => exact Or.inl ⟨id, fun _ => rfl⟩

/-! ### Loads that have landed -/

namespace Trail

/-- A load begins and lands in the trail, and the registration was accepted for it. -/
def Landed (trail : Trail σ) (e : Staged) : Prop :=
  ∃ before addon start during last after, trail = before ++ start :: (during ++ last :: after) ∧
    Flight addon start during ∧ last.incident = .returned addon (.ok ()) ∧
    last.height < start.height ∧ e ∈ acceptedAt start.height during

/-- A load that began in the trail lands at the next moment, and the registration was accepted for
it. -/
def LandsNext (trail : Trail σ) (m : Moment σ) (e : Staged) : Prop :=
  ∃ before addon start during, trail = before ++ start :: during ∧ Flight addon start during ∧
    m.incident = .returned addon (.ok ()) ∧ m.height < start.height ∧
    e ∈ acceptedAt start.height during

theorem landed_concat {trail : Trail σ} {m : Moment σ} {e : Staged} :
    Landed (trail ++ [m]) e ↔ Landed trail e ∨ LandsNext trail m e := by
  constructor
  · intro h
    obtain ⟨before, addon, start, during, last, after, hsplit, hflight, hlast⟩ := h
    rcases after.eq_nil_or_concat with rfl | ⟨after, m', rfl⟩
    · have hends : trail ++ [m] = (before ++ start :: during) ++ [last] := by simp [hsplit]
      obtain ⟨htrail, hm⟩ := List.append_inj' hends rfl
      cases hm
      exact Or.inr ⟨before, addon, start, during, htrail, hflight, hlast⟩
    · have hends : trail ++ [m] = (before ++ start :: (during ++ last :: after)) ++ [m'] := by
        simp [hsplit]
      obtain ⟨htrail, -⟩ := List.append_inj' hends rfl
      exact Or.inl ⟨before, addon, start, during, last, after, htrail, hflight, hlast⟩
  · intro h
    rcases h with ⟨before, addon, start, during, last, after, rfl, hflight, hlast⟩ |
      ⟨before, addon, start, during, rfl, hflight, hlast⟩
    · exact ⟨before, addon, start, during, last, after ++ [m], by simp, hflight, hlast⟩
    · exact ⟨before, addon, start, during, m, [], by simp, hflight, hlast⟩

theorem LandsNext.isLanding {trail : Trail σ} {m : Moment σ} {e : Staged}
    (h : LandsNext trail m e) : m.incident.IsLanding := by
  obtain ⟨_, _, _, _, -, -, hi, -⟩ := h
  rw [hi]
  trivial

/-- No load lands when another begins. -/
theorem not_landsNext_of_began {trail : Trail σ} {m : Moment σ} {addon : Addon}
    (h : m.incident = .began addon) (e : Staged) : ¬ LandsNext trail m e := by
  intro hlands
  have hlanding := hlands.isLanding
  rw [h] at hlanding
  exact hlanding

end Trail

namespace Moves

variable {x y : Situation σ} {trail : Trail σ} {addon : Addon} {batch : Batch} {m : Moment σ}

/-- A load in flight that is no higher than the frame on top has that frame. -/
theorem batch_of_flight {before during : Trail σ} {start : Moment σ} {below : List Frame}
    {other : Addon} (h : Moves x (before ++ start :: during) y)
    (hflight : Trail.Flight other start during) (hy : y.frames = .load addon batch :: below)
    (hheight : below.length < start.height) :
    batch.entries = Trail.acceptedAt start.height during := by
  obtain ⟨above, batch', below', hstart, hframes, hentries⟩ := h.frame_of_flight hflight
  rw [hy] at hframes
  cases above with
  | nil =>
    rw [List.nil_append, List.cons.injEq] at hframes
    cases hframes.1
    exact hentries
  | cons f above =>
    rw [List.cons_append, List.cons.injEq] at hframes
    simp only [Moment.height, hstart, hframes.2, List.length_append, List.length_cons] at hheight
    omega

/-- What lands with the innermost load is what is in its batch. -/
theorem landsNext_iff (h : Moves x trail y) (hbase : ∀ m ∈ trail, x.frames.length ≤ m.height)
    (hy : y.frames = .load addon batch :: m.situation.frames) (hm : x.frames.length ≤ m.height)
    (hi : m.incident = .returned addon (.ok ())) (e : Staged) :
    Trail.LandsNext trail m e ↔ e ∈ batch.entries := by
  constructor
  · intro hlands
    obtain ⟨before, other, start, during, rfl, hflight, -, hheight, he⟩ := hlands
    rwa [h.batch_of_flight hflight hy hheight]
  · intro he
    have htop : y.frames = [] ++ .load addon batch :: m.situation.frames := hy
    obtain ⟨before, start, during, rfl, hflight, hstart⟩ := h.flight_of_frame hbase htop hm
    have hheight : m.height < start.height := by simp [Moment.height, hstart]
    rw [h.batch_of_flight hflight hy hheight] at he
    exact ⟨before, addon, start, during, rfl, hflight, hi, hheight, he⟩

/-- **What is listed** was listed at the beginning or comes from a load that has landed since, as
long as none of the loads that were in flight at the beginning returns. -/
theorem mem_syntaxes_iff (h : Moves x trail y) (hbase : ∀ m ∈ trail, x.frames.length ≤ m.height)
    (hD : ToldApart D) (hx : x.Sound D) (hstaged : ∀ m ∈ trail, m.incident.Stages D) (key : Key)
    (d : Descriptor) :
    d ∈ (y.engine.syntaxes key).entries ↔ d ∈ (x.engine.syntaxes key).entries ∨
      ∃ e, Trail.Landed trail e ∧ e.Lists key d := by
  induction h using Moves.history with
  | nil =>
    refine ⟨Or.inl, fun h => h.elim id fun hlanded => ?_⟩
    obtain ⟨e, ⟨before, addon, start, during, last, after, hsplit, -⟩, -⟩ := hlanded
    simp at hsplit
  | snoc trail z m h move ih =>
    rw [List.forall_mem_append, List.forall_mem_singleton] at hbase hstaged
    have hz := h.sound hD hx hstaged.1
    have hrest := ih hbase.1 hstaged.1
    simp only [Trail.landed_concat, or_and_right, exists_or]
    rcases move.lists_cases hD hz with ⟨hno, hsame⟩ | ⟨addon, batch, hi, hframes, hextends⟩
    · have hnone : ∀ e, ¬ Trail.LandsNext trail m e := fun e hlands => hno hlands.isLanding
      simp only [hnone, false_and, exists_false, or_false]
      rw [hsame, hrest]
    · simp only [h.landsNext_iff hbase.1 hframes hbase.2 hi]
      rw [hextends.adds, hrest, or_assoc]

/-- **What is listed in addition** when a load lands is what was accepted for it. -/
theorem newly_listed_iff {before during : Trail σ} {start : Moment σ}
    (h : Moves x (before ++ start :: during) y) (hflight : Trail.Flight addon start during)
    (hD : ToldApart D) (hy : y.Sound D) (move : Move y m.incident m.situation)
    (hi : m.incident = .returned addon (.ok ())) (hheight : m.height < start.height) (key : Key)
    (d : Descriptor) :
    (d ∈ (m.situation.engine.syntaxes key).entries ∧ d ∉ (y.engine.syntaxes key).entries) ↔
      ∃ e ∈ Trail.acceptedAt start.height during, e.Lists key d := by
  rcases move.lists_cases hD hy with ⟨hno, -⟩ | ⟨other, batch, -, hframes, hextends⟩
  · exact absurd (by rw [hi]; trivial) hno
  · rw [← h.batch_of_flight hflight hframes hheight, hextends.adds]
    constructor
    · intro hnew
      exact hnew.1.resolve_left hnew.2
    · intro hlists
      obtain ⟨e, he, hlists⟩ := hlists
      exact ⟨Or.inr ⟨e, he, hlists⟩, hextends.fresh e he key d hlists⟩

end Moves

/-! ### Lives -/

/-- A batch lists what was staged under keys of the same name. -/
theorem Batch.staged_eq (b : Batch) (key : Key) :
    b.staged key =
      (b.entries.filter fun e => e.key.name = key.name).map Staged.descriptor := by
  rw [staged]
  refine congrArg (List.map Staged.descriptor) (List.filter_congr fun e _ => ?_)
  rw [Bool.eq_iff_iff, Key.beq_iff, decide_eq_true_iff]

namespace Session

/-- **Staging is isolated and cumulative.** Here a load begins at `start` in a life and is in flight
at least until after the moments `during`; `x` is the situation then.

What it lists as staged under a key is what was accepted for it so far under keys of that name, in
order. What an engine lists under a key comes from loads that have landed, before this one began or
while it was in flight, so nothing from this one is among it. If it lands next, then each key lists
in addition, and without having listed it before, what was accepted for it under keys with the name
of that key in their lineage. -/
theorem staging_isolated_and_cumulative {core : Addon} {modules : List (Module σ)} {memory : σ}
    {requests : List (Request σ)} {before during after : Trail σ} {start : Moment σ} {addon : Addon}
    (hlife : life core modules memory requests = before ++ start :: (during ++ after))
    (hflight : Trail.Flight addon start during) :
    let x := (during.getLast?.getD start).situation
    let accepted := Trail.acceptedAt start.height during
    (∃ above batch, x.frames = above ++ .load addon batch :: start.situation.frames.tail ∧
      ∀ key, batch.staged key =
        (accepted.filter fun e => e.key.name = key.name).map Staged.descriptor) ∧
    (Trail.Genuine (life core modules memory requests) →
      (∀ key d, d ∈ (x.engine.syntaxes key).entries ↔
        ∃ e, (Trail.Landed before e ∨ Trail.Landed during e) ∧ e.Lists key d) ∧
      ∀ last rest, after = last :: rest → last.incident = .returned addon (.ok ()) →
        last.height < start.height →
        ∀ key d, (d ∈ (last.situation.engine.syntaxes key).entries ∧
          d ∉ (x.engine.syntaxes key).entries) ↔ ∃ e ∈ accepted, e.Lists key d) := by
  intro x accepted
  have hmoves := moves_life core modules memory requests
  rw [hlife] at hmoves
  obtain ⟨hbefore, hrest⟩ := hmoves.split
  obtain ⟨z, hduring, hafter⟩ := hrest.between
  have hx : z = x := hduring.eq_last
  rw [hx] at hduring hafter
  have hall : Moves ⟨[], Session.start core memory⟩ (before ++ start :: during) x := by
    rw [List.append_cons]
    exact hbefore.append hduring
  refine ⟨?_, fun hgenuine => ?_⟩
  · obtain ⟨above, batch, below, hstart, hframes, hentries⟩ := hall.frame_of_flight hflight
    refine ⟨above, batch, by rw [hstart]; exact hframes, fun key => ?_⟩
    rw [batch.staged_eq, hentries]
  have hD := hmoves.toldApart_builds
  rw [hlife] at hgenuine
  have hfirst := fun m (hm : m ∈ before ++ [start]) =>
    hgenuine.stages m (by rw [List.append_cons]; exact List.mem_append_left _ hm)
  have hthen := fun m (hm : m ∈ during) => hgenuine.stages m (by simp [hm])
  have hstart := hbefore.sound hD (sound_start _ core memory) hfirst
  refine ⟨fun key d => ?_, ?_⟩
  · have hempty : d ∉ ((Session.start core memory).engine.syntaxes key).entries :=
      List.not_mem_nil
    rw [hduring.mem_syntaxes_iff hflight.above hD hstart hthen,
      hbefore.mem_syntaxes_iff (fun _ _ => Nat.zero_le _) hD (sound_start _ core memory) hfirst]
    simp only [Trail.landed_concat, Trail.not_landsNext_of_began hflight.began, hempty, or_false,
      false_or, or_and_right, exists_or]
  · intro last rest hlast hi hheight key d
    rw [hlast] at hafter
    cases hafter with
    | cons move _ =>
      have hx := hduring.sound hD hstart hthen
      exact hall.newly_listed_iff hflight hD hx move hi hheight key d

/-- A module stages a descriptor as an effect, and then tries it as an expression, which it is not.
Before the load lands it sees the effect among what it has staged, but no statement, and nothing
that is listed. Afterwards the descriptor is listed with the statements too. -/
theorem staging_isolated_and_cumulative_effect :
    let extra := Addon.ofName "Extra"
    let d := Descriptor.statement 1 0 "say"
    let greet : Module Unit :=
      .build (.statement "say") fun
        | .error e => .done (.error e)
        | .ok d => .stage rfl .effects d fun _ => .stage rfl .expressions d fun _ => .done (.ok ())
    let trail := life (.ofName "Core") [] () [.load extra [greet]]
    ∃ before start during last, trail = before ++ start :: (during ++ [last]) ∧
      Trail.Flight extra start during ∧ Trail.Genuine trail ∧
      ∃ m batch, during.getLast? = some m ∧ m.situation.frames = [.load extra batch] ∧
        batch.staged .effects = [d] ∧ batch.staged .statements = [] ∧
        d ∉ (m.situation.engine.syntaxes .statements).entries ∧
        d ∈ (last.situation.engine.syntaxes .statements).entries := by
  intro extra d greet trail
  let m : Fin 7 → Moment Unit := trail.get
  have hlife : trail = [m 0, m 1] ++ m 2 :: ([m 3, m 4, m 5] ++ [m 6]) := rfl
  have hflight : Trail.Flight extra (m 2) [m 3, m 4, m 5] := ⟨rfl, by decide⟩
  have hgenuine : Trail.Genuine trail := by
    show [d, d] ⊆ [d]
    simp
  have haccepted : Trail.acceptedAt (m 2).height [m 3, m 4, m 5] = [⟨.effects, d⟩] := rfl
  obtain ⟨⟨above, batch, hframes, hstaged⟩, hlists⟩ := staging_isolated_and_cumulative hlife hflight
  obtain ⟨-, hlands⟩ := hlists hgenuine
  rw [haccepted] at hstaged hlands
  obtain ⟨hlisted, hnew⟩ := (hlands (m 6) [] rfl rfl (by decide) .statements d).mpr
    ⟨⟨.effects, d⟩, List.mem_singleton_self _, rfl, .statements,
      List.mem_cons_of_mem _ List.mem_cons_self, rfl⟩
  have htop : [] ++ (m 5).situation.frames = above ++ [.load extra batch] := hframes
  obtain ⟨rfl, -⟩ := List.append_inj' htop rfl
  refine ⟨_, _, _, _, hlife, hflight, hgenuine, m 5, batch, rfl, hframes, ?_, ?_, hnew, hlisted⟩
  · rw [hstaged]
    rfl
  · rw [hstaged]
    rfl

end Session

end Phrasebook
