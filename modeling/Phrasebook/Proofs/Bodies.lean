import Phrasebook.Entry
/-!
# Phrasebook.Proofs.Bodies

What a slot holds after any number of bodies was offered to it.

One offer has two outcomes: a body that is accepted replaces what the slot holds, and one that is
refused leaves it alone (`EntrySlot.fill_cases`). So however accepted and refused bodies follow one
another, the slot holds the last one that was accepted (`EntrySlot.holdsLast_fillAll`), and nothing
of those refused since then.
-/

namespace Phrasebook

/-- A body, and the validator that decides about it if there is one. Every offer brings a verdict of
its own, so that the same body may be accepted once and refused the next time. -/
structure Offer where
  validator : Option EntryValidator
  entries : List Entry

/-- The offer is accepted, and this is the container that the slot gets. Without a validator all
entries are left to the structure. -/
inductive Offer.Yields : Offer → EntryContainer → Prop
  | unvalidated (entries : List Entry) : Yields ⟨none, entries⟩ ⟨[], entries⟩
  | validated {v : EntryValidator} {entries : List Entry} {c : EntryContainer}
      (accepted : v.validate entries = some c) : Yields ⟨some v, entries⟩ c

/-! ### Looking up claimed entries -/

namespace EntryContainer

variable {c : EntryContainer} {key value : String}

/-- What is found is the value of the first claimed entry of that key. -/
theorem get?_eq_some_iff :
    c.get? key = some value ↔
      ∃ before e after, c.entries = before ++ e :: after ∧ e.key = key ∧ e.value = value ∧
        ∀ x ∈ before, x.key ≠ key := by
  rw [get?, Option.map_eq_some_iff]
  constructor
  · rintro ⟨e, he, hvalue⟩
    obtain ⟨hkey, before, after, hentries, hbefore⟩ := List.find?_eq_some_iff_append.mp he
    exact ⟨before, e, after, hentries, by simpa using hkey, hvalue, by simpa using hbefore⟩
  · rintro ⟨before, e, after, hentries, hkey, hvalue, hbefore⟩
    refine ⟨e, List.find?_eq_some_iff_append.mpr ⟨by simpa using hkey, before, after, hentries, ?_⟩,
      hvalue⟩
    simpa using hbefore

theorem get?_eq_none_iff : c.get? key = none ↔ ∀ e ∈ c.entries, e.key ≠ key := by
  simp [get?]

end EntryContainer

namespace EntrySlot

variable {s t : EntrySlot} {o : Offer} {c : EntryContainer} {calls : List (Offer × Bool)}

/-! ### One offer -/

theorem judge_eq_some_iff : judge o.validator o.entries = some c ↔ o.Yields c := by
  obtain ⟨v | v, entries⟩ := o
  · constructor
    · intro h
      cases h
      exact .unvalidated entries
    · rintro ⟨⟩
      rfl
  · constructor
    · exact .validated
    · rintro ⟨⟩
      assumption

/-- **One offer.** A body that is accepted takes the place of what the slot holds, and one that is
refused leaves the slot as it is. -/
theorem fill_cases (s : EntrySlot) (o : Offer) :
    (∃ c, o.Yields c ∧ s.fill o.validator o.entries = (true, ⟨some c⟩)) ∨
      (∀ c, ¬ o.Yields c) ∧ s.fill o.validator o.entries = (false, s) := by
  rw [fill]
  cases h : judge o.validator o.entries with
  | some c => exact .inl ⟨c, judge_eq_some_iff.mp h, rfl⟩
  | none =>
    refine .inr ⟨fun c hc => ?_, rfl⟩
    rw [judge_eq_some_iff.mpr hc] at h
    cases h

theorem fst_fill_eq_true_iff :
    (s.fill o.validator o.entries).1 = true ↔ ∃ c, o.Yields c := by
  rcases s.fill_cases o with ⟨c, hc, hfill⟩ | ⟨hno, hfill⟩
  · rw [hfill]
    exact iff_of_true rfl ⟨c, hc⟩
  · rw [hfill]
    exact iff_of_false Bool.false_ne_true fun ⟨c, hc⟩ => hno c hc

theorem snd_fill_of_refused (h : (s.fill o.validator o.entries).1 = false) :
    (s.fill o.validator o.entries).2 = s := by
  rcases s.fill_cases o with ⟨c, -, hfill⟩ | ⟨-, hfill⟩
  · rw [hfill] at h
    cases h
  · rw [hfill]

/-! ### Many offers -/

/-- Makes offers one after the other. The outcome is each of them with the answer to it, and the
slot in the end. -/
def fillAll (s : EntrySlot) : List Offer → List (Offer × Bool) × EntrySlot
  | [] => ([], s)
  | o :: rest =>
    let (answer, t) := s.fill o.validator o.entries
    let (calls, u) := t.fillAll rest
    ((o, answer) :: calls, u)

theorem fillAll_cons {answer : Bool} (h : s.fill o.validator o.entries = (answer, t))
    (rest : List Offer) :
    s.fillAll (o :: rest) = ((o, answer) :: (t.fillAll rest).1, (t.fillAll rest).2) := by
  rw [fillAll, h]

/-- All offers are made, in their order. -/
theorem map_fst_fillAll (s : EntrySlot) (offers : List Offer) :
    (s.fillAll offers).1.map Prod.fst = offers := by
  induction offers generalizing s with
  | nil => rfl
  | cons o rest ih => rw [fillAll, List.map_cons, ih]

/-- The answer is yes to exactly those offers that yield a container. -/
theorem answer_iff_of_mem_fillAll {call : Offer × Bool} {offers : List Offer}
    (h : call ∈ (s.fillAll offers).1) : call.2 = true ↔ ∃ c, call.1.Yields c := by
  induction offers generalizing s with
  | nil => cases h
  | cons o rest ih =>
    rw [fillAll] at h
    rcases List.mem_cons.mp h with rfl | h
    · exact fst_fill_eq_true_iff
    · exact ih h

/-- A list of calls has one last acceptance, however it is split there. -/
theorem getLast?_filter_accepted {later : List (Offer × Bool)} (earlier : List (Offer × Bool))
    (o : Offer) (refused : ∀ call ∈ later, call.2 = false) :
    ((earlier ++ (o, true) :: later).filter Prod.snd).getLast? = some (o, true) := by
  have hlater : later.filter Prod.snd = [] :=
    List.filter_eq_nil_iff.mpr fun call hcall => by simp [refused call hcall]
  rw [List.filter_append, List.filter_cons_of_pos rfl, hlater, List.getLast?_concat]

/-- What a slot holds after these calls: the container of the last one that was accepted. If none
was, it still is the slot of the `start`. -/
inductive HoldsLast (start : EntrySlot) : List (Offer × Bool) → EntrySlot → Prop
  | start {calls : List (Offer × Bool)} (refused : ∀ call ∈ calls, call.2 = false) :
      HoldsLast start calls start
  | last {o : Offer} {c : EntryContainer} {later : List (Offer × Bool)}
      (earlier : List (Offer × Bool)) (accepted : o.Yields c)
      (refused : ∀ call ∈ later, call.2 = false) :
      HoldsLast start (earlier ++ (o, true) :: later) ⟨some c⟩

namespace HoldsLast

theorem cons_of_refused (h : HoldsLast s calls t) (o : Offer) :
    HoldsLast s ((o, false) :: calls) t := by
  cases h with
  | start refused => exact .start (List.forall_mem_cons.mpr ⟨rfl, refused⟩)
  | last earlier accepted refused => exact .last ((o, false) :: earlier) accepted refused

theorem cons_of_accepted (h : HoldsLast ⟨some c⟩ calls t) (hc : o.Yields c) (s : EntrySlot) :
    HoldsLast s ((o, true) :: calls) t := by
  cases h with
  | start refused => exact .last [] hc refused
  | last earlier accepted refused => exact .last ((o, true) :: earlier) accepted refused

theorem yields {earlier later : List (Offer × Bool)}
    (h : HoldsLast s (earlier ++ (o, true) :: later) t)
    (hlater : ∀ call ∈ later, call.2 = false) : ∃ c, o.Yields c ∧ t = ⟨some c⟩ := by
  -- the calls are split where `h` splits them, which is the same acceptance
  generalize hcalls : earlier ++ (o, true) :: later = calls at h
  have hlast := getLast?_filter_accepted earlier o hlater
  rw [hcalls] at hlast
  cases h with
  | start refused =>
    have hmem : (o, true) ∈ calls := hcalls ▸ List.mem_append_right _ List.mem_cons_self
    cases refused _ hmem
  | last earlier' accepted refused =>
    rw [getLast?_filter_accepted earlier' _ refused] at hlast
    obtain ⟨rfl, -⟩ := Prod.mk.inj (Option.some.inj hlast)
    exact ⟨_, accepted, rfl⟩

/-- A slot that was empty is read with an error as long as no body was accepted. -/
theorem contents_eq_error_iff (h : HoldsLast empty calls t) :
    t.contents = .error (.uninitialized "structure entry container") ↔
      ∀ call ∈ calls, call.2 = false := by
  cases h with
  | start refused => exact iff_of_true rfl refused
  | last earlier accepted refused =>
    refine iff_of_false (fun h => by cases h) fun hall => ?_
    cases hall _ (List.mem_append_right earlier List.mem_cons_self)

end HoldsLast

/-- **All offers.** The slot holds the last body that was accepted. -/
theorem holdsLast_fillAll (s : EntrySlot) (offers : List Offer) :
    HoldsLast s (s.fillAll offers).1 (s.fillAll offers).2 := by
  induction offers generalizing s with
  | nil => exact .start fun _ h => by cases h
  | cons o rest ih =>
    rcases s.fill_cases o with ⟨c, hc, hfill⟩ | ⟨-, hfill⟩
    · rw [fillAll_cons hfill]
      exact (ih ⟨some c⟩).cons_of_accepted hc s
    · rw [fillAll_cons hfill]
      exact (ih s).cons_of_refused o

/-- **A slot holds the last accepted body.** After any offers, all of which are made and get a yes
exactly if they yield a container, the slot that was empty at first is read as the container of the
last one that got a yes, and with an error if none did. An offer that gets a no changes no slot. A
body that was accepted without a validator has all its entries left to the structure, in their
order. In any container, what is found under a key is the value of the first claimed entry of that
key, or nothing if there is none, and the entries left to the structure have no say in it. -/
theorem contents_last_accepted (offers : List Offer) :
    let calls := (empty.fillAll offers).1
    let slot := (empty.fillAll offers).2
    (calls.map Prod.fst = offers ∧ ∀ call ∈ calls, call.2 = true ↔ ∃ c, call.1.Yields c) ∧
    (∀ earlier o later, calls = earlier ++ (o, true) :: later →
      (∀ call ∈ later, call.2 = false) →
      ∃ c, o.Yields c ∧ slot.contents = .ok c ∧
        (o.validator = none → c.entries = [] ∧ c.unhandled = o.entries)) ∧
    (slot.contents = .error (.uninitialized "structure entry container") ↔
      ∀ call ∈ calls, call.2 = false) ∧
    (∀ (s : EntrySlot) (validator : Option EntryValidator) (entries : List Entry),
      (s.fill validator entries).1 = false → (s.fill validator entries).2 = s) ∧
    ∀ (c : EntryContainer) (key : String),
      (∀ value, c.get? key = some value ↔
        ∃ before e after, c.entries = before ++ e :: after ∧ e.key = key ∧ e.value = value ∧
          ∀ x ∈ before, x.key ≠ key) ∧
      (c.get? key = none ↔ ∀ e ∈ c.entries, e.key ≠ key) ∧
      ∀ unhandled, EntryContainer.get? { c with unhandled } key = c.get? key := by
  intro calls slot
  have hholds : HoldsLast empty calls slot := holdsLast_fillAll empty offers
  refine ⟨⟨map_fst_fillAll empty offers, fun call => answer_iff_of_mem_fillAll⟩, ?last,
    hholds.contents_eq_error_iff, ?refused, fun c key => ?found⟩
  case last =>
    intro earlier o later hcalls hlater
    rw [hcalls] at hholds
    obtain ⟨c, hc, hslot⟩ := hholds.yields hlater
    refine ⟨c, hc, by rw [hslot]; rfl, fun hnone => ?_⟩
    cases hc with
    | unvalidated entries => exact ⟨rfl, rfl⟩
    | validated accepted => cases hnone
  case refused =>
    intro s validator entries h
    exact snd_fill_of_refused (o := ⟨validator, entries⟩) h
  case found =>
    exact ⟨fun value => EntryContainer.get?_eq_some_iff, EntryContainer.get?_eq_none_iff,
      fun unhandled => rfl⟩

/-- A body that is refused behind two that were accepted. Of the two the later one is what counts,
with the first of its two names, and there is no trace of the one that was refused. -/
theorem contents_last_accepted_then_refused :
    let validate (entries : List Entry) : Option EntryContainer :=
      if entries.any fun e => e.key = "reject" then none
      else some ⟨entries.filter fun e => e.key = "name", entries.filter fun e => e.key ≠ "name"⟩
    let validator : EntryValidator := ⟨"spawn", "SpawnValidator", validate⟩
    let free : Offer := ⟨none, [⟨"reject", "yes"⟩, ⟨"name", "free"⟩]⟩
    let good : Offer := ⟨some validator, [⟨"name", "a"⟩, ⟨"other", "x"⟩, ⟨"name", "b"⟩]⟩
    let bad : Offer := ⟨some validator, [⟨"name", "c"⟩, ⟨"reject", "yes"⟩]⟩
    let calls := (empty.fillAll [bad, free, good, bad]).1
    let slot := (empty.fillAll [bad, free, good, bad]).2
    calls = [(bad, false), (free, true)] ++ (good, true) :: [(bad, false)] ∧
      (∀ call ∈ [(bad, false)], call.2 = false) ∧
      ∃ c, slot.contents = .ok c ∧ c.get? "name" = some "a" ∧ c.get? "other" = none := by
  intro validate validator free good bad calls slot
  have hcalls : calls = [(bad, false), (free, true)] ++ (good, true) :: [(bad, false)] := rfl
  have hlater : ∀ call ∈ [(bad, false)], call.2 = false := List.forall_mem_singleton.mpr rfl
  obtain ⟨-, hlast, -, -, hfound⟩ := contents_last_accepted [bad, free, good, bad]
  obtain ⟨c, hc, hcontents, -⟩ := hlast _ good _ hcalls hlater
  refine ⟨hcalls, hlater, c, hcontents, ?_⟩
  obtain rfl := Option.some.inj (judge_eq_some_iff.mpr hc)
  refine ⟨((hfound _ "name").1 "a").mpr ?_, (hfound _ "other").2.1.mpr (by decide)⟩
  exact ⟨[], ⟨"name", "a"⟩, [⟨"name", "b"⟩], rfl, rfl, rfl, by simp⟩

end EntrySlot

end Phrasebook
