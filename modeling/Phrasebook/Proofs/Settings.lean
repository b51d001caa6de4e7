import Mathlib.Data.List.Basic
import Phrasebook.Proofs.Draws
/-!
# Phrasebook.Proofs.Settings

What a sequence of settings comes to, and that it does not matter on which draft they are made.

The settings that every kind of descriptor has can be made on the outline, before a category is
chosen, or on the draft of the category, among the settings of its own. A **script** is any such
sequence of calls. The two sorts of settings do not touch each other, so a script leads to the same
draft as if those of the first sort had all been made on the outline (`Script.run_eq`). And of these
only the patterns in their order, the last origin and the last priority are left
(`Outline.setAll_eq`).
-/

namespace Phrasebook

/-! ### Settings of the outline -/

namespace Setting

/-- The origin that the setting records. -/
def origin? : Setting → Option Origin
  | origin o => some o
  | _ => none

/-- The priority that the setting asks for. -/
def priority? : Setting → Option Priority
  | priority p => some p
  | _ => none

/-- The patterns that the setting adds. -/
def added : Setting → List String
  | pattern p => [p]
  | patterns ps => ps
  | _ => []

def allPatterns (xs : List Setting) : List String := xs.flatMap added

def lastOrigin (xs : List Setting) : Option Origin := (xs.filterMap origin?).getLast?

def lastPriority (xs : List Setting) : Option Priority := (xs.filterMap priority?).getLast?

end Setting

open Setting

namespace Outline

/-- Applies settings one after the other. -/
def setAll (o : Outline) (xs : List Setting) : Outline := xs.foldl set o

/-- **What settings come to.** Patterns add up; of the others the last one counts. -/
theorem setAll_eq (o : Outline) (xs : List Setting) :
    o.setAll xs =
      { o with
        origin := (lastOrigin xs).getD o.origin
        patterns := o.patterns ++ allPatterns xs
        priority := (lastPriority xs).or o.priority } := by
  induction xs generalizing o with
  | nil => simp [setAll, lastOrigin, allPatterns, lastPriority]
  | cons x rest ih =>
    have hrest : o.setAll (x :: rest) = (o.set x).setAll rest := rfl
    rw [hrest, ih]
    cases x with
    | origin v =>
      simp [set, lastOrigin, origin?, allPatterns, added, lastPriority, priority?,
        List.getLast?_cons]
    | pattern p =>
      simp [set, lastOrigin, origin?, allPatterns, added, lastPriority, priority?]
    | patterns ps =>
      simp [set, lastOrigin, origin?, allPatterns, added, lastPriority, priority?]
    | priority p =>
      simp [set, lastOrigin, origin?, allPatterns, added, lastPriority, priority?,
        List.getLast?_cons]

end Outline

/-! ### Settings of a category -/

/-- Calls of two sorts can be made sort by sort if neither sort sees what the other does. -/
theorem foldl_elim_eq {δ α β : Type} {f : δ → α → δ} {g : δ → β → δ}
    (hcomm : ∀ d x y, f (g d y) x = g (f d x) y) (calls : List (α ⊕ β)) (d : δ) :
    calls.foldl (fun d c => c.elim (f d) (g d)) d =
      (calls.filterMap Sum.getRight?).foldl g ((calls.filterMap Sum.getLeft?).foldl f d) := by
  induction calls generalizing d with
  | nil => rfl
  | cons c rest ih =>
    rw [List.foldl_cons, ih]
    cases c with
    | inl x => rfl
    | inr y =>
      have hpast : (rest.filterMap Sum.getLeft?).foldl f (g d y) =
          g ((rest.filterMap Sum.getLeft?).foldl f d) y :=
        List.foldl_hom (fun d => g d y) fun d x => hcomm d x y
      exact congrArg (fun d => (rest.filterMap Sum.getRight?).foldl g d) hpast

namespace ExpressionDraft

/-- A setting of the outline, or of the class. -/
def call (d : ExpressionDraft) (c : Setting ⊕ ExpressionType) : ExpressionDraft :=
  c.elim d.set d.setType

theorem foldl_set (o : Outline) (t : HostType) (xs : List Setting) :
    xs.foldl set (o.expression t) = (o.setAll xs).expression t :=
  List.foldl_hom (fun o : Outline => o.expression t) fun _ _ => rfl

theorem foldl_setType (d : ExpressionDraft) (types : List ExpressionType) :
    types.foldl setType d = { d with type := types.getLast?.or d.type } := by
  induction types generalizing d with
  | nil => rfl
  | cons type rest ih => rw [List.foldl_cons, ih, List.getLast?_cons, setType, Option.or_some]; rfl

end ExpressionDraft

namespace StructureDraft

/-- A setting of the outline, or of the validator. -/
def call (d : StructureDraft) (c : Setting ⊕ EntryValidator) : StructureDraft :=
  c.elim d.set d.setValidator

theorem foldl_set (o : Outline) (xs : List Setting) :
    xs.foldl set o.struct = (o.setAll xs).struct :=
  List.foldl_hom Outline.struct fun _ _ => rfl

theorem outline_foldl_setValidator (d : StructureDraft) (vs : List EntryValidator) :
    (vs.foldl setValidator d).outline = d.outline := by
  induction vs generalizing d with
  | nil => rfl
  | cons v rest ih => exact ih (d.setValidator v)

end StructureDraft

namespace EventDraft

/-- A setting of the outline, or of the event. -/
def call (d : EventDraft) (c : Setting ⊕ EventSetting) : EventDraft := c.elim d.set d.setEvent

theorem foldl_set (o : Outline) (name : String) (xs : List Setting) :
    xs.foldl set (o.event name) = (o.setAll xs).event name :=
  List.foldl_hom (fun o : Outline => o.event name) fun _ _ => rfl

theorem set_setEvent (d : EventDraft) (x : Setting) (y : EventSetting) :
    (d.setEvent y).set x = (d.set x).setEvent y := by
  cases y with
  | _ => rfl

theorem outline_setEvent (d : EventDraft) (y : EventSetting) :
    (d.setEvent y).outline = d.outline := by
  cases y with
  | _ => rfl

theorem outline_foldl_setEvent (d : EventDraft) (ys : List EventSetting) :
    (ys.foldl setEvent d).outline = d.outline := by
  induction ys generalizing d with
  | nil => rfl
  | cons y rest ih => rw [List.foldl_cons, ih, outline_setEvent]

end EventDraft

/-! ### Scripts -/

/-- The calls by which a draft comes about: settings of an outline and, if a category is chosen,
more of these and settings of the category in any order. -/
inductive Script
  | plain (base : List Setting)
  | expression (base : List Setting) (returnType : HostType)
      (calls : List (Setting ⊕ ExpressionType))
  | struct (base : List Setting) (calls : List (Setting ⊕ EntryValidator))
  | event (base : List Setting) (name : String) (calls : List (Setting ⊕ EventSetting))

/-- What a script has beside settings of the outline: the category that is chosen, with the settings
of its own. -/
inductive Category
  | plain
  | expression (returnType : HostType) (types : List ExpressionType)
  | struct (validators : List EntryValidator)
  | event (name : String) (own : List EventSetting)

namespace Script

/-- The draft at the end of the script. -/
def run (start : Outline) : Script → Draft
  | plain base => .plain (start.setAll base)
  | expression base t calls =>
    .expression (calls.foldl ExpressionDraft.call ((start.setAll base).expression t))
  | struct base calls => .struct (calls.foldl StructureDraft.call (start.setAll base).struct)
  | event base name calls => .event (calls.foldl EventDraft.call ((start.setAll base).event name))

/-- The settings of the outline in the order of the calls, on whichever draft they are made. -/
def settings : Script → List Setting
  | plain base => base
  | expression base _ calls => base ++ calls.filterMap Sum.getLeft?
  | struct base calls => base ++ calls.filterMap Sum.getLeft?
  | event base _ calls => base ++ calls.filterMap Sum.getLeft?

def category : Script → Category
  | plain _ => .plain
  | expression _ t calls => .expression t (calls.filterMap Sum.getRight?)
  | struct _ calls => .struct (calls.filterMap Sum.getRight?)
  | event _ name calls => .event name (calls.filterMap Sum.getRight?)

end Script

/-- The draft of that category that continues an outline and makes the settings of its own only. -/
def Category.draft (o : Outline) : Category → Draft
  | plain => .plain o
  | expression t types => .expression (types.foldl ExpressionDraft.setType (o.expression t))
  | struct validators => .struct (validators.foldl StructureDraft.setValidator o.struct)
  | event name own => .event (own.foldl EventDraft.setEvent (o.event name))

theorem Outline.setAll_append (o : Outline) (xs ys : List Setting) :
    o.setAll (xs ++ ys) = (o.setAll xs).setAll ys := List.foldl_append

/-- **It does not matter where settings are made.** A script leads where it would lead if all
settings of the outline had been made on the outline. -/
theorem Script.run_eq (start : Outline) (script : Script) :
    script.run start = script.category.draft (start.setAll script.settings) := by
  cases script with
  | plain base => rfl
  | expression base t calls =>
    have hcalls := foldl_elim_eq (f := ExpressionDraft.set) (g := ExpressionDraft.setType)
      (fun _ _ _ => rfl) calls ((start.setAll base).expression t)
    rw [ExpressionDraft.foldl_set, ← Outline.setAll_append] at hcalls
    exact congrArg Draft.expression hcalls
  | struct base calls =>
    have hcalls := foldl_elim_eq (f := StructureDraft.set) (g := StructureDraft.setValidator)
      (fun _ _ _ => rfl) calls (start.setAll base).struct
    rw [StructureDraft.foldl_set, ← Outline.setAll_append] at hcalls
    exact congrArg Draft.struct hcalls
  | event base name calls =>
    have hcalls := foldl_elim_eq EventDraft.set_setEvent calls ((start.setAll base).event name)
    rw [EventDraft.foldl_set, ← Outline.setAll_append] at hcalls
    exact congrArg Draft.event hcalls

/-! ### Builds -/

theorem Outline.finish_of_nil {o : Outline} (h : o.patterns = []) (p : Payload) (s : Supply) :
    o.finish p s = (.error (.emptyPatterns o.element.name), s) := by
  rw [finish, h]
  rfl

theorem Outline.finish_of_ne_nil {o : Outline} (h : o.patterns ≠ []) (p : Payload) (s : Supply) :
    ∃ x, (o.finish p s).1 = .ok x ∧ x.patterns = o.patterns ∧ x.origin = o.origin ∧
      x.priority = x.payload.settle (o.choosePriority s).1 := by
  rw [finish, if_neg (by simpa using h)]
  exact ⟨_, rfl, rfl, rfl, rfl⟩

namespace Category

/-- Nothing is amiss with the category itself: an expression has a value type to return, and its
class was set. -/
def Complete (c : Category) : Prop :=
  ∀ t types, c = .expression t types → t.isValueType = true ∧ types ≠ []

def isEvent : Category → Bool
  | event _ _ => true
  | _ => false

/-- The form in which a descriptor of the category keeps its patterns. -/
def stored (c : Category) (patterns : List String) : List String :=
  if c.isEvent then patterns.map Event.storedPattern else patterns

theorem stored_eq_nil_iff {c : Category} {patterns : List String} :
    c.stored patterns = [] ↔ patterns = [] := by
  unfold stored
  split
  · exact List.map_eq_nil_iff
  · exact Iff.rfl

/-- All that can be amiss with a complete category is that there are no patterns. -/
theorem build_of_complete {c : Category} (h : c.Complete) (o : Outline) :
    ∃ p, ∀ s,
      (c.draft o).build s = Outline.finish { o with patterns := c.stored o.patterns } p s := by
  cases c with
  | plain => exact ⟨.plain, fun _ => rfl⟩
  | expression t types =>
    obtain ⟨ht, htypes⟩ := h t types rfl
    refine ⟨.expression ⟨t, types.getLast htypes⟩, fun s => ?_⟩
    rw [draft, ExpressionDraft.foldl_setType, List.getLast?_eq_some_getLast htypes]
    simp only [Draft.build, ExpressionDraft.build, Outline.expression, ht, Option.some_or]
    rfl
  | struct validators =>
    let d := validators.foldl StructureDraft.setValidator o.struct
    refine ⟨.struct ⟨d.validator⟩, fun s => ?_⟩
    rw [draft, Draft.build, StructureDraft.build, StructureDraft.outline_foldl_setValidator]
    rfl
  | event name own =>
    let d := own.foldl EventDraft.setEvent (o.event name)
    refine ⟨.event d.info, fun s => ?_⟩
    rw [draft, Draft.build, EventDraft.build, EventDraft.outline_foldl_setEvent]
    rfl

theorem build_of_invalid {t : HostType} (ht : t.isValueType = false) (types : List ExpressionType)
    (o : Outline) (s : Supply) :
    ((expression t types).draft o).build s = (.error (.invalidReturnType t.name), s) := by
  rw [draft, ExpressionDraft.foldl_setType]
  simp only [Draft.build, ExpressionDraft.build, Outline.expression, ht]
  rfl

theorem build_of_classless {t : HostType} (ht : t.isValueType = true) (o : Outline) (s : Supply) :
    ((expression t []).draft o).build s =
      (.error (.missingField "expression" o.element.name "expression_type"), s) := by
  simp only [draft, List.foldl_nil, Draft.build, ExpressionDraft.build, Outline.expression, ht]
  rfl

/-- A category that is not complete is that of an expression with one of two faults. -/
theorem not_complete_cases {c : Category} (h : ¬ c.Complete) :
    (∃ t types, c = .expression t types ∧ t.isValueType = false) ∨
      ∃ t, c = .expression t [] ∧ t.isValueType = true := by
  simp only [Complete, not_forall] at h
  obtain ⟨t, types, rfl, hfault⟩ := h
  cases ht : t.isValueType with
  | false => exact Or.inl ⟨t, types, rfl, ht⟩
  | true =>
    have htypes : types = [] := by
      by_contra hne
      exact hfault ⟨ht, hne⟩
    exact Or.inr ⟨t, by rw [htypes], ht⟩

theorem build_of_nil {c : Category} (h : c.Complete) {o : Outline} (hnil : o.patterns = [])
    (s : Supply) : (c.draft o).build s = (.error (.emptyPatterns o.element.name), s) := by
  obtain ⟨p, hbuild⟩ := build_of_complete h o
  rw [hbuild, Outline.finish_of_nil (stored_eq_nil_iff.mpr hnil)]

theorem build_of_ne_nil {c : Category} (h : c.Complete) {o : Outline} (hne : o.patterns ≠ [])
    (s : Supply) :
    ∃ x, ((c.draft o).build s).1 = .ok x ∧ x.patterns = c.stored o.patterns ∧
      x.origin = o.origin ∧
      x.priority = x.payload.settle (o.priority.getD (.ofRank s.nextRank)) := by
  obtain ⟨p, hbuild⟩ := build_of_complete h o
  have hstored : c.stored o.patterns ≠ [] := fun hnil => hne (stored_eq_nil_iff.mp hnil)
  obtain ⟨x, hx, hpatterns, horigin, hpriority⟩ :=
    Outline.finish_of_ne_nil (o := { o with patterns := c.stored o.patterns }) hstored p s
  rw [Outline.fst_choosePriority] at hpriority
  exact ⟨x, by rw [hbuild, hx], hpatterns, horigin, hpriority⟩

/-- A build succeeds exactly if there are patterns and nothing is amiss with the category. -/
theorem build_ok_iff {c : Category} {o : Outline} {s : Supply} :
    (∃ x, ((c.draft o).build s).1 = .ok x) ↔ o.patterns ≠ [] ∧ c.Complete := by
  constructor
  · rintro ⟨x, hx⟩
    have hcomplete : c.Complete := by
      by_contra hfault
      rcases not_complete_cases hfault with ⟨t, types, rfl, ht⟩ | ⟨t, rfl, ht⟩
      · rw [build_of_invalid ht] at hx
        cases hx
      · rw [build_of_classless ht] at hx
        cases hx
    refine ⟨fun hnil => ?_, hcomplete⟩
    rw [build_of_nil hcomplete hnil] at hx
    cases hx
  · intro h
    obtain ⟨x, hx, -⟩ := build_of_ne_nil h.2 h.1 s
    exact ⟨x, hx⟩

end Category

/-- What settings make of an outline on which nothing was set before. -/
theorem Outline.setAll_of_unset (element : HostType) (factory : Factory) (customFactory : Bool)
    (xs : List Setting) :
    Outline.setAll ⟨element, factory, customFactory, .unknown, [], none⟩ xs =
      ⟨element, factory, customFactory, (Setting.lastOrigin xs).getD .unknown,
        Setting.allPatterns xs, Setting.lastPriority xs⟩ := by
  rw [Outline.setAll_eq, Option.or_none, List.nil_append]

/-- **Settings.** What a script is built into depends on the patterns in the order of the calls, on
the last origin and the last priority, beside the category with the settings of its own. The build
succeeds if there are patterns and the category is complete; else the return type is blamed first,
then the missing class, then the patterns. A descriptor has all these patterns, each of them in its
stored form for an event and as it is for all others. -/
theorem settings_made_anywhere (element : HostType) (factory : Factory) (customFactory : Bool)
    (a : Script) :
    let start : Outline := ⟨element, factory, customFactory, .unknown, [], none⟩
    let patterns := Setting.allPatterns a.settings
    (∀ b : Script, b.category = a.category → Setting.allPatterns b.settings = patterns →
      Setting.lastOrigin b.settings = Setting.lastOrigin a.settings →
      Setting.lastPriority b.settings = Setting.lastPriority a.settings →
      ∀ s, (b.run start).build s = (a.run start).build s) ∧
    ∀ s,
      ((∃ x, ((a.run start).build s).1 = .ok x) ↔ patterns ≠ [] ∧ a.category.Complete) ∧
      (∀ t types, a.category = .expression t types → t.isValueType = false →
        (a.run start).build s = (.error (.invalidReturnType t.name), s)) ∧
      (∀ t, a.category = .expression t [] → t.isValueType = true →
        (a.run start).build s =
          (.error (.missingField "expression" element.name "expression_type"), s)) ∧
      (a.category.Complete → patterns = [] →
        (a.run start).build s = (.error (.emptyPatterns element.name), s)) ∧
      ∀ x, ((a.run start).build s).1 = .ok x →
        x.patterns = (if a.category.isEvent then patterns.map Event.storedPattern else patterns) ∧
        x.patterns ≠ [] ∧
        x.origin = (Setting.lastOrigin a.settings).getD .unknown ∧
        x.priority = x.payload.settle
          ((Setting.lastPriority a.settings).getD (.ofRank s.nextRank)) := by
  intro start patterns
  -- the draft that all other statements are about
  have hrun (b : Script) : b.run start = b.category.draft
      ⟨element, factory, customFactory, (Setting.lastOrigin b.settings).getD .unknown,
        Setting.allPatterns b.settings, Setting.lastPriority b.settings⟩ := by
    rw [Script.run_eq, Outline.setAll_of_unset]
  refine ⟨?same, fun s => ?_⟩
  case same =>
    intro b hcategory hpatterns horigin hpriority s
    rw [hrun, hrun, hcategory, hpatterns, horigin, hpriority]
  rw [hrun a]
  refine ⟨Category.build_ok_iff, ?_, ?_, fun hcomplete hnil => ?_, fun x hx => ?_⟩
  · intro t types hcategory ht
    rw [hcategory, Category.build_of_invalid ht]
  · intro t hcategory ht
    rw [hcategory, Category.build_of_classless ht]
  · exact Category.build_of_nil hcomplete hnil s
  · obtain ⟨hne, hcomplete⟩ := Category.build_ok_iff.mp ⟨x, hx⟩
    obtain ⟨y, hy, hpatterns, horigin, hpriority⟩ := Category.build_of_ne_nil hcomplete hne s
    obtain rfl : x = y := Except.ok.inj (hx.symm.trans hy)
    refine ⟨hpatterns, ?_, horigin, hpriority⟩
    rw [hpatterns]
    exact fun hnil => hne (Category.stored_eq_nil_iff.mp hnil)

/-- An event with settings on both drafts, one of them between settings of its own, and the same
event with all settings on the outline. The origin and the priority that come last are what counts,
and the pattern from before the event was chosen is stored like the other. -/
theorem settings_made_anywhere_event :
    let start := Outline.ofElement ⟨⟨"Join"⟩, 0⟩
    let parted : Script := .event [.pattern "join", .priority (.ofRank 4), .origin (.addon "Chat")]
      "join" [.inl (.priority (.ofRank 2)), .inr (.since "1.0"), .inl (.pattern "enter %world%"),
        .inl (.origin (.addon "Core"))]
    let whole : Script := .event
      [.origin (.addon "Core"), .patterns ["join", "enter %world%"], .priority (.ofRank 2)]
      "join" [.inr (.since "1.0")]
    (parted.run start).build .fresh = (whole.run start).build .fresh ∧
      ∃ x, ((parted.run start).build .fresh).1 = .ok x ∧
        x.patterns = [Event.storedPattern "join", Event.storedPattern "enter %world%"] ∧
        x.origin = .addon "Core" ∧ x.priority = .ofRank 2 := by
  intro start parted whole
  obtain ⟨hsame, hbuild⟩ := settings_made_anywhere ⟨"Join"⟩ (.always ⟨⟨"Join"⟩, 0⟩) false parted
  obtain ⟨hok, -, -, -, hall⟩ := hbuild .fresh
  have hcomplete : parted.category.Complete := by
    intro t types h
    cases h
  obtain ⟨x, hx⟩ := hok.mpr ⟨by decide, hcomplete⟩
  obtain ⟨hpatterns, -, horigin, hpriority⟩ := hall x hx
  have hpayload := Draft.payload?_of_build hx
  refine ⟨(hsame whole rfl rfl rfl rfl .fresh).symm, x, hx, hpatterns, horigin, ?_⟩
  rw [hpriority, ← Option.some.inj hpayload]
  rfl

end Phrasebook
