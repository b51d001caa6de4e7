import Mathlib.Data.List.Nodup
import Phrasebook.Draft
/-!
# Phrasebook.Proofs.Builds

Sequences of builds, and what an id tells about the descriptor that bears it.

A build either fails and draws nothing, or yields a descriptor with the next id of the supply
(`Draft.build_cases`). So the descriptors of a sequence of builds are numbered one after the other
(`Draft.ids_produce`), and an id determines the descriptor (`Draft.toldApart_produce`). Registers
rely on this: they look for a descriptor at its place, but take it out again by its id alone.
-/

namespace Phrasebook

/-- Among the descriptors of `D`, an id belongs to one descriptor only. -/
def ToldApart (D : Descriptor → Prop) : Prop :=
  ∀ ⦃a b : Descriptor⦄, D a → D b → a.id = b.id → a = b

theorem toldApart_eq (d : Descriptor) : ToldApart (· = d) := fun _ _ ha hb _ => ha.trans hb.symm

/-! ### One build -/

theorem Outline.nextId_choosePriority (o : Outline) (s : Supply) :
    (o.choosePriority s).2.nextId = s.nextId := by
  rw [choosePriority]
  cases o.priority <;> rfl

/-- The supply after the draws of a build: an id, and a rank unless a priority is asked for. -/
def Outline.drawn (o : Outline) (s : Supply) : Supply := (o.choosePriority s).2.drawId.2

@[simp] theorem Outline.nextId_drawn (o : Outline) (s : Supply) :
    (o.drawn s).nextId = s.nextId + 1 :=
  congrArg (· + 1) (o.nextId_choosePriority s)

theorem Outline.nextRank_drawn (o : Outline) (s : Supply) :
    (o.drawn s).nextRank = if o.priority.isNone then s.nextRank + 1 else s.nextRank := by
  rw [drawn, choosePriority]
  cases o.priority <;> rfl

/-- The last check of a build is that for patterns. What follows draws. -/
theorem Outline.finish_cases (o : Outline) (p : Payload) (s : Supply) :
    (∃ e, o.finish p s = (.error e, s)) ∨
      ∃ x, o.finish p s = (.ok x, o.drawn s) ∧ x.id = s.nextId ∧
        x.priority = p.settle (o.choosePriority s).1 := by
  rw [finish]
  split
  · exact Or.inl ⟨_, rfl⟩
  · exact Or.inr ⟨_, rfl, o.nextId_choosePriority s, rfl⟩

namespace Draft

/-- What the draft has like every other. -/
def outline : Draft → Outline
  | plain o => o
  | expression d => d.outline
  | struct d => d.outline
  | event d => d.outline

/-- The category of the class that was set for an expression. -/
def category : Draft → UInt8
  | expression d => (d.type.map ExpressionType.ordinal).getD 0
  | _ => 0

/-- The priority that the descriptor has if `p` was asked for or drawn. -/
def settle : Draft → Priority → Priority
  | expression d, p => p.inCategory (expression d).category
  | _, p => p

@[simp] theorem settle_ofRank (d : Draft) (rank : UInt32) :
    d.settle (.ofRank rank) = ⟨d.category, rank⟩ := by
  cases d <;> rfl

/-- A build fails and leaves the supply alone, or draws what the descriptor that it yields bears. -/
theorem build_cases (d : Draft) (s : Supply) :
    (∃ e, d.build s = (.error e, s)) ∨
      ∃ x, d.build s = (.ok x, d.outline.drawn s) ∧ x.id = s.nextId ∧
        x.priority = d.settle (d.outline.choosePriority s).1 := by
  cases d with
  | plain o => exact o.finish_cases _ s
  | expression d =>
    rw [build, ExpressionDraft.build, settle, category]
    split
    · exact Or.inl ⟨_, rfl⟩
    · cases d.type with
      | none => exact Or.inl ⟨_, rfl⟩
      | some type => exact d.outline.finish_cases _ s
  | struct d => exact d.outline.finish_cases _ s
  | event d => exact Outline.finish_cases _ _ s

end Draft

/-! ### Many builds -/

/-- The descriptors out of builds made one after the other. A build that fails yields none. -/
def Draft.produce : List Draft → Supply → List Descriptor
  | [], _ => []
  | d :: rest, s =>
    match d.build s with
    | (.ok x, s) => x :: produce rest s
    | (.error _, s) => produce rest s

namespace Draft

theorem produce_cons_of_ok {d : Draft} {s s' : Supply} {x : Descriptor}
    (h : d.build s = (.ok x, s')) (rest : List Draft) :
    produce (d :: rest) s = x :: produce rest s' := by
  rw [produce, h]

theorem produce_cons_of_error {d : Draft} {s s' : Supply} {e : RegistryError}
    (h : d.build s = (.error e, s')) (rest : List Draft) :
    produce (d :: rest) s = produce rest s' := by
  rw [produce, h]

/-- The descriptors of a sequence of builds are numbered one after the other. -/
theorem ids_produce (ds : List Draft) (s : Supply) :
    (produce ds s).map Descriptor.id = List.range' s.nextId (produce ds s).length := by
  induction ds generalizing s with
  | nil => rfl
  | cons d rest ih =>
    rcases d.build_cases s with ⟨e, h⟩ | ⟨x, h, hid, -⟩
    · rw [produce_cons_of_error h]
      exact ih s
    · rw [produce_cons_of_ok h, List.map_cons, List.length_cons, List.range'_succ, ih, hid,
        Outline.nextId_drawn]

/-- No two descriptors of a sequence of builds share an id. -/
theorem toldApart_produce (ds : List Draft) (s : Supply) :
    ToldApart fun d => d ∈ produce ds s := by
  have hnodup : ((produce ds s).map Descriptor.id).Nodup := by
    rw [ids_produce]
    exact List.nodup_range'
  intro a b ha hb hid
  exact List.inj_on_of_nodup_map hnodup ha hb hid

end Draft

/-! ### Productions with one pattern -/

/-- A statement with one pattern, in the making. -/
def Draft.statement (pattern : String) : Draft :=
  .plain ((Outline.ofElement ⟨⟨"Say"⟩, 0⟩).set (.pattern pattern))

/-- What such a draft is built into. -/
def Descriptor.statement (id : Nat) (rank : UInt32) (pattern : String) : Descriptor where
  id := id
  origin := .unknown
  element := ⟨"Say"⟩
  factory := .always ⟨⟨"Say"⟩, 0⟩
  customFactory := false
  patterns := [pattern]
  priority := .ofRank rank
  payload := .plain

/-- Two statements built one after the other. -/
theorem Draft.produce_statements (p q : String) :
    produce [.statement p, .statement q] .fresh = [.statement 1 0 p, .statement 2 1 q] := rfl

/-- An expression with one pattern that asks for a rank, in the making. -/
def Draft.phrase (type : ExpressionType) (rank : UInt32) (pattern : String) : Draft :=
  let o := ((Outline.ofElement ⟨⟨"Say"⟩, 0⟩).set (.pattern pattern)).set (.priority (.ofRank rank))
  .expression ((o.expression ⟨"Text"⟩).setType type)

/-- What such a draft is built into, if that is the priority it comes to have. -/
def Descriptor.phrase (id : Nat) (type : ExpressionType) (p : Priority) (pattern : String) :
    Descriptor :=
  { Descriptor.statement id p.rank pattern with
    priority := p
    payload := .expression ⟨⟨"Text"⟩, type⟩ }

end Phrasebook
