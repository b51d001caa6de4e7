import Mathlib.Data.List.Infix
import Phrasebook.Draft
/-!
# Phrasebook.Proofs.TypeForms

Which host types pass for values, told from the form of the type.

A host type is known by its full name only, and whether its values can be the result of an
expression is decided from how the name begins. `TypeForm` is the grammar of such names. The formers
of structural types are recognised one by one by what they put in front, and a nominal type is
recognised by none of them, because the first sign in a path is a colon or an angle bracket
(`TypePath.startsPath_text`).

One way to begin is missing. A function pointer begins with `fn(` only if it has no qualifiers. One
that is unsafe, or has a calling convention of its own, has these in front and passes for a value
(`TypeForm.result_type_iff`).
-/

namespace Phrasebook

/-! ### The grammar of type names -/

/-- The scalar types that the host language has built in. -/
inductive Primitive
  | bool | char | str
  | i8 | i16 | i32 | i64 | i128 | isize
  | u8 | u16 | u32 | u64 | u128 | usize
  | f32 | f64
  | never
deriving DecidableEq

namespace Primitive

def name : Primitive → String
  | bool => "bool"
  | char => "char"
  | str => "str"
  | i8 => "i8"
  | i16 => "i16"
  | i32 => "i32"
  | i64 => "i64"
  | i128 => "i128"
  | isize => "isize"
  | u8 => "u8"
  | u16 => "u16"
  | u32 => "u32"
  | u64 => "u64"
  | u128 => "u128"
  | usize => "usize"
  | f32 => "f32"
  | f64 => "f64"
  | never => "!"

end Primitive

/-- Whether the character is one of those that set the parts of a type's name apart. -/
def isTypeSign (c : Char) : Bool := " :<>()[]&*,;+=-.!'\"".toList.contains c

/-- A word of a path. -/
structure PathWord where
  text : String
  text_ne : text ≠ ""
  plain : text.toList.any isTypeSign = false

mutual

/-- The form of a host type. -/
inductive TypeForm
  | primitive (p : Primitive)
  /-- A type with a name of its own, which stands in a crate, a module or another item. -/
  | nominal (parent : TypePath) (word : PathWord) (args : List TypeArgument)
  | slice (item : TypeForm)
  | array (item : TypeForm) (length : String)
  /-- Without items, the unit type. -/
  | tuple (items : List TypeForm)
  /-- A reference, whose lifetime is shown if it is bound by a function around it. -/
  | reference (bound isMutable : Bool) (target : TypeForm)
  | pointer (isMutable : Bool) (target : TypeForm)
  | function (isUnsafe : Bool) (convention : Option String) (parameters : List TypeForm)
    (isVariadic : Bool) (result : TypeForm)
  /-- A trait object, whose lifetime is shown if it is bound by a function around it. -/
  | object (bounds : List TraitBound) (bound : Bool)

/-- What the word of a nominal type can stand behind. -/
inductive TypePath
  | crate (word : PathWord)
  /-- The implementation of a trait, where the type or the trait stands. -/
  | implementation (self : TypeForm) (trait : TypePath)
  | item (parent : TypePath) (word : PathWord) (args : List TypeArgument)
  /-- An implementation that stands elsewhere. -/
  | block (parent : TypePath) (self : TypeForm)
  /-- The implementation of a trait that stands elsewhere. -/
  | traitBlock (parent : TypePath) (self : TypeForm) (trait : TypePath)

/-- A generic argument. -/
inductive TypeArgument
  /-- A lifetime that is bound by a function around it. No other is shown. -/
  | lifetime
  | type (t : TypeForm)
  | const (text : String)
  /-- What an associated type of a trait is. -/
  | associated (word : PathWord) (t : TypeForm)

/-- One of the traits of a trait object. -/
inductive TraitBound
  | plain (trait : TypePath)
  /-- A trait of functions, with what they take and give. -/
  | call (trait : TypePath) (parameters : List TypeForm) (result : TypeForm)

end

namespace TypeForm

def isUnit : TypeForm → Bool
  | tuple [] => true
  | _ => false

def isNominal : TypeForm → Bool
  | nominal _ _ _ => true
  | _ => false

/-- Whether the type is a function pointer that is unsafe or has a calling convention of its own. -/
def isQualifiedFunction : TypeForm → Bool
  | function isUnsafe convention _ _ _ => isUnsafe || convention.isSome
  | _ => false

/-- What stands in front of a function pointer with that calling convention. -/
def conventionText : Option String → String
  | none => ""
  | some c => "extern \"" ++ (c ++ "\" ")

end TypeForm

mutual

/-- The full name. -/
def TypeForm.name : TypeForm → String
  | .primitive p => p.name
  | .nominal parent word args => parent.text ++ ("::" ++ (word.text ++ TypeArgument.listText args))
  | .slice item => "[" ++ (item.name ++ "]")
  | .array item length => "[" ++ (item.name ++ "; " ++ length ++ "]")
  | .tuple items =>
    "(" ++ (", ".intercalate (TypeForm.names items) ++ if items.length = 1 then ",)" else ")")
  | .reference bound isMutable target =>
    "&" ++ ((if bound then "'_ " else "") ++ (if isMutable then "mut " else "") ++ target.name)
  | .pointer isMutable target => "*" ++ ((if isMutable then "mut " else "const ") ++ target.name)
  | .function isUnsafe convention parameters isVariadic result =>
    let shown := TypeForm.names parameters ++ if isVariadic then ["..."] else []
    (if isUnsafe then "unsafe " else "") ++ (TypeForm.conventionText convention ++
      ("fn(" ++ (", ".intercalate shown ++ ")" ++
        if result.isUnit then "" else " -> " ++ result.name)))
  | .object bounds false => "dyn " ++ " + ".intercalate (TraitBound.texts bounds)
  | .object bounds true =>
    "(" ++ ("dyn " ++ " + ".intercalate (TraitBound.texts bounds) ++ " + '_)")

def TypeForm.names : List TypeForm → List String
  | [] => []
  | t :: ts => t.name :: TypeForm.names ts

def TypePath.text : TypePath → String
  | .crate word => word.text
  | .implementation self trait => "<" ++ (self.name ++ " as " ++ trait.text ++ ">")
  | .item parent word args => parent.text ++ ("::" ++ (word.text ++ TypeArgument.listText args))
  | .block parent self => parent.text ++ ("::" ++ ("<impl " ++ self.name ++ ">"))
  | .traitBlock parent self trait =>
    parent.text ++ ("::" ++ ("<impl " ++ trait.text ++ " for " ++ self.name ++ ">"))

def TypeArgument.text : TypeArgument → String
  | .lifetime => "'_"
  | .type t => t.name
  | .const text => text
  | .associated word t => word.text ++ " = " ++ t.name

def TypeArgument.texts : List TypeArgument → List String
  | [] => []
  | a :: as => a.text :: TypeArgument.texts as

/-- Without arguments there are no brackets either. -/
def TypeArgument.listText : List TypeArgument → String
  | [] => ""
  | a :: as => "<" ++ ", ".intercalate (a.text :: TypeArgument.texts as) ++ ">"

def TraitBound.text : TraitBound → String
  | .plain trait => trait.text
  | .call trait parameters result =>
    trait.text ++ "(" ++ ", ".intercalate (TypeForm.names parameters) ++ ")" ++
      if result.isUnit then "" else " -> " ++ result.name

def TraitBound.texts : List TraitBound → List String
  | [] => []
  | b :: bs => b.text :: TraitBound.texts bs

end

example :
    let alloc : PathWord := ⟨"alloc", by decide, rfl⟩
    let boxed : PathWord := ⟨"boxed", by decide, rfl⟩
    let box : PathWord := ⟨"Box", by decide, rfl⟩
    let f : TypeForm := .function false (some "C") [.pointer false (.primitive .u8), .tuple []] true
      (.slice (.primitive .never))
    (TypeForm.nominal (.item (.crate alloc) boxed []) box [.type f]).name =
      "alloc::boxed::Box<extern \"C\" fn(*const u8, (), ...) -> [!]>" := by decide

/-! ### How a name decides -/

namespace HostType

theorem isValueType_eq_true_iff {name : String} : isValueType ⟨name⟩ = true ↔
    name ∉ primitives ∧ ∀ opening ∈ structuralOpenings, ¬ opening.toList <+: name.toList := by
  simp [isValueType]

/-- The name of a structural type is recognised by the way it begins. -/
theorem isValueType_of_opening {opening : String} (h : opening ∈ structuralOpenings)
    (rest : String) : isValueType ⟨opening ++ rest⟩ = false := by
  rw [← Bool.not_eq_true, isValueType_eq_true_iff]
  rintro ⟨-, hnone⟩
  refine hnone opening h ?_
  rw [String.toList_append]
  exact List.prefix_append _ _

/-- A name passes if it begins in a way that is told from all others. -/
theorem isValueType_of_start {start : String}
    (hprimitives : ∀ p ∈ primitives, ¬ start.toList <+: p.toList)
    (hopenings : ∀ opening ∈ structuralOpenings,
      ¬ opening.toList <+: start.toList ∧ ¬ start.toList <+: opening.toList) (rest : String) :
    isValueType ⟨start ++ rest⟩ = true := by
  have hstart : start.toList <+: (start ++ rest).toList := by
    rw [String.toList_append]
    exact List.prefix_append _ _
  refine isValueType_eq_true_iff.mpr ⟨fun hmem => hprimitives _ hmem hstart, fun o ho hpre => ?_⟩
  rcases List.prefix_or_prefix_of_prefix hpre hstart with h | h
  · exact (hopenings o ho).1 h
  · exact (hopenings o ho).2 h

/-- Whether the first sign in a name is one of those that come first in a path. -/
def StartsPath (name : List Char) : Prop :=
  name.find? isTypeSign = some ':' ∨ name.find? isTypeSign = some '<'

instance (name : List Char) : Decidable (StartsPath name) := inferInstanceAs (Decidable (_ ∨ _))

/-- No built-in type and no structural type begins like a path. -/
theorem isValueType_of_startsPath {name : String} (h : StartsPath name.toList) :
    isValueType ⟨name⟩ = true := by
  have hprimitives : ∀ p ∈ primitives, ¬ StartsPath p.toList := by decide
  have hopenings : ∀ o ∈ structuralOpenings,
      (o.toList.find? isTypeSign).isSome ∧ ¬ StartsPath o.toList := by decide
  refine isValueType_eq_true_iff.mpr ⟨fun hmem => hprimitives name hmem h, fun o ho hpre => ?_⟩
  obtain ⟨hsign, hnot⟩ := hopenings o ho
  obtain ⟨c, hc⟩ := Option.isSome_iff_exists.mp hsign
  -- what comes first in a part at the front comes first in the whole
  rw [StartsPath, hpre.find?_eq_some hc, ← hc] at h
  exact hnot h

end HostType

/-! ### How forms decide -/

theorem Primitive.name_mem (p : Primitive) : p.name ∈ HostType.primitives := by
  cases p <;> decide

/-- A path goes up to a crate, whose word is ended by colons, or to the implementation of a trait,
which is put in angle brackets. -/
theorem TypePath.startsPath_text :
    ∀ (path : TypePath) (rest : String), HostType.StartsPath (path.text ++ ("::" ++ rest)).toList
  | .crate word, rest => by
    left
    have hword : word.text.toList.find? isTypeSign = none := by
      rw [List.find?_eq_none]
      exact List.any_eq_false.mp word.plain
    rw [text, String.toList_append, List.find?_append, hword, Option.none_or,
      String.toList_append]
    rfl
  | .implementation self trait, rest => by
    right
    rw [text, String.append_assoc, String.toList_append]
    rfl
  | .item parent word args, rest => by
    rw [text, String.append_assoc, String.append_assoc]
    exact startsPath_text parent _
  | .block parent self, rest => by
    rw [text, String.append_assoc, String.append_assoc]
    exact startsPath_text parent _
  | .traitBlock parent self trait, rest => by
    rw [text, String.append_assoc, String.append_assoc]
    exact startsPath_text parent _

namespace TypeForm

/-- **The form of a type decides** whether its values pass. -/
theorem isValueType_name (t : TypeForm) :
    HostType.isValueType ⟨t.name⟩ = (t.isNominal || t.isQualifiedFunction) := by
  cases t with
  | primitive p =>
    refine Bool.eq_false_iff.mpr fun h => ?_
    exact (HostType.isValueType_eq_true_iff.mp h).1 p.name_mem
  | nominal parent word args =>
    exact HostType.isValueType_of_startsPath (TypePath.startsPath_text parent _)
  | slice item => exact HostType.isValueType_of_opening (by decide) _
  | array item length => exact HostType.isValueType_of_opening (by decide) _
  | tuple items => exact HostType.isValueType_of_opening (by decide) _
  | reference bound isMutable target => exact HostType.isValueType_of_opening (by decide) _
  | pointer isMutable target => exact HostType.isValueType_of_opening (by decide) _
  | object bounds bound => cases bound <;> exact HostType.isValueType_of_opening (by decide) _
  | function isUnsafe convention parameters isVariadic result =>
    cases isUnsafe with
    | true => exact HostType.isValueType_of_start (by decide) (by decide) _
    | false =>
      rw [name, if_neg Bool.false_ne_true, String.empty_append]
      cases convention with
      | some c =>
        rw [conventionText, String.append_assoc]
        exact HostType.isValueType_of_start (by decide) (by decide) _
      | none =>
        rw [conventionText, String.empty_append]
        exact HostType.isValueType_of_opening (by decide) _

end TypeForm

/-! ### Result types of expressions -/

/-- Only the type makes a build complain of the type. -/
theorem ExpressionDraft.build_eq_invalidReturnType_iff (d : ExpressionDraft) (s : Supply) :
    (d.build s).1 = .error (.invalidReturnType d.returnType.name) ↔
      d.returnType.isValueType = false := by
  rw [build]
  cases d.returnType.isValueType with
  | false => exact iff_of_true rfl rfl
  | true =>
    refine iff_of_false ?_ (fun h => by cases h)
    cases d.type with
    | none => exact fun h => by cases h
    | some type =>
      rw [if_neg (by decide)]
      dsimp only
      rw [Outline.finish]
      split <;> exact fun h => by cases h

namespace TypeForm

/-- **Values** are those of the nominal types and those of the function pointers with qualifiers. A
type of any other form is refused as the result of an expression, whatever else the draft has, and
none of these is. -/
theorem result_type_iff (t : TypeForm) :
    (HostType.isValueType ⟨t.name⟩ = true ↔ t.isNominal = true ∨ t.isQualifiedFunction = true) ∧
      ∀ (d : ExpressionDraft) (s : Supply),
        ({ d with returnType := ⟨t.name⟩ }.build s).1 = .error (.invalidReturnType t.name) ↔
          ¬ (t.isNominal = true ∨ t.isQualifiedFunction = true) := by
  have hpasses : HostType.isValueType ⟨t.name⟩ = true ↔
      t.isNominal = true ∨ t.isQualifiedFunction = true := by
    rw [isValueType_name, Bool.or_eq_true]
  refine ⟨hpasses, fun d s => ?_⟩
  rw [← hpasses, Bool.not_eq_true]
  exact ExpressionDraft.build_eq_invalidReturnType_iff { d with returnType := ⟨t.name⟩ } s

/-- A pointer to an unsafe function is not nominal, but expressions with that result are built. -/
theorem unsafe_function_result :
    let t := function true none [] false (tuple [])
    let d := (Outline.ofElement ⟨⟨"Call"⟩, 0⟩).expression ⟨t.name⟩
    t.name = "unsafe fn()" ∧ t.isNominal = false ∧ HostType.isValueType ⟨t.name⟩ = true ∧
      (((d.set (.pattern "call")).setType .simple).build .fresh).1.isOk = true :=
  ⟨rfl, rfl, rfl, rfl⟩

end TypeForm

end Phrasebook
