import Mathlib.Data.List.Basic
import Phrasebook.Event.Pattern
/-!
# Phrasebook.Proofs.Event.Placeholders

Which marks a pattern gets.

A pattern is read into tokens, from left to right: a backslash takes the next character along, and
every percent sign that is not taken along opens or closes a placeholder, in turn (`inside`). What
is to be marked is said of this reading: a mark belongs behind each sign that opens and has two
characters behind it, none of them a mark (`mark`, `marked`). This is what a scan does that looks at
the characters once and puts marks in as it goes (`tokens_markFrom`). The marks do not get into the
way of the reading, and none is missing afterwards (`tight_markedFrom`), so that a second scan finds
nothing to do (`markNullable_idempotent`).
-/

namespace Phrasebook.Event

/-! ### Reading a pattern -/

/-- What a pattern is made of. -/
inductive Token
  /-- A backslash and the character that it takes along. -/
  | escape (c : Char)
  /-- A percent sign that no backslash takes along. -/
  | sign
  /-- Any other character, and a backslash at the very end. -/
  | plain (c : Char)
deriving DecidableEq

namespace Token

def spelling : Token → List Char
  | escape c => ['\\', c]
  | sign => ['%']
  | plain c => [c]

/-- Whether the token is an escape or a sign. -/
def isMarkup : Token → Bool
  | plain _ => false
  | _ => true

end Token

/-- The tokens of a pattern, read from left to right. -/
def tokens : List Char → List Token
  | [] => []
  | '%' :: rest => .sign :: tokens rest
  | '\\' :: c :: rest => .escape c :: tokens rest
  | c :: rest => .plain c :: tokens rest

/-- A backslash takes the next character along, if there is one. -/
theorem tokens_cons_of_plain {c : Char} {rest : List Char} (hsign : c ≠ '%')
    (hescape : c = '\\' → rest = []) : tokens (c :: rest) = .plain c :: tokens rest := by
  rw [tokens]
  · exact hsign
  · intro d rest' hc hrest
    cases hrest.symm.trans (hescape hc)

/-- The characters of the tokens. -/
def spelled (ts : List Token) : List Char := ts.flatMap Token.spelling

@[simp] theorem spelled_cons (t : Token) (ts : List Token) :
    spelled (t :: ts) = t.spelling ++ spelled ts := rfl

/-- Reading loses nothing. -/
theorem spelled_tokens (cs : List Char) : spelled (tokens cs) = cs := by
  fun_induction tokens cs with
  | case1 => rfl
  | case2 rest ih => rw [spelled_cons, ih]; rfl
  | case3 c rest ih => rw [spelled_cons, ih]; rfl
  | case4 c rest _ _ ih => rw [spelled_cons, ih]; rfl

/-- Whether the place behind these tokens is inside a placeholder: an odd number of signs was read,
and the next one closes. The first sign opens, the second closes, the third opens, and so on. -/
def inside (before : List Token) : Bool := before.count .sign % 2 = 1

/-- At least two characters follow, and neither of the first two is a mark. -/
def Unmarked (after : List Char) : Prop := 2 ≤ after.length ∧ '-' ∉ after.take 2

instance (after : List Char) : Decidable (Unmarked after) := inferInstanceAs (Decidable (_ ∧ _))

/-- What is missing behind the token `t` between `before` and `after`. -/
def mark (before : List Token) (t : Token) (after : List Token) : List Token :=
  if t = .sign ∧ inside before = false ∧ Unmarked (spelled after) then [.plain '-'] else []

/-- The reading with all that is missing put in, and nothing else changed. -/
def marked (ts : List Token) : List Token :=
  ts.zipIdx.flatMap fun (t, k) => t :: mark (ts.take k) t (ts.drop (k + 1))

/-! ### Places in a reading -/

theorem inside_concat_sign (before : List Token) : inside (before ++ [.sign]) = !inside before := by
  simp only [inside, List.count_append, List.count_singleton_self]
  rcases Nat.mod_two_eq_zero_or_one (before.count .sign) with h | h
  · simp [Nat.add_mod, h]
  · simp [Nat.add_mod, h]

theorem inside_concat_of_ne {t : Token} (h : t ≠ .sign) (before : List Token) :
    inside (before ++ [t]) = inside before := by
  rw [inside, inside, List.count_append, List.count_eq_zero_of_not_mem (l := [t])]
  · rfl
  · simpa using h.symm

theorem mark_of_ne {t : Token} (h : t ≠ .sign) (before after : List Token) :
    mark before t after = [] :=
  if_neg fun hmark => h hmark.1

theorem lacksMark_iff (after : List Char) : lacksMark after = true ↔ Unmarked after := by
  rcases after with _ | ⟨a, _ | ⟨b, rest⟩⟩
  · simp [lacksMark, Unmarked]
  · simp [lacksMark, Unmarked]
  · simp [lacksMark, Unmarked, @eq_comm _ '-']

theorem mark_sign_of_inside {before : List Token} (h : inside before = true) (after : List Token) :
    mark before .sign after = [] :=
  if_neg fun hmark => Bool.false_ne_true (hmark.2.1.symm.trans h)

theorem mark_sign_of_outside {before : List Token} (h : inside before = false) (rest : List Char) :
    mark before .sign (tokens rest) = if lacksMark rest then [.plain '-'] else [] := by
  simp only [mark, h, spelled_tokens, lacksMark_iff, true_and]

/-- The part of `marked` that comes from the tokens behind `before`. -/
def markedFrom (before ts : List Token) : List Token :=
  (ts.zipIdx before.length).flatMap fun (t, k) =>
    t :: mark ((before ++ ts).take k) t ((before ++ ts).drop (k + 1))

theorem markedFrom_cons (before : List Token) (t : Token) (after : List Token) :
    markedFrom before (t :: after) =
      t :: (mark before t after ++ markedFrom (before ++ [t]) after) := by
  simp [markedFrom, List.zipIdx_cons]

/-! ### Scanning -/

/-- **A scan** that comes from `before` puts in what is missing from there on. -/
theorem tokens_markFrom (before : List Token) (cs : List Char) :
    tokens (markFrom (inside before) cs) = markedFrom before (tokens cs) := by
  fun_induction tokens cs generalizing before with
  | case1 => rfl
  | case2 rest ih =>
    have hrest := ih (before ++ [.sign])
    rw [inside_concat_sign] at hrest
    rw [markFrom, markedFrom_cons, ← hrest]
    cases hin : inside before with
    | true => rw [if_pos rfl, tokens, mark_sign_of_inside hin, List.nil_append, Bool.not_true]
    | false =>
      rw [if_neg Bool.false_ne_true, mark_sign_of_outside hin, Bool.not_false]
      -- a mark that is put in is read as such, since it stands behind a sign
      split
      · rw [tokens, tokens_cons_of_plain (by decide) fun h => absurd h (by decide)]
        rfl
      · rw [tokens, List.nil_append]
  | case3 c rest ih =>
    have hne : Token.escape c ≠ .sign := fun h => by cases h
    rw [markFrom, tokens, markedFrom_cons, mark_of_ne hne, List.nil_append, ← ih,
      inside_concat_of_ne hne]
  | case4 c rest hsign hescape ih =>
    have hne : Token.plain c ≠ .sign := fun h => by cases h
    rw [markFrom, markedFrom_cons, mark_of_ne hne, List.nil_append, ← ih, inside_concat_of_ne hne]
    · refine tokens_cons_of_plain hsign fun hc => ?_
      cases rest with
      | nil => rw [markFrom]
      | cons d rest => exact (hescape d rest hc rfl).elim
    · exact hsign
    · exact hescape

/-! ### No mark is missing afterwards -/

/-- None of the signs in `ts`, which comes behind `before`, opens without a mark. -/
def Tight (before ts : List Token) : Prop :=
  ∀ pre post, ts = pre ++ .sign :: post → inside (before ++ pre) = false → ¬ Unmarked (spelled post)

theorem tight_nil (before : List Token) : Tight before [] := by
  intro pre post hsplit
  cases pre <;> cases hsplit

theorem tight_cons {before ts : List Token} {t : Token} :
    Tight before (t :: ts) ↔
      (t = .sign → inside before = false → ¬ Unmarked (spelled ts)) ∧ Tight (before ++ [t]) ts := by
  constructor
  · intro h
    refine ⟨fun ht hout => ?_, fun pre post hsplit hout => ?_⟩
    · exact h [] ts (by rw [ht, List.nil_append]) (by rwa [List.append_nil])
    · exact h (t :: pre) post (by rw [hsplit, List.cons_append]) (by rwa [List.append_cons])
  · rintro ⟨hhead, htail⟩ pre post hsplit hout
    cases pre with
    | nil =>
      obtain ⟨ht, rfl⟩ := List.cons_eq_cons.mp hsplit
      exact hhead ht (by rwa [List.append_nil] at hout)
    | cons _ pre =>
      obtain ⟨rfl, rfl⟩ := List.cons_eq_cons.mp hsplit
      exact htail pre post rfl (by rwa [← List.append_cons])

/-- Only the first two characters count. -/
theorem unmarked_congr {cs cs' : List Char} (h : cs.take 2 = cs'.take 2) :
    Unmarked cs ↔ Unmarked cs' := by
  have hlength := congrArg List.length h
  rw [List.length_take, List.length_take] at hlength
  rw [Unmarked, Unmarked, h]
  exact and_congr_left' (by omega)

theorem take_one_spelled_markedFrom (before ts : List Token) :
    (spelled (markedFrom before ts)).take 1 = (spelled ts).take 1 := by
  cases ts with
  | nil => rfl
  | cons t after =>
    rw [markedFrom_cons]
    cases t <;> rfl

/-- What opens a placeholder stands before characters that keep their places: the next mark comes
behind the sign after next. -/
theorem take_two_spelled_markedFrom {before : List Token} (h : inside before = true)
    (ts : List Token) : (spelled (markedFrom before ts)).take 2 = (spelled ts).take 2 := by
  cases ts with
  | nil => rfl
  | cons t after =>
    have hmark : mark before t after = [] := by
      by_cases ht : t = .sign
      · rw [ht, mark_sign_of_inside h]
      · exact mark_of_ne ht before after
    have hnext := take_one_spelled_markedFrom (before ++ [t]) after
    rw [markedFrom_cons, hmark, List.nil_append, spelled_cons, spelled_cons]
    cases t with
    | escape c => rfl
    | sign => exact congrArg ('%' :: ·) hnext
    | plain c => exact congrArg (c :: ·) hnext

/-- **What is put in is what was missing.** Which tokens came before does not matter, only whether
they end inside a placeholder. -/
theorem tight_markedFrom {before before' : List Token} (h : inside before' = inside before)
    (ts : List Token) : Tight before' (markedFrom before ts) := by
  induction ts generalizing before before' with
  | nil => exact tight_nil before'
  | cons t after ih =>
    rw [markedFrom_cons]
    by_cases ht : t = .sign
    · subst ht
      have hinside : inside (before' ++ [.sign]) = inside (before ++ [.sign]) := by
        rw [inside_concat_sign, inside_concat_sign, h]
      rw [mark]
      split
      · refine tight_cons.mpr ⟨fun _ _ hunmarked => hunmarked.2 List.mem_cons_self, ?_⟩
        refine tight_cons.mpr ⟨fun hsign => (by cases hsign), ih ?_⟩
        rw [inside_concat_of_ne fun hsign => (by cases hsign), hinside]
      next hnone =>
        refine tight_cons.mpr ⟨fun _ hout hunmarked => hnone ⟨rfl, h ▸ hout, ?_⟩, ih hinside⟩
        have hin : inside (before ++ [.sign]) = true := by rw [inside_concat_sign, ← h, hout]; rfl
        exact (unmarked_congr (take_two_spelled_markedFrom hin after)).mp hunmarked
    · rw [mark_of_ne ht, List.nil_append]
      refine tight_cons.mpr ⟨fun hsign => absurd hsign ht, ih ?_⟩
      rw [inside_concat_of_ne ht, inside_concat_of_ne ht, h]

/-- Nothing is put in exactly if nothing is missing. -/
theorem markedFrom_eq_self_iff {before ts : List Token} :
    markedFrom before ts = ts ↔ Tight before ts := by
  constructor
  · intro heq
    rw [← heq]
    exact tight_markedFrom rfl ts
  · intro htight
    induction ts generalizing before with
    | nil => rfl
    | cons t after ih =>
      obtain ⟨hhead, htail⟩ := tight_cons.mp htight
      rw [markedFrom_cons, ih htail, mark, if_neg fun hmark => hhead hmark.1 hmark.2.1 hmark.2.2,
        List.nil_append]

/-- Escapes and signs stay what they are, in their order. -/
theorem filter_isMarkup_markedFrom (before ts : List Token) :
    (markedFrom before ts).filter Token.isMarkup = ts.filter Token.isMarkup := by
  induction ts generalizing before with
  | nil => rfl
  | cons t after ih =>
    have hmark : (mark before t after).filter Token.isMarkup = [] := by
      rw [mark]
      split <;> rfl
    rw [markedFrom_cons, List.filter_cons, List.filter_append, hmark, List.nil_append, ih,
      List.filter_cons]

/-! ### Patterns -/

theorem marked_eq (ts : List Token) : marked ts = markedFrom [] ts := rfl

/-- What is read of a marked pattern. -/
theorem tokens_markNullable (p : String) :
    tokens (markNullable p).toList = marked (tokens p.toList) := by
  rw [markNullable, String.toList_ofList, marked_eq]
  exact tokens_markFrom [] p.toList

/-- Patterns that are read in the same way are the same. -/
theorem eq_of_tokens_eq {p q : String} (h : tokens p.toList = tokens q.toList) : p = q := by
  rw [← String.toList_inj, ← spelled_tokens p.toList, h, spelled_tokens]

theorem markNullable_eq_self_iff (p : String) :
    markNullable p = p ↔ Tight [] (tokens p.toList) := by
  rw [← markedFrom_eq_self_iff, ← marked_eq, ← tokens_markNullable]
  exact ⟨fun h => by rw [h], eq_of_tokens_eq⟩

/-- **Marking a pattern** puts in the marks that are missing in it, right behind the signs that
open, and changes nothing else. What results is read with the same escapes and the same signs, and
none of the signs that open is without a mark any more. -/
theorem markNullable_inserts_missing (p : String) :
    p.toList = spelled (tokens p.toList) ∧
      (markNullable p).toList = spelled (marked (tokens p.toList)) ∧
      tokens (markNullable p).toList = marked (tokens p.toList) ∧
      (tokens (markNullable p).toList).filter Token.isMarkup =
        (tokens p.toList).filter Token.isMarkup ∧
      ∀ before after, tokens (markNullable p).toList = before ++ .sign :: after →
        inside before = false → 2 ≤ (spelled after).length → '-' ∈ (spelled after).take 2 := by
  have hread := tokens_markNullable p
  have htight : Tight [] (tokens (markNullable p).toList) := by
    rw [hread, marked_eq]
    exact tight_markedFrom rfl _
  refine ⟨(spelled_tokens _).symm, ?_, hread, ?_, fun before after hsplit hopens hlength => ?_⟩
  · rw [← hread, spelled_tokens]
  · rw [hread, marked_eq, filter_isMarkup_markedFrom]
  · by_contra hnone
    exact htight before after hsplit hopens ⟨hlength, hnone⟩

/-- The first sign lacks a mark, though a sign that closes follows right away. The escaped one opens
nothing, the one behind it has a mark, and the last has too little behind it. -/
example : markNullable "%%%ab%\\%%-c%%d" = "%-%%-ab%\\%%-c%%d" := by decide

/-- **Marking twice** is marking once, since a pattern stays as it is if no mark is missing. -/
theorem markNullable_idempotent (p : String) :
    markNullable (markNullable p) = markNullable p := by
  rw [markNullable_eq_self_iff, tokens_markNullable, marked_eq]
  exact tight_markedFrom rfl _

end Phrasebook.Event
