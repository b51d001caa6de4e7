import Phrasebook.Proofs.Registry.Freeze
import Phrasebook.Proofs.Registry.Interchange
/-!
# Phrasebook.Proofs.Registry.Kinds

Who checks kinds, and when.

Kinds are checked twice: when a registration is staged, and when it is written. Both ask for the
nearest link of the lineage that does not take the payload (`Batch.push_of_refusal`,
`Registry.register_of_refusal`), and both come before anything is changed. Nothing else that can go
wrong with a write is a matter of kinds (`Writing.insert_meets_otherwise`). So what was staged is
never refused for its kind later (`Registry.kinds_checked_alike`).
-/

namespace Phrasebook

/-- Whether a kind is blamed. -/
def RegistryError.isKindMismatch : RegistryError → Bool
  | kindMismatch _ _ _ => true
  | _ => false

namespace Key

/-- The link that refuses is the first that does not take the payload. -/
theorem refusal?_eq_some_iff {k link : Key} {p : Payload} :
    k.refusal? p = some link ↔
      ∃ near far, k.lineage = near ++ link :: far ∧ (∀ x ∈ near, x.accepts p = true) ∧
        link.accepts p = false := by
  rw [refusal?, List.find?_eq_some_iff_append]
  constructor
  · rintro ⟨hlink, near, far, hlineage, hnear⟩
    exact ⟨near, far, hlineage, by simpa using hnear, by simpa using hlink⟩
  · rintro ⟨near, far, hlineage, hnear, hlink⟩
    exact ⟨by simpa using hlink, near, far, hlineage, by simpa using hnear⟩

theorem isSome_refusal?_iff {k : Key} {p : Payload} :
    (k.refusal? p).isSome = true ↔ ∃ link ∈ k.lineage, link.accepts p = false := by
  simp [refusal?]

end Key

namespace Batch

variable {b : Batch} {k link : Key} {d : Descriptor}

theorem push_of_refusal (h : k.refusal? d.payload = some link) :
    b.push k d = (.error (link.mismatch d.payload), b) := by
  rw [Key.refusal?] at h
  rw [push, h]

theorem push_of_no_refusal (h : k.refusal? d.payload = none) :
    b.push k d = (.ok (), ⟨b.entries ++ [⟨k, d⟩]⟩) :=
  b.push_of_accepted (Key.refusal?_eq_none_iff.mp h)

end Batch

/-! ### Writing -/

theorem Register.isKindMismatch_of_add {r : Register} {d : Descriptor} {e : RegistryError}
    (h : (r.add d).1 = .error e) : e.isKindMismatch = false := by
  unfold add at h
  split at h
  · cases h
    rfl
  · split at h
    · cases h
      rfl
    · cases h

namespace Writing

/-- An insertion fails for a closed register or a taken place, never for a kind. -/
theorem insert_meets_otherwise (w : Writing) (name : String) (d : Descriptor) :
    Meets (fun _ _ => True) (fun e => e.isKindMismatch = false) (w.insert name d) := by
  rw [insert]
  rcases resolve w.slots name with ⟨r | f, slots⟩
  · dsimp only
    rcases hadd : r.add d with ⟨e | ⟨⟩, r'⟩
    · refine ⟨trivial, fun e' he' => ?_⟩
      cases he'
      exact Register.isKindMismatch_of_add (by rw [hadd])
    · refine ⟨trivial, fun e' he' => ?_⟩
      cases he'
  · refine ⟨trivial, fun e he => ?_⟩
    cases he
    rfl

/-- A write that fails for a kind fails for that of an entry whose lineage refuses it. -/
theorem mismatch_of_registerAll {w : Writing} {entries : List Staged} {e : RegistryError}
    (h : (w.registerAll entries).1 = .error e) (he : e.isKindMismatch = true) :
    Mismatch entries e := by
  have hmeets := registerAll_meets (fun w name d _ => insert_meets_otherwise w name d)
    (w := w) trivial entries
  rcases hmeets.error e h with hother | hmismatch
  · rw [he] at hother
    cases hother
  · exact hmismatch

end Writing

namespace Registry

variable {r : Registry} {k : Key} {d : Descriptor}

/-- A commit fails for a kind only if there is an entry whose lineage refuses it. -/
theorem mismatch_of_commit {b : Batch} {e : RegistryError} (h : (r.commit b).answer = .error e)
    (he : e.isKindMismatch = true) : Writing.Mismatch b.entries e := by
  rw [commit] at h
  split at h
  · cases h
    cases he
  · rcases hw : (Writing.start r.slots).registerAll b.entries with ⟨e' | ⟨⟩, w⟩
    · rw [hw] at h
      obtain rfl : e' = e := Except.error.inj h
      exact Writing.mismatch_of_registerAll (by rw [hw]) he
    · rw [hw] at h
      cases h

/-- Without a refusal no kind is blamed, whatever else goes wrong. -/
theorem register_of_no_refusal (hopen : r.closed = false) (h : k.refusal? d.payload = none)
    {e : RegistryError} (he : (r.register k d).answer = .error e) : e.isKindMismatch = false := by
  have hcommit : (r.commit ⟨[⟨k, d⟩]⟩).answer = .error e := by
    rw [commit_singleton hopen, he]
    rfl
  by_contra hkind
  obtain ⟨x, hx, link, hlink, hrefuses, -⟩ :=
    mismatch_of_commit hcommit (Bool.eq_true_of_not_eq_false hkind)
  obtain rfl : x = ⟨k, d⟩ := List.mem_singleton.mp hx
  rw [Key.refusal?_eq_none_iff.mp h link hlink] at hrefuses
  cases hrefuses

/-- **Kinds.** Staging is refused exactly if a link of the lineage does not take the payload, and
otherwise adds the registration behind the others. If it is refused, registering is refused too,
whatever is registered already; both blame the nearest such link in the same words, and neither
changes anything. Registering is refused for a kind in no other case, and committing what was staged
never is. -/
theorem kinds_checked_alike (k : Key) (d : Descriptor) (b : Batch) (r : Registry)
    (hopen : r.closed = false) :
    ((∃ e, (b.push k d).1 = .error e) ↔ ∃ link ∈ k.lineage, link.accepts d.payload = false) ∧
    ((∀ link ∈ k.lineage, link.accepts d.payload = true) →
      b.push k d = (.ok (), ⟨b.entries ++ [⟨k, d⟩]⟩)) ∧
    (∀ near link far, k.lineage = near ++ link :: far →
      (∀ x ∈ near, x.accepts d.payload = true) → link.accepts d.payload = false →
      b.push k d =
        (.error (.kindMismatch link.name link.kind.name d.payload.kindName), b) ∧
      r.register k d =
        ⟨.error (.kindMismatch link.name link.kind.name d.payload.kindName), r, []⟩) ∧
    (∀ name expected found,
      (r.register k d).answer = .error (.kindMismatch name expected found) ↔
        (b.push k d).1 = .error (.kindMismatch name expected found)) ∧
    ∀ (staged : List Staged) (r' : Registry) (name expected found : String),
      (r'.commit (.ofPushes staged)).answer ≠ .error (.kindMismatch name expected found) := by
  refine ⟨?_, b.push_of_accepted, fun near link far hlineage hnear hlink => ?_,
    fun name expected found => ?_, ?_⟩
  · rw [← Key.isSome_refusal?_iff]
    cases h : k.refusal? d.payload with
    | none => simp [Batch.push_of_no_refusal h]
    | some link => simp [Batch.push_of_refusal h]
  · have h := Key.refusal?_eq_some_iff.mpr ⟨near, far, hlineage, hnear, hlink⟩
    exact ⟨Batch.push_of_refusal h, register_of_refusal hopen h⟩
  · cases h : k.refusal? d.payload with
    | none =>
      constructor
      · intro he
        cases register_of_no_refusal hopen h he
      · intro he
        rw [Batch.push_of_no_refusal h] at he
        cases he
    | some link => rw [register_of_refusal hopen h, Batch.push_of_refusal h]
  · intro staged r' name expected found he
    obtain ⟨x, hx, link, hlink, hrefuses, -⟩ := mismatch_of_commit he rfl
    rw [(Batch.mem_ofPushes hx).2 link hlink] at hrefuses
    cases hrefuses

/-- A statement that is listed already is offered under a key two links of which do not take it.
The nearer one is blamed, for all that its own key does take the statement. Under the key where it
is listed it can be staged once more. -/
theorem kinds_checked_alike_listed :
    let say := Descriptor.statement 1 0 "say"
    let broken : Key := .child (.root "statement" .struct) "phrase" .expression
    let k : Key := .child broken "effect" .effect
    let r := (empty.register .effects say).registry
    r.closed = false ∧ say ∈ (r.syntaxes k).entries ∧
      Batch.empty.push k say =
        (.error (.kindMismatch "phrase" "expression" "syntax"), .empty) ∧
      r.register k say = ⟨.error (.kindMismatch "phrase" "expression" "syntax"), r, []⟩ ∧
      Batch.empty.push .effects say = (.ok (), ⟨[⟨.effects, say⟩]⟩) := by
  intro say broken k r
  have hopen : r.closed = false := rfl
  obtain ⟨-, -, hnearest, -⟩ := kinds_checked_alike k say .empty r hopen
  obtain ⟨-, hstaged, -⟩ := kinds_checked_alike .effects say .empty r hopen
  obtain ⟨hpush, hregister⟩ := hnearest [k] broken [.root "statement" .struct] rfl
    (List.forall_mem_singleton.mpr rfl) rfl
  exact ⟨hopen, List.mem_singleton_self say, hpush, hregister, hstaged (by decide)⟩

end Registry

end Phrasebook
