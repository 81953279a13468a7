import LineMetrics.Proofs.Scan.Reading
import LineMetrics.Settings.Layers

/-!
# Settings of their declared types

A field declares a type, but a value reaches it unconverted from a file (specification, section 8).
The environment and callers give values of the declared types: every variable is read by the type of
its field, or it is refused as an unusable setting (`Environment.settings_typed`).  For such values
the rules only ever say that a setting is good or that it is not: a rule that cannot be applied is
one that compares a number and is given no number (`Settings.check_cases`).
-/

namespace LineMetrics

/-- Whether a type takes a value: a truth value is an integer too, and an integer a real number. -/
def FieldType.admits : FieldType → Value → Bool
  | .text, .text _ => true
  | .bool, .bool _ => true
  | .int, .bool _ | .int, .int _ => true
  | .real, .bool _ | .real, .int _ | .real, .real _ => true
  | _, _ => false

/-- An entry under the key of a field, with a value of the declared type. -/
def IsTyped (e : String × Value) : Prop := ∃ f : Field, e.1 = f.key ∧ f.type.admits e.2 = true

/-- Whether a failure is about settings. -/
def Failure.isConfiguration (f : Failure) : Bool := f.failureClass.ancestry.contains .configuration

/-- A whole number may stand for a real one. -/
theorem FieldType.real_admits_of_int {v : Value} (h : int.admits v = true) :
    real.admits v = true := by
  cases v <;> first | rfl | cases h

/-- A number can be compared, and nothing else can. -/
theorem Value.lessThan?_eq_none_iff {v : Value} (n : Int) :
    v.lessThan? n = none ↔ FieldType.real.admits v = false := by
  cases v <;> simp [lessThan?, FieldType.admits]

/-- A field is known by its key. -/
theorem Field.ofKey?_key (f : Field) : ofKey? f.key = some f := by cases f <;> decide +kernel

/-- No two fields share a key. -/
theorem Field.key_injective : Function.Injective key := fun f g h => by
  rw [← Option.some.injEq, ← ofKey?_key f, ← ofKey?_key g, h]

/-! ### The environment -/

namespace Environment

/-- What a text denotes for a field is of the field's type. -/
theorem admits_of_parse {type : FieldType} {s : String} {v : Value} (h : parse type s = .ok v) :
    type.admits v = true := by
  unfold parse at h
  cases type with
  | text =>
    obtain rfl := Except.ok.inj h
    rfl
  | bool =>
    dsimp only at h
    split at h
    · obtain rfl := Except.ok.inj h
      rfl
    · split at h
      · obtain rfl := Except.ok.inj h
        rfl
      · cases h
  | int =>
    dsimp only at h
    split at h
    · obtain rfl := Except.ok.inj h
      rfl
    · cases h
  | real =>
    dsimp only at h
    split at h
    · obtain rfl := Except.ok.inj h
      rfl
    · cases h

/-- **What the environment sets** is of its field's type. -/
theorem settings_typed {env : Environment} {entries : List (String × Value)}
    (h : env.settings = .ok entries) : ∀ e ∈ entries, IsTyped e := by
  refine foldlM_invariant (P := fun found => ∀ e ∈ found, IsTyped e) ?_
    (List.forall_mem_nil _) h
  intro f _ found found' hfound hstep
  split at hstep
  · exact Except.ok.inj hstep ▸ hfound
  · split at hstep
    · rename_i v hparse
      obtain rfl := Except.ok.inj hstep
      refine List.forall_mem_append.2 ⟨hfound, List.forall_mem_singleton.2 ?_⟩
      exact ⟨f, rfl, admits_of_parse hparse⟩
    · cases hstep

/-- What it cannot set is told as an unusable setting. -/
theorem isConfiguration_of_settings {env : Environment} {failure : Failure}
    (h : env.settings = .error failure) : failure.isConfiguration = true := by
  refine error_of_foldlM (P := fun failure => failure.isConfiguration = true) ?_ h
  intro f _ found failure hstep
  split at hstep
  · cases hstep
  · split at hstep
    · cases hstep
    · obtain rfl := Except.error.inj hstep
      rfl

end Environment

/-! ### Checking -/

namespace Settings

/-- A verdict is inapplicable if the check could not be made. -/
theorem verdict_eq_inapplicable_iff {broken : Option Bool} {message : String} :
    verdict broken message = .inapplicable ↔ broken = none := by
  rcases broken with _ | _ | _ <;> simp [verdict]

/-- **A rule that cannot be applied** is one that compares a number, and the value is none. -/
theorem exists_of_inapplicable {s : Settings} (h : .inapplicable ∈ s.verdicts) :
    ∃ f ∈ [Field.workers, .maxFileSize], s.get f ≠ f.default ∧
      FieldType.real.admits (s.get f) = false := by
  simp only [verdicts, List.mem_cons, List.not_mem_nil, or_false] at h
  rcases h with h | h | h | h | h
  · cases (verdict_eq_inapplicable_iff.1 h.symm)
  · refine ⟨.workers, by decide, ?_⟩
    split at h
    · cases h
    · rename_i hset
      exact ⟨hset, (Value.lessThan?_eq_none_iff 1).1 (verdict_eq_inapplicable_iff.1 h.symm)⟩
  · refine ⟨.maxFileSize, by decide, ?_⟩
    have hnone := verdict_eq_inapplicable_iff.1 h.symm
    rw [Option.map_eq_none_iff, Value.lessThan?_eq_none_iff] at hnone
    refine ⟨fun hdefault => ?_, hnone⟩
    rw [hdefault] at hnone
    cases hnone
  · cases (verdict_eq_inapplicable_iff.1 h.symm)
  · cases (verdict_eq_inapplicable_iff.1 h.symm)

/-- Checking passes, or it says what is broken, or a rule cannot be applied. -/
theorem check_cases (s : Settings) :
    s.check = .ok s ∨ (∃ message, s.check = .error (.badValue message)) ∨
      (s.check = .error .wrongType ∧ .inapplicable ∈ s.verdicts) := by
  rw [check]
  cases hfind : s.verdicts.find? fun v => v ≠ .valid with
  | none => exact .inl rfl
  | some v =>
    have hmem := List.mem_of_find?_eq_some hfind
    have hnot := List.find?_some hfind
    cases v with
    | valid => simp at hnot
    | broken message => exact .inr (.inl ⟨message, rfl⟩)
    | inapplicable => exact .inr (.inr ⟨rfl, hmem⟩)

end Settings
end LineMetrics
