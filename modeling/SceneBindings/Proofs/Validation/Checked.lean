import Mathlib.Data.List.Forall2
import Mathlib.Tactic.Lemma
import SceneBindings.Validation.Checked

/-!
When reading succeeds: the fields of a record are read one by one, and all of them must be readable.
-/

namespace SceneBindings

namespace Checked

variable {α β : Type}

lemma map_eq_ok {f : α → β} {x : Checked α} {b : β} :
    (f <$> x) = .ok b ↔ ∃ a, x = .ok a ∧ f a = b := by
  cases x with
  | ok a =>
    change Checked.ok (f a) = .ok b ↔ _
    simp
  | bad issues =>
    change Checked.bad issues = .ok b ↔ _
    simp

lemma seq_eq_ok {f : Checked (α → β)} {x : Checked α} {b : β} :
    (f <*> x) = .ok b ↔ ∃ g a, f = .ok g ∧ x = .ok a ∧ g a = b := by
  change both f x = .ok b ↔ _
  cases f <;> cases x <;> simp [both]

lemma within_eq_ok {key : String} {x : Checked α} {a : α} : x.within key = .ok a ↔ x = .ok a := by
  cases x <;> simp [within]

lemma check_eq_ok {test : α → Option Issue.Cause} {x : Checked α} {a : α} :
    x.check test = .ok a ↔ x = .ok a ∧ test a = none := by
  cases x with
  | ok b =>
    rw [check]
    split
    · next hnone =>
      refine ⟨fun h => ?_, fun h => h.1⟩
      cases h
      exact ⟨rfl, hnone⟩
    · next cause hcause =>
      refine ⟨fun h => (by cases h), fun h => ?_⟩
      obtain ⟨h, hnone⟩ := h
      cases h
      rw [hcause] at hnone
      cases hnone
  | bad issues => simp [check]

end Checked

variable {α : Type} {fields : List (String × Value)} {name : String} {read : Value → Checked α}
  {a d : α}

lemma required_eq_ok : required fields name read = .ok a ↔
    ∃ v, Value.field? name fields = some v ∧ read v = .ok a := by
  rw [required]
  split
  · next v hv => simp [hv, Checked.within_eq_ok]
  · next hv => simp [hv, Checked.within_eq_ok, Checked.fail]

lemma optional_eq_ok : optional fields name d read = .ok a ↔
    (∃ v, Value.field? name fields = some v ∧ read v = .ok a) ∨
      Value.field? name fields = none ∧ d = a := by
  rw [optional]
  split
  · next v hv => simp [hv, Checked.within_eq_ok]
  · next hv => simp [hv]

lemma Value.tooShort?_eq_none {s : String} : tooShort? s = none ↔ s ≠ "" := by
  simp [tooShort?]

lemma Value.readNonempty_eq_ok [Validator] {v : Value} {s : String} :
    v.readNonempty = .ok s ↔ v = .text s ∧ s ≠ "" := by
  rw [readNonempty, Checked.check_eq_ok, Validator.readString_eq_ok, tooShort?_eq_none]

lemma Value.readItemsFrom_eq_ok {vs : List Value} {as : List α}
    (h : List.Forall₂ (fun v a => read v = .ok a) vs as) (i : Nat) :
    readItemsFrom read i vs = .ok as := by
  induction h generalizing i with
  | nil => rfl
  | cons hv _ ih =>
    rw [readItemsFrom, hv, ih (i + 1)]
    rfl

end SceneBindings
