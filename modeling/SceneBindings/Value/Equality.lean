import SceneBindings.Value.Basic

/-!
Equality of values as they are written, which tells apart what counts as the same, such as the number
one and a truth value, and equality of keys, which does not.
-/

namespace SceneBindings.Value

mutual

def isExactly : Value → Value → Bool
  | null, null => true
  | bool a, bool b => a == b
  | int a, int b => a == b
  | float a, float b => a == b
  | text a, text b => a == b
  | list xs, list ys => areExactly xs ys
  | object fs, object gs => fieldsAreExactly fs gs
  | _, _ => false

def areExactly : List Value → List Value → Bool
  | [], [] => true
  | x :: xs, y :: ys => x.isExactly y && areExactly xs ys
  | _, _ => false

def fieldsAreExactly : List (String × Value) → List (String × Value) → Bool
  | [], [] => true
  | (m, v) :: fs, (n, w) :: gs => m == n && v.isExactly w && fieldsAreExactly fs gs
  | _, _ => false

end

mutual

theorem isExactly_iff (a b : Value) : a.isExactly b = true ↔ a = b := by
  match a with
  | null | bool _ | int _ | float _ | text _ => cases b <;> simp [isExactly]
  | list xs => cases b <;> simp [isExactly, areExactly_iff xs]
  | object fs => cases b <;> simp [isExactly, fieldsAreExactly_iff fs]

theorem areExactly_iff (xs ys : List Value) : areExactly xs ys = true ↔ xs = ys := by
  match xs with
  | [] => cases ys <;> simp [areExactly]
  | x :: xs => cases ys <;> simp [areExactly, isExactly_iff x, areExactly_iff xs]

theorem fieldsAreExactly_iff (fs gs : List (String × Value)) :
    fieldsAreExactly fs gs = true ↔ fs = gs := by
  match fs with
  | [] => cases gs <;> simp [fieldsAreExactly]
  | (m, v) :: fs =>
    rcases gs with _ | ⟨⟨n, w⟩, gs⟩ <;>
      simp [fieldsAreExactly, isExactly_iff v, fieldsAreExactly_iff fs]

end

instance : DecidableEq Value := fun a b => decidable_of_iff _ (isExactly_iff a b)

/-! ### Keys -/

/-- Whether a table can have the value as a key. -/
def isKey : Value → Bool
  | list _ => false
  | object _ => false
  | _ => true

/-- Whether a table takes two values for one key. What is no number, and so does not equal itself, still
finds itself. -/
def sameKey (a b : Value) : Bool := a == b || a.same b

theorem onePlace_comm (x y : Option (Option Binary64.Place)) : onePlace x y = onePlace y x := by
  have hplace : ∀ p q : Binary64.Place, p.eq q = q.eq p := by
    intro p q
    cases p <;> cases q <;> simp only [Binary64.Place.eq, Binary64.Place.align]
    rw [Int.min_comm, Bool.beq_comm]
  rcases x with _ | _ | p <;> rcases y with _ | _ | q <;> first | rfl | exact hplace p q

theorem onePlace_none (x : Option (Option Binary64.Place)) : onePlace x none = false := by
  rcases x with _ | _ | p <;> rfl

@[simp]
theorem sameKey_self (a : Value) : a.sameKey a = true := by
  simp [sameKey]

theorem sameKey_text (a : Value) (s : String) : a.sameKey (.text s) = (a == .text s) := by
  have hnone : (text s).number? = none := rfl
  cases a <;> simp [sameKey, same, hnone, onePlace_none]

theorem sameKey_comm {a b : Value} (ha : a.isKey = true) (hb : b.isKey = true) :
    a.sameKey b = b.sameKey a := by
  have hsame : a.same b = b.same a := by
    cases a <;> simp only [isKey, Bool.false_eq_true] at ha <;>
      cases b <;> simp only [isKey, Bool.false_eq_true] at hb <;>
        simp only [same, Bool.beq_comm] <;> exact onePlace_comm _ _
  rw [sameKey, sameKey, hsame, Bool.beq_comm]

end SceneBindings.Value
