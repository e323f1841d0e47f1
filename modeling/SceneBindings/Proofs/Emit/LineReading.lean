import SceneBindings.Emit.HookScan
import SceneBindings.Emit.Lines
import SceneBindings.Proofs.Emit.HookScan
import SceneBindings.Proofs.Emit.Signatures
import SceneBindings.Proofs.Files.Paths

/-!
Emitted units read line by line: which listeners a line adds or removes, which element a line gives
access to, and under which head, a method or a class, it stands.
-/

namespace SceneBindings.LineReading

open Emit HookScan Naming Text

/-- The lines of a text. -/
def linesOf (text : String) : List String := (splitAt '\n' text.toList).map String.ofList

/-- What the lines say, each under the last head before it. -/
def readUnder {α : Type} (head? : String → Option String) (read? : String → Option α) :
    Option String → List String → List (Option String × α)
  | _, [] => []
  | head, l :: ls =>
    match head? l, read? l with
    | some h, _ => readUnder head? read? (some h) ls
    | none, some a => (head, a) :: readUnder head? read? head ls
    | none, none => readUnder head? read? head ls

/-- The identifier that follows a keyword at the head of a line. -/
def nameAfter? (keyword line : String) : Option String :=
  (expect? keyword.toList line.toList).map fun r => String.ofList (r.takeWhile isIdentifierChar)

def methodHead? : String → Option String := nameAfter? "    def "

def classHead? : String → Option String := nameAfter? "    class "

/-- An event of an element of the library, and the hook that listens to it. -/
structure Wiring where
  accessor : String
  event : String
  hook : String
  deriving DecidableEq, Repr

/-- What follows an identifier and a text after it, if a line begins with them. -/
def identifierThen? (p : String) (s : List Char) : Option (List Char × List Char) :=
  (expect? p.toList (s.dropWhile isIdentifierChar)).map fun r => (s.takeWhile isIdentifierChar, r)

/-- The white space before what stands in a method or in a class of the library. -/
def indent : List Char := "        ".toList

/-- An element of the library, an event of it and the hook in a call of a method. -/
def call? (method : String) (s : List Char) : Option Wiring := do
  let group ← identifierThen? "." s
  let property ← identifierThen? "." group.2
  let event ← identifierThen? ("." ++ method ++ "(self.") property.2
  let hook ← identifierThen? ")" event.2
  if hook.2.isEmpty then
    some ⟨"UI." ++ String.ofList group.1 ++ "." ++ String.ofList property.1,
      String.ofList event.1, String.ofList hook.1⟩
  else none

/-- What follows an indented identifier and a text after it, if a line begins with them. -/
def indented? (p line : String) : Option (List Char × List Char) :=
  (expect? indent line.toList).bind (identifierThen? p)

/-- The listener that a line adds or removes, according to the method that it calls. -/
def wiring? (method line : String) : Option Wiring :=
  (indented? ".UI." line).bind fun module => call? method module.2

/-- An attribute of a class of the library: its name, the literal of the path and the type. -/
structure Access where
  property : String
  path : String
  type : String
  deriving DecidableEq, Repr

/-- The access that a line declares; the type is what stands last in it. -/
def access? (line : String) : Option Access := do
  let property ← indented? " = ElementAccessor(_binding, " line
  let back ← expect? [')'] property.2.reverse
  let type ← identifierThen? " ," back
  some ⟨String.ofList property.1, String.ofList type.2.reverse, String.ofList type.1.reverse⟩

/-- All characters are those of identifiers. -/
def IsIdentifier (s : String) : Prop := ∀ c ∈ s.toList, isIdentifierChar c = true

variable {α : Type} {head? : String → Option String} {read? : String → Option α}
  {head : Option String} {ls ms : List String}

/-! ### Lines -/

lemma linesOf_unlines (h : ∀ l ∈ ls, Unbroken l) : linesOf (unlines ls) = ls ++ [""] := by
  induction ls with
  | nil => rfl
  | cons l ls ih =>
    rw [List.forall_mem_cons] at h
    have hbreak : '\n' ∉ l.toList := fun hn => (h.1 '\n' hn).1 rfl
    have hrest := ih h.2
    rw [linesOf] at hrest ⊢
    rw [toList_unlines_cons, splitAt_append_cons hbreak, List.map_cons, hrest, String.ofList_toList,
      List.cons_append]

/-! ### Reading under heads -/

/-- The head under which lines stand that follow some others. -/
def lastHead (head? : String → Option String) (head : Option String) (ls : List String) :
    Option String :=
  ls.foldl (fun head l => (head? l).or head) head

lemma readUnder_append (head : Option String) (ls ms : List String) :
    readUnder head? read? head (ls ++ ms) = readUnder head? read? head ls ++
      readUnder head? read? (lastHead head? head ls) ms := by
  induction ls generalizing head with
  | nil => rfl
  | cons l ls ih =>
    rw [List.cons_append, readUnder, readUnder, lastHead, List.foldl_cons]
    cases hl : head? l with
    | some h => exact ih (some h)
    | none =>
      cases read? l with
      | some a => exact congrArg _ (ih head)
      | none => exact ih head

/-- Lines that say nothing are passed over. -/
lemma readUnder_of_silent (h : ∀ l ∈ ls, read? l = none) (head : Option String) :
    readUnder head? read? head ls = [] := by
  induction ls generalizing head with
  | nil => rfl
  | cons l ls ih =>
    rw [List.forall_mem_cons] at h
    rw [readUnder, h.1]
    cases head? l <;> exact ih h.2 _

lemma readUnder_of_no_head (h : ∀ l ∈ ls, head? l = none) (head : Option String) :
    readUnder head? read? head ls = (ls.filterMap read?).map fun a => (head, a) := by
  induction ls with
  | nil => rfl
  | cons l ls ih =>
    rw [List.forall_mem_cons] at h
    rw [readUnder, h.1, List.filterMap_cons]
    cases read? l with
    | some a => exact congrArg _ (ih h.2)
    | none => exact ih h.2

lemma readUnder_of_head {l name : String} (h : head? l = some name) (head : Option String)
    (ls : List String) :
    readUnder head? read? head (l :: ls) = readUnder head? read? (some name) ls := by
  rw [readUnder, h]

/-! ### Identifiers -/

namespace IsIdentifier

lemma takeWhile {s : String} (hs : IsIdentifier s) {c : Char} (hc : isIdentifierChar c = false)
    (r : List Char) : (s.toList ++ c :: r).takeWhile isIdentifierChar = s.toList := by
  rw [List.takeWhile_append_of_pos hs, List.takeWhile_cons, hc]
  simp

lemma dropWhile {s : String} (hs : IsIdentifier s) {c : Char} (hc : isIdentifierChar c = false)
    (r : List Char) : (s.toList ++ c :: r).dropWhile isIdentifierChar = c :: r := by
  rw [List.dropWhile_append_of_pos hs, List.dropWhile_cons, hc]
  simp

lemma then? {s : String} (hs : IsIdentifier s) {c : Char} (hc : isIdentifierChar c = false)
    {p : String} {q : List Char} (hp : p.toList = c :: q) (r : List Char) :
    identifierThen? p (s.toList ++ (p.toList ++ r)) = some (s.toList, r) := by
  rw [identifierThen?, hp, List.cons_append, hs.takeWhile hc, hs.dropWhile hc, ← List.cons_append,
    expect?_append, Option.map_some]

end IsIdentifier

lemma nameAfter?_append (keyword : String) {name : String} (hname : IsIdentifier name) {c : Char}
    (hc : isIdentifierChar c = false) (rest : String) :
    nameAfter? keyword (keyword ++ name ++ String.ofList [c] ++ rest) = some name := by
  have hline : (keyword ++ name ++ String.ofList [c] ++ rest).toList =
      keyword.toList ++ (name.toList ++ c :: rest.toList) := by
    simp only [String.toList_append, String.toList_ofList, List.append_assoc, List.cons_append,
      List.nil_append]
  rw [nameAfter?, hline, expect?_append, Option.map_some, hname.takeWhile hc, String.ofList_toList]

/-! ### Lines that begin otherwise -/

lemma expect?_append_eq_none {p cs : List Char} (h : expect? p cs = none)
    (hp : cs.isPrefixOf p = false) (t : List Char) : expect? p (cs ++ t) = none := by
  cases hr : expect? p (cs ++ t) with
  | none => rfl
  | some r =>
    have hpre : p <+: cs ++ t := ⟨r, (expect?_eq_some.mp hr).symm⟩
    rcases List.prefix_or_prefix_of_prefix hpre (List.prefix_append cs t) with hle | hle
    · obtain ⟨r', hr'⟩ := hle
      rw [expect?_eq_some.mpr hr'.symm] at h
      cases h
    · rw [List.isPrefixOf_iff_prefix.mpr hle] at hp
      cases hp

lemma indented?_ofList {p : String} {cs : List Char}
    (h : (expect? indent cs).bind (identifierThen? p) = none) :
    indented? p (String.ofList cs) = none := by
  rw [indented?, String.toList_ofList, h]

/-- No line that begins with these characters begins with an indented identifier and `p`. -/
def cannotBegin (p : String) (cs : List Char) : Bool :=
  match expect? indent cs with
  | some r =>
    let r := r.dropWhile isIdentifierChar
    !r.isPrefixOf p.toList && (expect? p.toList r).isNone
  | none => !cs.isPrefixOf indent

lemma indented?_ofList_append {p : String} {cs : List Char} (h : cannotBegin p cs = true)
    (m : String) : indented? p (String.ofList cs ++ m) = none := by
  rw [cannotBegin] at h
  rw [indented?, String.toList_append, String.toList_ofList]
  cases hr : expect? indent cs with
  | none =>
    rw [hr, Bool.not_eq_true'] at h
    rw [expect?_append_eq_none hr h, Option.bind_none]
  | some r =>
    rw [hr, Bool.and_eq_true, Bool.not_eq_true', Option.isNone_iff_eq_none] at h
    have hcs := expect?_eq_some.mp hr
    have hne : r.dropWhile isIdentifierChar ≠ [] := by
      intro hnil
      rw [hnil] at h
      cases h.1
    have hdrop : (r ++ m.toList).dropWhile isIdentifierChar =
        r.dropWhile isIdentifierChar ++ m.toList := by
      rw [List.dropWhile_append, List.isEmpty_eq_false_iff.mpr hne]
      rfl
    rw [hcs, List.append_assoc, expect?_append, Option.bind_some, identifierThen?, hdrop,
      expect?_append_eq_none h.2 h.1, Option.map_none]

/-- A line that begins with an identifier is not indented. -/
lemma indented?_identifier_append {name : String} (hname : IsIdentifier name)
    (hne : name.toList ≠ []) (p m : String) : indented? p (name ++ m) = none := by
  cases hcs : name.toList with
  | nil => exact absurd hcs hne
  | cons c cs =>
    have hc : ' ' ≠ c := by
      rintro rfl
      have := hname ' ' (by rw [hcs]; exact List.mem_cons_self)
      revert this
      decide
    have hnone : expect? indent (c :: (cs ++ m.toList)) = none := if_neg hc
    rw [indented?, String.toList_append, hcs, List.cons_append, hnone, Option.bind_none]

lemma indented?_self {name : String} (hname : IsIdentifier name) {p : String} {c : Char}
    {q : List Char} (hp : p.toList = c :: q) (hc : isIdentifierChar c = false) (m : String) :
    indented? p ("        " ++ name ++ p ++ m) = some (name.toList, m.toList) := by
  have hline : ("        " ++ name ++ p ++ m).toList =
      indent ++ (name.toList ++ (p.toList ++ m.toList)) := by
    simp only [String.toList_append, List.append_assoc]
    rfl
  rw [indented?, hline, expect?_append, Option.bind_some, hname.then? hc hp]

end SceneBindings.LineReading
