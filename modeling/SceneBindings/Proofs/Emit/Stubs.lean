import SceneBindings.Emit.Handlers
import SceneBindings.Proofs.Emit.LegalNames
import SceneBindings.Value.Reader

/-!
The line that the stub of a hook prints, read as the language of the units reads it: double quotes
enclose a literal, a backslash begins an escape, and in a formatted literal braces enclose fields.
-/

namespace SceneBindings.LineReading

open Emit HookScan Naming Text

/-! ### Literals -/

/-- A part of what a literal denotes: a character, or what a field comes to. -/
inductive Part where
  | code (n : Nat)
  | field (source : List Char)
  deriving DecidableEq, Repr

/-- What a reader of literals knows of the language besides them. -/
structure Grammar where
  /-- The characters that have names. -/
  named : List Char → Option Char
  /-- The length of the field that a text begins with, up to its closing brace. -/
  field : List Char → Option Nat
  /-- A name is a field. -/
  field_name : ∀ name, IsLegal name → ∀ rest, field (name ++ '\x7d' :: rest) = some name.length

/-- What a backslash begins, according to the character after it. -/
inductive Escape where
  | lineBreak
  | single (code : Nat)
  | octal
  | hex (width : Nat)
  | name
  deriving DecidableEq, Repr

/-- Before other characters, a backslash stands for itself. -/
def escape? : Char → Option Escape
  | '\n' | '\r' => some .lineBreak
  | '\\' => some (.single 0x5c)
  | '\'' => some (.single 0x27)
  | '"' => some (.single 0x22)
  | 'a' => some (.single 0x07)
  | 'b' => some (.single 0x08)
  | 'f' => some (.single 0x0c)
  | 'n' => some (.single 0x0a)
  | 'r' => some (.single 0x0d)
  | 't' => some (.single 0x09)
  | 'v' => some (.single 0x0b)
  | '0' | '1' | '2' | '3' | '4' | '5' | '6' | '7' => some .octal
  | 'x' => some (.hex 2)
  | 'u' => some (.hex 4)
  | 'U' => some (.hex 8)
  | 'N' => some .name
  | _ => none

def isOctal (c : Char) : Bool := c.isDigit && c.toNat < 56

def number? (base : Nat) (digits : List Char) : Option Nat :=
  (digits.mapM Value.hexValue?).map fun values => values.foldl (fun n v => base * n + v) 0

/-- What an escape denotes, and how many characters it takes after the first one, which is `d`. -/
def Escape.read? (G : Grammar) (d : Char) (r : List Char) : Escape → Option (List Part × Nat)
  | lineBreak => some ([], if d = '\r' ∧ r.head? = some '\n' then 1 else 0)
  | single code => some ([.code code], 0)
  | octal =>
    let more := (r.take 2).takeWhile isOctal
    (number? 8 (d :: more)).map fun n => ([.code n], more.length)
  | hex width =>
    if r.length < width then none
    else ((number? 16 (r.take width)).filter (· < 0x110000)).map fun n => ([.code n], width)
  | name =>
    match r with
    | '\x7b' :: r =>
      let name := r.takeWhile (· != '\x7d')
      (G.named name).map fun c => ([.code c.toNat], name.length + 2)
    | _ => none

/-- What a character of a literal denotes together with what belongs to it, and how many characters
belong to it. Of itself, a brace encloses a field; two of them stand for one. -/
def element? (G : Grammar) (formatted : Bool) (c : Char) (r : List Char) :
    Option (List Part × Nat) :=
  if c = '\\' then
    match r.head?.bind escape? with
    | none => some ([.code c.toNat], 0)
    | some e => (e.read? G (r.headD c) r.tail).map fun p => (p.1, p.2 + 1)
  else if c = '\n' ∨ c = '\r' ∨ c = '\x00' then none
  else if formatted ∧ (c = '\x7b' ∨ c = '\x7d') then
    if r.head? = some c then some ([.code c.toNat], 1)
    else if c = '\x7b' then (G.field r).map fun n => ([.field (r.take n)], n + 1)
    else none
  else some ([.code c.toNat], 0)

/-- What a literal denotes and what follows its closing quote; `skip` characters of the text belong
to what was read before. -/
def partsFrom (G : Grammar) (formatted : Bool) (skip : Nat) :
    List Char → Option (List Part × List Char)
  | [] => none
  | c :: r =>
    match skip with
    | n + 1 => partsFrom G formatted n r
    | 0 =>
      if c = '"' then some ([], r)
      else (element? G formatted c r).bind fun e =>
        (partsFrom G formatted e.2 r).map fun p => (e.1 ++ p.1, p.2)

/-- What a line prints if it prints one literal, with an `f` before it or not. -/
def printed? (G : Grammar) (line : String) : Option (List Part) := do
  let call ← expect? "        print(".toList line.toList
  let formatted := call.head? == some 'f'
  let body ← expect? ['"'] (if formatted then call.tail else call)
  let read ← partsFrom G formatted 0 body
  if read.2 = [')'] then some read.1 else none

def codes (s : List Char) : List Part := s.map fun c => .code c.toNat

/-- What the stub of a hook should print: the name of the element and the verb, and the argument. -/
def said (s : Signature) : List Part :=
  codes (s.element ++ " " ++ s.hook.verb).toList ++
    match s.hook.argument with
    | some (name, _) => codes [' '] ++ [.field name.toList]
    | none => []

/-- The characters that do not stand for themselves in a literal, wherever they stand. -/
def isSpecial (formatted : Bool) (c : Char) : Bool :=
  c == '"' || c == '\n' || c == '\r' || c == '\x00' || formatted && (c == '\x7b' || c == '\x7d')

/-- All characters of a text stand for themselves in a literal. -/
structure Verbatim (formatted : Bool) (s : List Char) : Prop where
  plain : ∀ c ∈ s, isSpecial formatted c = false
  unescaped : s.IsChain fun c d => c = '\\' → escape? d = none

/-! ### What is written verbatim -/

variable {G : Grammar} {formatted : Bool} {c : Char} {s r t : List Char}

/-- A character stands for itself before a text. -/
structure Stands (formatted : Bool) (c : Char) (r : List Char) : Prop where
  plain : isSpecial formatted c = false
  unescaped : c = '\\' → r.head?.bind escape? = none

lemma isSpecial_eq_false_iff : isSpecial formatted c = false ↔
    c ≠ '"' ∧ ¬ (c = '\n' ∨ c = '\r' ∨ c = '\x00') ∧
      ¬ (formatted ∧ (c = '\x7b' ∨ c = '\x7d')) := by
  simp only [isSpecial, ← Bool.not_eq_true, Bool.or_eq_true, Bool.and_eq_true, beq_iff_eq]
  tauto

lemma element?_of_stands (h : Stands formatted c r) :
    element? G formatted c r = some ([.code c.toNat], 0) := by
  obtain ⟨-, hbreak, hbrace⟩ := isSpecial_eq_false_iff.mp h.plain
  by_cases hback : c = '\\'
  · rw [element?, if_pos hback, h.unescaped hback]
  · rw [element?, if_neg hback, if_neg hbreak, if_neg hbrace]

lemma Verbatim.stands (h : Verbatim formatted (c :: r))
    (ht : (c :: r).getLast? = some '\\' → t.head?.bind escape? = none) :
    Stands formatted c (r ++ t) where
  plain := h.plain c List.mem_cons_self
  unescaped hback := by
    cases r with
    | nil => exact ht (by rw [hback]; rfl)
    | cons d r => exact (List.isChain_cons_cons.mp h.unescaped).1 hback

lemma Verbatim.tail (h : Verbatim formatted (c :: r)) : Verbatim formatted r where
  plain d hd := h.plain d (List.mem_cons_of_mem c hd)
  unescaped := List.IsChain.of_cons h.unescaped

lemma partsFrom_of_stands (h : Stands formatted c r) : partsFrom G formatted 0 (c :: r) =
    (partsFrom G formatted 0 r).map fun p => (.code c.toNat :: p.1, p.2) := by
  have hquote := (isSpecial_eq_false_iff.mp h.plain).1
  rw [partsFrom, if_neg hquote, element?_of_stands h]
  rfl

/-- A verbatim text is read as itself. -/
lemma partsFrom_verbatim (h : Verbatim formatted s)
    (ht : s.getLast? = some '\\' → t.head?.bind escape? = none) :
    partsFrom G formatted 0 (s ++ t) =
      (partsFrom G formatted 0 t).map fun p => (codes s ++ p.1, p.2) := by
  induction s with
  | nil => exact (congrFun Option.map_id _).symm
  | cons c r ih =>
    have hrest : r.getLast? = some '\\' → t.head?.bind escape? = none := by
      intro hlast
      refine ht ?_
      rw [List.getLast?_cons, hlast]
      rfl
    rw [List.cons_append, partsFrom_of_stands (h.stands ht), ih h.tail hrest, Option.map_map]
    rfl

/-! ### What is not -/

/-- The number of characters that it takes at least to write a part. -/
def Part.weight : Part → Nat
  | code _ => 1
  | field source => source.length + 2

def weight : List Part → Nat
  | [] => 0
  | p :: ps => p.weight + weight ps

lemma weight_append (ps qs : List Part) : weight (ps ++ qs) = weight ps + weight qs := by
  induction ps with
  | nil => exact (Nat.zero_add _).symm
  | cons p ps ih => rw [List.cons_append, weight, ih, weight, Nat.add_assoc]

lemma weight_codes (s : List Char) : weight (codes s) = s.length := by
  induction s with
  | nil => rfl
  | cons c s ih =>
    rw [List.length_cons, ← ih, Nat.add_comm]
    rfl

lemma weight_read? {d : Char} {e : Escape} {ps : List Part} {n : Nat}
    (h : e.read? G d r = some (ps, n)) : weight ps ≤ n + 1 := by
  cases e with
  | lineBreak =>
    cases h
    exact Nat.zero_le _
  | single code =>
    cases h
    exact Nat.le_refl 1
  | octal =>
    obtain ⟨n, -, h⟩ := Option.map_eq_some_iff.mp h
    cases h
    exact Nat.le_add_left 1 _
  | hex width =>
    rw [Escape.read?] at h
    split at h
    · cases h
    · obtain ⟨n, -, h⟩ := Option.map_eq_some_iff.mp h
      cases h
      exact Nat.le_add_left 1 _
  | name =>
    rw [Escape.read?.eq_def] at h
    dsimp only at h
    split at h
    · obtain ⟨c, -, h⟩ := Option.map_eq_some_iff.mp h
      cases h
      exact Nat.le_add_left 1 _
    · cases h

/-- A character stands for itself, or it begins a field, or more is written than it denotes. -/
lemma element?_cases {ps : List Part} {n : Nat} (hquote : c ≠ '"')
    (h : element? G formatted c r = some (ps, n)) :
    Stands formatted c r ∧ ps = [.code c.toNat] ∧ n = 0 ∨
      (∃ source, ps = [.field source] ∧ source.length ≤ n - 1 ∧ 0 < n) ∨ weight ps ≤ n := by
  rw [element?] at h
  split at h
  · next hback =>
    cases he : r.head?.bind escape? with
    | none =>
      rw [he] at h
      cases h
      refine .inl ⟨⟨?_, fun _ => he⟩, rfl, rfl⟩
      rw [hback]
      cases formatted <;> decide
    | some e =>
      rw [he] at h
      obtain ⟨p, hp, h⟩ := Option.map_eq_some_iff.mp h
      cases h
      exact .inr (.inr (weight_read? hp))
  · next hback =>
    split at h
    · cases h
    · next hbreak =>
      split at h
      · split at h
        · cases h
          exact .inr (.inr (Nat.le_refl 1))
        · split at h
          · obtain ⟨n, -, h⟩ := Option.map_eq_some_iff.mp h
            cases h
            exact .inr (.inl ⟨_, rfl, List.length_take_le _ _, Nat.succ_pos _⟩)
          · cases h
      · next hbrace =>
        cases h
        have hplain := isSpecial_eq_false_iff.mpr ⟨hquote, hbreak, hbrace⟩
        exact .inl ⟨⟨hplain, fun h => absurd h hback⟩, rfl, rfl⟩

/-- A text ends with a quote, or it begins with an element that others follow. -/
lemma partsFrom_cons_eq_some {ps : List Part} {rest : List Char}
    (h : partsFrom G formatted 0 (c :: r) = some (ps, rest)) :
    (ps = [] ∧ rest = r) ∨ ∃ qs n ps', c ≠ '"' ∧ element? G formatted c r = some (qs, n) ∧
      partsFrom G formatted n r = some (ps', rest) ∧ ps = qs ++ ps' := by
  rw [partsFrom] at h
  split at h
  · cases h
    exact .inl ⟨rfl, rfl⟩
  · next hquote =>
    obtain ⟨⟨qs, n⟩, he, h⟩ := Option.bind_eq_some_iff.mp h
    obtain ⟨⟨ps', rest'⟩, hread, h⟩ := Option.map_eq_some_iff.mp h
    cases h
    exact .inr ⟨qs, n, ps', hquote, he, hread, rfl⟩

/-- What a literal denotes is not longer than what is written. -/
lemma weight_partsFrom {skip : Nat} {ps : List Part} {rest : List Char}
    (h : partsFrom G formatted skip s = some (ps, rest)) :
    skip + weight ps + 1 + rest.length ≤ s.length := by
  induction s generalizing skip ps with
  | nil => cases h
  | cons c r ih =>
    rw [List.length_cons]
    cases skip with
    | succ n =>
      have hle := ih h
      omega
    | zero =>
      obtain ⟨rfl, rfl⟩ | ⟨qs, n, ps', hquote, he, hread, rfl⟩ := partsFrom_cons_eq_some h
      · have hnil : weight [] = 0 := rfl
        omega
      · have hle := ih hread
        have hone : weight qs ≤ n + 1 := by
          obtain ⟨-, rfl, -⟩ | ⟨source, rfl, hlength, hpos⟩ | hle := element?_cases hquote he
          · exact Nat.le_add_left 1 n
          · have hweight : weight [.field source] = source.length + 2 := rfl
            omega
          · exact Nat.le_succ_of_le hle
        rw [weight_append]
        omega

/-- If a text is read as itself before one that takes no more than it denotes, it is verbatim. -/
lemma verbatim_of_partsFrom {ps : List Part} {rest : List Char}
    (h : partsFrom G formatted 0 (s ++ t) = some (codes s ++ ps, rest))
    (ht : t.length ≤ weight ps + 1 + rest.length) : Verbatim formatted s := by
  induction s with
  | nil => exact ⟨List.forall_mem_nil _, .nil⟩
  | cons c r ih =>
    rw [List.cons_append] at h
    obtain ⟨hnil, -⟩ | ⟨qs, n, ps', hquote, he, hread, hparts⟩ := partsFrom_cons_eq_some h
    · cases hnil
    · have hle := weight_partsFrom hread
      have hsum : weight qs + weight ps' = r.length + 1 + weight ps := by
        rw [← weight_append, ← hparts, weight_append, weight_codes, List.length_cons]
      rw [List.length_append] at hle
      obtain ⟨hstands, rfl, rfl⟩ | ⟨source, rfl, -, -⟩ | hshort := element?_cases hquote he
      · have hrest : codes r ++ ps = ps' := (List.cons.inj hparts).2
        have hverbatim := ih (hrest ▸ hread)
        refine ⟨List.forall_mem_cons.mpr ⟨hstands.plain, hverbatim.plain⟩, ?_⟩
        cases r with
        | nil => exact .singleton c
        | cons d r => exact .cons_cons hstands.unescaped hverbatim.unescaped
      · cases (List.cons.inj hparts).1
      · omega

/-! ### The stubs -/

lemma Verbatim.of_plain (h : ∀ c ∈ s, isSpecial formatted c = false ∧ c ≠ '\\') :
    Verbatim formatted s where
  plain c hc := (h c hc).1
  unescaped := by
    induction s with
    | nil => exact .nil
    | cons c r ih =>
      rw [List.forall_mem_cons] at h
      cases r with
      | nil => exact .singleton c
      | cons d r => exact .cons_cons (fun hback => absurd hback h.1.2) (ih h.2)

lemma partsFrom_plain (h : ∀ c ∈ s, isSpecial formatted c = false ∧ c ≠ '\\') :
    partsFrom G formatted 0 (s ++ t) =
      (partsFrom G formatted 0 t).map fun p => (codes s ++ p.1, p.2) :=
  partsFrom_verbatim (.of_plain h) fun hlast => absurd rfl (h _ (List.mem_of_getLast? hlast)).2

lemma partsFrom_skip (s t : List Char) :
    partsFrom G formatted s.length (s ++ t) = partsFrom G formatted 0 t := by
  induction s with
  | nil => rfl
  | cons c s ih => exact ih

lemma partsFrom_field {name : List Char} (hname : IsLegal name) :
    partsFrom G true 0 ('\x7b' :: (name ++ '\x7d' :: t)) =
      (partsFrom G true 0 t).map fun p => (.field name :: p.1, p.2) := by
  have hfirst : (name ++ '\x7d' :: t).head? ≠ some '\x7b' := by
    obtain ⟨c, r, rfl, -⟩ := hname.head
    have hc := hname.chars c List.mem_cons_self
    rw [List.cons_append, List.head?_cons, ne_eq, Option.some_inj]
    rintro rfl
    exact absurd hc (by decide)
  have helement : element? G true '\x7b' (name ++ '\x7d' :: t) =
      some ([.field name], name.length + 1) := by
    rw [element?, if_neg (by decide), if_neg (by decide), if_pos (by decide), if_neg hfirst,
      if_pos rfl, G.field_name name hname, Option.map_some, List.take_left]
  have hskip : partsFrom G true (name.length + 1) (name ++ '\x7d' :: t) = partsFrom G true 0 t := by
    have hall := @partsFrom_skip G true (name ++ ['\x7d']) t
    rwa [List.length_append, List.append_assoc] at hall
  rw [partsFrom, if_neg (by decide), helement, Option.bind_some, hskip]
  rfl

lemma isLegal_argument {c : Capability} {h : HookSpec} (hc : c.hook? = some h)
    {a : String × String} (ha : h.argument = some a) : IsLegal a.1.toList := by
  cases c <;> cases hc <;> cases ha
  · exact ⟨List.all_eq_true.mp (by decide), ⟨'i', _, rfl, rfl⟩, by decide +kernel⟩
  · exact ⟨List.all_eq_true.mp (by decide), ⟨'t', _, rfl, rfl⟩, by decide +kernel⟩
  · exact ⟨List.all_eq_true.mp (by decide), ⟨'v', _, rfl, rfl⟩, by decide +kernel⟩
  · exact ⟨List.all_eq_true.mp (by decide), ⟨'i', _, rfl, rfl⟩, by decide +kernel⟩

lemma plain_literal (cs : List Char)
    (h : (cs.all fun c => !isSpecial true c && c != '\\') = true) :
    ∀ d ∈ (String.ofList cs).toList, isSpecial formatted d = false ∧ d ≠ '\\' := by
  intro d hd
  rw [String.toList_ofList] at hd
  have hplain := List.all_eq_true.mp h d hd
  rw [Bool.and_eq_true, Bool.not_eq_true', bne_iff_ne] at hplain
  obtain ⟨hquote, hbreak, hbrace⟩ := isSpecial_eq_false_iff.mp hplain.1
  exact ⟨isSpecial_eq_false_iff.mpr ⟨hquote, hbreak, fun hd => hbrace ⟨rfl, hd.2⟩⟩, hplain.2⟩

lemma plain_verb {c : Capability} {h : HookSpec} (hc : c.hook? = some h) :
    ∀ d ∈ h.verb.toList, isSpecial formatted d = false ∧ d ≠ '\\' := by
  cases c <;> cases hc <;> exact plain_literal _ rfl

/-- What stands in a stub after the name of the element, up to the closing quote. -/
def spoken (h : HookSpec) : List Char :=
  ' ' :: h.verb.toList ++
    match h.argument with
    | some (name, _) => ' ' :: '\x7b' :: (name.toList ++ ['\x7d'])
    | none => []

/-- What it denotes. -/
def saidAfter (h : HookSpec) : List Part :=
  codes (' ' :: h.verb.toList) ++
    match h.argument with
    | some (name, _) => codes [' '] ++ [.field name.toList]
    | none => []

lemma said_eq (s : Signature) : said s = codes s.element.toList ++ saidAfter s.hook := by
  rw [said, saidAfter, String.append_assoc, String.toList_append, String.toList_append, codes,
    List.map_append, List.append_assoc]
  rfl

lemma weight_saidAfter (h : HookSpec) : weight (saidAfter h) = (spoken h).length := by
  rw [saidAfter, spoken, weight_append, weight_codes, List.length_append]
  cases h.argument with
  | none => rfl
  | some a =>
    have hfield : weight (codes [' '] ++ [.field a.1.toList]) = a.1.toList.length + 3 := by
      rw [weight_append, weight_codes, Nat.add_comm]
      rfl
    simp only [hfield, List.length_cons, List.length_append, List.length_nil]

lemma partsFrom_spoken {c : Capability} {h : HookSpec} (hc : c.hook? = some h) :
    partsFrom G h.argument.isSome 0 (spoken h ++ ['"', ')']) = some (saidAfter h, [')']) := by
  have hend : ∀ formatted, partsFrom G formatted 0 ['"', ')'] = some ([], [')']) := fun _ => rfl
  have hspace : ∀ formatted, isSpecial formatted ' ' = false ∧ ' ' ≠ '\\' := by decide
  have hverb : ∀ formatted, ∀ d ∈ ' ' :: h.verb.toList,
      isSpecial formatted d = false ∧ d ≠ '\\' := fun formatted =>
    List.forall_mem_cons.mpr ⟨hspace formatted, plain_verb hc⟩
  cases ha : h.argument with
  | none =>
    rw [spoken, saidAfter, ha]
    dsimp only
    rw [List.append_nil, List.append_nil, partsFrom_plain (hverb _), hend, Option.map_some,
      List.append_nil]
  | some a =>
    have hfield := @partsFrom_field G ['"', ')'] _ (isLegal_argument hc ha)
    have hrest : partsFrom G (some a).isSome 0
        ([' '] ++ '\x7b' :: (a.1.toList ++ ['\x7d', '"', ')'])) =
          some (codes [' '] ++ [.field a.1.toList], [')']) := by
      rw [partsFrom_plain (List.forall_mem_singleton.mpr (hspace _)), Option.isSome_some, hfield,
        hend]
      rfl
    rw [spoken, saidAfter, ha]
    dsimp only
    rw [List.append_assoc, partsFrom_plain (hverb _), List.cons_append, List.cons_append,
      List.append_assoc]
    exact congrArg (Option.map _) hrest

lemma stubLine_toList (s : Signature) : (stubLine s).toList =
    "        print(".toList ++ ((if s.hook.argument.isSome then ['f'] else []) ++
      '"' :: (s.element.toList ++ (spoken s.hook ++ ['"', ')']))) := by
  rw [stubLine, spoken]
  cases s.hook.argument with
  | none =>
    simp only [String.toList_append, List.append_assoc]
    rfl
  | some a =>
    simp only [String.toList_append, List.append_assoc, List.cons_append]
    rfl

lemma printed?_stubLine (G : Grammar) (s : Signature) : printed? G (stubLine s) =
    (partsFrom G s.hook.argument.isSome 0 (s.element.toList ++ (spoken s.hook ++ ['"', ')']))).bind
      fun read => if read.2 = [')'] then some read.1 else none := by
  rw [printed?, stubLine_toList, expect?_append]
  cases s.hook.argument with
  | none => rfl
  | some a => rfl

lemma verbatim_of_printed {s : Signature} (h : printed? G (stubLine s) = some (said s)) :
    Verbatim s.hook.argument.isSome s.element.toList := by
  rw [printed?_stubLine, said_eq] at h
  obtain ⟨⟨ps, rest⟩, hread, h⟩ := Option.bind_eq_some_iff.mp h
  split at h
  · next hrest =>
    obtain rfl := Option.some_inj.mp h
    refine verbatim_of_partsFrom hread ?_
    dsimp only at hrest
    rw [weight_saidAfter, hrest, List.length_append]
    exact Nat.le_refl _
  · cases h

/-- **Which names are printed as they are.** The stub of a hook prints one literal, and this denotes
the name of the element, the verb and the argument, exactly if all characters of the name stand for
themselves in it. -/
theorem stub_faithful_iff (G : Grammar) {s : Signature} {c : Capability}
    (hc : c.hook? = some s.hook) :
    printed? G (stubLine s) = some (said s) ↔
      Verbatim s.hook.argument.isSome s.element.toList := by
  refine ⟨verbatim_of_printed, fun h => ?_⟩
  -- A backslash at the end of the name stands before a space.
  have hname := @partsFrom_verbatim G _ _ (spoken s.hook ++ ['"', ')']) h fun _ => rfl
  rw [printed?_stubLine, hname, partsFrom_spoken hc, said_eq]
  rfl

/-- The fields of this grammar are names. -/
def namesOnly : Grammar where
  named _ := none
  field s :=
    let name := s.takeWhile isIdentifierChar
    if (s.dropWhile isIdentifierChar).head? = some '\x7d' ∧ name ≠ [] then some name.length
    else none
  field_name name h rest := by
    have htake : (name ++ '\x7d' :: rest).takeWhile isIdentifierChar = name := by
      rw [List.takeWhile_append_of_pos h.chars]
      exact List.append_nil name
    have hdrop : (name ++ '\x7d' :: rest).dropWhile isIdentifierChar = '\x7d' :: rest :=
      List.dropWhile_append_of_pos h.chars
    have hne : name ≠ [] := by
      obtain ⟨c, r, rfl, -⟩ := h.head
      exact List.cons_ne_nil c r
    rw [htake, hdrop]
    exact if_pos ⟨rfl, hne⟩

example : printed? namesOnly "        print(f\"\\x41\\\\ \x7bis_on\x7d\")" =
    some (codes "A\\ ".toList ++ [.field "is_on".toList]) := by decide

/-- The hook of an element that fires an event. -/
def hookOf (c : Capability) (h : c.hook?.isSome) (element : String) : Signature :=
  ⟨Signature.hookName (c.hook?.get h) element, c, c.hook?.get h, element, "UI.Menu.Element"⟩

/-- A backslash is printed, and a brace would not be. -/
theorem stub_faithful_of_toggle :
    Capability.toggle.hook? = some (hookOf .toggle rfl "A\\B").hook ∧
      printed? namesOnly (stubLine (hookOf .toggle rfl "A\\B")) =
        some (said (hookOf .toggle rfl "A\\B")) := by
  have hhook : Capability.toggle.hook? = some (hookOf .toggle rfl "A\\B").hook := rfl
  have hname : "A\\B".toList = ['A', '\\', 'B'] := String.toList_ofList
  have hplain : ∀ c ∈ ['A', '\\', 'B'], isSpecial true c = false :=
    List.forall_mem_cons.mpr ⟨rfl, List.forall_mem_cons.mpr ⟨rfl, List.forall_mem_singleton.mpr rfl⟩⟩
  have hverbatim : Verbatim true "A\\B".toList := hname ▸ ⟨hplain, by decide⟩
  exact ⟨hhook, (stub_faithful_iff namesOnly hhook).mpr hverbatim⟩

/-- A stub does not print a name that holds a quote. -/
theorem not_stub_faithful_of_quote : ¬ ∀ (G : Grammar) (s : Signature) (c : Capability),
    c.hook? = some s.hook → s.element ≠ "" → '/' ∉ s.element.toList →
      printed? G (stubLine s) = some (said s) := by
  intro h
  have hname : "Say \"Hi\"".toList = ['S', 'a', 'y', ' ', '"', 'H', 'i', '"'] :=
    String.toList_ofList
  have hslash : '/' ∉ "Say \"Hi\"".toList := hname ▸ by decide
  have hquote := h namesOnly (hookOf .button rfl "Say \"Hi\"") .button rfl (by decide) hslash
  have hplain := (verbatim_of_printed hquote).plain '"' (hname ▸ by decide)
  revert hplain
  decide

end SceneBindings.LineReading
