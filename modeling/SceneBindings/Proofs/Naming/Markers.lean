import Mathlib.Data.List.Forall2
import SceneBindings.Proofs.Naming.Separators

/-!
Clean names hold no marker and no white space. Cleaning makes every name clean and leaves clean names
alone, and neither cutting a clean name into words nor capitalizing them brings a marker back.
-/

namespace SceneBindings

namespace Text

/-! ### Contiguous parts -/

section Infix

variable {α : Type} {p a b : List α} {u : α}

lemma prefix_of_append_cons (hu : u ∉ p) (h : p <+: a ++ u :: b) : p <+: a := by
  rcases Nat.lt_or_ge a.length p.length with hlen | hlen
  · have hle : (a ++ [u]).length ≤ p.length := by
      rw [List.length_append]
      exact hlen
    have hwhole : a ++ [u] <+: a ++ u :: b := ⟨b, List.append_assoc a [u] b⟩
    have hpre := List.prefix_of_prefix_length_le hwhole h hle
    exact absurd (hpre.subset (List.mem_append_right a List.mem_cons_self)) hu
  · exact List.prefix_of_prefix_length_le h (List.prefix_append a _) hlen

/-- A part that does not hold an element stands on one side of it. -/
lemma infix_of_append_cons (hu : u ∉ p) (h : p <:+: a ++ u :: b) : p <:+: a ∨ p <:+: b := by
  induction a with
  | nil =>
    rcases List.infix_cons_iff.mp h with h | h
    · exact .inl (prefix_of_append_cons (a := []) hu h).isInfix
    · exact .inr h
  | cons c a ih =>
    rcases List.infix_cons_iff.mp h with h | h
    · exact .inl (prefix_of_append_cons (a := c :: a) hu h).isInfix
    · exact (ih h).imp_left fun h => h.trans (List.suffix_cons c a).isInfix

/-- A part of two joined lists stands in the second or begins in the first. -/
lemma infix_append_cases (h : p <:+: a ++ b) :
    p <:+: b ∨ ∃ s, s ≠ [] ∧ s <:+ a ∧ p <+: s ++ b := by
  induction a with
  | nil => exact .inl h
  | cons c a ih =>
    rcases List.infix_cons_iff.mp h with h | h
    · exact .inr ⟨c :: a, List.cons_ne_nil _ _, List.suffix_refl _, h⟩
    · refine (ih h).imp_right ?_
      rintro ⟨s, hne, hs, hp⟩
      exact ⟨s, hne, hs.trans (List.suffix_cons c a), hp⟩

end Infix

lemma infix_of_joinWith {u : Char} {p : List Char} {ws : List (List Char)} (hne : p ≠ [])
    (hu : u ∉ p) (h : p <:+: joinWith [u] ws) : ∃ w ∈ ws, p <:+: w := by
  induction ws with
  | nil => exact absurd (List.infix_nil.mp h) hne
  | cons w ws ih =>
    cases ws with
    | nil => exact ⟨w, List.mem_cons_self, h⟩
    | cons v vs =>
      rw [joinWith, List.append_assoc, List.singleton_append] at h
      · rcases infix_of_append_cons hu h with h | h
        · exact ⟨w, List.mem_cons_self, h⟩
        · obtain ⟨x, hx, hpx⟩ := ih h
          exact ⟨x, List.mem_cons_of_mem w hx, hpx⟩
      · exact List.cons_ne_nil v vs

end Text

namespace Naming

open Text

/-! ### Markers -/

/-- A marker without the white space around it. -/
inductive IsMarker : List Char → Prop where
  | legacy {u : List Char}
    (h : List.Forall₂ (fun p c => matchesLetter p c = true) "(legacy)".toList u) : IsMarker u
  | counter {ds : List Char} (hne : ds ≠ []) (hds : ∀ d ∈ ds, isDigit d = true) :
    IsMarker ('(' :: ds ++ [')'])

/-- The mark of an outdated widget, its case ignored. -/
def IsLegacy (u : List Char) : Prop :=
  List.Forall₂ (fun p c => matchesLetter p c = true) "(legacy)".toList u

/-- The counter of a copy. -/
def IsCounter (u : List Char) : Prop :=
  ∃ ds, ds ≠ [] ∧ (∀ d ∈ ds, isDigit d = true) ∧ u = '(' :: ds ++ [')']

lemma isMarker_iff {u : List Char} : IsMarker u ↔ IsLegacy u ∨ IsCounter u := by
  constructor
  · rintro (h | ⟨hne, hds⟩)
    · exact .inl h
    · exact .inr ⟨_, hne, hds, rfl⟩
  · rintro (h | ⟨ds, hne, hds, rfl⟩)
    · exact .legacy h
    · exact .counter hne hds

/-- No marker stands in the text. -/
def Unmarked (s : List Char) : Prop := ∀ u, IsMarker u → ¬ u <:+: s

/-- A character that can stand in a marker. -/
def isMark (c : Char) : Bool := isDigit c || "(legacy)".toList.any (matchesLetter · c)

lemma toLower_of_le {c : Char} (hc : 128 ≤ c.toNat) : c.toLower = c := by
  delta Char.toLower
  refine dif_neg fun h => ?_
  have hle : c.toNat ≤ 90 := UInt32.le_iff_toNat_le.mp h.2
  omega

lemma exists_mem_of_forall₂ {α β : Type} {r : α → β → Prop} {as : List α} {bs : List β}
    (h : List.Forall₂ r as bs) : ∀ b ∈ bs, ∃ a ∈ as, r a b := by
  induction h with
  | nil => exact List.forall_mem_nil _
  | cons hab _ ih =>
    rw [List.forall_mem_cons]
    refine ⟨⟨_, List.mem_cons_self, hab⟩, fun b hb => ?_⟩
    obtain ⟨a, ha, hr⟩ := ih b hb
    exact ⟨a, List.mem_cons_of_mem _ ha, hr⟩

/-- The letters of the marker have no case variant beyond ASCII. -/
lemma toLower_eq_of_matchesLetter {p c : Char} (hp : p ∈ "(legacy)".toList)
    (h : matchesLetter p c = true) : c.toNat < 128 ∧ c.toLower = p := by
  have hall : "(legacy)".toList.all (fun p => p ≠ 'i' ∧ p ≠ 's' ∧ p ≠ 'k' ∧ p.toNat < 128) = true := by
    decide
  obtain ⟨hi, hs, hk, hascii⟩ := of_decide_eq_true (List.all_eq_true.mp hall p hp)
  simp only [matchesLetter, Bool.or_eq_true, Bool.and_eq_true, beq_iff_eq, hi, hs, hk, false_and,
    or_false] at h
  refine ⟨Nat.lt_of_not_le fun hle => ?_, h⟩
  rw [toLower_of_le hle] at h
  rw [h] at hle
  omega

lemma isLegacy_iff_map {u : List Char} :
    IsLegacy u ↔ u.map Char.toLower = "(legacy)".toList := by
  have hequal : ∀ w : List Char,
      List.Forall₂ (fun p c => p = c.toLower) w u ↔ w = u.map Char.toLower := by
    intro w
    rw [← List.forall₂_map_right_iff, List.forall₂_eq_eq_eq]
  rw [eq_comm, ← hequal]
  constructor
  · intro h
    have hletters := (List.forall₂_and_left _ _).mpr ⟨fun p (hp : p ∈ "(legacy)".toList) => hp, h⟩
    exact hletters.imp fun p c hpc => (toLower_eq_of_matchesLetter hpc.1 hpc.2).2.symm
  · exact fun h => h.imp fun p c hpc => by rw [matchesLetter, hpc, beq_self_eq_true]; rfl

lemma eq_of_toLower_bracket {c d : Char} (h : c.toLower = d) (hd : d = '(' ∨ d = ')') : c = d := by
  have hascii : ∀ n < 128, (Char.ofNat n).toLower = '(' ∨ (Char.ofNat n).toLower = ')' →
      Char.ofNat n = (Char.ofNat n).toLower := by decide +kernel
  subst h
  by_cases hc : c.toNat < 128
  · exact ascii_of_forall (p := fun c => c.toLower = '(' ∨ c.toLower = ')' → c = c.toLower) hascii
      hc hd
  · exact (toLower_of_le (Nat.not_lt.mp hc)).symm

lemma isMark_of_isDigit {c : Char} (h : isDigit c = true) : isMark c = true :=
  Bool.or_eq_true _ _ |>.mpr (.inl h)

lemma isMark_of_matchesLetter {p c : Char} (hp : p ∈ "(legacy)".toList)
    (h : matchesLetter p c = true) : isMark c = true :=
  Bool.or_eq_true _ _ |>.mpr (.inr (List.any_eq_true.mpr ⟨p, hp, h⟩))

namespace IsMarker

variable {u : List Char}

lemma isMark (h : IsMarker u) : ∀ c ∈ u, Naming.isMark c = true := by
  cases h with
  | legacy h =>
    intro c hc
    obtain ⟨p, hp, hpc⟩ := exists_mem_of_forall₂ h c hc
    exact isMark_of_matchesLetter hp hpc
  | counter hne hds =>
    rw [List.cons_append, List.forall_mem_cons, List.forall_mem_append, List.forall_mem_singleton]
    exact ⟨by decide, fun d hd => isMark_of_isDigit (hds d hd), by decide⟩

/-- A marker begins and ends with a bracket and has no other one. -/
lemma brackets (h : IsMarker u) : ∃ v, u = '(' :: v ++ [')'] ∧ '(' ∉ v ∧ ')' ∉ v := by
  rcases isMarker_iff.mp h with h | ⟨ds, -, hds, rfl⟩
  · have hmap : u.map Char.toLower = '(' :: ("legacy".toList ++ [')']) := isLegacy_iff_map.mp h
    obtain ⟨c, w, rfl, hc, hw⟩ := List.map_eq_cons_iff.mp hmap
    obtain ⟨v, e, rfl, hv, he⟩ := List.map_eq_append_iff.mp hw
    obtain ⟨d, rfl, hd⟩ := List.map_eq_singleton_iff.mp he
    have hinside : ∀ x ∈ v, x.toLower ∈ "legacy".toList := fun x hx => hv ▸ List.mem_map_of_mem hx
    rw [eq_of_toLower_bracket hc (.inl rfl), eq_of_toLower_bracket hd (.inr rfl)]
    exact ⟨v, rfl, fun hmem => absurd (hinside _ hmem) (by decide),
      fun hmem => absurd (hinside _ hmem) (by decide)⟩
  · exact ⟨ds, rfl, fun hmem => absurd (hds _ hmem) (by decide),
      fun hmem => absurd (hds _ hmem) (by decide)⟩

lemma exists_eq_cons (h : IsMarker u) : ∃ v, u = '(' :: v := by
  obtain ⟨v, rfl, -⟩ := h.brackets
  exact ⟨v ++ [')'], rfl⟩

lemma ne_nil (h : IsMarker u) : u ≠ [] := by
  obtain ⟨v, rfl⟩ := h.exists_eq_cons
  exact List.cons_ne_nil _ _

lemma not_mem {c : Char} (h : IsMarker u) (hc : Naming.isMark c = false) : c ∉ u :=
  fun hmem => ne_true_of_eq_false hc (h.isMark c hmem)

end IsMarker

lemma Unmarked.part {s t : List Char} (h : Unmarked s) (hts : t <:+: s) : Unmarked t :=
  fun u hu hut => h u hu (hut.trans hts)

/-! ### Finding markers -/

lemma dropWord?_eq_some {w s r : List Char} : dropWord? w s = some r ↔
    ∃ u, List.Forall₂ (fun p c => matchesLetter p c = true) w u ∧ s = u ++ r := by
  induction w generalizing s with
  | nil =>
    rw [dropWord?, Option.some_inj]
    exact ⟨fun h => ⟨[], .nil, h⟩, fun ⟨u, hu, h⟩ => by rw [h, List.forall₂_nil_left_iff.mp hu]; rfl⟩
  | cons p ps ih =>
    cases s with
    | nil =>
      rw [dropWord?]
      refine ⟨nofun, fun ⟨u, hu, h⟩ => ?_⟩
      rw [(List.append_eq_nil_iff.mp h.symm).1] at hu
      cases hu
    | cons c s =>
      rw [dropWord?]
      constructor
      · intro h
        split at h
        · next hc =>
          obtain ⟨u, hu, rfl⟩ := ih.mp h
          exact ⟨c :: u, .cons hc hu, rfl⟩
        · cases h
      · rintro ⟨u, hu, h⟩
        obtain ⟨d, v, hd, hv, rfl⟩ := List.forall₂_cons_left_iff.mp hu
        cases h
        rw [if_pos hd]
        exact ih.mpr ⟨v, hv, rfl⟩

lemma counterDigits?_eq_some {s : List Char} {n : Nat} : counterDigits? s = some n ↔
    ∃ ds r, ds ≠ [] ∧ (∀ d ∈ ds, isDigit d = true) ∧ ds.length = n ∧ s = '(' :: ds ++ ')' :: r := by
  constructor
  · intro h
    rw [counterDigits?.eq_def] at h
    split at h
    · next r =>
      split at h
      · cases h
      · next rest hrest hne =>
        cases h
        refine ⟨r.takeWhile isDigit, rest, hne, List.all_eq_true.mp List.all_takeWhile, rfl, ?_⟩
        rw [List.cons_append, ← hrest, List.takeWhile_append_dropWhile]
      · cases h
    · cases h
  · rintro ⟨ds, r, hne, hds, rfl, rfl⟩
    have htake : (ds ++ ')' :: r).takeWhile isDigit = ds := by
      rw [List.takeWhile_append_of_pos hds, List.takeWhile_cons_of_neg (by decide), List.append_nil]
    have hdrop : (ds ++ ')' :: r).dropWhile isDigit = ')' :: r := by
      rw [List.dropWhile_append_of_pos hds, List.dropWhile_cons_of_neg (by decide)]
    rw [List.cons_append, counterDigits?, htake, hdrop]
    cases ds with
    | nil => exact absurd rfl hne
    | cons d ds => rfl

lemma drop_blanks (s : List Char) : s.drop (blanks s) = s.dropWhile isBlank := by
  have happend := congrArg (List.drop (blanks s)) (List.takeWhile_append_dropWhile (p := isBlank) (l := s))
  rw [← happend, blanks, List.drop_left]

/-- What the search for markers of one kind finds at the head of a text: white space, a marker, and
the white space behind it. -/
structure Finds (marker : MarkerLength) (IsKind : List Char → Prop) : Prop where
  isMarker : ∀ {u}, IsKind u → IsMarker u
  eq_some_iff : ∀ {s n}, marker s = some n ↔ ∃ u r, IsKind u ∧ s.dropWhile isBlank = u ++ r ∧
    n = blanks s + u.length + blanks r

lemma finds_legacy : Finds legacyLength IsLegacy where
  isMarker := .legacy
  eq_some_iff {s n} := by
    have hlen : ∀ {u}, IsLegacy u → u.length = 8 := fun h => h.length_eq.symm
    rw [legacyLength, drop_blanks, Option.map_eq_some_iff]
    constructor
    · rintro ⟨r, hr, rfl⟩
      obtain ⟨u, hu, heq⟩ := dropWord?_eq_some.mp hr
      exact ⟨u, r, hu, heq, by rw [hlen hu]⟩
    · rintro ⟨u, r, hu, heq, rfl⟩
      exact ⟨r, dropWord?_eq_some.mpr ⟨u, hu, heq⟩, by rw [hlen hu]⟩

lemma finds_counter : Finds counterLength IsCounter where
  isMarker := fun ⟨_, hne, hds, hu⟩ => hu ▸ .counter hne hds
  eq_some_iff {s n} := by
    have hlen : ∀ ds : List Char, ('(' :: ds ++ [')']).length = ds.length + 2 := by simp
    have hassoc : ∀ ds r : List Char, '(' :: ds ++ ')' :: r = '(' :: ds ++ [')'] ++ r := by simp
    have hrest : ∀ {ds r : List Char}, s.dropWhile isBlank = '(' :: ds ++ [')'] ++ r →
        s.drop (blanks s + (ds.length + 2)) = r := by
      intro ds r h
      rw [← List.drop_drop, drop_blanks, h, ← hlen, List.drop_left]
    rw [counterLength, drop_blanks, Option.map_eq_some_iff]
    constructor
    · rintro ⟨m, hm, rfl⟩
      obtain ⟨ds, r, hne, hds, rfl, heq⟩ := counterDigits?_eq_some.mp hm
      rw [hassoc] at heq
      exact ⟨'(' :: ds ++ [')'], r, ⟨ds, hne, hds, rfl⟩, heq, by rw [hrest heq, hlen]⟩
    · rintro ⟨_, r, ⟨ds, hne, hds, rfl⟩, heq, rfl⟩
      have hdigits := counterDigits?_eq_some.mpr ⟨ds, r, hne, hds, rfl, heq.trans (hassoc ds r).symm⟩
      exact ⟨ds.length, hdigits, by rw [hrest heq, hlen]⟩

namespace Finds

variable {marker : MarkerLength} {IsKind : List Char → Prop} {s u : List Char} {n : Nat}
  (F : Finds marker IsKind)

include F

lemma of_begins (hu : IsKind u) (h : u <+: s) : ∃ n, marker s = some (n + 1) := by
  obtain ⟨v, rfl⟩ := (F.isMarker hu).exists_eq_cons
  obtain ⟨r, rfl⟩ := h
  refine ⟨v.length + blanks r, F.eq_some_iff.mpr ⟨'(' :: v, r, hu, ?_, ?_⟩⟩
  · exact List.dropWhile_cons_of_neg (by decide)
  · have hblanks : blanks ('(' :: v ++ r) = 0 := rfl
    rw [hblanks, List.length_cons]
    omega

lemma head (h : marker s = some n) : ∃ r, s.dropWhile isBlank = '(' :: r := by
  obtain ⟨u, r, hu, heq, -⟩ := F.eq_some_iff.mp h
  obtain ⟨v, rfl⟩ := (F.isMarker hu).exists_eq_cons
  exact ⟨v ++ r, heq⟩

lemma exists_infix (h : marker s = some n) : ∃ u, IsKind u ∧ u <:+: s := by
  obtain ⟨u, r, hu, heq, -⟩ := F.eq_some_iff.mp h
  refine ⟨u, hu, s.takeWhile isBlank, r, ?_⟩
  rw [List.append_assoc, ← heq, List.takeWhile_append_dropWhile]

end Finds

/-! ### Replacing markers -/

section Replacing

variable {marker : MarkerLength} {s p : List Char} {skip : Nat}

lemma replaceFrom_skip (n : Nat) (s : List Char) :
    replaceFrom marker n s = replaceMarkers marker (s.drop n) := by
  induction n generalizing s with
  | zero => rfl
  | succ n ih =>
    cases s with
    | nil => rfl
    | cons c r => exact ih r

lemma replaceMarkers_of_some {c : Char} {n : Nat} (h : marker (c :: s) = some (n + 1)) :
    replaceMarkers marker (c :: s) = ' ' :: replaceMarkers marker (s.drop n) := by
  rw [replaceMarkers, replaceFrom, h]
  exact congrArg (' ' :: ·) (replaceFrom_skip n s)

lemma replaceMarkers_of_none {c : Char} (h : ∀ n, marker (c :: s) ≠ some (n + 1)) :
    replaceMarkers marker (c :: s) = c :: replaceMarkers marker s := by
  rw [replaceMarkers, replaceFrom]
  split
  · next n hn => exact absurd hn (h n)
  · rfl

lemma prefix_of_replaceFrom (hne : p ≠ []) (hspace : ' ' ∉ p) (h : p <+: replaceFrom marker 0 s) :
    p <+: s ∧ ∀ n, marker s ≠ some (n + 1) := by
  induction s generalizing p with
  | nil => exact absurd (List.prefix_nil.mp h) hne
  | cons c r ih =>
    obtain ⟨d, q, rfl⟩ := List.exists_cons_of_ne_nil hne
    rw [replaceFrom] at h
    split at h
    · obtain ⟨rfl, -⟩ := List.cons_prefix_cons.mp h
      exact absurd List.mem_cons_self hspace
    · next hnone =>
      obtain ⟨rfl, hq⟩ := List.cons_prefix_cons.mp h
      refine ⟨List.cons_prefix_cons.mpr ⟨rfl, ?_⟩, hnone⟩
      by_cases hempty : q = []
      · rw [hempty]
        exact List.nil_prefix
      · exact (ih hempty (fun hmem => hspace (List.mem_cons_of_mem d hmem)) hq).1

/-- What stands in the result without a space has been left alone, since no marker began there. -/
lemma infix_of_replaceFrom (hne : p ≠ []) (hspace : ' ' ∉ p)
    (h : p <:+: replaceFrom marker skip s) :
    ∃ t, t <:+ s ∧ p <+: t ∧ ∀ n, marker t ≠ some (n + 1) := by
  induction s generalizing skip with
  | nil => exact absurd (List.infix_nil.mp h) hne
  | cons c r ih =>
    have hrest : ∀ {n}, p <:+: replaceFrom marker n r →
        ∃ t, t <:+ c :: r ∧ p <+: t ∧ ∀ n, marker t ≠ some (n + 1) := by
      intro n hn
      obtain ⟨t, ht, hp⟩ := ih hn
      exact ⟨t, ht.trans (List.suffix_cons c r), hp⟩
    cases skip with
    | succ n =>
      rw [replaceFrom] at h
      exact hrest h
    | zero =>
      obtain ⟨d, n, heq⟩ : ∃ d n, replaceFrom marker 0 (c :: r) = d :: replaceFrom marker n r := by
        rw [replaceFrom]
        split
        · exact ⟨_, _, rfl⟩
        · exact ⟨_, _, rfl⟩
      rw [heq] at h
      rcases List.infix_cons_iff.mp h with h | h
      · rw [← heq] at h
        exact ⟨c :: r, List.suffix_refl _, prefix_of_replaceFrom hne hspace h⟩
      · exact hrest h

lemma replaceMarkers_eq_self (h : ∀ t, t <:+ s → ∀ n, marker t ≠ some (n + 1)) :
    replaceMarkers marker s = s := by
  induction s with
  | nil => rfl
  | cons c r ih =>
    have hrest := ih fun t ht => h t (ht.trans (List.suffix_cons c r))
    rw [replaceMarkers_of_none (h _ (List.suffix_refl _)), hrest]

/-- The marker of an outdated widget has an `l` in it. -/
lemma replaceMarkers_legacy_of_forall (h : ∀ c ∈ s, c.toLower ≠ 'l') :
    replaceMarkers legacyLength s = s := by
  refine replaceMarkers_eq_self fun t ht n hn => ?_
  obtain ⟨u, hu, hut⟩ := finds_legacy.exists_infix hn
  obtain ⟨c, hc, hlow⟩ : ∃ c ∈ u, c.toLower = 'l' :=
    List.mem_map.mp (isLegacy_iff_map.mp hu ▸ by decide)
  exact h c (ht.subset (hut.subset hc)) hlow

end Replacing

/-! ### Clean names -/

/-- A name without markers and without white space. -/
structure IsClean (s : List Char) : Prop where
  unmarked : Unmarked s
  unspaced : ∀ c ∈ s, isBlank c = false

lemma unmarked_replaceMarkers (s : List Char) :
    Unmarked (replaceMarkers counterLength (replaceMarkers legacyLength s)) := by
  intro u hu hin
  have hspace : ' ' ∉ u := hu.not_mem (by decide +kernel)
  obtain ⟨t, ht, hut, hcounter⟩ := infix_of_replaceFrom hu.ne_nil hspace hin
  rcases isMarker_iff.mp hu with hkind | hkind
  · have hfirst : u <:+: replaceMarkers legacyLength s := hut.isInfix.trans ht.isInfix
    obtain ⟨x, -, hux, hlegacy⟩ := infix_of_replaceFrom hu.ne_nil hspace hfirst
    obtain ⟨n, hn⟩ := finds_legacy.of_begins hkind hux
    exact hlegacy n hn
  · obtain ⟨n, hn⟩ := finds_counter.of_begins hkind hut
    exact hcounter n hn

/-- A text without markers is only cut into words. -/
lemma cleanup_of_unmarked {s : List Char} (h : Unmarked s) :
    cleanup s = Text.joinWith ['_'] (wordsBy isBlank s) := by
  have hself : ∀ {marker IsKind}, Finds marker IsKind → replaceMarkers marker s = s := by
    intro marker IsKind F
    refine replaceMarkers_eq_self fun t ht n hn => ?_
    obtain ⟨u, hu, hut⟩ := F.exists_infix hn
    exact h u (F.isMarker hu) (hut.trans ht.isInfix)
  rw [cleanup, hself finds_legacy, hself finds_counter]

namespace IsClean

variable {s t : List Char}

lemma part (h : IsClean s) (hts : t <:+: s) : IsClean t :=
  ⟨h.unmarked.part hts, fun c hc => h.unspaced c (hts.subset hc)⟩

lemma joinWith {ws : List (List Char)} (hws : ∀ w ∈ ws, IsClean w) :
    IsClean (Text.joinWith ['_'] ws) where
  unmarked u hu hin := by
    obtain ⟨w, hw, huw⟩ := infix_of_joinWith hu.ne_nil (hu.not_mem (by decide +kernel)) hin
    exact (hws w hw).unmarked u hu huw
  unspaced c hc := by
    rcases mem_joinWith hc with hc | ⟨w, hw, hcw⟩
    · rw [List.mem_singleton.mp hc]
      decide
    · exact (hws w hw).unspaced c hcw

lemma append_score (hs : IsClean s) (ht : IsClean t) : IsClean (s ++ '_' :: t) := by
  have hjoin : IsClean (Text.joinWith ['_'] [s, t]) :=
    .joinWith (List.forall_mem_cons.mpr ⟨hs, List.forall_mem_singleton.mpr ht⟩)
  rw [Text.joinWith, List.append_assoc] at hjoin
  · exact hjoin
  · exact List.cons_ne_nil t []

lemma of_identifier (hs : ∀ c ∈ s, isIdentifierChar c = true) : IsClean s where
  unmarked u hu hin := by
    obtain ⟨v, rfl⟩ := hu.exists_eq_cons
    exact absurd (hs '(' (hin.subset List.mem_cons_self)) (by decide)
  unspaced c hc := isBlank_of_isIdentifierChar (hs c hc)

/-- Cleaning leaves a clean name alone. -/
lemma cleanup_eq (h : IsClean s) (hne : s ≠ []) : cleanup s = s := by
  have hword : wordsBy isBlank s = [s] := (Undivided.of_clear hne h.unspaced).wordsCut_eq
  rw [cleanup_of_unmarked h.unmarked, hword]
  rfl

end IsClean

/-- Cleaning makes a name clean. -/
lemma isClean_cleanup (s : List Char) : IsClean (cleanup s) := by
  refine .joinWith fun w hw => ?_
  have hin := infix_of_mem_wordsCut hw
  exact ⟨(unmarked_replaceMarkers s).part hin, fun c hc => (mem_wordsCut hw hc).2⟩

/-! ### Markers in capitalized names -/

/-- The second character can take the place of the first one in a marker. -/
structure Echo (x c : Char) : Prop where
  letter : ∀ p ∈ "(legacy)".toList, matchesLetter p x = true → matchesLetter p c = true
  caseless : isCaseless x = true → c = x

section Echoing

variable {u v : List Char}

lemma matches_echo {w : List Char} (hw : w ⊆ "(legacy)".toList)
    (h : List.Forall₂ (fun p c => matchesLetter p c = true) w u) (he : List.Forall₂ Echo u v) :
    List.Forall₂ (fun p c => matchesLetter p c = true) w v := by
  induction h generalizing v with
  | nil =>
    cases he
    exact .nil
  | cons hpc _ ih =>
    obtain ⟨d, v, hcd, hv, rfl⟩ := List.forall₂_cons_left_iff.mp he
    rw [List.cons_subset] at hw
    exact .cons (hcd.letter _ hw.1 hpc) (ih hw.2 hv)

lemma eq_of_echo (hu : ∀ c ∈ u, isCaseless c = true) (he : List.Forall₂ Echo u v) : v = u := by
  induction he with
  | nil => rfl
  | cons hcd _ ih =>
    rw [List.forall_mem_cons] at hu
    rw [hcd.caseless hu.1, ih hu.2]

lemma IsMarker.echo (h : IsMarker u) (he : List.Forall₂ Echo u v) : IsMarker v := by
  cases h with
  | legacy h => exact .legacy (matches_echo (List.Subset.refl _) h he)
  | counter hne hds =>
    rw [eq_of_echo ?_ he]
    · exact .counter hne hds
    · rw [List.cons_append, List.forall_mem_cons, List.forall_mem_append, List.forall_mem_singleton]
      exact ⟨by decide +kernel, fun d hd => isCaseless_of_isDigit (hds d hd), by decide +kernel⟩

end Echoing

/-- A small form that can stand in a marker stands alone for a letter that can do so too. -/
lemma echo_of_mem_lowerLetter {c x : Char} (hc : c ≠ 'Σ') (hx : isMark x = true)
    (h : x ∈ lowerLetter c) : lowerLetter c = [x] ∧ Echo x c := by
  have hsame : isCaseless x = true → c = x := fun hcase => (eq_of_mem_lowerLetter h hcase).symm
  by_cases hlow : c.toNat < 128
  · have htwice : ∀ n < 128, (Char.ofNat n).toLower.toLower = (Char.ofNat n).toLower := by
      decide +kernel
    rw [lowerLetter_ascii hlow, List.mem_singleton] at h
    refine ⟨by rw [lowerLetter_ascii hlow, h], fun p hp hpx => ?_, hsame⟩
    have hletter := (toLower_eq_of_matchesLetter hp hpx).2
    rw [h, ascii_of_forall (p := fun c => c.toLower.toLower = c.toLower) htwice hlow] at hletter
    rw [matchesLetter, hletter, beq_self_eq_true]
    rfl
  · by_cases hascii : x.toNat < 128
    · have hmarks : isMark 'i' = false ∧ isMark 'k' = false := by decide +kernel
      rcases eq_of_mem_lowerLetter_ascii h (Nat.not_lt.mp hlow) hascii with rfl | rfl
      · exact absurd hx (ne_true_of_eq_false hmarks.1)
      · exact absurd hx (ne_true_of_eq_false hmarks.2)
    · have hdigit : isDigit x = true := by
        rw [isMark, Bool.or_eq_true] at hx
        refine hx.resolve_right fun hany => ?_
        obtain ⟨p, hp, hpx⟩ := List.any_eq_true.mp hany
        exact hascii (toLower_eq_of_matchesLetter hp hpx).1
      have hcx := hsame (isCaseless_of_isDigit hdigit)
      subst hcx
      exact ⟨(isSmall_of_mem_lowerLetter hc h).2, fun _ _ hpx => hpx, fun _ => rfl⟩

/-- The small form of the first letter of a text. -/
lemma lowerAfter_cons_echo (cased : Bool) (c : Char) (r : List Char) :
    ∃ form cased', lowerAfter cased (c :: r) = form ++ lowerAfter cased' r ∧ form ≠ [] ∧
      ∀ x ∈ form, isMark x = true → form = [x] ∧ Echo x c := by
  refine ⟨_, _, rfl, ?_⟩
  split
  · refine ⟨List.cons_ne_nil _ _, fun x hx hmark => ?_⟩
    have hsigmas : isMark 'ς' = false ∧ isMark 'σ' = false := by decide +kernel
    rw [List.mem_singleton] at hx
    split at hx
    · rw [hx, hsigmas.1] at hmark
      cases hmark
    · rw [hx, hsigmas.2] at hmark
      cases hmark
  · next hc => exact ⟨lowerLetter_ne_nil c, fun x hx hmark => echo_of_mem_lowerLetter hc hmark hx⟩

section Small

variable {r u : List Char} {cased : Bool}

lemma echo_of_prefix_lowerAfter (hu : ∀ x ∈ u, isMark x = true) (h : u <+: lowerAfter cased r) :
    ∃ v, v <+: r ∧ List.Forall₂ Echo u v := by
  induction r generalizing cased u with
  | nil =>
    rw [List.prefix_nil.mp h]
    exact ⟨[], List.nil_prefix, .nil⟩
  | cons c r ih =>
    cases u with
    | nil => exact ⟨[], List.nil_prefix, .nil⟩
    | cons x u =>
      rw [List.forall_mem_cons] at hu
      obtain ⟨form, cased', heq, hne, hform⟩ := lowerAfter_cons_echo cased c r
      obtain ⟨y, form, rfl⟩ := List.exists_cons_of_ne_nil hne
      rw [heq, List.cons_append] at h
      obtain ⟨rfl, htail⟩ := List.cons_prefix_cons.mp h
      obtain ⟨hone, hecho⟩ := hform x List.mem_cons_self hu.1
      cases hone
      obtain ⟨v, hv, huv⟩ := ih hu.2 htail
      exact ⟨c :: v, List.cons_prefix_cons.mpr ⟨rfl, hv⟩, .cons hecho huv⟩

lemma echo_of_infix_lowerAfter (hu : ∀ x ∈ u, isMark x = true) (hne : u ≠ [])
    (h : u <:+: lowerAfter cased r) : ∃ v, v <:+: r ∧ List.Forall₂ Echo u v := by
  induction r generalizing cased with
  | nil => exact absurd (List.infix_nil.mp h) hne
  | cons c r ih =>
    obtain ⟨form, cased', heq, -, hform⟩ := lowerAfter_cons_echo cased c r
    rw [heq] at h
    rcases infix_append_cases h with h | ⟨s, hs, hsuffix, hpre⟩
    · obtain ⟨v, hv, huv⟩ := ih h
      exact ⟨v, hv.trans (List.suffix_cons c r).isInfix, huv⟩
    · obtain ⟨x, u, rfl⟩ := List.exists_cons_of_ne_nil hne
      obtain ⟨y, s, rfl⟩ := List.exists_cons_of_ne_nil hs
      obtain ⟨rfl, -⟩ := List.cons_prefix_cons.mp hpre
      obtain ⟨rfl, -⟩ := hform x (hsuffix.subset List.mem_cons_self) (hu x List.mem_cons_self)
      have hwhole := hsuffix.eq_of_length_le (Nat.succ_le_succ (Nat.zero_le _))
      rw [hwhole, ← heq] at hpre
      obtain ⟨v, hv, huv⟩ := echo_of_prefix_lowerAfter hu hpre
      exact ⟨v, hv.isInfix, huv⟩

end Small

/-- Capitalizing brings no marker about. -/
lemma IsClean.capitalize {w : List Char} (h : IsClean w) : IsClean (capitalize w) := by
  refine ⟨fun u hu hin => ?_, fun d hd => ?_⟩
  · cases w with
    | nil => exact h.unmarked u hu hin
    | cons c r =>
      rw [Naming.capitalize] at hin
      rcases infix_append_cases hin with hin | ⟨s, hs, hsuffix, hpre⟩
      · obtain ⟨v, hv, huv⟩ := echo_of_infix_lowerAfter hu.isMark hu.ne_nil hin
        exact h.unmarked v (hu.echo huv) (hv.trans (List.suffix_cons c r).isInfix)
      · obtain ⟨u, rfl⟩ := hu.exists_eq_cons
        obtain ⟨y, s, rfl⟩ := List.exists_cons_of_ne_nil hs
        obtain ⟨rfl, htail⟩ := List.cons_prefix_cons.mp hpre
        obtain rfl : '(' = c :=
          eq_of_mem_upperLetter (hsuffix.subset List.mem_cons_self) (by decide +kernel)
        obtain rfl : s = [] := by
          have hlen := hsuffix.length_le
          rw [upperLetter_ascii (by decide)] at hlen
          exact List.length_eq_zero_iff.mp (Nat.le_zero.mp (Nat.le_of_succ_le_succ hlen))
        obtain ⟨v, hv, huv⟩ := echo_of_prefix_lowerAfter
          (fun x hx => hu.isMark x (List.mem_cons_of_mem _ hx)) htail
        have hself : Echo '(' '(' := ⟨fun _ _ h => h, fun _ => rfl⟩
        exact h.unmarked _ (hu.echo (.cons hself huv)) (List.cons_prefix_cons.mpr ⟨rfl, hv⟩).isInfix
  · by_contra hblank
    rw [Bool.not_eq_false] at hblank
    have hmem := mem_of_mem_capitalize hd (isCaseless_of_isBlank hblank)
    rw [h.unspaced d hmem] at hblank
    cases hblank

lemma IsClean.pascal {s : List Char} (h : IsClean s) : IsClean (pascal s) := by
  refine .joinWith fun w hw => ?_
  obtain ⟨v, hv, rfl⟩ := List.mem_map.mp hw
  exact (h.part (infix_of_mem_wordsCut hv)).capitalize

end Naming

end SceneBindings
