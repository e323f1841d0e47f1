import SceneBindings.Proofs.Naming.PartNames

/-!
Letters of names. Capitalizing a name loses no letter, and a mark of a type takes at most as many as
its word has; so a name that is made canonical gets little shorter.
-/

namespace SceneBindings.Naming

open Text

variable {name s t w word : List Char} {ws : List (List Char)}

/-- The number of characters that belong to words. -/
def letters (s : List Char) : Nat := s.countP fun c => !isWordGap c

lemma letters_append (s t : List Char) : letters (s ++ t) = letters s + letters t :=
  List.countP_append

lemma letters_le_length (s : List Char) : letters s ≤ s.length := List.countP_le_length

lemma letters_score (s : List Char) : letters ('_' :: s) = letters s :=
  List.countP_cons_of_neg (by decide)

/-! ### Capitalized names -/

/-- Cutting a text into words loses its separators alone. -/
lemma flatten_wordsCut (sep : Char → Bool) (cut : Char → Char → Bool) (s : List Char) :
    (wordsCut sep cut s).flatten = s.filter fun c => !sep c := by
  induction s with
  | nil => rfl
  | cons c r ih =>
    by_cases hc : sep c = true
    · rw [wordsCut_sep hc, ih, List.filter_cons_of_neg (by simpa using hc)]
    · rw [Bool.not_eq_true] at hc
      rw [List.filter_cons_of_pos (by simpa using hc), ← ih]
      obtain h | ⟨d, r', w, ws, -, -, hr, h⟩ := @wordsCut_cons sep cut c hc r
      · rw [h]
        rfl
      · rw [h, hr]
        rfl

lemma length_flatten_nameWords (s : List Char) : (nameWords s).flatten.length = letters s := by
  rw [nameWords, flatten_wordsCut, letters, List.countP_eq_length_filter]

lemma letters_joinWith (ws : List (List Char)) : letters (joinWith ['_'] ws) = letters ws.flatten := by
  induction ws with
  | nil => rfl
  | cons w ws ih =>
    cases ws with
    | nil => simp [joinWith]
    | cons v vs =>
      rw [joinWith.eq_3 _ _ _ (List.cons_ne_nil v vs), List.append_assoc, letters_append,
        List.singleton_append, letters_score, ih, ← letters_append]
      rfl

lemma length_le_letters_capitalize (hw : w ∈ nameWords s) : w.length ≤ letters (capitalize w) := by
  have hclear : letters (capitalize w) = (capitalize w).length :=
    List.countP_eq_length.mpr fun c hc => by simpa using (undivided_capitalize hw).clear c hc
  rw [hclear]
  cases w with
  | nil => exact Nat.zero_le _
  | cons x r =>
    have hlarge : 0 < (upperLetter x).length := List.length_pos_iff.mpr (upperLetter_ne_nil x)
    have hsmall : r.length ≤ (lower r).length := length_le_lowerAfter false r
    rw [capitalize, List.length_append, List.length_cons]
    omega

/-- No letter is lost when a name is capitalized. -/
lemma letters_le_pascal (s : List Char) : letters s ≤ letters (pascal s) := by
  have hall : ∀ ws : List (List Char), (∀ w ∈ ws, w.length ≤ letters (capitalize w)) →
      ws.flatten.length ≤ letters (ws.map capitalize).flatten := by
    intro ws hws
    induction ws with
    | nil => exact Nat.zero_le _
    | cons w ws ih =>
      rw [List.forall_mem_cons] at hws
      have hrest := ih hws.2
      rw [List.flatten_cons, List.length_append, List.map_cons, List.flatten_cons, letters_append]
      omega
  rw [pascal, letters_joinWith, ← length_flatten_nameWords]
  exact hall _ fun w hw => length_le_letters_capitalize hw

/-! ### Names without a mark -/

lemma letters_drop (n : Nat) (s : List Char) : letters s ≤ letters (s.drop n) + n := by
  have hsplit := letters_append (s.take n) (s.drop n)
  have hlost := letters_le_length (s.take n)
  rw [List.length_take] at hlost
  rw [List.take_append_drop] at hsplit
  omega

lemma letters_dropLast (n : Nat) (s : List Char) : letters s ≤ letters (dropLast n s) + n := by
  have hsplit := letters_append (dropLast n s) (s.drop (s.length - n))
  have hlost := letters_le_length (s.drop (s.length - n))
  rw [dropLast, List.take_append_drop, ← dropLast] at hsplit
  rw [List.length_drop] at hlost
  omega

lemma letters_dropWhile_score (s : List Char) : letters (s.dropWhile (· == '_')) = letters s := by
  have hsplit := letters_append (s.takeWhile (· == '_')) (s.dropWhile (· == '_'))
  have hscores : letters (s.takeWhile (· == '_')) = 0 := by
    refine List.countP_eq_zero.mpr fun c hc => ?_
    have hscore := List.all_eq_true.mp List.all_takeWhile c hc
    rw [eq_of_beq hscore]
    decide
  rw [List.takeWhile_append_dropWhile] at hsplit
  omega

/-- A mark takes at most as many letters as the longest type word has, and an underscore. -/
lemma letters_stripMarker (hword : word ∈ knownTypes) (name : List Char) :
    letters name ≤ letters (stripMarker (some word) name) + 11 := by
  have hlong : ∀ w ∈ knownTypes ++ abbreviations.map (·.1), w.length ≤ 10 := by decide
  have hsmall : ∀ w ∈ knownTypes, (lower w).length ≤ 10 := by decide +kernel
  refine forall_stripMarker (P := fun s => letters name ≤ letters s + 11) (Nat.le_add_right _ _) ?_
  intro types htypes
  have hknown : ∀ w ∈ types, w ∈ knownTypes := by
    rcases htypes with rfl | ⟨w, hw, rfl⟩
    · exact fun w hw => hw
    · rw [List.forall_mem_singleton, ← Option.some.inj hw]
      exact hword
  refine forall_mem_stripOne? (fun w hw heq => ?_) fun w hw n hn => ?_
  · have hname := letters_le_length name
    have hlower := length_le_lowerAfter false name
    have hmark := hsmall w (hknown w hw)
    rw [← lower, heq] at hlower
    omega
  · have hmark := hlong w (List.mem_append.mpr ((List.mem_append.mp hw).imp_left (hknown w)))
    have hdrop := letters_drop n name
    have hlast := letters_dropLast n name
    rw [letters_dropWhile_score]
    omega

lemma letters_baseFor (hword : word ∈ knownTypes) (hclean : cleanup name = name) :
    letters name ≤ letters (baseFor word name) + 11 := by
  have hstrip := letters_stripMarker hword name
  have hpascal := letters_le_pascal (stripMarker (some word) name)
  rw [baseFor, hclean]
  omega

end SceneBindings.Naming
