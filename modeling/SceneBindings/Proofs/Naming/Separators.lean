import SceneBindings.Proofs.Naming.Identifiers
import SceneBindings.Proofs.Text.LetterCase
import SceneBindings.Standardizer

/-!
Canonical names hold no separator unless the name that they are made of does: words are cut out of
the old name, and no letter has a separator for its small or large form.
-/

namespace SceneBindings

namespace Naming

open Text

variable {name word : List Char} {d : Char}

/-- Capitalizing makes no character without case out of another one. -/
lemma mem_of_mem_capitalize {w : List Char} (h : d ∈ capitalize w) (hd : isCaseless d = true) :
    d ∈ w := by
  cases w with
  | nil => cases h
  | cons c r =>
    rw [capitalize, List.mem_append] at h
    rcases h with h | h
    · rw [eq_of_mem_upperLetter h hd]
      exact List.mem_cons_self
    · exact List.mem_cons_of_mem c (mem_of_mem_lowerAfter h hd)

lemma mem_of_mem_pascal (h : d ∈ pascal name) (hd : isCaseless d = true) (hne : d ≠ '_') :
    d ∈ name := by
  rcases mem_joinWith h with h | ⟨w, hw, hmem⟩
  · exact absurd (List.mem_singleton.mp h) hne
  · obtain ⟨v, hv, rfl⟩ := List.mem_map.mp hw
    exact (mem_wordsCut hv (mem_of_mem_capitalize hmem hd)).1

lemma slash_mem_of_pascal (h : '/' ∈ pascal name) : '/' ∈ name :=
  mem_of_mem_pascal h (by decide +kernel) (by decide)

lemma mem_of_replaceFrom {marker : MarkerLength} {s : List Char} {skip : Nat} {c : Char}
    (h : c ∈ replaceFrom marker skip s) : c = ' ' ∨ c ∈ s := by
  induction s generalizing skip with
  | nil => cases h
  | cons a r ih =>
    cases skip with
    | succ n =>
      rw [replaceFrom] at h
      exact (ih h).imp_right (List.mem_cons_of_mem a)
    | zero =>
      rw [replaceFrom] at h
      split at h
      · rcases List.mem_cons.mp h with h | h
        · exact .inl h
        · exact (ih h).imp_right (List.mem_cons_of_mem a)
      · rcases List.mem_cons.mp h with rfl | h
        · exact .inr List.mem_cons_self
        · exact (ih h).imp_right (List.mem_cons_of_mem a)

/-- Cleaning a name brings in no character but underscores. -/
lemma mem_of_mem_cleanup (h : d ∈ cleanup name) (hne : d ≠ '_') : d ∈ name := by
  rcases mem_joinWith h with h | ⟨w, hw, hd⟩
  · exact absurd (List.mem_singleton.mp h) hne
  · obtain ⟨hmarked, hvisible⟩ := mem_wordsCut hw hd
    have hspace : d ≠ ' ' := by
      rintro rfl
      exact absurd hvisible (by decide)
    have hlegacy := (mem_of_replaceFrom hmarked).resolve_left hspace
    exact (mem_of_replaceFrom hlegacy).resolve_left hspace

lemma slash_mem_of_cleanup (h : '/' ∈ cleanup name) : '/' ∈ name :=
  mem_of_mem_cleanup h (by decide)

/-! ### What marks leave of names -/

section Left

variable {α : Type} {P : α → Prop}

lemma forall_mem_none : ∀ s ∈ (none : Option α), P s := nofun

lemma forall_mem_some {s : α} (h : P s) : ∀ t ∈ some s, P t := by
  rintro _ ⟨⟩
  exact h

lemma forall_mem_orElse {a b : Option α} (ha : ∀ s ∈ a, P s) (hb : ∀ s ∈ b, P s) :
    ∀ s ∈ (a <|> b), P s := by
  cases a with
  | none => exact hb
  | some s => exact ha

lemma forall_mem_ite {c : Prop} [Decidable c] {a b : Option α} (ha : ∀ s ∈ a, P s)
    (hb : ∀ s ∈ b, P s) : ∀ s ∈ (if c then a else b), P s := by
  split
  · exact ha
  · exact hb

lemma forall_mem_findSome? {β : Type} {f : β → Option α} {bs : List β}
    (h : ∀ b ∈ bs, ∀ s ∈ f b, P s) : ∀ s ∈ bs.findSome? f, P s := by
  intro s hs
  obtain ⟨b, hb, hs⟩ := List.exists_of_findSome?_eq_some hs
  exact h b hb s hs

lemma getD_of_forall_mem {a : Option α} {d : α} (hd : P d) (h : ∀ s ∈ a, P s) : P (a.getD d) := by
  cases a with
  | none => exact hd
  | some s => exact h s rfl

end Left

/-- What is left of a name without one mark: nothing if the mark is all of it, or else the name but
for some characters at one end, at most as many as the mark has and an underscore. -/
lemma forall_mem_stripOne? {P : List Char → Prop} {types : List (List Char)}
    (hwhole : ∀ w ∈ types, lower name = lower w → P [])
    (hends : ∀ w ∈ types ++ abbreviations.map (·.1), ∀ n ≤ w.length + 1, P (name.drop n) ∧
      P (dropLast n name) ∧ P ((name.drop n).dropWhile (· == '_'))) :
    ∀ s ∈ stripOne? types name, P s := by
  have htype : ∀ w ∈ types, ∀ n ≤ w.length + 1, P (name.drop n) ∧ P (dropLast n name) :=
    fun w hw n hn => (hends w (List.mem_append_left _ hw) n hn).imp_right And.left
  have hshort : ∀ a ∈ abbreviations.filter fun a => types.contains a.2, ∀ n ≤ a.1.length + 1,
      P (dropLast n name) ∧ P ((name.drop n).dropWhile (· == '_')) := fun a ha n hn =>
    (hends a.1 (List.mem_append_right _ (List.mem_map_of_mem (List.mem_filter.mp ha).1)) n hn).2
  refine forall_mem_orElse ?_ (forall_mem_orElse ?_ (forall_mem_orElse ?_ (forall_mem_orElse ?_
    (forall_mem_orElse ?_ ?_)))) <;> refine forall_mem_findSome? fun w hw => ?_
  · rw [whole?]
    split
    · next heq => exact forall_mem_some (hwhole w hw heq)
    · exact forall_mem_none
  · exact forall_mem_ite (forall_mem_some (htype w hw _ (Nat.le_refl _)).2) forall_mem_none
  · exact forall_mem_ite (forall_mem_some (htype w hw _ (Nat.le_succ _)).1) forall_mem_none
  · exact forall_mem_ite (forall_mem_some (htype w hw _ (Nat.le_refl _)).1) forall_mem_none
  · exact forall_mem_ite (forall_mem_some (htype w hw _ (Nat.le_succ _)).2) forall_mem_none
  · exact forall_mem_ite forall_mem_none
      (forall_mem_ite (forall_mem_some (hshort w hw _ (Nat.le_refl _)).1)
        (forall_mem_ite (forall_mem_some (hshort w hw _ (Nat.le_succ _)).1)
          (forall_mem_ite (forall_mem_some (hshort w hw _ (Nat.le_succ _)).2) forall_mem_none)))

lemma forall_stripMarker {P : List Char → Prop} {own : Option (List Char)} (hself : P name)
    (hone : ∀ types, types = knownTypes ∨ (∃ w, own = some w ∧ types = [w]) →
      ∀ s ∈ stripOne? types name, P s) : P (stripMarker own name) := by
  refine getD_of_forall_mem hself (forall_mem_orElse ?_ (hone knownTypes (.inl rfl)))
  cases own with
  | none => exact forall_mem_none
  | some w => exact forall_mem_ite forall_mem_none (hone [w] (.inr ⟨w, rfl, rfl⟩))

lemma dropLast_isInfix (n : Nat) (s : List Char) : dropLast n s <:+: s :=
  List.take_prefix _ _ |>.isInfix

lemma stripMarker_isInfix (own : Option (List Char)) (name : List Char) :
    stripMarker own name <:+: name := by
  refine forall_stripMarker (P := (· <:+: name)) (List.infix_refl name) fun types _ => ?_
  refine forall_mem_stripOne? (fun _ _ _ => List.nil_infix) fun w _ n _ => ?_
  have hdrop := List.drop_suffix n name
  exact ⟨hdrop.isInfix, dropLast_isInfix n name, ((List.dropWhile_suffix _).trans hdrop).isInfix⟩

lemma withoutTypeSuffix_isInfix (name : List Char) : withoutTypeSuffix name <:+: name := by
  have hlast := fun n => forall_mem_some (P := (· <:+: name)) (dropLast_isInfix n name)
  refine getD_of_forall_mem (P := (· <:+: name)) (List.infix_refl name)
    (forall_mem_orElse ?_ (forall_mem_orElse ?_ ?_)) <;> refine forall_mem_findSome? fun a _ => ?_
  · exact forall_mem_ite (hlast _) forall_mem_none
  · exact forall_mem_ite (hlast _) forall_mem_none
  · exact forall_mem_ite (hlast _) (forall_mem_ite (hlast _) forall_mem_none)

lemma slash_not_mem_typeWord {c : Capability} {word : String} (h : c.typeWord? = some word) :
    '/' ∉ word.toList := by
  revert h
  cases c <;> rintro ⟨⟩ <;> decide

lemma slash_mem_of_normalize {c : Capability} {force : Bool} (h : '/' ∈ normalize name c force) :
    '/' ∈ name := by
  rw [normalize] at h
  split at h
  · exact h
  · next word hword =>
    split at h
    · exact h
    · rw [typeWordChars?, Option.map_eq_some_iff] at hword
      obtain ⟨s, hs, rfl⟩ := hword
      have hnot := slash_not_mem_typeWord hs
      rw [withType] at h
      split at h
      · exact absurd h hnot
      · rw [List.mem_append, List.mem_cons] at h
        rcases h with h | h | h
        · exact slash_mem_of_cleanup ((stripMarker_isInfix _ _).subset (slash_mem_of_pascal h))
        · exact absurd h (by decide)
        · exact absurd h hnot

end Naming

lemma Name.slash_not_mem_normalize {name : String} (h : '/' ∉ name.toList) (c : Capability)
    (force : Bool) : '/' ∉ (Name.normalize name c force).toList := by
  rw [Name.normalize, Name.ofChars, String.toList_ofList]
  exact fun hmem => h (Naming.slash_mem_of_normalize hmem)

lemma slash_not_mem_partBase {name : String} (h : '/' ∉ name.toList) (word : String) :
    '/' ∉ (partBase name word).toList := by
  rw [partBase]
  split
  · decide
  · rw [Name.pascal, Name.ofChars, String.toList_ofList]
    intro hmem
    have hsub := Naming.slash_mem_of_pascal hmem
    rw [Name.withoutTypeSuffix, Name.ofChars, String.toList_ofList] at hsub
    exact h ((Naming.withoutTypeSuffix_isInfix _).subset hsub)

lemma slash_not_mem_intercalate {sep : String} (hsep : '/' ∉ sep.toList) {ws : List String}
    (hws : ∀ w ∈ ws, '/' ∉ w.toList) : '/' ∉ (sep.intercalate ws).toList := by
  rw [String.toList_intercalate]
  induction ws with
  | nil => exact List.not_mem_nil
  | cons w ws ih =>
    rw [List.forall_mem_cons] at hws
    cases ws with
    | nil =>
      rw [List.map_cons, List.map_nil, List.intercalate_singleton]
      exact hws.1
    | cons v vs =>
      rw [List.map_cons, List.map_cons, List.intercalate_cons_cons, List.mem_append, List.mem_append]
      rintro ((h | h) | h)
      · exact hws.1 h
      · exact hsep h
      · exact ih hws.2 h

lemma slash_not_mem_partName {name role : String} (h : '/' ∉ name.toList)
    (hrole : '/' ∉ role.toList) (c : Capability) : '/' ∉ (partName name c role).toList := by
  have hword : '/' ∉ (c.typeWord?.getD "").toList := by cases c <;> decide
  have hbase := slash_not_mem_partBase h (c.typeWord?.getD "")
  rw [partName]
  refine slash_not_mem_intercalate (by decide) fun w hw => ?_
  have hmem := (List.mem_filter.mp hw).1
  simp only [List.mem_cons, List.not_mem_nil, or_false] at hmem
  rcases hmem with hw | hw | hw
  · rw [hw]
    exact hbase
  · rw [hw]
    exact hword
  · rw [hw]
    exact hrole

end SceneBindings
