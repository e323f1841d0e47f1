import SceneBindings.Proofs.Naming.Canonical
import SceneBindings.Proofs.Register.Renaming

/-!
What one visit of a node does to the names of a scene. The node itself gets a standardized name, its
parts get clean names that may lack their own type words, and all other names stay.
-/

namespace SceneBindings

/-! ### Names of parts -/

/-- A name that cleaning leaves alone. -/
def IsTidy (name : String) : Prop := name ≠ "" ∧ Naming.IsClean name.toList

section PartNames

open Naming

variable {name role : String} {c : Capability}

lemma isClean_intercalate {ws : List String} (hws : ∀ w ∈ ws, IsClean w.toList) :
    IsClean ("_".intercalate ws).toList := by
  rw [String.toList_intercalate]
  induction ws with
  | nil => exact .of_identifier (List.forall_mem_nil _)
  | cons w ws ih =>
    rw [List.forall_mem_cons] at hws
    cases ws with
    | nil =>
      rw [List.map_cons, List.map_nil, List.intercalate_singleton]
      exact hws.1
    | cons v vs =>
      rw [List.map_cons, List.map_cons, List.intercalate_cons_cons, List.append_assoc]
      exact hws.1.append_score (ih hws.2)

lemma intercalate_ne_empty {ws : List String} {w : String} (hw : w ∈ ws) (hne : w ≠ "") :
    "_".intercalate ws ≠ "" := by
  rw [Ne, ← String.toList_eq_nil_iff, String.toList_intercalate]
  match ws with
  | [] => cases hw
  | [v] =>
    rw [List.map_cons, List.map_nil, List.intercalate_singleton, String.toList_eq_nil_iff]
    exact List.mem_singleton.mp hw ▸ hne
  | v :: x :: xs =>
    rw [List.map_cons, List.map_cons, List.intercalate_cons_cons, List.append_assoc]
    exact List.append_ne_nil_of_right_ne_nil _ (List.cons_ne_nil _ _)

lemma isClean_partBase (hname : IsClean name.toList) (word : String) :
    IsClean (partBase name word).toList := by
  rw [partBase]
  split
  · exact .of_identifier (List.forall_mem_nil _)
  · rw [Name.pascal, Name.ofChars, String.toList_ofList, Name.withoutTypeSuffix, Name.ofChars,
      String.toList_ofList]
    exact (hname.part (withoutTypeSuffix_isInfix _)).pascal

lemma isTidy_partName (hname : IsClean name.toList) (hrole : IsRole role)
    (hc : c.typeWord?.isSome = true) : IsTidy (partName name c role) := by
  obtain ⟨word, hword⟩ := Option.isSome_iff_exists.mp hc
  obtain ⟨hne, hletters⟩ := Naming.typeWord_letters (Option.map_eq_some_iff.mpr ⟨word, hword, rfl⟩)
  have hempty : word ≠ "" := fun h => hne (String.toList_eq_nil_iff.mpr h)
  rw [partName, hword, Option.getD_some]
  refine ⟨intercalate_ne_empty (w := word) (List.mem_filter.mpr ⟨?_, ?_⟩) hempty,
    isClean_intercalate fun w hw => ?_⟩
  · exact List.mem_cons_of_mem _ List.mem_cons_self
  · rw [Bool.not_eq_true', ← Bool.not_eq_true, String.isEmpty_iff]
    exact hempty
  · have hmem := (List.mem_filter.mp hw).1
    simp only [List.mem_cons, List.not_mem_nil, or_false] at hmem
    rcases hmem with h | h | h
    · rw [h]
      exact isClean_partBase hname _
    · rw [h]
      exact .of_identifier hletters
    · rw [h]
      exact .of_identifier (List.all_eq_true.mp hrole)

end PartNames

/-! ### Standardized names -/

lemma Name.isStandardized_iff {name : String} {c : Capability} {word : String}
    (h : c.typeWord? = some word) : Name.isStandardized name c = true ↔
      IsTidy name ∧ Naming.carriesType word.toList name.toList = true := by
  have hchars : Naming.typeWordChars? c = some word.toList :=
    Option.map_eq_some_iff.mpr ⟨word, h, rfl⟩
  have hempty : name.toList ≠ [] ↔ name ≠ "" := not_congr String.toList_eq_nil_iff
  rw [Name.isStandardized, Naming.isStandardized_iff hchars, ← and_assoc, hempty, IsTidy]
  refine and_congr_left fun _ => and_congr_right fun hne => ⟨fun hclean => ?_, fun hclean => ?_⟩
  · exact hclean ▸ Naming.isClean_cleanup name.toList
  · exact hclean.cleanup_eq (hempty.mpr hne)

lemma Name.isStandardized_normalize {c : Capability} (hc : c.typeWord?.isSome = true) (name : String)
    (force : Bool) : Name.isStandardized (Name.normalize name c force) c = true := by
  obtain ⟨word, hword⟩ := Option.isSome_iff_exists.mp hc
  rw [Name.isStandardized, Name.normalize, Name.ofChars, String.toList_ofList]
  exact Naming.isStandardized_normalize (Option.map_eq_some_iff.mpr ⟨word, hword, rfl⟩) _ force

lemma Name.isTidy_of_isStandardized {name : String} {c : Capability}
    (h : Name.isStandardized name c = true) : IsTidy name := by
  cases hword : c.typeWord? with
  | none =>
    have hnone : Naming.typeWordChars? c = none := Option.map_eq_none_iff.mpr hword
    rw [Name.isStandardized, Naming.isStandardized, hnone] at h
    cases h
  | some word => exact ((Name.isStandardized_iff hword).mp h).1

/-- A name with a role's type word at its end tells the role of an image from that of a panel. -/
lemma Forest.classify_of_normalize {f g : Forest} {k : Key} {name : String}
    (hshape : (g.node k).shape = (f.node k).shape)
    (hname : (g.node k).name = Name.normalize name (f.classify k) true) :
    g.classify k = f.classify k := by
  rcases Forest.classify_cases hshape with h | ⟨hf, hg⟩
  · exact h
  · have hlooks : ∀ (c : Capability) (word : String), c.typeWord? = some word →
        Name.looksLikePanel (Name.normalize name c true) =
          Naming.looksLikePanel (Naming.withType word.toList name.toList) := by
      intro c word hword
      rw [Name.looksLikePanel, Name.normalize, Name.ofChars, String.toList_ofList, Naming.normalize,
        Naming.typeWordChars?, hword]
      rfl
    have hchildren : (g.node k).children = (f.node k).children := (congrArg Node.children hshape :)
    obtain ⟨hpanel, himage⟩ := Naming.looksLikePanel_withType name.toList
    rw [hf] at hname ⊢
    rw [hg]
    cases hlook : f.isPanelImage k with
    | true =>
      rw [hlook, if_pos rfl] at hname
      rw [Forest.isPanelImage, hname, hlooks .panel "Panel" rfl, hpanel, Bool.or_true]
    | false =>
      rw [hlook, if_neg Bool.false_ne_true] at hname
      rw [Forest.isPanelImage, Bool.or_eq_false_iff] at hlook
      rw [Forest.isPanelImage, hname, hlooks .image "Image" rfl, himage, hchildren, hlook.1]
      rfl

/-! ### Last names -/

/-- What a list of pairs says last of a key. -/
def lastFor? (xs : List (Key × String)) (k : Key) : Option String :=
  (xs.reverse.find? fun x => x.1 == k).map (·.2)

lemma lastFor?_cons (x : Key × String) (xs : List (Key × String)) (k : Key) :
    lastFor? (x :: xs) k = (lastFor? xs k).or (if x.1 = k then some x.2 else none) := by
  rw [lastFor?, lastFor?, List.reverse_cons, List.find?_append]
  cases hfound : xs.reverse.find? fun x => x.1 == k with
  | some y => rfl
  | none =>
    by_cases hx : x.1 = k
    · simp [hx]
    · simp [hx]

lemma lastFor?_map (u : String → String) (xs : List (Key × String)) (k : Key) :
    lastFor? (xs.map fun x => (x.1, u x.2)) k = (lastFor? xs k).map u := by
  induction xs with
  | nil => rfl
  | cons x xs ih =>
    rw [List.map_cons, lastFor?_cons, lastFor?_cons, ih]
    cases lastFor? xs k with
    | some y => rfl
    | none => by_cases hx : x.1 = k <;> simp [hx]

lemma mem_of_lastFor? {xs : List (Key × String)} {k : Key} {y : String} (h : lastFor? xs k = some y) :
    (k, y) ∈ xs := by
  obtain ⟨x, hx, rfl⟩ := Option.map_eq_some_iff.mp h
  obtain rfl : x.1 = k := by simpa using List.find?_some hx
  exact List.mem_reverse.mp (List.mem_of_find?_eq_some hx)

lemma lastFor?_eq_none {xs : List (Key × String)} {k : Key} :
    lastFor? xs k = none ↔ k ∉ xs.map (·.1) := by
  induction xs with
  | nil => exact iff_of_true rfl List.not_mem_nil
  | cons x xs ih =>
    rw [lastFor?_cons, Option.or_eq_none_iff, ih, List.map_cons, List.mem_cons, not_or, and_comm]
    refine and_congr_left fun _ => ?_
    by_cases hx : x.1 = k
    · simp [hx]
    · simp [hx, show k ≠ x.1 from fun h => hx h.symm]

namespace Renaming

open Forest

variable {r : Renaming} {k j d : Key} {c : Capability} {s : SceneId} {new : String}

/-! ### The nodes that are visited -/

lemma mem_childrenFirst {f : Forest} {n : Nat} : k ∈ childrenFirst f n j ↔ k ∈ f.subtreeTo n j := by
  induction n generalizing j with
  | zero => exact Iff.rfl
  | succ n ih =>
    simp only [childrenFirst, subtreeTo, List.mem_append, List.mem_flatMap, List.mem_cons,
      List.not_mem_nil, or_false, ih]
    exact or_comm

lemma mem_bottomUp {f : Forest} : k ∈ bottomUp f s ↔ k ∈ f.walk s := by
  rw [bottomUp, walk, List.mem_flatMap, List.mem_flatMap]
  exact exists_congr fun j => and_congr_right fun _ => mem_childrenFirst

lemma isNode_of_mem_bottomUp (hr : Orderly r.forest) : ∀ k ∈ bottomUp r.forest s, r.forest.IsNode k :=
  fun _ hk => hr.wellFormed.isNode_of_mem_walk (mem_bottomUp.mp hk)

/-! ### Renaming -/

lemma name_rename (hd : r.forest.IsNode d) (hne : new ≠ "") (j : Key) :
    (r.rename d new).1.name j = if j = d then new else r.name j := by
  rw [Renaming.rename]
  dsimp only
  split
  · next hno =>
    rw [Bool.or_eq_true, String.isEmpty_iff, beq_iff_eq] at hno
    split
    · next hj => exact hj ▸ hno.resolve_left hne
    · rfl
  · rw [Renaming.name, node_rename hd]
    split
    · rfl
    · rfl

/-- The last of the names that are given to a node stays. -/
lemma name_renameAll_eq {names : List (Key × String)} (hk : r.forest.IsNode k)
    (hnames : ∀ n ∈ names, r.forest.Within k n.1 ∧ '/' ∉ n.2.toList) (hne : ∀ n ∈ names, n.2 ≠ "")
    (j : Key) : (r.renameAll names).name j = (lastFor? names j).getD (r.name j) := by
  induction names generalizing r with
  | nil => rfl
  | cons n names ih =>
    rw [List.forall_mem_cons] at hnames hne
    obtain ⟨⟨hwithin, hslash⟩, hrest⟩ := hnames
    have hone : Works k r (r.rename n.1 n.2).1 := .rename (hwithin.isNode hk) hwithin hslash
    have hall : r.renameAll (n :: names) = (r.rename n.1 n.2).1.renameAll names := rfl
    rw [hall, ih (hone.forest.isNode_iff.mpr hk) (by rw [hone.forest.within_eq]; exact hrest) hne.2,
      lastFor?_cons, name_rename (hwithin.isNode hk) hne.1]
    cases lastFor? names j with
    | some y => rfl
    | none =>
      by_cases hj : n.1 = j
      · simp [hj]
      · simp [hj, show j ≠ n.1 from fun h => hj h.symm]

lemma name_renameAll {names : List (Key × String)} (hk : r.forest.IsNode k)
    (hnames : ∀ n ∈ names, r.forest.Within k n.1 ∧ '/' ∉ n.2.toList) (hne : ∀ n ∈ names, n.2 ≠ "")
    (j : Key) :
    (j ∉ names.map (·.1) ∧ (r.renameAll names).name j = r.name j) ∨
      (j, (r.renameAll names).name j) ∈ names := by
  rw [name_renameAll_eq hk hnames hne]
  cases hlast : lastFor? names j with
  | none => exact .inl ⟨lastFor?_eq_none.mp hlast, rfl⟩
  | some new => exact .inr (mem_of_lastFor? hlast)

/-! ### Visits -/

/-- A node that a visit leaves alone: its role has no type word, or its name stays. -/
def passesOver (r : Renaming) (k : Key) : Bool :=
  (r.forest.classify k).typeWord?.isNone || r.namer.keepsName r.forest k false

def canonicalName (r : Renaming) (k : Key) : String :=
  Name.normalize (r.name k) (r.forest.classify k) true

/-- The names that a visit gives to the parts of a node. -/
def visitNames (r : Renaming) (k : Key) : List (Key × String) :=
  let done := r.rename k (r.canonicalName k)
  if !r.passesOver k && done.2 && r.namer.renamesParts then
    done.1.partNames k (r.forest.classify k)
  else []

lemma standardize_eq (r : Renaming) (k : Key) : ∃ e, (r.standardize k false).1 =
    if r.passesOver k then r
    else ((r.rename k (r.canonicalName k)).1.renameAll (r.visitNames k)).stop e := by
  rw [standardize, visitNames, canonicalName]
  dsimp only
  rw [← passesOver]
  cases r.passesOver k with
  | true => exact ⟨none, rfl⟩
  | false =>
    simp only [Bool.false_eq_true, if_false, Bool.or_false, Bool.not_false, Bool.true_and]
    split
    · exact ⟨_, standardizeParts_eq _ _ _⟩
    · exact ⟨_, rfl⟩

/-- The node has a role that ends names. -/
def Nameable (r : Renaming) (k : Key) : Prop := (r.forest.classify k).typeWord?.isSome = true

lemma nameable_of_not_passesOver (h : r.passesOver k = false) : r.Nameable k := by
  rw [passesOver, Bool.or_eq_false_iff, ← Option.not_isSome, Bool.not_eq_false'] at h
  exact h.1

lemma isStandardized_canonicalName (h : r.Nameable k) :
    Name.isStandardized (r.canonicalName k) (r.forest.classify k) = true :=
  Name.isStandardized_normalize h _ _

lemma isTidy_canonicalName (h : r.passesOver k = false) : IsTidy (r.canonicalName k) :=
  Name.isTidy_of_isStandardized (isStandardized_canonicalName (nameable_of_not_passesOver h))

section Visit

variable (hr : Orderly r.forest) (hk : r.forest.IsNode k)

include hr hk

lemma works_canonicalName : Works k r (r.rename k (r.canonicalName k)).1 :=
  .rename hk .refl (Name.slash_not_mem_normalize (hr.names k hk).2 _ _)

/-- Parts stand at or below the node, and their names are clean. -/
lemma of_mem_visitNames : ∀ n ∈ r.visitNames k,
    r.forest.Within k n.1 ∧ '/' ∉ n.2.toList ∧ IsTidy n.2 := by
  have hone := works_canonicalName hr hk
  have horderly := hr.renames hone.forest
  have hnode := hone.forest.isNode_iff.mpr hk
  rw [visitNames]
  split
  · next hvisit =>
    rw [Bool.and_eq_true, Bool.and_eq_true, Bool.not_eq_true'] at hvisit
    have hnameable := nameable_of_not_passesOver hvisit.1.1
    have htidy := isTidy_canonicalName hvisit.1.1
    have hname : (r.rename k (r.canonicalName k)).1.name k = r.canonicalName k := by
      rw [name_rename hk htidy.1, if_pos rfl]
    intro n hn
    obtain ⟨hwithin, role, -, hrole, hpart⟩ := exists_role_of_mem_partNames horderly hnode hn
    rw [hone.forest.within_eq] at hwithin
    refine ⟨hwithin, slash_not_mem_of_mem_partNames horderly hnode hn, ?_⟩
    rw [hpart, hname]
    exact isTidy_partName htidy.2 (isRole_of_mem hrole) hnameable
  · exact List.forall_mem_nil _

/-- Every name after a visit: of a part, of the node itself, or an old one. -/
lemma name_standardize (j : Key) :
    (j, (r.standardize k false).1.name j) ∈ r.visitNames k ∨
      j ∉ (r.visitNames k).map (·.1) ∧ (r.standardize k false).1.name j =
        if j = k ∧ r.passesOver k = false then r.canonicalName k else r.name j := by
  have hparts := of_mem_visitNames hr hk
  obtain ⟨e, hvisit⟩ := standardize_eq r k
  rw [hvisit]
  cases hover : r.passesOver k with
  | true =>
    have hnone : r.visitNames k = [] := by
      rw [visitNames, hover]
      rfl
    rw [hnone, if_pos rfl, if_neg fun h => Bool.false_ne_true h.2.symm]
    exact .inr ⟨List.not_mem_nil, rfl⟩
  | false =>
    have hone := works_canonicalName hr hk
    have hne := (isTidy_canonicalName hover).1
    rw [if_neg Bool.false_ne_true, stop_name]
    rcases name_renameAll (hone.forest.isNode_iff.mpr hk)
        (fun n hn => ⟨by rw [hone.forest.within_eq]; exact (hparts n hn).1, (hparts n hn).2.1⟩)
        (fun n hn => (hparts n hn).2.2.1) j with ⟨hnot, hsame⟩ | hmem
    · refine .inr ⟨hnot, ?_⟩
      rw [hsame, name_rename hk hne]
      simp only [and_true]
    · exact .inl hmem

end Visit

/-- The name is standardized, if the role of the node has a type word. -/
def Standard (r : Renaming) (k : Key) : Prop :=
  r.Nameable k → Name.isStandardized (r.name k) (r.forest.classify k) = true

/-- The name is clean, if the role of the node has a type word. -/
def Tidy (r : Renaming) (k : Key) : Prop := r.Nameable k → IsTidy (r.name k)

section Steps

variable (hr : Orderly r.forest) (hk : r.forest.IsNode k)

include hr hk

lemma standard_standardize (hparts : j ∉ (r.visitNames k).map (·.1)) (h : j = k ∨ r.Standard j) :
    (r.standardize k false).1.Standard j := by
  have hshape := (works_standardize false hr hk).forest.shape j
  rcases name_standardize hr hk j with hmem | ⟨-, hname⟩
  · exact absurd (List.mem_map_of_mem hmem) hparts
  · intro hnameable
    rw [Nameable, typeWord?_isSome_classify hshape] at hnameable
    split at hname
    · next hself =>
      obtain ⟨rfl, -⟩ := hself
      rw [hname, classify_of_normalize hshape hname]
      exact isStandardized_canonicalName hnameable
    · next hother =>
      rw [hname, classify_eq hshape hname]
      rcases h with rfl | h
      · have hover : r.passesOver j = true := by
          rw [← Bool.not_eq_false]
          exact fun hover => hother ⟨rfl, hover⟩
        rw [passesOver, Option.isNone_eq_false_iff.mpr hnameable, Bool.false_or,
          Standardizer.keepsName, Bool.and_eq_true] at hover
        exact hover.2
      · exact h hnameable

lemma tidy_standardize (h : j = k ∨ r.Tidy j) : (r.standardize k false).1.Tidy j := by
  by_cases hparts : j ∈ (r.visitNames k).map (·.1)
  · rcases name_standardize hr hk j with hmem | ⟨hnot, -⟩
    · exact fun _ => (of_mem_visitNames hr hk _ hmem).2.2
    · exact absurd hparts hnot
  · by_cases hself : j = k
    · exact fun hnameable => Name.isTidy_of_isStandardized
        (standard_standardize hr hk hparts (.inl hself) hnameable)
    · have hshape := (works_standardize false hr hk).forest.shape j
      rcases name_standardize hr hk j with hmem | ⟨-, hname⟩
      · exact absurd (List.mem_map_of_mem hmem) hparts
      · rw [if_neg fun hboth => hself hboth.1] at hname
        intro hnameable
        rw [Nameable, typeWord?_isSome_classify hshape] at hnameable
        rw [hname]
        exact h.resolve_left hself hnameable

end Steps

end Renaming

end SceneBindings
