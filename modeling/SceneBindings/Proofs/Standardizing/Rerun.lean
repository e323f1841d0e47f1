import SceneBindings.Proofs.Standardizing.Stopping
import SceneBindings.Validation.Lax

/-!
Standardizing a scene twice. A second run renames nothing just if the first one left every node with
the name that a visit would give it. A node that was named by its own visit last is so; a node that
was named as a part of a widget is so only if its role in the widget ends with its own type word.
-/

namespace SceneBindings

namespace Renaming

open Forest

variable {r r' r'' : Renaming} {j k : Key} {ks : List Key} {s : SceneId}

/-! ### Settled names -/

/-- A further visit gives the node the name that it has. -/
def Settled (r : Renaming) (k : Key) : Prop := r.namer.proposedName r.forest k false = r.name k

/-- The name that a visit gives to the node. -/
lemma proposedName_eq : r.namer.proposedName r.forest k false =
    if r.passesOver k then r.name k else r.canonicalName k := by
  have hproposed : r.namer.proposedName r.forest k false =
      if r.passesOver k then r.name k
      else if (r.canonicalName k).isEmpty then r.name k else r.canonicalName k := rfl
  rw [hproposed]
  cases hover : r.passesOver k with
  | true => rfl
  | false =>
    have hne := (isTidy_canonicalName hover).1
    rw [if_neg (mt String.isEmpty_iff.mp hne)]

lemma settled_iff_passesOver :
    r.Settled k ↔ r.passesOver k = true ∨ r.canonicalName k = r.name k := by
  rw [Settled, proposedName_eq]
  split
  · next hover => exact iff_of_true rfl (.inl hover)
  · next hover => exact (or_iff_right hover).symm

lemma passesOver_iff : r.passesOver k = true ↔ ¬ r.Nameable k ∨
    r.namer.respectsExisting = true ∧
      Name.isStandardized (r.name k) (r.forest.classify k) = true := by
  rw [passesOver, Standardizer.keepsName, Bool.not_false, Bool.and_true, Bool.or_eq_true,
    Bool.and_eq_true, Option.isNone_iff_eq_none, ← Option.not_isSome_iff_eq_none, ← Nameable, name]

/-- A name that may stay is settled if it is standardized, any other one if it is made anew to
itself. -/
lemma settled_iff : r.Settled k ↔
    if r.namer.respectsExisting then r.Standard k
    else r.Nameable k → r.canonicalName k = r.name k := by
  rw [settled_iff_passesOver, passesOver_iff]
  by_cases hnameable : r.Nameable k
  · split
    · next hrespects =>
      refine ⟨fun h _ => ?_, fun h => .inl (.inr ⟨hrespects, h hnameable⟩)⟩
      rcases h with (h | h) | h
      · exact absurd hnameable h
      · exact h.2
      · rw [← h]
        exact isStandardized_canonicalName hnameable
    · next hrespects =>
      refine ⟨fun h _ => h.resolve_left ?_, fun h => .inr (h hnameable)⟩
      rintro (h | h)
      · exact h hnameable
      · exact hrespects h.1
  · refine iff_of_true (.inl (.inl hnameable)) ?_
    split
    · exact fun h => absurd h hnameable
    · exact fun h => absurd h hnameable

/-! ### Runs over nodes -/

/-- Renamings have been carried out and counted. -/
structure Runs (r r' : Renaming) : Prop where
  forest : Reshaped r.forest r'.forest
  settings : r'.namer.respectsExisting = r.namer.respectsExisting
  counted : r.namer.renamed ≤ r'.namer.renamed
  still : r'.namer.renamed = r.namer.renamed → r'.forest = r.forest

lemma Works.runs (h : Works k r r') : Runs r r' :=
  ⟨h.forest.toReshaped, h.settings, h.counted, h.still⟩

namespace Runs

lemma refl (r : Renaming) : Runs r r := ⟨.refl _, rfl, Nat.le_refl _, fun _ => rfl⟩

lemma trans (h : Runs r r') (h' : Runs r' r'') : Runs r r'' where
  forest := h.forest.trans h'.forest
  settings := h'.settings.trans h.settings
  counted := Nat.le_trans h.counted h'.counted
  still he := by
    have h₁ := h.counted
    have h₂ := h'.counted
    rw [h'.still (by omega), h.still (by omega)]

end Runs

section Runs

variable (hr : Orderly r.forest) (hks : ∀ k ∈ ks, r.forest.IsNode k)

include hr hks

lemma runs_visits : Orderly (r.visits ks).forest ∧ Runs r (r.visits ks) := by
  induction ks generalizing r with
  | nil => exact ⟨hr, .refl r⟩
  | cons k ks ih =>
    rw [List.forall_mem_cons] at hks
    have hone := works_standardize false hr hks.1
    obtain ⟨horderly, hrest⟩ := ih (hr.renames hone.forest) fun j hj =>
      hone.forest.isNode_iff.mpr (hks.2 j hj)
    exact ⟨horderly, hone.runs.trans hrest⟩

lemma runs_visitAll : Orderly (r.visitAll false ks).forest ∧ Runs r (r.visitAll false ks) := by
  obtain ⟨before, after, rfl, hvisits, -⟩ := exists_visits r ks
  rw [hvisits]
  exact runs_visits hr (List.forall_mem_append.mp hks).1

end Runs

/-- A visit that renames nothing finds a settled name, and leaves everything as it was. -/
lemma standardize_still_iff (hr : Orderly r.forest) (hk : r.forest.IsNode k) :
    (r.standardize k false).1.namer.renamed = r.namer.renamed ↔ r.Settled k := by
  refine ⟨fun h => ?_, fun h => by rw [standardize_of_proposedName_eq h]⟩
  obtain ⟨e, hvisit⟩ := standardize_eq r k
  rw [hvisit] at h
  rw [settled_iff_passesOver]
  split at h
  · next hover => exact .inl hover
  · next hover =>
    refine .inr (Eq.symm ?_)
    rw [Bool.not_eq_true] at hover
    have hone := works_canonicalName hr hk
    have hparts : Works k (r.rename k (r.canonicalName k)).1
        ((r.rename k (r.canonicalName k)).1.renameAll (r.visitNames k)) :=
      .renameAll (hone.forest.isNode_iff.mpr hk) fun n hn =>
        ⟨by rw [hone.forest.within_eq]; exact (of_mem_visitNames hr hk n hn).1,
          (of_mem_visitNames hr hk n hn).2.1⟩
    have hcount := hparts.counted
    have hown := hone.still (Nat.le_antisymm (h ▸ hcount) hone.counted)
    have hname := name_rename hk (isTidy_canonicalName hover).1 k
    rw [name, hown, if_pos rfl] at hname
    exact hname

lemma visits_of_settled (h : ∀ k ∈ ks, r.Settled k) : r.visits ks = r := by
  induction ks with
  | nil => rfl
  | cons k ks ih =>
    rw [List.forall_mem_cons] at h
    rw [visits, List.foldl_cons, standardize_of_proposedName_eq h.1]
    exact ih h.2

/-- Visits that rename nothing meet settled names only. -/
lemma visits_still_iff (hr : Orderly r.forest) (hks : ∀ k ∈ ks, r.forest.IsNode k) :
    (r.visits ks).namer.renamed = r.namer.renamed ↔ ∀ k ∈ ks, r.Settled k := by
  refine ⟨fun h => ?_, fun h => by rw [visits_of_settled h]⟩
  induction ks generalizing r with
  | nil => exact List.forall_mem_nil _
  | cons k ks ih =>
    rw [List.forall_mem_cons] at hks ⊢
    have hone := works_standardize false hr hks.1
    have hrest : ∀ j ∈ ks, (r.standardize k false).1.forest.IsNode j := fun j hj =>
      hone.forest.isNode_iff.mpr (hks.2 j hj)
    have horderly := hr.renames hone.forest
    have hafter := (runs_visits horderly hrest).2
    have hstep : (r.standardize k false).1.namer.renamed = r.namer.renamed ∧
        ((r.standardize k false).1.visits ks).namer.renamed =
          (r.standardize k false).1.namer.renamed := by
      have h₁ := hone.counted
      have h₂ := hafter.counted
      change ((r.standardize k false).1.visits ks).namer.renamed = _ at h
      omega
    have hsettled := (standardize_still_iff hr hks.1).mp hstep.1
    refine ⟨hsettled, ?_⟩
    have hmore := ih horderly hrest hstep.2
    rwa [standardize_of_proposedName_eq hsettled] at hmore

/-- A run that renames nothing meets settled names only, and does not stop. -/
lemma visitAll_still_iff (hr : Orderly r.forest) (hfresh : r.fault = none)
    (hks : ∀ k ∈ ks, r.forest.IsNode k) :
    (r.visitAll false ks).namer.renamed = r.namer.renamed ↔ ∀ k ∈ ks, r.Settled k := by
  obtain ⟨before, after, rfl, hvisits, hall⟩ := exists_visits r ks
  rw [List.forall_mem_append] at hks
  rw [hvisits] at hall ⊢
  rw [visits_still_iff hr hks.1, List.forall_mem_append]
  refine ⟨fun h => ⟨h, ?_⟩, And.left⟩
  rw [hall (by rw [visits_of_settled h]; exact hfresh)]
  exact List.forall_mem_nil _

lemma visitAll_of_settled (h : ∀ k ∈ ks, r.Settled k) : r.visitAll false ks = r := by
  obtain ⟨before, after, rfl, hvisits, -⟩ := exists_visits r ks
  rw [hvisits, visits_of_settled (List.forall_mem_append.mp h).1]

/-! ### What a run leaves -/

/-- The nodes that visits in turn name as parts of a widget. -/
def partsNamed (r : Renaming) : List Key → List Key
  | [] => []
  | k :: ks => (r.visitNames k).map (·.1) ++ (r.standardize k false).1.partsNamed ks

section Run

variable (hr : Orderly r.forest) (hks : ∀ k ∈ ks, r.forest.IsNode k)

include hr hks

lemma tidy_visits (h : j ∈ ks ∨ r.Tidy j) : (r.visits ks).Tidy j := by
  induction ks generalizing r with
  | nil => exact h.resolve_left List.not_mem_nil
  | cons k ks ih =>
    rw [List.forall_mem_cons] at hks
    have hone := works_standardize false hr hks.1
    refine ih (hr.renames hone.forest) (fun i hi => hone.forest.isNode_iff.mpr (hks.2 i hi)) ?_
    rcases h with h | h
    · rcases List.mem_cons.mp h with h | h
      · exact .inr (tidy_standardize hr hks.1 (.inl h))
      · exact .inl h
    · exact .inr (tidy_standardize hr hks.1 (.inr h))

/-- A node that was visited, and was not named as a part, has a standardized name. -/
lemma standard_visits (hparts : j ∉ r.partsNamed ks) (h : j ∈ ks ∨ r.Standard j) :
    (r.visits ks).Standard j := by
  induction ks generalizing r with
  | nil => exact h.resolve_left List.not_mem_nil
  | cons k ks ih =>
    rw [List.forall_mem_cons] at hks
    rw [partsNamed, List.mem_append, not_or] at hparts
    have hone := works_standardize false hr hks.1
    refine ih (hr.renames hone.forest) (fun i hi => hone.forest.isNode_iff.mpr (hks.2 i hi))
      hparts.2 ?_
    rcases h with h | h
    · rcases List.mem_cons.mp h with h | h
      · exact .inr (standard_standardize hr hks.1 hparts.1 (.inl h))
      · exact .inl h
    · exact .inr (standard_standardize hr hks.1 hparts.1 (.inr h))

/-- Parts stand at or below visited nodes. -/
lemma within_of_mem_partsNamed (hj : j ∈ r.partsNamed ks) : ∃ k ∈ ks, r.forest.Within k j := by
  induction ks generalizing r with
  | nil => cases hj
  | cons k ks ih =>
    rw [List.forall_mem_cons] at hks
    have hone := works_standardize false hr hks.1
    rcases List.mem_append.mp hj with hj | hj
    · obtain ⟨n, hn, rfl⟩ := List.mem_map.mp hj
      exact ⟨k, List.mem_cons_self, (of_mem_visitNames hr hks.1 n hn).1⟩
    · obtain ⟨i, hi, hij⟩ := ih (hr.renames hone.forest)
        (fun i hi => hone.forest.isNode_iff.mpr (hks.2 i hi)) hj
      rw [hone.forest.within_eq] at hij
      exact ⟨i, List.mem_cons_of_mem k hi, hij⟩

end Run

/-- The name shows the role of the node by its type word or by an abbreviation of it. -/
def ShowsRole (r : Renaming) (k : Key) : Prop :=
  ∀ word ∈ (r.forest.classify k).typeWord?,
    Naming.carriesType word.toList (r.name k).toList = true

instance (r : Renaming) : DecidablePred r.ShowsRole := fun k =>
  inferInstanceAs (Decidable (∀ word ∈ (r.forest.classify k).typeWord?,
    Naming.carriesType word.toList (r.name k).toList = true))

lemma standard_iff_showsRole (h : r.Tidy k) : r.Standard k ↔ r.ShowsRole k := by
  rw [Standard, ShowsRole, Nameable]
  cases hword : (r.forest.classify k).typeWord? with
  | none => exact iff_of_true (fun h => absurd h Bool.false_ne_true) (by rintro _ ⟨⟩)
  | some word =>
    have htidy : IsTidy (r.name k) := h (Option.isSome_iff_exists.mpr ⟨word, hword⟩)
    rw [Name.isStandardized_iff hword, and_iff_right htidy]
    exact ⟨fun h _ heq => Option.some.inj heq ▸ h rfl, fun h _ => h word rfl⟩

/-! ### The second run -/

section Scene

variable (hr : Orderly r.forest)

include hr

/-- A run over a scene returns zero and changes no name just if all names are settled. -/
lemma standardizeScene_still_iff (hfresh : r.fault = none) :
    ((r.standardizeScene s false).2 = 0 ∧
        ∀ k, (r.standardizeScene s false).1.name k = r.name k) ↔
      ∀ k ∈ r.forest.walk s, r.Settled k := by
  have hks := isNode_of_mem_bottomUp (s := s) hr
  have hruns : Runs r (r.standardizeScene s false).1 := (runs_visitAll hr hks).2
  have hstill : (r.standardizeScene s false).1.namer.renamed = r.namer.renamed ↔
      ∀ k ∈ r.forest.walk s, r.Settled k :=
    (visitAll_still_iff hr hfresh hks).trans (forall_congr' fun k => imp_congr mem_bottomUp Iff.rfl)
  have hreturned : (r.standardizeScene s false).2 =
      (r.standardizeScene s false).1.namer.renamed - r.namer.renamed := rfl
  have hle := hruns.counted
  rw [← hstill]
  refine ⟨fun h => by omega, fun h => ⟨by omega, fun k => ?_⟩⟩
  rw [name, name, hruns.still h]

/-- A run leaves the names of a scene standardized just if the parts that it named show their
roles. -/
lemma standard_standardizeScene_iff (hgoes : (r.standardizeScene s false).1.fault = none) :
    (∀ k ∈ r.forest.walk s, (r.standardizeScene s false).1.Standard k) ↔
      ∀ k ∈ r.partsNamed (bottomUp r.forest s), (r.standardizeScene s false).1.ShowsRole k := by
  have hks := isNode_of_mem_bottomUp (s := s) hr
  have hrun : (r.standardizeScene s false).1 = r.visits (bottomUp r.forest s) :=
    visitAll_eq_visits hgoes
  rw [hrun]
  have hshows : ∀ k ∈ r.forest.walk s, ((r.visits (bottomUp r.forest s)).Standard k ↔
      (r.visits (bottomUp r.forest s)).ShowsRole k) := fun k hk =>
    standard_iff_showsRole (tidy_visits hr hks (.inl (mem_bottomUp.mpr hk)))
  constructor
  · intro h k hk
    obtain ⟨d, hd, hdk⟩ := within_of_mem_partsNamed hr hks hk
    have hmem := hr.wellFormed.mem_walk_of_within (mem_bottomUp.mp hd) hdk
    exact (hshows k hmem).mp (h k hmem)
  · intro h k hk
    by_cases hpart : k ∈ r.partsNamed (bottomUp r.forest s)
    · exact (hshows k hk).mpr (h k hpart)
    · exact standard_visits hr hks hpart (.inl (mem_bottomUp.mpr hk))

end Scene

/-- After a first run over a loaded scene a second one renames nothing just if the first one met no
node at which it stops, and the names that it gave to parts show the roles of these nodes; where no
name may stay, just if every canonical name is made anew to itself. -/
theorem second_run_iff [Validator] {v : Value} {events : List Event}
    (hload : Forest.empty.loadScene v = ⟨r.forest, events, .ok s⟩) (hfresh : r.fault = none) :
    let first := (r.standardizeScene s false).1
    let second := first.standardizeScene s false
    (first.fault = none ∧ second.1.fault = none ∧ second.2 = 0 ∧
        ∀ k, second.1.name k = first.name k) ↔
      (∀ k ∈ r.forest.walk s, ¬ r.Stuck k false) ∧
        if r.namer.respectsExisting then
          ∀ k ∈ r.partsNamed (bottomUp r.forest s), first.ShowsRole k
        else
          ∀ k ∈ r.forest.walk s, first.Nameable k → first.canonicalName k = first.name k := by
  obtain ⟨hscene, -, hr, ts, hplanted⟩ := orderly_of_loadScene hload
  have hf : r.forest.Housed s := hscene ▸ hplanted.housed
  obtain ⟨horderly, hruns⟩ := runs_visitAll hr (isNode_of_mem_bottomUp (s := s) hr)
  intro first second
  rw [fault_standardizeScene_iff hr hf hfresh]
  refine and_congr_right fun hgoes => ?_
  have hreturns : first.fault = none := (fault_standardizeScene_iff hr hf hfresh).mpr hgoes
  have hwalk : first.forest.walk s = r.forest.walk s := hruns.forest.walk_eq s
  have hrule : first.namer.respectsExisting = r.namer.respectsExisting := hruns.settings
  have hsettled : (second.2 = 0 ∧ ∀ k, second.1.name k = first.name k) ↔
      ∀ k ∈ r.forest.walk s, first.Settled k := by
    rw [← hwalk]
    exact standardizeScene_still_iff horderly hreturns
  have hstays : (∀ k ∈ r.forest.walk s, first.Settled k) → second.1.fault = none := by
    intro h
    have hsame : second.1 = first := visitAll_of_settled fun k hk =>
      h k (hwalk ▸ mem_bottomUp.mp hk)
    rw [hsame, hreturns]
  rw [and_iff_right_of_imp fun h => hstays (hsettled.mp h), hsettled]
  split
  · next hrespects =>
    rw [← standard_standardizeScene_iff hr hreturns]
    refine forall₂_congr fun k _ => ?_
    rw [settled_iff, if_pos (hrule.trans hrespects)]
  · next hrespects =>
    refine forall₂_congr fun k _ => ?_
    rw [settled_iff, if_neg (hrule ▸ hrespects)]

/-- A button whose text is named after it: its last word shows that it is a text. -/
def playScene : Value :=
  .object [("scene", .text "S"), ("roots", .list [.object [("name", .text "play (1)"),
    ("components", .list [.text "Button"]),
    ("children", .list [.object [("name", .text "Caption"),
      ("components", .list [.text "Text"])]])]])]

theorem second_run_of_play : ∃ f events, Forest.empty.loadScene playScene = ⟨f, events, .ok 0⟩ ∧
    let first := ((Renaming.mk f (.new true true) [] none).standardizeScene 0 false).1
    first.name 1 = "Play_Button" ∧ first.name 2 = "Play_Button_Text" ∧
      first.fault = none ∧ (first.standardizeScene 0 false).1.fault = none ∧
        (first.standardizeScene 0 false).2 = 0 ∧
          ∀ k, (first.standardizeScene 0 false).1.name k = first.name k := by
  have hload : Forest.empty.loadScene playScene =
      ⟨(Forest.empty.loadScene playScene).forest, (Forest.empty.loadScene playScene).events, .ok 0⟩ :=
    rfl
  have hquiet := (second_run_iff (r := ⟨_, .new true true, [], none⟩) hload rfl).mpr <| by
    refine ⟨by decide +kernel, Eq.mpr (if_pos rfl) ?_⟩
    decide +kernel
  exact ⟨_, _, hload, by decide +kernel, by decide +kernel, hquiet⟩

/-- The fill of the slider hangs directly below it, so the slider itself is named as the area of its
fill, and again at every run. The text of the toggle is named as its label, which the second run takes
for a text with another name. -/
def soundScene : Value :=
  .object [("scene", .text "S"), ("roots", .list [
    .object [("name", .text "Volume"),
      ("components", .list [.object [("type", .text "Slider"), ("fill_rect", .text "Bar")]]),
      ("children", .list [.object [("name", .text "Bar"), ("components", .list [.text "Image"])]])],
    .object [("name", .text "Sound"), ("components", .list [.text "Toggle"]),
      ("children", .list [.object [("name", .text "Label"),
        ("components", .list [.text "Text"])]])]])]

theorem second_run_renames : ∃ f events, Forest.empty.loadScene soundScene = ⟨f, events, .ok 0⟩ ∧
    let first := ((Renaming.mk f (.new true true) [] none).standardizeScene 0 false).1
    let second := first.standardizeScene 0 false
    first.fault = none ∧ second.1.fault = none ∧
      (first.name 1 = "Volume_Slider_Fill_Area" ∧ first.name 4 = "Sound_Toggle_Label") ∧
      second.2 = 5 ∧ second.1.name 1 = "Volume_Slider_Fill_Area_Slider_Fill_Area" ∧
        second.1.name 4 = "Sound_Toggle_Text" :=
  ⟨_, _, rfl, by decide +kernel⟩

end Renaming

end SceneBindings
