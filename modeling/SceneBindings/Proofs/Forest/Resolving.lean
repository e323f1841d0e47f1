import SceneBindings.Proofs.Forest.Housing
import SceneBindings.Proofs.Forest.Paths

/-!
# Resolving: which paths of a scene lead somewhere

A path is followed from a root down, and at each name the first child of that name is taken. Roots of
one name are all tried, children are not: where two siblings have the same name, what stands below
the later one is out of reach, and its path leads nowhere unless some other node has it too.
-/

namespace SceneBindings.Forest

variable {f : Forest} {s : SceneId} {k d r : Key}

/-! ### The way down from a root -/

/-- A root has no siblings that the way down would have to choose from. -/
lemma foremost_of_parentless (hr : (f.node r).parent = none) : f.Foremost r := by
  intro p hp
  rw [IsChild, hr] at hp
  cases hp

/-- What a list of names leads to from a root: the node with these names above it, if each node on
the way is the first of its name. -/
lemma descend?_root_iff (hf : f.WellFormed) (hr : f.IsNode r) (hparent : (f.node r).parent = none)
    {names : List String} : f.descend? r names = some d ↔
      f.Within r d ∧ f.pathNames d = (f.node r).name :: names ∧ ∀ a, f.Within a d → f.Foremost a := by
  constructor
  · intro h
    have hrd := within_of_descend? hf h
    obtain ⟨hd, up, hup, hnames, hforemost⟩ := chain_of_descend? hf hr h
    refine ⟨hrd, by rw [pathNames_of_root hf hr hparent hup, hnames], fun a had => ?_⟩
    have hmem := (hf.mem_chain hd).mpr had
    rw [hup, hf.chain_of_root hr hparent, List.mem_append, List.mem_singleton] at hmem
    rcases hmem with ha | rfl
    · exact hforemost a ha
    · exact foremost_of_parentless hparent
  · rintro ⟨hrd, hnames, hforemost⟩
    obtain ⟨up, hup, -⟩ := chain_of_within hf hrd
    rw [pathNames_of_root hf hr hparent hup, List.cons.injEq] at hnames
    rw [← hnames.2]
    exact descend?_of_foremost hf hrd (fun a _ had => hforemost a had) hup

/-! ### Paths of nodes -/

section Paths

variable (hf : f.WellFormed) (hroots : ∀ r ∈ f.roots s, (f.node r).parent = none)
  (hnamed : f.Named s)

include hf hroots hnamed

lemma pathNames_eq_of_fullPath_eq (hk : k ∈ f.walk s) (hd : d ∈ f.walk s)
    (h : f.fullPath d = f.fullPath k) : f.pathNames d = f.pathNames k := by
  rw [← (hnamed.splitPath_fullPath hf hroots hk).1, ← h,
    (hnamed.splitPath_fullPath hf hroots hd).1]

/-- **Which paths resolve.** What the path of a node leads to is a node of the scene with this path,
and it leads to one just if some node with this path can be reached: each node on the way down to it
is the first child of its name. -/
theorem findByPath?_fullPath_isSome_iff (hk : k ∈ f.walk s) :
    (∀ d ∈ f.findByPath? s (f.fullPath k), d ∈ f.walk s ∧ f.fullPath d = f.fullPath k) ∧
      ((f.findByPath? s (f.fullPath k)).isSome = true ↔
        ∃ d ∈ f.walk s, f.fullPath d = f.fullPath k ∧ ∀ a, f.Within a d → f.Foremost a) := by
  have hfound : ∀ d ∈ f.findByPath? s (f.fullPath k),
      d ∈ f.walk s ∧ f.fullPath d = f.fullPath k := fun d hd =>
    ⟨mem_walk_of_findByPath? hf hd, (fullPath_of_findByPath? hf hroots
      (hnamed.isCanonicalPath_fullPath hf hroots hk) hd).2⟩
  refine ⟨hfound, ?_⟩
  obtain ⟨root, names, hnames⟩ : ∃ root names, f.pathNames k = root :: names := by
    obtain ⟨r, hr, hrk⟩ := hf.mem_walk.mp hk
    obtain ⟨up, hup, -⟩ := chain_of_within hf hrk
    exact ⟨_, _, pathNames_of_root hf (hf.roots s r hr) (hroots r hr) hup⟩
  constructor
  · intro hsome
    obtain ⟨d, hd⟩ := Option.isSome_iff_exists.mp hsome
    obtain ⟨hwalk, hpath⟩ := hfound d hd
    rw [hnamed.findByPath?_fullPath_eq hf hroots hk hnames] at hd
    obtain ⟨r, hr, hd⟩ := List.exists_of_findSome?_eq_some hd
    have hr := (List.mem_filter.mp hr).1
    have hway := (descend?_root_iff hf (hf.roots s r hr) (hroots r hr)).mp hd
    exact ⟨d, hwalk, hpath, hway.2.2⟩
  · rintro ⟨d, hd, hpath, hforemost⟩
    obtain ⟨r, hr, hrd⟩ := hf.mem_walk.mp hd
    obtain ⟨up, hup, -⟩ := chain_of_within hf hrd
    have hsame := pathNames_eq_of_fullPath_eq hf hroots hnamed hk hd hpath
    rw [hnames] at hsame
    have hroot : (f.node r).name = root := by
      rw [pathNames_of_root hf (hf.roots s r hr) (hroots r hr) hup] at hsame
      exact (List.cons.inj hsame).1
    have hdown : f.descend? r names = some d :=
      (descend?_root_iff hf (hf.roots s r hr) (hroots r hr)).mpr
        ⟨hrd, by rw [hsame, hroot], hforemost⟩
    rw [hnamed.findByPath?_fullPath_eq hf hroots hk hnames, List.findSome?_isSome_iff]
    exact ⟨r, List.mem_filter.mpr ⟨hr, by simpa using hroot⟩, by rw [hdown]; rfl⟩

end Paths

/-! ### Two boxes -/

/-- Two boxes of one name below a root, each with a button. -/
def boxes : Forest :=
  [.create "Root" [] true, .create "Box" [] true, .create "Play" [] true, .create "Box" [] true,
    .create "Quit" [] true, .setParent 3 (some 2), .setParent 5 (some 4), .setParent 2 (some 1),
    .setParent 4 (some 1), .addRoot 0 1].foldl edit (empty.addScene "S").1

lemma housed_boxes : boxes.Housed 0 := by
  refine (housed_addScene_empty "S").edits ?_
  exact ⟨trivial, trivial, trivial, trivial, trivial,
    allows_setParent (by decide) (by decide) (by decide) (by decide),
    allows_setParent (by decide) (by decide) (by decide) (by decide),
    allows_setParent (by decide) (by decide) (by decide) (by decide),
    allows_setParent (by decide) (by decide) (by decide) (by decide), ⟨rfl, by decide⟩, trivial⟩

lemma named_boxes : boxes.Named 0 := by
  have hall : ∀ k ∈ boxes.walk 0, (boxes.node k).name.toList.all Text.isBlank = false ∧
      '/' ∉ (boxes.node k).name.toList := by decide +kernel
  exact ⟨fun k hk => (hall k hk).1, fun k hk => (hall k hk).2⟩

/-- The path of the second box leads to the first one, which has the same. -/
theorem findByPath?_second_box : 4 ∈ boxes.walk 0 ∧ boxes.findByPath? 0 (boxes.fullPath 4) = some 2 ∧
    boxes.fullPath 2 = boxes.fullPath 4 := by
  have hfound : boxes.findByPath? 0 (boxes.fullPath 4) = some 2 := by decide +kernel
  have hwalk : 4 ∈ boxes.walk 0 := by decide +kernel
  have hway := findByPath?_fullPath_isSome_iff housed_boxes.toWellFormed housed_boxes.parentless
    named_boxes hwalk
  exact ⟨hwalk, hfound, (hway.1 2 hfound).2⟩

/-- The way to the button in the second box ends in the first one. -/
theorem not_findByPath?_in_second_box : boxes.Housed 0 ∧ boxes.Named 0 ∧ 5 ∈ boxes.walk 0 ∧
    boxes.fullPath 5 = "Root/Box/Quit" ∧ boxes.findByPath? 0 (boxes.fullPath 5) = none :=
  ⟨housed_boxes, named_boxes, by decide +kernel, by decide +kernel, by decide +kernel⟩

end SceneBindings.Forest
