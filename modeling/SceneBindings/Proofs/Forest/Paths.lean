import SceneBindings.Proofs.Files.Paths
import SceneBindings.Proofs.Forest.Descent
import SceneBindings.Registry.Document

/-!
Where a path leads. A node that a canonical path leads to has that path; the converse fails, since
of two siblings with one name only the first is ever followed. A path down to a node leads back to it
just if all nodes on the way are first in this sense.
-/

namespace SceneBindings

namespace Text

lemma splitAt_ne_nil (sep : Char) (s : List Char) : splitAt sep s ≠ [] := by
  obtain ⟨init, last, h⟩ := exists_splitAt_eq sep s
  rw [h]
  exact List.append_ne_nil_of_right_ne_nil _ (List.cons_ne_nil last [])

lemma intercalate_splitAt (sep : Char) (s : List Char) :
    [sep].intercalate (splitAt sep s) = s := by
  induction s with
  | nil => rfl
  | cons c s ih =>
    rw [splitAt]
    cases hs : splitAt sep s with
    | nil => exact absurd hs (splitAt_ne_nil sep s)
    | cons w ws =>
      rw [hs] at ih
      split
      · next hc => rw [List.intercalate_cons_cons, ih, hc]; rfl
      · cases ws with
        | nil =>
          rw [List.intercalate_singleton] at ih ⊢
          rw [ih]
        | cons v vs =>
          rw [List.intercalate_cons_cons] at ih ⊢
          rw [← ih]
          rfl

end Text

namespace Forest

variable {f : Forest} {s : SceneId} {k d : Key} {path : String}

lemma intercalate_splitPath (path : String) : pathSeparator.intercalate (splitPath path) = path := by
  apply String.toList_inj.mp
  rw [String.toList_intercalate, splitPath, List.map_map]
  have hid : String.toList ∘ String.ofList = id := by
    funext w
    exact String.toList_ofList
  rw [hid, List.map_id]
  exact Text.intercalate_splitAt '/' path.toList

/-- Names without a separator are found again in the path that they make. -/
lemma splitPath_intercalate {names : List String} (hne : names ≠ [])
    (hnames : ∀ name ∈ names, '/' ∉ name.toList) :
    splitPath (pathSeparator.intercalate names) = names := by
  have hsep : pathSeparator.toList = ['/'] := rfl
  rw [splitPath, String.toList_intercalate, hsep, Text.splitAt_intercalate, List.map_map]
  · have hid : String.ofList ∘ String.toList = id := by
      funext w
      exact String.ofList_toList
    rw [hid, List.map_id]
  · exact fun h => hne (List.map_eq_nil_iff.mp h)
  · exact List.forall_mem_map.mpr hnames

/-- The names from the root to the node. -/
def pathNames (f : Forest) (k : Key) : List String := (f.chain k).reverse.map fun a => (f.node a).name

lemma pathNames_of_descend? (hf : f.WellFormed) {names : List String} (hk : f.IsNode k)
    (h : f.descend? k names = some d) :
    f.IsNode d ∧ f.pathNames d = f.pathNames k ++ names := by
  induction names generalizing k with
  | nil =>
    cases h
    exact ⟨hk, (List.append_nil _).symm⟩
  | cons name names ih =>
    rw [descend?] at h
    split at h
    · next c hc =>
      have hchild : f.IsChild k c := (hf.children k c).mp (List.mem_of_find?_eq_some hc)
      have hname : (f.node c).name = name := by simpa using List.find?_some hc
      obtain ⟨hd, hnames⟩ := ih hchild.isNode h
      refine ⟨hd, ?_⟩
      rw [hnames, pathNames, pathNames, hf.chain_of_child hchild]
      simp [hname]
    · cases h

/-- A canonical path that leads to a node is the path of that node. -/
theorem fullPath_of_findByPath? (hf : f.WellFormed) (hroots : ∀ r ∈ f.roots s, (f.node r).parent = none)
    (hpath : isCanonicalPath path = true) (h : f.findByPath? s path = some k) :
    f.IsNode k ∧ f.fullPath k = path := by
  obtain ⟨root, names, hsplit⟩ : ∃ root names, splitPath path = root :: names := by
    cases hsplit : splitPath path with
    | nil =>
      rw [splitPath, List.map_eq_nil_iff] at hsplit
      exact absurd hsplit (Text.splitAt_ne_nil _ _)
    | cons root names => exact ⟨root, names, rfl⟩
  -- an empty last name stands for the root itself, but is blank
  have hnames : names ≠ [""] := by
    rintro rfl
    have hblank : "" ∈ splitPath path := by rw [hsplit]; exact List.mem_cons_of_mem _ List.mem_cons_self
    obtain ⟨w, hw, hempty⟩ := List.mem_map.mp hblank
    obtain rfl : w = [] := String.ofList_eq_empty_iff.mp hempty
    have hpart := List.all_eq_true.mp hpath [] hw
    cases hpart
  rw [findByPath?, hsplit] at h
  simp only [hnames, if_false] at h
  split at h
  · cases h
  · obtain ⟨r, hr, hd⟩ := List.exists_of_findSome?_eq_some h
    obtain ⟨hr, hname⟩ := List.mem_filter.mp hr
    have hnode := hf.roots s r hr
    obtain ⟨hk, hnames⟩ := pathNames_of_descend? hf hnode hd
    have hroot : f.pathNames r = [root] := by
      rw [pathNames, hf.chain_of_root hnode (hroots r hr)]
      simpa using hname
    refine ⟨hk, ?_⟩
    rw [← intercalate_splitPath path, hsplit, ← List.singleton_append, ← hroot, ← hnames]
    rfl

lemma within_of_descend? (hf : f.WellFormed) {names : List String}
    (h : f.descend? k names = some d) : f.Within k d := by
  induction names generalizing k with
  | nil =>
    cases h
    exact .refl
  | cons name names ih =>
    rw [descend?] at h
    split at h
    · next c hc => exact .head ((hf.children k c).mp (List.mem_of_find?_eq_some hc)) (ih h)
    · cases h

/-- A path leads to nodes of the scene only. -/
lemma mem_walk_of_findByPath? (hf : f.WellFormed) (h : f.findByPath? s path = some k) :
    k ∈ f.walk s := by
  rw [findByPath?] at h
  split at h
  · cases h
  · split at h
    · cases h
    · obtain ⟨r, hr, hd⟩ := List.exists_of_findSome?_eq_some h
      exact hf.mem_walk.mpr ⟨r, (List.mem_filter.mp hr).1, within_of_descend? hf hd⟩

/-! ### Paths down -/

/-- From its parent the node is found by its name: no sibling of that name stands before it. -/
def Foremost (f : Forest) (k : Key) : Prop :=
  ∀ p, f.IsChild p k → f.child? p (f.node k).name = some k

/-- The nodes between two nodes are met on the way up, and a path down leads through nodes that are
found by their names. -/
lemma chain_of_descend? (hf : f.WellFormed) {names : List String} (hk : f.IsNode k)
    (h : f.descend? k names = some d) : f.IsNode d ∧ ∃ up, f.chain d = up ++ f.chain k ∧
      up.reverse.map (fun a => (f.node a).name) = names ∧ ∀ a ∈ up, f.Foremost a := by
  induction names generalizing k with
  | nil =>
    cases h
    exact ⟨hk, [], rfl, rfl, List.forall_mem_nil _⟩
  | cons name names ih =>
    rw [descend?] at h
    split at h
    · next c hc =>
      have hchild : f.IsChild k c := (hf.children k c).mp (List.mem_of_find?_eq_some hc)
      have hname : (f.node c).name = name := by simpa using List.find?_some hc
      obtain ⟨hd, up, hup, hnames, hforemost⟩ := ih hchild.isNode h
      refine ⟨hd, up ++ [c], ?_, ?_, ?_⟩
      · rw [hup, hf.chain_of_child hchild, List.append_assoc, List.singleton_append]
      · rw [List.reverse_append, List.map_append, hnames, List.reverse_singleton, List.map_singleton,
          hname, List.singleton_append]
      · refine List.forall_mem_append.mpr ⟨hforemost, List.forall_mem_singleton.mpr fun p hp => ?_⟩
        obtain rfl : p = k := Option.some.inj (hp.symm.trans hchild)
        rw [hname]
        exact hc
    · cases h

/-- The way up from a node leads through the nodes that stand between. -/
lemma chain_of_within (hf : f.WellFormed) (h : f.Within k d) :
    ∃ up, f.chain d = up ++ f.chain k ∧ ∀ a, a ∈ up ↔ f.Below k a ∧ f.Within a d := by
  induction h with
  | refl =>
    refine ⟨[], rfl, fun a => iff_of_false List.not_mem_nil ?_⟩
    rintro ⟨hka, hak⟩
    exact hf.not_below_self k (hka.trans_left hak)
  | @tail p d hkp hchild ih =>
    obtain ⟨up, hup, hmem⟩ := ih
    refine ⟨d :: up, by rw [hf.chain_of_child hchild, hup, List.cons_append], fun a => ?_⟩
    rw [List.mem_cons, hmem]
    constructor
    · rintro (rfl | ⟨hka, hap⟩)
      · exact ⟨.tail' hkp hchild, .refl⟩
      · exact ⟨hka, hap.tail hchild⟩
    · rintro ⟨hka, had⟩
      by_cases hda : d = a
      · exact .inl hda.symm
      · exact .inr ⟨hka, within_parent hchild hda had⟩

/-- The names on the way are the path. -/
lemma relativePath_of_chain (hf : f.WellFormed) (hk : f.IsNode k) {up : List Key}
    (h : f.chain d = up ++ f.chain k) : f.relativePath k d =
      .ok (pathSeparator.intercalate (up.reverse.map fun a => (f.node a).name)) := by
  obtain ⟨above, habove⟩ : ∃ above, f.chain k = k :: above := by
    cases hp : (f.node k).parent with
    | none => exact ⟨[], hf.chain_of_root hk hp⟩
    | some p => exact ⟨_, hf.chain_of_child hp⟩
  have hout : ∀ a ∈ up, (a != k) = true := by
    intro a ha
    rw [bne_iff_ne]
    rintro rfl
    have hpairs := pairwise_chainUpTo (f := f) f.nodes.length d
    rw [← chain, h, habove, List.pairwise_append] at hpairs
    exact hf.not_below_self a (hpairs.2.2 a ha a List.mem_cons_self)
  have hmem : (f.chain d).contains k = true := by
    rw [h, habove, List.contains_iff_mem]
    exact List.mem_append_right _ List.mem_cons_self
  rw [relativePath, hmem, if_pos rfl, h, habove, List.takeWhile_append_of_pos hout,
    List.takeWhile_cons_of_neg (by simp), List.append_nil]

/-- The path by which a node was found is its path from there. -/
lemma relativePath_of_find? (hf : f.WellFormed) (hk : f.IsNode k) {path : String}
    (h : f.find? k path = some d) : f.relativePath k d = .ok path := by
  obtain ⟨-, up, hchain, hnames, -⟩ := chain_of_descend? hf hk h
  rw [relativePath_of_chain hf hk hchain, hnames, intercalate_splitPath]

/-- Nodes that are found by their names make a path that leads to the last of them. -/
lemma descend?_of_foremost (hf : f.WellFormed) (h : f.Within k d)
    (hforemost : ∀ a, f.Below k a → f.Within a d → f.Foremost a) {up : List Key}
    (hup : f.chain d = up ++ f.chain k) :
    f.descend? k (up.reverse.map fun a => (f.node a).name) = some d := by
  induction h using Relation.ReflTransGen.head_induction_on generalizing up with
  | refl =>
    obtain rfl : up = [] := by simpa using hup
    rfl
  | @head k c hchild hcd ih =>
    obtain ⟨rest, hrest, -⟩ := chain_of_within hf hcd
    obtain rfl : up = rest ++ [c] := by
      rw [hf.chain_of_child hchild, hup, List.append_cons] at hrest
      exact List.append_cancel_right hrest
    rw [List.reverse_append, List.reverse_singleton, List.singleton_append, List.map_cons, descend?,
      hforemost c (.single hchild) hcd k hchild]
    exact ih (fun a hca had => hforemost a (.head hchild hca) had) hrest

/-- The path to a node below another leads there just if every node on the way is found by its name. -/
lemma find?_relativePath (hf : f.WellFormed) (hk : f.IsNode k) (h : f.Below k d)
    (hnames : ∀ a, f.IsNode a → (f.node a).name ≠ "" ∧ '/' ∉ (f.node a).name.toList) :
    ∃ path, path ≠ "" ∧ f.relativePath k d = .ok path ∧
      (f.find? k path = some d ↔ ∀ a, f.Below k a → f.Within a d → f.Foremost a) := by
  obtain ⟨up, hup, hmem⟩ := chain_of_within hf h.to_reflTransGen
  have hnode : ∀ name ∈ up.reverse.map (fun a => (f.node a).name), name ≠ "" ∧ '/' ∉ name.toList := by
    intro name hname
    obtain ⟨a, ha, rfl⟩ := List.mem_map.mp hname
    exact hnames a (Within.isNode ((hmem a).mp (List.mem_reverse.mp ha)).1.to_reflTransGen hk)
  have hne : up.reverse.map (fun a => (f.node a).name) ≠ [] :=
    List.ne_nil_of_mem (List.mem_map_of_mem (List.mem_reverse.mpr ((hmem d).mpr ⟨h, .refl⟩)))
  have hsplit := splitPath_intercalate hne fun name hname => (hnode name hname).2
  refine ⟨_, fun hempty => ?_, relativePath_of_chain hf hk hup, ?_⟩
  · rw [hempty] at hsplit
    exact (hnode "" (hsplit ▸ List.mem_singleton_self "")).1 rfl
  · rw [find?, hsplit]
    refine ⟨fun hd a hka had => ?_, fun hforemost =>
      descend?_of_foremost hf h.to_reflTransGen hforemost hup⟩
    obtain ⟨-, up', hup', -, hforemost⟩ := chain_of_descend? hf hk hd
    obtain rfl : up = up' := List.append_cancel_right (hup.symm.trans hup')
    exact hforemost a ((hmem a).mpr ⟨hka, had⟩)

/-! ### Names that can stand in paths -/

/-- No name in a scene is blank or holds the separator. -/
structure Named (f : Forest) (s : SceneId) : Prop where
  nonblank : ∀ k ∈ f.walk s, (f.node k).name.toList.all Text.isBlank = false
  undivided : ∀ k ∈ f.walk s, '/' ∉ (f.node k).name.toList

lemma isCanonicalPath_iff : isCanonicalPath path = true ↔
    ∀ name ∈ splitPath path, name.toList.all Text.isBlank = false := by
  simp [isCanonicalPath, splitPath]

lemma pathNames_of_root (hf : f.WellFormed) (hr : f.IsNode r) (hparent : (f.node r).parent = none)
    {up : List Key} (hup : f.chain d = up ++ f.chain r) :
    f.pathNames d = (f.node r).name :: up.reverse.map fun a => (f.node a).name := by
  rw [pathNames, hup, hf.chain_of_root hr hparent]
  simp

namespace Named

variable (h : f.Named s) (hf : f.WellFormed) (hroots : ∀ r ∈ f.roots s, (f.node r).parent = none)
  (hk : k ∈ f.walk s)

include h hf hroots hk

/-- The names on the way to a node can be read off its path. -/
lemma splitPath_fullPath : splitPath (f.fullPath k) = f.pathNames k ∧
      ∀ name ∈ f.pathNames k, name.toList.all Text.isBlank = false := by
  obtain ⟨r, hr, hrk⟩ := hf.mem_walk.mp hk
  have hnode := hf.roots s r hr
  obtain ⟨up, hup, hmem⟩ := chain_of_within hf hrk
  have hwalk : ∀ a ∈ f.chain k, a ∈ f.walk s := by
    intro a ha
    rw [hup, hf.chain_of_root hnode (hroots r hr), List.mem_append, List.mem_singleton] at ha
    refine hf.mem_walk.mpr ⟨r, hr, ?_⟩
    rcases ha with ha | rfl
    · exact ((hmem a).mp ha).1.to_reflTransGen
    · exact .refl
  have hname : ∀ name ∈ f.pathNames k,
      name.toList.all Text.isBlank = false ∧ '/' ∉ name.toList := by
    intro name hname
    obtain ⟨a, ha, rfl⟩ := List.mem_map.mp hname
    have ha := hwalk a (List.mem_reverse.mp ha)
    exact ⟨h.nonblank a ha, h.undivided a ha⟩
  have hself : k ∈ (f.chain k).reverse :=
    List.mem_reverse.mpr ((hf.mem_chain (hrk.isNode hnode)).mpr .refl)
  exact ⟨splitPath_intercalate (List.ne_nil_of_mem (List.mem_map_of_mem hself))
    fun name hn => (hname name hn).2, fun name hn => (hname name hn).1⟩

lemma isCanonicalPath_fullPath : isCanonicalPath (f.fullPath k) = true := by
  obtain ⟨hsplit, hnonblank⟩ := h.splitPath_fullPath hf hroots hk
  exact isCanonicalPath_iff.mpr (hsplit ▸ hnonblank)

/-- The path of a node is followed from each root that its first name belongs to. -/
lemma findByPath?_fullPath_eq {root : String} {names : List String}
    (hnames : f.pathNames k = root :: names) : f.findByPath? s (f.fullPath k) =
      ((f.roots s).filter fun r => (f.node r).name == root).findSome? fun r => f.descend? r names := by
  obtain ⟨hsplit, hnonblank⟩ := h.splitPath_fullPath hf hroots hk
  have hempty : "" ∉ f.pathNames k := fun hn => absurd (hnonblank "" hn) (by simp)
  have hpath : (f.fullPath k).isEmpty = false := by
    refine eq_false_of_ne_true fun he => hempty ?_
    rw [← hsplit, String.isEmpty_iff.mp he]
    exact List.mem_singleton_self ""
  have hrest : names ≠ [""] := by
    rintro rfl
    exact hempty (by simp [hnames])
  rw [findByPath?, hsplit, hnames]
  simp only [hpath, Bool.false_eq_true, if_false, hrest]

end Named

/-! ### Names that tell nodes apart -/

/-- The names in a scene can stand in paths, and no two siblings and no two roots have the same. -/
structure Distinguished (f : Forest) (s : SceneId) : Prop where
  nonblank : ∀ k ∈ f.walk s, (f.node k).name.toList.all Text.isBlank = false
  undivided : ∀ k ∈ f.walk s, '/' ∉ (f.node k).name.toList
  siblings : ∀ p ∈ f.walk s, ((f.node p).children.map fun c => (f.node c).name).Nodup
  roots : ((f.roots s).map fun r => (f.node r).name).Nodup

namespace Distinguished

variable (h : f.Distinguished s)
include h

lemma foremost (hf : f.WellFormed) (hk : k ∈ f.walk s) (hd : f.Below k d) : f.Foremost d := by
  intro p hp
  obtain ⟨q, hkq, hq⟩ := Relation.TransGen.tail'_iff.mp hd
  obtain rfl : p = q := Option.some.inj (hp.symm.trans hq)
  have hmem : d ∈ (f.node p).children := (hf.children p d).mpr hp
  rw [child?]
  cases hc : (f.node p).children.find? fun c => (f.node c).name == (f.node d).name with
  | none => exact absurd (List.find?_eq_none.mp hc d hmem) (by simp)
  | some c =>
    have hname : (f.node c).name = (f.node d).name := by simpa using List.find?_some hc
    rw [List.inj_on_of_nodup_map (h.siblings p (hf.mem_walk_of_within hk hkq))
      (List.mem_of_find?_eq_some hc) hmem hname]

/-- A root is the only one of its name, so what is found below the roots of that name is below it. -/
lemma findSome?_roots {r : Key} (hr : r ∈ f.roots s) {names : List String}
    (hd : f.descend? r names = some d) :
    ((f.roots s).filter fun q => (f.node q).name == (f.node r).name).findSome?
      (fun q => f.descend? q names) = some d := by
  cases hfound : ((f.roots s).filter fun q => (f.node q).name == (f.node r).name).findSome?
      fun q => f.descend? q names with
  | none =>
    have hnone := List.findSome?_eq_none_iff.mp hfound r
      (List.mem_filter.mpr ⟨hr, beq_self_eq_true _⟩)
    rw [hd] at hnone
    cases hnone
  | some c =>
    obtain ⟨q, hq, hc⟩ := List.exists_of_findSome?_eq_some hfound
    obtain ⟨hq, hname⟩ := List.mem_filter.mp hq
    rw [List.inj_on_of_nodup_map h.roots hq hr (by simpa using hname), hd] at hc
    exact hc.symm

lemma named : f.Named s := ⟨h.nonblank, h.undivided⟩

/-- **Where names tell nodes apart, the path of a node is canonical and leads to the node.** -/
theorem findByPath?_fullPath (hf : f.WellFormed)
    (hroots : ∀ r ∈ f.roots s, (f.node r).parent = none) (hk : k ∈ f.walk s) :
    isCanonicalPath (f.fullPath k) = true ∧ f.findByPath? s (f.fullPath k) = some k := by
  obtain ⟨r, hr, hrk⟩ := hf.mem_walk.mp hk
  obtain ⟨up, hup, -⟩ := chain_of_within hf hrk
  have hdescend : f.descend? r (up.reverse.map fun a => (f.node a).name) = some k :=
    descend?_of_foremost hf hrk
      (fun a hra _ => h.foremost hf (hf.mem_walk.mpr ⟨r, hr, .refl⟩) hra) hup
  have hnames := pathNames_of_root hf (hf.roots s r hr) (hroots r hr) hup
  rw [h.named.findByPath?_fullPath_eq hf hroots hk hnames]
  exact ⟨h.named.isCanonicalPath_fullPath hf hroots hk, h.findSome?_roots hr hdescend⟩

end Distinguished

end Forest

end SceneBindings
