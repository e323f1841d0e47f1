import Mathlib.Data.List.Perm.Basic
import SceneBindings.Proofs.Emit.Groups
import SceneBindings.Proofs.Emit.Sorting
import SceneBindings.Proofs.Registry.PathIndex

/-!
Grouping shares out the references of a registry: each drives a group, is an element of its group,
or is passed over with a finding of its own, for its property name or for its path.
-/

namespace SceneBindings

namespace PanelGroup

variable {f : Forest} {g : Registry} {rs : List Reference} {key : String} {seen : List String}
  {bucket : List Numbered} {r : Reference}

/-! ### Elements -/

/-- The finding about a reference whose property name is taken. -/
def duplicate (key : String) (r : Reference) : Diagnostic :=
  .warn .duplicate
    ("Duplicate accessor '" ++ key ++ "." ++ propertyName r.name ++ "', skipping '" ++ r.name ++ "'")
    r.path

/-- The references whose property name another one had before. -/
def repeated (seen : List String) : List Reference → List Reference
  | [] => []
  | r :: rs =>
    if seen.contains (propertyName r.name) then r :: repeated seen rs
    else repeated (propertyName r.name :: seen) rs

lemma findings_elementsFrom (f : Forest) (key : String) (seen : List String)
    (rs : List Reference) :
    (elementsFrom f key seen rs).2 = (repeated seen rs).map (duplicate key) := by
  induction rs generalizing seen with
  | nil => rfl
  | cons r rs ih =>
    rw [elementsFrom, repeated]
    dsimp only
    split
    · rw [List.map_cons, ih, duplicate]
    · exact ih _

lemma perm_elementsFrom (f : Forest) (key : String) (seen : List String) (rs : List Reference) :
    rs.Perm ((elementsFrom f key seen rs).1.map (·.reference) ++ repeated seen rs) := by
  induction rs generalizing seen with
  | nil => exact .nil
  | cons r rs ih =>
    rw [elementsFrom, repeated]
    dsimp only
    split
    · exact ((ih seen).cons r).trans List.perm_middle.symm
    · exact (ih _).cons r

lemma sublist_elementsFrom (f : Forest) (key : String) (seen : List String) (rs : List Reference) :
    ((elementsFrom f key seen rs).1.map (·.reference)).Sublist rs := by
  induction rs generalizing seen with
  | nil => exact .slnil
  | cons r rs ih =>
    rw [elementsFrom]
    dsimp only
    split
    · exact (ih seen).cons r
    · exact (ih _).cons_cons r

/-- Whoever is passed over has a namesake among the elements, or among those seen before. -/
lemma taken_of_mem_repeated (key : String) (h : r ∈ repeated seen rs) : propertyName r.name ∈ seen ∨
    ∃ e ∈ (elementsFrom f key seen rs).1, e.property = propertyName r.name := by
  induction rs generalizing seen with
  | nil => cases h
  | cons q rs ih =>
    rw [repeated] at h
    rw [elementsFrom]
    dsimp only
    split at h
    · next hseen =>
      rw [if_pos hseen]
      rcases List.mem_cons.mp h with rfl | h
      · exact .inl (List.contains_iff_mem.mp hseen)
      · exact ih h
    · next hnew =>
      rw [if_neg hnew]
      rcases ih h with hmem | ⟨e, he, hproperty⟩
      · rcases List.mem_cons.mp hmem with heq | hmem
        · exact .inr ⟨_, List.mem_cons_self, heq.symm⟩
        · exact .inl hmem
      · exact .inr ⟨e, List.mem_cons_of_mem _ he, hproperty⟩

/-! ### One bucket -/

/-- The panel that drives a bucket. -/
def driver? (bucket : List Numbered) : Option Numbered :=
  (sortBy panelKey ((sortBy emissionKey bucket).filter fun n => n.2.capability == .panel)).head?

/-- The references that ask for a property, in the order of emission. -/
def askers (bucket : List Numbered) : List Reference :=
  ((sortBy emissionKey bucket).filter fun n => (driver? bucket).map (·.1) != some n.1).map (·.2)

lemma ofBucket_eq : ofBucket f key bucket =
    (⟨key, (driver? bucket).map (·.2), (elementsFrom f key [] (askers bucket)).1⟩,
      (elementsFrom f key [] (askers bucket)).2) := rfl

lemma driver?_eq_some {n : Numbered} (h : driver? bucket = some n) :
    n ∈ bucket ∧ n.2.capability = .panel ∧
      ∀ m ∈ bucket, m.2.capability = .panel → n.2.NameLe m.2 := by
  obtain ⟨hn, hleast⟩ := head?_sortBy h
  rw [List.mem_filter, (sortBy_perm _ _).mem_iff, beq_iff_eq] at hn
  refine ⟨hn.1, hn.2, fun m hm hpanel => keyLe_panelKey.mp (hleast m ?_)⟩
  rw [List.mem_filter, (sortBy_perm _ _).mem_iff, beq_iff_eq]
  exact ⟨hm, hpanel⟩

lemma driver?_eq_none (h : driver? bucket = none) : ∀ m ∈ bucket, m.2.capability ≠ .panel := by
  intro m hm hpanel
  have hno := List.filter_eq_nil_iff.mp (head?_sortBy_eq_none.mp h) m
    ((sortBy_perm _ _).mem_iff.mpr hm)
  exact hno (beq_iff_eq.mpr hpanel)

lemma pairwise_askers (bucket : List Numbered) : (askers bucket).Pairwise Reference.EmissionLe := by
  refine List.pairwise_map.mpr (((pairwise_sortBy emissionKey bucket).filter _).imp ?_)
  exact fun h => keyLe_emissionKey.mp h

/-- If no reference is listed twice, one of them drives the bucket and all others ask for a property. -/
lemma perm_askers (hn : (bucket.map (·.1)).Nodup) :
    (bucket.map (·.2)).Perm (((driver? bucket).map (·.2)).toList ++ askers bucket) := by
  obtain ⟨sorted, hsorted⟩ : ∃ sorted, sorted = sortBy emissionKey bucket := ⟨_, rfl⟩
  have hperm : sorted.Perm bucket := hsorted ▸ sortBy_perm emissionKey bucket
  rw [askers, ← hsorted]
  cases hdriver : driver? bucket with
  | none =>
    have hall : sorted.filter (fun n => (none : Option RefId) != some n.1) = sorted :=
      List.filter_eq_self.mpr fun _ _ => rfl
    rw [Option.map_none, Option.map_none, Option.toList_none, List.nil_append, hall]
    exact (hperm.map _).symm
  | some n =>
    have hmem : n ∈ sorted := hperm.mem_iff.mpr (driver?_eq_some hdriver).1
    have hnodup : (sorted.map (·.1)).Nodup := (hperm.map _).nodup_iff.mpr hn
    have hrest : (sorted.filter fun m => some n.1 != some m.1).Perm (sorted.erase n) := by
      rw [List.Nodup.erase_eq_filter (.of_map _ hnodup)]
      refine .of_eq (List.filter_congr fun m hm => ?_)
      rw [Bool.eq_iff_iff, bne_iff_ne, bne_iff_ne, ne_eq, ne_eq, Option.some_inj, not_iff_not]
      exact ⟨fun h => List.inj_on_of_nodup_map hnodup hm hmem h.symm, fun h => h ▸ rfl⟩
    rw [Option.map_some, Option.map_some, Option.toList_some, List.singleton_append, ← List.map_cons]
    exact (hperm.symm.trans ((List.perm_cons_erase hmem).trans (hrest.symm.cons n))).map _

/-! ### All buckets -/

/-- The references whose paths are malformed. -/
def unsound (rs : List Reference) : List Reference := rs.filter fun r => !isCanonicalPath r.path

/-- The references that belong to a group. -/
def members (rs : List Reference) (key : String) : List Reference :=
  rs.filter fun r => isCanonicalPath r.path && keyOf r == key

def numbered (g : Registry) : List Numbered := g.ids.map fun i => (i, g.reference i)

def bucketOf (g : Registry) (key : String) : List Numbered :=
  ((numbered g).filter fun n => isCanonicalPath n.2.path).filter fun n => keyOf n.2 == key

def keysOf (g : Registry) : List String :=
  SignatureDiff.sorted (((numbered g).filter fun n => isCanonicalPath n.2.path).map fun n => keyOf n.2)

lemma build_eq : build f g = ((keysOf g).map fun k => (ofBucket f k (bucketOf g k)).1,
    (unsound g.references).map malformed ++
      (keysOf g).flatMap fun k => (ofBucket f k (bucketOf g k)).2) := by
  have hbad : ((g.ids.map fun i => (i, g.reference i)).filter fun n =>
      !isCanonicalPath n.2.path).map (fun n => malformed n.2) =
        (unsound g.references).map malformed := by
    rw [unsound, Registry.references, List.filter_map, List.filter_map, List.map_map, List.map_map]
    rfl
  simp only [build, List.map_map, List.flatMap_map, hbad]
  rfl

lemma map_bucketOf (g : Registry) (key : String) :
    (bucketOf g key).map (·.2) = members g.references key := by
  rw [bucketOf, List.filter_filter, numbered, members, Registry.references, List.filter_map,
    List.filter_map, List.map_map]
  refine congrArg (List.map g.reference) (List.filter_congr fun i _ => ?_)
  rw [Function.comp_apply, Function.comp_apply, Bool.and_comm]

lemma nodup_bucketOf (hn : g.ids.Nodup) (key : String) : ((bucketOf g key).map (·.1)).Nodup := by
  have hids : ((numbered g).map (·.1)) = g.ids := by
    rw [numbered, List.map_map]
    exact List.map_id g.ids
  rw [← hids] at hn
  exact hn.sublist ((List.filter_sublist.trans List.filter_sublist).map _)

lemma mem_keysOf {key : String} :
    key ∈ keysOf g ↔ ∃ r ∈ g.references, isCanonicalPath r.path = true ∧ keyOf r = key := by
  rw [keysOf, SignatureDiff.mem_sorted, List.mem_map, Registry.references]
  constructor
  · rintro ⟨n, hn, hkey⟩
    obtain ⟨hn, hpath⟩ := List.mem_filter.mp hn
    obtain ⟨i, hi, rfl⟩ := List.mem_map.mp hn
    exact ⟨_, List.mem_map_of_mem hi, hpath, hkey⟩
  · rintro ⟨r, hr, hpath, hkey⟩
    obtain ⟨i, hi, rfl⟩ := List.mem_map.mp hr
    have hn : (i, g.reference i) ∈ numbered g := List.mem_map.mpr ⟨i, hi, rfl⟩
    exact ⟨(i, g.reference i), List.mem_filter.mpr ⟨hn, hpath⟩, hkey⟩

/-- A list falls apart into those of its elements that have one key, key by key. -/
lemma perm_flatMap_filter {α β : Type} [DecidableEq β] (keyOf : α → β) {ks : List β}
    (hks : ks.Nodup) {xs : List α} (h : ∀ x ∈ xs, keyOf x ∈ ks) :
    xs.Perm (ks.flatMap fun k => xs.filter fun x => keyOf x == k) := by
  induction ks generalizing xs with
  | nil =>
    rw [List.eq_nil_iff_forall_not_mem.mpr fun x hx => List.not_mem_nil (h x hx)]
    exact .nil
  | cons k ks ih =>
    rw [List.nodup_cons] at hks
    have hothers : ∀ x ∈ xs.filter (fun x => !(keyOf x == k)), keyOf x ∈ ks := by
      intro x hx
      rw [List.mem_filter, Bool.not_eq_true', beq_eq_false_iff_ne] at hx
      exact (List.mem_cons.mp (h x hx.1)).resolve_left hx.2
    have hbuckets : (ks.flatMap fun j => (xs.filter fun x => !(keyOf x == k)).filter fun x =>
        keyOf x == j) = ks.flatMap fun j => xs.filter fun x => keyOf x == j := by
      refine List.flatMap_congr fun j hj => ?_
      rw [List.filter_filter]
      refine List.filter_congr fun x _ => ?_
      have hne : k ≠ j := fun heq => hks.1 (heq ▸ hj)
      by_cases hxj : keyOf x = j
      · simp [hxj, hne.symm]
      · simp [hxj]
    rw [List.flatMap_cons, ← hbuckets]
    exact (List.filter_append_perm _ xs).symm.trans ((ih hks.2 hothers).append_left _)

/-! ### The whole -/

/-- How a group holds the references that belong to it: one may drive the group, some are elements,
and the others are passed over because their property names are taken. -/
structure Holds (rs : List Reference) (group : PanelGroup) (passed : List Reference) : Prop where
  perm : rs.Perm (group.panel.toList ++ group.elements.map (·.reference) ++ passed)
  property : ∀ e ∈ group.elements, e.property = propertyName e.reference.name
  distinct : (group.elements.map (·.property)).Nodup
  taken : ∀ r ∈ passed, ∃ e ∈ group.elements, e.property = propertyName r.name
  sorted : (group.elements.map (·.reference)).Pairwise Reference.EmissionLe
  driver : ∀ p, group.panel = some p →
    p.capability = .panel ∧ ∀ r ∈ rs, r.capability = .panel → p.NameLe r
  driverless : group.panel = none → ∀ r ∈ rs, r.capability ≠ .panel

/-- How groups and findings account for references. `passed` gives those that a group passes over. -/
structure Accounts (rs : List Reference) (groups : List PanelGroup) (findings : List Diagnostic)
    (passed : PanelGroup → List Reference) : Prop where
  ascending : (groups.map (·.key)).Pairwise (· < ·)
  holds : ∀ group ∈ groups, Holds (members rs group.key) group (passed group)
  whole : rs.Perm ((groups.flatMap fun group =>
    group.panel.toList ++ group.elements.map (·.reference) ++ passed group) ++ unsound rs)
  findings : findings = (unsound rs).map malformed ++
    groups.flatMap fun group => (passed group).map (duplicate group.key)

lemma holds_ofBucket (f : Forest) (key : String) (hn : (bucket.map (·.1)).Nodup) :
    Holds (bucket.map (·.2)) (ofBucket f key bucket).1 (repeated [] (askers bucket)) where
  perm := by
    rw [List.append_assoc]
    exact (perm_askers hn).trans ((perm_elementsFrom f key [] _).append_left _)
  property e he := by
    obtain ⟨⟨r, -, hfor⟩, -⟩ := mem_elementsFrom he
    rw [hfor.property, hfor.reference]
  distinct := nodup_elementsFrom
  taken r hr := (taken_of_mem_repeated key hr).resolve_left List.not_mem_nil
  sorted := (pairwise_askers bucket).sublist (sublist_elementsFrom f key [] _)
  driver p hp := by
    obtain ⟨n, hn, rfl⟩ := Option.map_eq_some_iff.mp hp
    obtain ⟨-, hpanel, hleast⟩ := driver?_eq_some hn
    refine ⟨hpanel, fun r hr hr' => ?_⟩
    obtain ⟨m, hm, rfl⟩ := List.mem_map.mp hr
    exact hleast m hm hr'
  driverless hp r hr := by
    obtain ⟨m, hm, rfl⟩ := List.mem_map.mp hr
    exact driver?_eq_none (Option.map_eq_none_iff.mp hp) m hm

/-- The references of a registry that a group passes over. -/
def passedOver (g : Registry) (group : PanelGroup) : List Reference :=
  repeated [] (askers (bucketOf g group.key))

lemma accounts_build (f : Forest) (hn : g.ids.Nodup) :
    Accounts g.references (build f g).1 (build f g).2 (passedOver g) := by
  obtain ⟨groupOf, hgroupOf⟩ : ∃ groupOf : String → PanelGroup,
      groupOf = fun k => (ofBucket f k (bucketOf g k)).1 := ⟨_, rfl⟩
  have hkey : ∀ k, (groupOf k).key = k := by
    rw [hgroupOf]
    exact fun _ => rfl
  have hholds : ∀ k, Holds (members g.references k) (groupOf k) (passedOver g (groupOf k)) := by
    intro k
    rw [passedOver, hkey, ← map_bucketOf, hgroupOf]
    exact holds_ofBucket f k (nodup_bucketOf hn k)
  rw [build_eq, ← hgroupOf]
  constructor
  case ascending =>
    rw [List.map_map]
    have hkeys : (keysOf g).map ((·.key) ∘ groupOf) = keysOf g :=
      (List.map_congr_left fun k _ => hkey k).trans (List.map_id _)
    rw [hkeys]
    exact SignatureDiff.ascending_sorted _
  case holds =>
    intro group hgroup
    obtain ⟨k, -, rfl⟩ := List.mem_map.mp hgroup
    rw [hkey]
    exact hholds k
  case whole =>
    have hsound : (g.references.filter fun r => isCanonicalPath r.path).Perm
        ((keysOf g).flatMap fun k => members g.references k) := by
      have hmembers : ∀ k, members g.references k =
          (g.references.filter fun r => isCanonicalPath r.path).filter fun r => keyOf r == k := by
        intro k
        rw [members, List.filter_filter]
        exact List.filter_congr fun r _ => Bool.and_comm _ _
      simp only [hmembers]
      refine perm_flatMap_filter keyOf (SignatureDiff.nodup_sorted _) fun r hr => ?_
      obtain ⟨hr, hpath⟩ := List.mem_filter.mp hr
      exact mem_keysOf.mpr ⟨r, hr, hpath, rfl⟩
    rw [List.flatMap_map]
    refine (List.filter_append_perm _ g.references).symm.trans (.append_right _ ?_)
    exact hsound.trans (.flatMap_left _ fun k _ => (hholds k).perm)
  case findings =>
    rw [List.flatMap_map]
    refine congrArg (_ ++ ·) (List.flatMap_congr fun k _ => ?_)
    rw [passedOver, hkey]
    exact findings_elementsFrom f k [] _

end PanelGroup

open PanelGroup Registry Workspace in
/-- **Grouping loses and duplicates nothing**, whatever has been done to the registry before. -/
theorem accounts_run (f : Forest) (o : Origin) (namer : Option Standardizer) (as : List Action) :
    let w := (start f o namer).run as
    ∃ passed, Accounts w.registry.references (build w.forest w.registry).1
      (build w.forest w.registry).2 passed := by
  intro w
  have hsound := sound_passed (sound_start f o namer) as w (run_mem_passed _ as)
  exact ⟨_, accounts_build w.forest hsound.nodup⟩

end SceneBindings
