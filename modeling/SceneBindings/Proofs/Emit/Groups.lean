import SceneBindings.Emit.Grouping
import SceneBindings.Proofs.Emit.Differences
import SceneBindings.Proofs.Naming.Identifiers

/-!
The groups of a registry. No two groups have one class name and no two elements of a group one
property name, whatever the references are called.
-/

namespace SceneBindings.PanelGroup

open Naming

variable {f : Forest} {g : Registry} {rs : List Reference} {key : String} {seen : List String}
  {e : GroupElement}

/-- The element of a reference, under the property name and with the type that the reference asks
for. -/
structure StandsFor (f : Forest) (e : GroupElement) (r : Reference) : Prop where
  reference : e.reference = r
  property : e.property = propertyName r.name
  accessor : ∃ k, e.accessor = f.accessorTypeOf r.capability k

/-- What a group that is made of some references consists of. -/
structure MadeOf (f : Forest) (rs : List Reference) (group : PanelGroup) : Prop where
  key : ∃ name, group.key = Name.sanitize name
  panel : ∀ p, group.panel = some p → p ∈ rs
  elements : ∀ e ∈ group.elements, ∃ r ∈ rs, StandsFor f e r
  distinct : (group.elements.map (·.property)).Nodup

lemma mem_elementsFrom (h : e ∈ (elementsFrom f key seen rs).1) :
    (∃ r ∈ rs, StandsFor f e r) ∧ e.property ∉ seen := by
  induction rs generalizing seen with
  | nil => cases h
  | cons r rs ih =>
    rw [elementsFrom] at h
    dsimp only at h
    split at h
    · obtain ⟨⟨q, hq, hfor⟩, hseen⟩ := ih h
      exact ⟨⟨q, List.mem_cons_of_mem r hq, hfor⟩, hseen⟩
    · next hnew =>
      rcases List.mem_cons.mp h with rfl | h
      · refine ⟨⟨r, List.mem_cons_self, rfl, rfl, _, rfl⟩, fun hmem => hnew ?_⟩
        exact List.contains_iff_mem.mpr hmem
      · obtain ⟨⟨q, hq, hfor⟩, hseen⟩ := ih h
        exact ⟨⟨q, List.mem_cons_of_mem r hq, hfor⟩, fun hmem =>
          hseen (List.mem_cons_of_mem _ hmem)⟩

lemma nodup_elementsFrom : ((elementsFrom f key seen rs).1.map (·.property)).Nodup := by
  induction rs generalizing seen with
  | nil => exact List.nodup_nil
  | cons r rs ih =>
    rw [elementsFrom]
    dsimp only
    split
    · exact ih
    · refine List.nodup_cons.mpr ⟨fun hmem => ?_, ih⟩
      obtain ⟨e, he, hproperty⟩ := List.mem_map.mp hmem
      exact (mem_elementsFrom he).2 (hproperty ▸ List.mem_cons_self)

lemma mem_of_mem_sortBy {by' : Reference → List String} {ns : List Numbered} {n : Numbered}
    (h : n ∈ sortBy by' ns) : n ∈ ns := List.mem_mergeSort.mp h

lemma ofBucket_madeOf {bucket : List Numbered} {name : String} (hkey : key = Name.sanitize name)
    (hrs : ∀ n ∈ bucket, n.2 ∈ rs) : MadeOf f rs (ofBucket f key bucket).1 where
  key := ⟨name, hkey⟩
  panel p hp := by
    obtain ⟨n, hn, rfl⟩ := Option.map_eq_some_iff.mp hp
    have hmem := mem_of_mem_sortBy (List.mem_of_head? hn)
    exact hrs n (mem_of_mem_sortBy (List.mem_filter.mp hmem).1)
  elements e he := by
    obtain ⟨⟨r, hr, hfor⟩, -⟩ := mem_elementsFrom he
    obtain ⟨n, hn, rfl⟩ := List.mem_map.mp hr
    exact ⟨n.2, hrs n (mem_of_mem_sortBy (List.mem_filter.mp hn).1), hfor⟩
  distinct := nodup_elementsFrom

/-- The groups of a registry are made of its references. -/
theorem build_madeOf {group : PanelGroup} (h : group ∈ (build f g).1) :
    MadeOf f g.references group := by
  simp only [build, List.map_map, List.mem_map, List.mem_mergeSort, List.mem_eraseDups] at h
  obtain ⟨k, ⟨n, -, hkey⟩, rfl⟩ := h
  refine ofBucket_madeOf hkey.symm fun n hn => ?_
  obtain ⟨i, hi, rfl⟩ := List.mem_map.mp (List.mem_filter.mp (List.mem_filter.mp hn).1).1
  exact List.mem_map.mpr ⟨i, hi, rfl⟩

lemma build_keys : ((build f g).1.map (·.key)).Nodup := by
  have hkeys : ∀ (ks : List String) (bucket : String → List Numbered),
      (ks.map fun k => (ofBucket f k (bucket k)).1.key) = ks := fun ks bucket =>
    (List.map_congr_left fun k _ => rfl).trans (List.map_id ks)
  simp only [build, List.map_map]
  refine (hkeys _ _).symm ▸ ?_
  exact (List.mergeSort_perm _ _).nodup_iff.mpr (SignatureDiff.nodup_eraseDups _)

/-- The names of the classes are as distinct as the keys, since keys are sanitized. -/
theorem build_classNames : ((build f g).1.map className).Nodup := by
  rw [List.Nodup, List.pairwise_map]
  refine (List.pairwise_map.mp build_keys).imp_of_mem fun {a b} ha hb hne heq => hne ?_
  obtain ⟨n, hn⟩ := (build_madeOf ha).key
  obtain ⟨m, hm⟩ := (build_madeOf hb).key
  have hkeys := Name.escapeKeyword_sanitize_inj heq
  rwa [hn, hm, Name.sanitize_sanitize, Name.sanitize_sanitize, ← hn, ← hm] at hkeys

end SceneBindings.PanelGroup
