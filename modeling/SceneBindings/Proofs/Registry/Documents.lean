import SceneBindings.Files.Documents
import SceneBindings.Proofs.Registry.PathIndex
import SceneBindings.Proofs.Validation.Checked

/-!
Storing a registry and reading it again. A document that could be stored can be read, and the
registry that it describes is stored as the same document.
-/

namespace SceneBindings

open Checked

/-! ### Documents -/

lemma Capability.read_label (c : Capability) : Capability.read (.text c.label) = .ok c := by
  cases c <;> rfl

namespace StoredReference

/-- What may be stored. -/
structure Valid (r : StoredReference) : Prop where
  name : r.name ≠ ""
  path : isCanonicalPath r.path = true

lemma checkPath_eq_none {p : String} : checkPath p = none ↔ isCanonicalPath p = true := by
  rw [checkPath]
  split <;> simp_all

lemma validate_eq_ok {r : StoredReference} {u : Unit} : r.validate = .ok u ↔ r.Valid := by
  simp only [validate, seq_eq_ok, map_eq_ok, within_eq_ok, check_eq_ok, Value.tooShort?_eq_none]
  constructor
  · rintro ⟨_, p, ⟨s, ⟨hs, hname⟩, -⟩, ⟨hp, hpath⟩, -⟩
    cases hs
    cases hp
    exact ⟨hname, checkPath_eq_none.mp hpath⟩
  · rintro ⟨hname, hpath⟩
    exact ⟨fun _ => (), r.path, ⟨r.name, ⟨rfl, hname⟩, trivial⟩,
      ⟨rfl, checkPath_eq_none.mpr hpath⟩, trivial⟩

lemma read_write [Validator] {r : StoredReference} (h : r.Valid) :
    Value.readRecord read r.write = .ok r := by
  simp only [write, Value.readRecord, read, seq_eq_ok, map_eq_ok]
  refine ⟨_, none, ⟨_, r.capability, ⟨_, r.path, ⟨r.name, ?_, rfl⟩, ?_, rfl⟩, ?_, rfl⟩, ?_, rfl⟩
  · exact required_eq_ok.mpr ⟨_, rfl, Value.readNonempty_eq_ok.mpr ⟨rfl, h.name⟩⟩
  · exact required_eq_ok.mpr ⟨_, rfl, check_eq_ok.mpr
      ⟨Validator.readString_eq_ok.mpr rfl, checkPath_eq_none.mpr h.path⟩⟩
  · exact required_eq_ok.mpr ⟨_, rfl, Capability.read_label _⟩
  · exact optional_eq_ok.mpr (.inr ⟨rfl, rfl⟩)

end StoredReference

namespace StoredCategory

structure Valid (c : StoredCategory) : Prop where
  name : c.name ≠ ""
  references : ∀ r ∈ c.references, r.Valid

lemma validateFrom_eq_ok {i : Nat} {rs : List StoredReference} {u : Unit} :
    validateFrom i rs = .ok u ↔ ∀ r ∈ rs, r.Valid := by
  induction rs generalizing i with
  | nil => simp [validateFrom]
  | cons r rs ih =>
    simp [validateFrom, seq_eq_ok, map_eq_ok, within_eq_ok, StoredReference.validate_eq_ok, ih]

lemma validate_eq_ok {c : StoredCategory} {u : Unit} : c.validate = .ok u ↔ c.Valid := by
  simp only [validate, seq_eq_ok, map_eq_ok, within_eq_ok, check_eq_ok, Value.tooShort?_eq_none,
    validateFrom_eq_ok]
  constructor
  · rintro ⟨_, _, ⟨s, ⟨hs, hname⟩, -⟩, hall, -⟩
    cases hs
    exact ⟨hname, hall⟩
  · rintro ⟨hname, hall⟩
    exact ⟨fun _ => (), (), ⟨c.name, ⟨rfl, hname⟩, trivial⟩, hall, trivial⟩

lemma read_write [Validator] {c : StoredCategory} (h : c.Valid) :
    Value.readRecord read c.write = .ok c := by
  simp only [write, Value.readRecord, read, seq_eq_ok, map_eq_ok]
  refine ⟨_, c.references, ⟨c.name, ?_, rfl⟩, ?_, rfl⟩
  · exact required_eq_ok.mpr ⟨_, rfl, Value.readNonempty_eq_ok.mpr ⟨rfl, h.name⟩⟩
  · refine optional_eq_ok.mpr (.inl ⟨_, rfl, Value.readItemsFrom_eq_ok ?_ 0⟩)
    exact List.forall₂_map_left_iff.mpr
      (List.forall₂_same.mpr fun r hr => StoredReference.read_write (h.references r hr))

end StoredCategory

namespace RegistryDocument

variable {d : RegistryDocument}

def Valid (d : RegistryDocument) : Prop := ∀ c ∈ d.categories, c.Valid

/-- The paths of all references. -/
def paths (d : RegistryDocument) : List String :=
  d.categories.flatMap fun c => c.references.map (·.path)

lemma Valid.path (h : d.Valid) : ∀ p ∈ d.paths, isCanonicalPath p = true := by
  intro p hp
  obtain ⟨c, hc, hp⟩ := List.mem_flatMap.mp hp
  obtain ⟨r, hr, rfl⟩ := List.mem_map.mp hp
  exact ((h c hc).references r hr).path

lemma validateFrom_eq_ok {i : Nat} {cs : List StoredCategory} {u : Unit} :
    validateFrom i cs = .ok u ↔ ∀ c ∈ cs, c.Valid := by
  induction cs generalizing i with
  | nil => simp [validateFrom]
  | cons c cs ih =>
    simp [validateFrom, seq_eq_ok, map_eq_ok, within_eq_ok, StoredCategory.validate_eq_ok, ih]

lemma validate_eq_ok {d' : RegistryDocument} : d.validate = .ok d' ↔ d.Valid ∧ d = d' := by
  rw [validate, Valid]
  cases h : validateFrom 0 d.categories with
  | ok u => simpa [within, Checked.map] using fun _ => validateFrom_eq_ok.mp h
  | bad issues =>
    have hno : ¬ ∀ c ∈ d.categories, c.Valid := fun hall => by
      rw [(validateFrom_eq_ok (u := ())).mpr hall] at h
      cases h
    simpa [within, Checked.map] using fun hall => absurd hall hno

/-- A document that was written can be read. -/
lemma read_write [Validator] (h : d.Valid) :
    ∃ fields, Forest.documentFields d.write = .ok fields ∧ read fields = .ok d := by
  refine ⟨_, rfl, ?_⟩
  simp only [read, seq_eq_ok, map_eq_ok]
  refine ⟨_, d.categories, ⟨_, d.scene, ⟨"1", ?_, rfl⟩, ?_, rfl⟩, ?_, rfl⟩
  · exact optional_eq_ok.mpr
      (.inl ⟨_, rfl, check_eq_ok.mpr ⟨Validator.readString_eq_ok.mpr rfl, rfl⟩⟩)
  · exact optional_eq_ok.mpr (.inl ⟨_, rfl, Validator.readString_eq_ok.mpr rfl⟩)
  · refine optional_eq_ok.mpr (.inl ⟨_, rfl, Value.readItemsFrom_eq_ok ?_ 0⟩)
    exact List.forall₂_map_left_iff.mpr
      (List.forall₂_same.mpr fun c hc => StoredCategory.read_write (h c hc))

end RegistryDocument

/-! ### Registries -/

namespace Registry

variable {f : Forest} {g : Registry} {v : Value}

lemma toDocument_eq_ok {d : RegistryDocument} :
    g.toDocument = .ok d ↔ g.stored.Valid ∧ g.stored = d := by
  rw [toDocument]
  cases h : g.stored.validate with
  | ok d =>
    obtain ⟨hvalid, rfl⟩ := RegistryDocument.validate_eq_ok.mp h
    simp [Checked.toExcept, hvalid]
  | bad issues =>
    have hno : ¬ g.stored.Valid := fun hvalid => by
      rw [RegistryDocument.validate_eq_ok.mpr ⟨hvalid, rfl⟩] at h
      cases h
    simp [Checked.toExcept, hno]

lemma document_eq_ok : g.document = .ok v ↔ g.stored.Valid ∧ g.stored.write = v := by
  rw [document]
  cases h : g.toDocument with
  | ok d =>
    obtain ⟨hvalid, rfl⟩ := toDocument_eq_ok.mp h
    simp [hvalid]
  | error issues =>
    have hno : ¬ g.stored.Valid := fun hvalid => by
      rw [toDocument_eq_ok.mpr ⟨hvalid, rfl⟩] at h
      cases h
    simp [hno]

lemma paths_stored (g : Registry) : g.stored.paths = g.references.map (·.path) := by
  simp only [RegistryDocument.paths, stored, references, ids, List.flatMap_map, List.map_map,
    List.map_flatMap]
  rfl

lemma Rebuilt.stored_eq {old : Registry} {done : List RefId} (h : Rebuilt f old done g) :
    g.stored = ⟨g.sceneName, old.stored.categories⟩ := by
  simp only [Registry.stored, h.categories, RegistryDocument.mk.injEq, true_and]
  refine List.map_congr_left fun c _ => ?_
  congr 1
  refine List.map_congr_left fun i _ => ?_
  obtain ⟨b, hb⟩ := h.same i
  rw [hb]

lemma stored_ofCategory (h : g.Fresh) (c : StoredCategory) :
    (g.ofCategory c).stored = ⟨g.sceneName, g.stored.categories ++ [c]⟩ := by
  have hold : ∀ i ∈ g.ids, (g.ofCategory c).reference i = g.reference i := by
    intro i hi
    have hlt := h.stored i hi
    simp [ofCategory, reference, List.getElem?_append_left hlt]
  have hnew : ∀ j < c.references.length, ((g.ofCategory c).reference (g.store.length + j)) =
      (c.references.map fun r => ⟨r.name, r.path, r.capability, .never⟩)[j]?.getD
        ⟨"", "", .unknown, .never⟩ := by
    intro j hj
    simp [ofCategory, reference, List.getElem?_append_right]
  simp only [stored, RegistryDocument.mk.injEq]
  refine ⟨rfl, ?_⟩
  have hcategories : (g.ofCategory c).categories = g.categories ++
      [⟨c.name, (List.range c.references.length).map (g.store.length + ·)⟩] := rfl
  rw [hcategories, List.map_append, List.map_singleton]
  congr 1
  · refine List.map_congr_left fun k hk => ?_
    congr 1
    refine List.map_congr_left fun i hi => ?_
    rw [hold i (List.mem_flatMap.mpr ⟨k, hk, hi⟩)]
  · congr 2
    rw [List.map_map]
    apply List.ext_getElem
    · simp
    · intro j hj hj'
      rw [List.getElem_map, List.getElem_range, Function.comp_apply, hnew j hj']
      simp [hj']

/-- What reading a document leaves in a registry. -/
lemma ofDocument_fields (f : Forest) (d : RegistryDocument) :
    (ofDocument f d).stored = d ∧ (ofDocument f d).cache = .new f ∧
      (ofDocument f d).scene = none ∧ (ofDocument f d).sceneName = d.scene := by
  have hfold : ∀ (cs : List StoredCategory) (g : Registry), g.Fresh →
      (cs.foldl ofCategory g).stored = ⟨g.sceneName, g.stored.categories ++ cs⟩ ∧
        (cs.foldl ofCategory g).cache = g.cache ∧ (cs.foldl ofCategory g).scene = g.scene ∧
          (cs.foldl ofCategory g).sceneName = g.sceneName := by
    intro cs
    induction cs with
    | nil => exact fun g _ => ⟨by rw [List.append_nil]; rfl, rfl, rfl, rfl⟩
    | cons c cs ih =>
      intro g hg
      obtain ⟨hstored, hcache, hscene, hname⟩ := ih _ (fresh_ofCategory hg c)
      rw [stored_ofCategory hg] at hstored
      refine ⟨?_, hcache, hscene, hname⟩
      rw [List.foldl_cons, hstored, List.append_assoc, List.singleton_append]
      rfl
  have hblank : Fresh { blank f with sceneName := d.scene } :=
    ⟨List.nodup_nil, List.forall_mem_nil _, rfl, rfl, List.forall_mem_nil _⟩
  exact hfold d.categories _ hblank

lemma paths_ofDocument (f : Forest) (d : RegistryDocument) :
    (ofDocument f d).references.map (·.path) = d.paths := by
  rw [← paths_stored, (ofDocument_fields f d).1]

end Registry

end SceneBindings
