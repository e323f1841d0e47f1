import SceneBindings.Proofs.Registry.PathIndex

/-!
The keys of bound references. As long as nothing is dropped behind the back of the path index, every
listed reference that is bound to a live node is found under the key of that node.
-/

namespace SceneBindings

open Forest

namespace Registry

variable {f f' : Forest} {g g' : Registry}

/-- The key of a live node that a listed reference is bound to has the path of the reference. -/
def Keyed (f : Forest) (g : Registry) : Prop :=
  ∀ i ∈ g.ids, ∀ k, (g.reference i).binding = .bound k → f.IsAlive k →
    g.byKey.get? k = some (g.reference i).path

namespace Keyed

lemma mono (h : Keyed f g) (hf : f.NoneRevived f') : Keyed f' g :=
  fun i hi k hk ha => h i hi k hk (hf k ha)

lemma of_lists (h : Keyed f g) (hs : g'.store = g.store) (hc : g'.categories = g.categories)
    (hk : g'.byKey = g.byKey) : Keyed f g' := by
  simpa [Keyed, ids, reference, hs, hc, hk] using h

lemma insert (h : Keyed f g) (hs : Sound f g) {r : Reference} {k : Key} (hb : r.binding = .bound k)
    (hnew : g.byKey.get? k = none) : Keyed f (g.insert f r).1 := by
  have hself : (g.insert f r).1.reference g.store.length = r := reference_append_self g r
  intro i hi l hl ha
  rw [byKey_insert hb]
  rcases (mem_addMember g.categories).mp hi with rfl | hi
  · rw [hself] at hl ⊢
    rw [hb] at hl
    cases hl
    rw [if_pos ⟨rfl, ha⟩]
  · have hold : (g.insert f r).1.reference i = g.reference i :=
      reference_append g r i (hs.stored i hi)
    rw [hold] at hl ⊢
    have hkey := h i hi l hl ha
    rw [if_neg, hkey]
    rintro ⟨rfl, -⟩
    rw [hnew] at hkey
    cases hkey

lemma relocate (h : Keyed f g) (hs : Sound f g) {i : RefId} (hi : i ∈ g.ids) {path : String}
    (name : String) {k : Key}
    (hnew : ∀ j ∈ g.ids, j ≠ i → (g.reference j).binding = .bound k → ¬ f.IsAlive k) :
    Keyed f (g.relocate f i path name k) := by
  intro j hj l hl ha
  rw [byKey_relocate path name k (hs.stored i hi)]
  rw [reference_relocate path name k (hs.stored i hi)] at hl ⊢
  by_cases hji : j = i
  · rw [if_pos hji] at hl ⊢
    cases hl
    rw [if_pos ⟨rfl, ha⟩]
  · rw [if_neg hji] at hl ⊢
    rw [if_neg, h j hj l hl ha]
    rintro ⟨rfl, hk⟩
    exact hnew j hj hji hl hk

lemma drop (h : Keyed f g) {i : RefId}
    (hkept : ∀ j ∈ g.ids, j ≠ i → ∀ k, (g.reference j).binding = .bound k → f.IsAlive k →
      ¬ ((g.reference i).binding.lastKey? = some k ∧ g.byKey.get? k = some (g.reference i).path)) :
    Keyed f (g.drop f i).1 := by
  intro j hj k hk ha
  have hj : j ∈ g.ids := by
    rw [ids_drop] at hj
    exact (removeMember_sublist i _ _).subset hj
  rw [reference_drop] at hk ⊢
  split at hk
  · exact absurd hk (Binding.release_ne_bound _ k)
  · next hji =>
    rw [if_neg hji, byKey_drop, if_neg (hkept j hj hji k hk ha), h j hj k hk ha]

/-- What the path index finds can be dropped: no other reference that is bound has its path. -/
lemma drop_found (h : Keyed f g) (hs : Sound f g) {i : RefId} {p : String}
    (hp : g.findPath? p = some i) : Keyed f (g.drop f i).1 := by
  refine h.drop fun j hj hji k hk ha hlost => hji ?_
  have hpath := hlost.2
  rw [h j hj k hk ha, Option.some.injEq] at hpath
  have hfind := hs.bound j hj (Reference.isBound_iff.mpr ⟨k, hk, ha⟩)
  rw [hpath, (hs.entry p i hp).1, hp] at hfind
  exact (Option.some.inj hfind).symm

/-- Two listed references that are bound to one live node are the same. -/
lemma node (h : Keyed f g) (hs : Sound f g) {i j : RefId} {k : Key} (hi : i ∈ g.ids) (hj : j ∈ g.ids)
    (hik : (g.reference i).binding = .bound k) (hjk : (g.reference j).binding = .bound k)
    (ha : f.IsAlive k) : i = j := by
  have hpath := h i hi k hik ha
  rw [h j hj k hjk ha, Option.some.injEq] at hpath
  exact hs.eq_of_path hi hj (Reference.isBound_iff.mpr ⟨k, hik, ha⟩)
    (Reference.isBound_iff.mpr ⟨k, hjk, ha⟩) hpath.symm

/-- A change that takes no key away keeps the keys. -/
lemma change (h : Keyed f g) (hs : Sound f g) (hc : g.Change f g')
    (hkept : ∀ k, g.byKey.get? k ≠ none → g'.byKey.get? k ≠ none) : Keyed f g' := by
  cases hc with
  | same => exact h
  | insert binding free new => exact h.insert hs binding new
  | drop known =>
    refine h.drop fun j hj _ k hk ha hlost => ?_
    have hstill := hkept k (h j hj k hk ha ▸ Option.some_ne_none _)
    rw [byKey_drop, if_pos hlost] at hstill
    exact hstill rfl
  | unindex listed lost => exact h
  | repair listed lost new free =>
    refine h.relocate hs listed _ fun j hj _ hjk ha => ?_
    have hkey := h j hj _ hjk ha
    rw [new] at hkey
    cases hkey
  | refresh listed binding alive free =>
    exact h.relocate hs listed _ fun j hj hji hjk ha => hji (h.node hs hj listed hjk binding ha)

lemma of_rebuilt {all : List RefId} (hall : ∀ i, i ∈ all ↔ i ∈ g.ids) (hr : Rebuilt f g all g') :
    Keyed f g' := by
  intro i hi k hk _
  have hids : g'.ids = g.ids := by simp [ids, hr.categories]
  exact (hr.bound i ((hall i).mpr (hids ▸ hi)) k hk).2.2

end Keyed

end Registry

namespace Workspace

open Registry

variable {v w : Workspace}

lemma keyed_move (hs : Sound w.forest w.registry) (h : Keyed w.forest w.registry) (hm : Move w v)
    (hkept : ∀ k, w.registry.byKey.get? k ≠ none → v.registry.byKey.get? k ≠ none) :
    Keyed v.forest v.registry := by
  cases hm with
  | change u quiet change forest =>
    have hsu : Sound u.forest u.registry := sound_quiet hs quiet
    have hu : Keyed u.forest u.registry :=
      (h.mono quiet.forest).of_lists quiet.store quiet.categories quiet.byKey
    exact (hu.change hsu change fun k hk => hkept k (quiet.byKey ▸ hk)).mono forest
  | rebind s eq =>
    obtain ⟨hf, all, hall, hr⟩ := rebuilt_bindScene s hs.nodup hs.stored
    rw [eq, hf]
    exact .of_rebuilt hall hr

lemma keyed_remove (hs : Sound w.forest w.registry) (h : Keyed w.forest w.registry)
    (key : ElementKey) : Keyed (w.remove key).1.forest (w.remove key).1.registry := by
  obtain ⟨i, p, hp, heq⟩ | ⟨d, heq⟩ := remove_cases w key
  · rw [heq]
    exact (h.drop_found hs hp).mono (noneRevived_drop _ _ _)
  · rw [heq]
    exact h

/-- Every step keeps the keys, but for the removal of missing references: a missing reference may have
the path of one that is bound. -/
lemma keyed_stage {a : Action} (hs : Sound w.forest w.registry) (h : Keyed w.forest w.registry)
    (ha : a ≠ .removeMissing) (hstage : Stage w a v) : Keyed v.forest v.registry := by
  have hmove := hstage.move hs
  have hgrows : Grows w v → Keyed v.forest v.registry := fun hg => keyed_move hs h hmove hg.keys
  have hquiet : w.Quiet v → Keyed v.forest v.registry :=
    fun hq => (h.mono hq.forest).of_lists hq.store hq.categories hq.byKey
  cases hstage with
  | edit e => exact hquiet (.edit w e)
  | add k probe standardize => exact hgrows (.add w k probe standardize)
  | addEach k probe ks => exact hgrows (.add w k probe none)
  | remove key => exact keyed_remove hs h key
  | bindScene s =>
    obtain ⟨hf, all, hall, hr⟩ := rebuilt_bindScene s hs.nodup hs.stored
    rw [hf]
    exact .of_rebuilt hall hr
  | repairEach s gone => exact keyed_move hs h hmove (touches_repairOne w s _).keys
  | dropEach listed => exact absurd rfl ha
  | refreshEach listed => exact hgrows (.refreshOne w _)
  | setPanelActive key isActive others keepLast =>
    exact hquiet (.setPanelActive w key isActive others keepLast)
  | togglePanel key => exact hquiet (.togglePanel w key)
  | isPanelVisible key => exact hquiet (.isPanelVisible w key)
  | activate k exclusive keepLast => exact hquiet (.activate w k exclusive keepLast)
  | deactivate k => exact hquiet (.deactivate w k)

lemma keyed_start (f : Forest) (o : Origin) (namer : Option Standardizer) :
    Keyed (start f o namer).forest (start f o namer).registry := by
  intro i hi k hk _
  have hfresh := fresh_origin o f
  have hmem : (o.registry f).reference i ∈ (o.registry f).store := by
    simp only [reference, List.getElem?_eq_getElem (hfresh.stored i hi), Option.getD_some]
    exact List.getElem_mem _
  have hnever : ((start f o namer).registry.reference i).binding = .never := hfresh.never _ hmem
  rw [hnever] at hk
  cases hk

/-- **In a run that never removes missing references, every bound reference is found by its key.** -/
theorem keyed_passed (f : Forest) (o : Origin) (namer : Option Standardizer) {as : List Action}
    (has : Action.removeMissing ∉ as) :
    ∀ v ∈ (start f o namer).passed as, Sound v.forest v.registry ∧ Keyed v.forest v.registry := by
  have hs := sound_start f o namer
  refine forall_of_isChain (P := fun v => Sound v.forest v.registry ∧ Keyed v.forest v.registry)
    (fun {u v} hu hstage => ⟨sound_stageOf hu.1 hstage, ?_⟩) ⟨hs, keyed_start f o namer⟩
    (isChain_stageOf hs as)
  obtain ⟨a, ha, hstage⟩ := hstage
  refine keyed_stage hu.1 hu.2 ?_ hstage
  rintro rfl
  exact has ha

end Workspace

end SceneBindings
