import Mathlib.Data.List.Nodup
import SceneBindings.Proofs.Registry.Changes

/-!
Binding a registry to a scene. Both indices are rebuilt from the lists, one reference after the
other, so afterwards they hold exactly the references that were bound.
-/

namespace SceneBindings

open Forest

/-- The live node that a path leads to in a scene. -/
def Forest.liveAt? (f : Forest) (s : SceneId) (path : String) : Option Key :=
  (f.findByPath? s path).filter fun k => !(f.node k).destroyed

lemma Forest.liveAt?_eq_some {f : Forest} {s : SceneId} {path : String} {k : Key} :
    f.liveAt? s path = some k ↔ f.findByPath? s path = some k ∧ f.IsAlive k := by
  simp [liveAt?, IsAlive, Option.filter_eq_some_iff]

/-! ### Binding one reference -/

namespace Workspace

/-- What is said of a reference that gets no node: another one has it, or there is none. -/
def refusal (f : Forest) (s : SceneId) (r : Reference) : Diagnostic :=
  if (f.liveAt? s r.path).isSome then
    .warn .duplicate ("UI element '" ++ r.name ++ "' is registered twice") r.path
  else
    .warn .missingReference ("UI element '" ++ r.name ++ "' is missing or has been destroyed") r.path

/-- A reference is bound to the live node that its path leads to and entered in both indices, unless
there is no such node or one of the indices knows the path or the node. Then it is let go. -/
lemma bindOne_cases (s : SceneId) (w : Workspace) (i : RefId) :
    (∃ k, w.forest.liveAt? s (w.registry.reference i).path = some k ∧
        w.registry.findPath? (w.registry.reference i).path = none ∧
        w.registry.byKey.get? k = none ∧
        bindOne s w i = ({ w with registry :=
          (w.registry.modify i fun r => { r with binding := .bound k }).index w.forest i }, true)) ∨
      ((∀ k, w.forest.liveAt? s (w.registry.reference i).path = some k →
          w.registry.findPath? (w.registry.reference i).path ≠ none ∨
            w.registry.byKey.get? k ≠ none) ∧
        bindOne s w i = (report { w with registry :=
          (w.registry.modify i fun r => { r with binding := r.binding.release }) }
            (refusal w.forest s (w.registry.reference i)), false)) := by
  rw [bindOne, refusal, Forest.liveAt?]
  dsimp only
  cases hfound : w.forest.findByPath? s (w.registry.reference i).path with
  | none => exact .inr ⟨nofun, rfl⟩
  | some k =>
    by_cases halive : (w.forest.node k).destroyed = true
    · exact .inr ⟨by simp [halive], by simp [halive]⟩
    · have hlive : (some k).filter (fun k => !(w.forest.node k).destroyed) = some k := by
        simpa using halive
      dsimp only
      rw [hlive, if_neg halive]
      split
      · next htaken =>
        refine .inr ⟨fun l hl => ?_, rfl⟩
        obtain rfl := Option.some.inj hl
        rw [Bool.or_eq_true] at htaken
        refine htaken.imp (fun h hnone => ?_) fun h hnone => ?_
        · rw [Registry.hasPath_eq_false.mpr hnone] at h
          cases h
        · rw [Registry.hasKey_eq_false.mpr hnone] at h
          cases h
      · next hfree =>
        rw [Bool.or_eq_true, not_or, Bool.not_eq_true, Bool.not_eq_true, Registry.hasPath_eq_false,
          Registry.hasKey_eq_false] at hfree
        exact .inl ⟨k, rfl, hfree.1, hfree.2, rfl⟩

/-- Binding touches only references, the two indices and what is said. -/
lemma bindOne_frame (s : SceneId) (w : Workspace) (i : RefId) :
    ∃ store byPath byKey events, store.length = w.registry.store.length ∧
      (bindOne s w i).1 =
        { w with registry := { w.registry with store, byPath, byKey }, events } := by
  obtain ⟨k, -, -, -, heq⟩ | ⟨-, heq⟩ := bindOne_cases s w i
  · exact ⟨_, _, _, _, List.length_modify .., congrArg Prod.fst heq⟩
  · exact ⟨_, _, _, _, List.length_modify .., congrArg Prod.fst heq⟩

lemma bindEach_frame (s : SceneId) (is : List RefId) (w : Workspace) :
    ∃ store byPath byKey events, store.length = w.registry.store.length ∧
      (bindEach s w is).1 =
        { w with registry := { w.registry with store, byPath, byKey }, events } := by
  induction is generalizing w with
  | nil => exact ⟨_, _, _, _, rfl, rfl⟩
  | cons i is ih =>
    obtain ⟨store, byPath, byKey, events, hlength, heq⟩ := bindOne_frame s w i
    rw [bindEach, heq]
    obtain ⟨store', byPath', byKey', events', hlength', heq'⟩ := ih
      { w with registry := { w.registry with store, byPath, byKey }, events }
    exact ⟨store', byPath', byKey', events', hlength'.trans hlength, heq'⟩

/-- The registry follows the scene, with no reference indexed yet. -/
def followed (w : Workspace) (s : SceneId) : Workspace :=
  { w with registry :=
    { (w.registry.attach w.forest s).resetPanels with byPath := .empty, byKey := .empty } }

lemma bindScene_eq (w : Workspace) (s : SceneId) :
    w.bindScene s = bindEach s (w.followed s) w.registry.ids := rfl

lemma bindScene_frame (w : Workspace) (s : SceneId) :
    ∃ store byPath byKey events, store.length = w.registry.store.length ∧
      (w.bindScene s).1 = { w with
        registry := { (w.registry.attach w.forest s).resetPanels with store, byPath, byKey }
        events } :=
  bindEach_frame s w.registry.ids (w.followed s)

lemma namer_bindScene (w : Workspace) (s : SceneId) : (w.bindScene s).1.namer = w.namer := by
  obtain ⟨store, byPath, byKey, events, -, heq⟩ := bindScene_frame w s
  rw [heq]

end Workspace

/-- Both indices hold exactly those references of `done` that are bound, and nothing but bindings
has changed since `old`. -/
structure Registry.Rebuilt (f : Forest) (old : Registry) (done : List RefId) (g : Registry) :
    Prop where
  categories : g.categories = old.categories
  length : g.store.length = old.store.length
  same : ∀ j, ∃ b, g.reference j = { old.reference j with binding := b }
  entry : ∀ p i, g.findPath? p = some i → (g.reference i).path = p ∧ i ∈ done
  entered : ∀ p i, g.findPath? p = some i → ∃ k, (g.reference i).binding = .bound k
  bound : ∀ i ∈ done, ∀ k, (g.reference i).binding = .bound k →
    f.IsAlive k ∧ g.findPath? (g.reference i).path = some i ∧
      g.byKey.get? k = some (g.reference i).path
  key : ∀ k p, g.byKey.get? k = some p →
    ∃ i ∈ done, g.findPath? p = some i ∧ (g.reference i).binding = .bound k

namespace Registry.Rebuilt

variable {f : Forest} {old g : Registry} {done : List RefId}

lemma path (h : Rebuilt f old done g) (j : RefId) :
    (g.reference j).path = (old.reference j).path := by
  obtain ⟨b, hb⟩ := h.same j
  rw [hb]

lemma rebind (h : Rebuilt f old done g) {i : RefId} (hi : i ∉ done) (u : Binding → Binding) :
    Rebuilt f old done (g.modify i fun r => { r with binding := u r.binding }) := by
  have hold : ∀ j ∈ done, (g.modify i fun r => { r with binding := u r.binding }).reference j =
      g.reference j := by
    intro j hj
    rw [reference_modify, if_neg]
    rintro ⟨rfl, -⟩
    exact hi hj
  refine ⟨h.categories, by simpa [modify] using h.length, fun j => ?_, fun p j hp => ?_,
    fun p j hp => ?_, fun j hj k hk => ?_, fun k p hk => ?_⟩
  · obtain ⟨b, hb⟩ := h.same j
    rw [reference_modify]
    split
    · next hji => exact ⟨_, by rw [← hji.1, hb]⟩
    · exact ⟨b, hb⟩
  · obtain ⟨hpath, hj⟩ := h.entry p j hp
    exact ⟨by rw [hold j hj, hpath], hj⟩
  · rw [hold j (h.entry p j hp).2]
    exact h.entered p j hp
  · rw [hold j hj] at hk ⊢
    exact h.bound j hj k hk
  · obtain ⟨j, hj, hp, hb⟩ := h.key k p hk
    exact ⟨j, hj, hp, by rw [hold j hj, hb]⟩

lemma skip (h : Rebuilt f old done g) {i : RefId}
    (hi : ∀ k, (g.reference i).binding ≠ .bound k) : Rebuilt f old (i :: done) g := by
  refine ⟨h.categories, h.length, h.same, fun p j hp => ?_, h.entered, fun j hj k hk => ?_,
    fun k p hk => ?_⟩
  · exact (h.entry p j hp).imp id (List.mem_cons_of_mem _)
  · rcases List.mem_cons.mp hj with rfl | hj
    · exact absurd hk (hi k)
    · exact h.bound j hj k hk
  · obtain ⟨j, hj, hjk⟩ := h.key k p hk
    exact ⟨j, List.mem_cons_of_mem _ hj, hjk⟩

lemma index (h : Rebuilt f old done g) {i : RefId} {k : Key}
    (hb : (g.reference i).binding = .bound k) (ha : f.IsAlive k)
    (hfree : g.findPath? (g.reference i).path = none) (hnew : g.byKey.get? k = none) :
    Rebuilt f old (i :: done) (g.index f i) := by
  have href : ∀ j, (g.index f i).reference j = g.reference j := fun _ => rfl
  have hpath := findPath?_index g f i
  have hkey : ∀ j, (g.index f i).byKey.get? j =
      if j = k then some (g.reference i).path else g.byKey.get? j := by
    intro j
    rw [byKey_index hb]
    simp [ha]
  refine ⟨h.categories, h.length, h.same, fun p j hp => ?_, fun p j hp => ?_, fun j hj l hl => ?_,
    fun l p hl => ?_⟩
  · rw [hpath] at hp
    split at hp
    · next hpi =>
      cases hp
      exact ⟨by rw [href, hpi], List.mem_cons_self⟩
    · exact (h.entry p j hp).imp id (List.mem_cons_of_mem _)
  · rw [hpath] at hp
    split at hp
    · cases hp
      exact ⟨k, hb⟩
    · exact h.entered p j hp
  · rw [href] at hl ⊢
    rcases List.mem_cons.mp hj with rfl | hj
    · rw [hb] at hl
      cases hl
      exact ⟨ha, by rw [hpath, if_pos rfl], by rw [hkey, if_pos rfl]⟩
    · obtain ⟨hal, hp, hk⟩ := h.bound j hj l hl
      have hpne : (g.reference j).path ≠ (g.reference i).path := ne_of_found hp hfree
      have hlne : l ≠ k := ne_of_found hk hnew
      exact ⟨hal, by rw [hpath, if_neg hpne, hp], by rw [hkey, if_neg hlne, hk]⟩
  · rw [hkey] at hl
    split at hl
    · next hlk =>
      cases hl
      exact ⟨i, List.mem_cons_self, by rw [hpath, if_pos rfl], by rw [href, hb, hlk]⟩
    · obtain ⟨j, hj, hp, hjl⟩ := h.key l p hl
      have hpne : p ≠ (g.reference i).path := ne_of_found hp hfree
      exact ⟨j, List.mem_cons_of_mem _ hj, by rw [hpath, if_neg hpne, hp], by rw [href, hjl]⟩

end Registry.Rebuilt

namespace Workspace

open Registry

lemma rebuilt_bindOne {w : Workspace} {old : Registry} {done : List RefId} (s : SceneId)
    {i : RefId} (h : Rebuilt w.forest old done w.registry) (hi : i ∉ done)
    (hr : i < w.registry.store.length) :
    (bindOne s w i).1.forest = w.forest ∧
      Rebuilt w.forest old (i :: done) (bindOne s w i).1.registry := by
  have hrelease : Rebuilt w.forest old (i :: done)
      (w.registry.modify i fun r => { r with binding := r.binding.release }) := by
    refine (h.rebind hi Binding.release).skip fun k => ?_
    rw [reference_modify, if_pos ⟨rfl, hr⟩]
    exact Binding.release_ne_bound _ k
  obtain ⟨k, hk, hfree, hnew, heq⟩ | ⟨-, heq⟩ := bindOne_cases s w i
  · have href : (w.registry.modify i fun r => { r with binding := .bound k }).reference i =
        { w.registry.reference i with binding := .bound k } := by
      rw [reference_modify, if_pos ⟨rfl, hr⟩]
    rw [heq]
    refine ⟨rfl, (h.rebind hi fun _ => .bound k).index (k := k) ?_ ?_ ?_ hnew⟩
    · rw [href]
    · exact (liveAt?_eq_some.mp hk).2
    · rw [href]
      exact hfree
  · rw [heq]
    exact ⟨rfl, hrelease⟩

lemma rebuilt_bindEach {w : Workspace} {old : Registry} {done : List RefId} (s : SceneId)
    (is : List RefId) (h : Rebuilt w.forest old done w.registry) (hn : (is ++ done).Nodup)
    (hr : ∀ i ∈ is, i < old.store.length) :
    (bindEach s w is).1.forest = w.forest ∧
      ∃ all, (∀ i, i ∈ all ↔ i ∈ is ∨ i ∈ done) ∧
        Rebuilt w.forest old all (bindEach s w is).1.registry := by
  induction is generalizing w done with
  | nil => exact ⟨rfl, done, by simp, h⟩
  | cons i is ih =>
    rw [List.cons_append, List.nodup_cons, List.mem_append, not_or] at hn
    obtain ⟨⟨hi, hid⟩, hn⟩ := hn
    obtain ⟨hf, hone⟩ := rebuilt_bindOne s h hid (h.length ▸ hr i List.mem_cons_self)
    rw [← hf] at hone
    obtain ⟨hf', all, hall, hdone⟩ := ih hone
      (List.nodup_middle.mpr (List.nodup_cons.mpr ⟨by simp [hi, hid], hn⟩))
      fun j hj => hr j (List.mem_cons_of_mem _ hj)
    rw [bindEach]
    refine ⟨hf'.trans hf, all, fun j => ?_, hf ▸ hdone⟩
    rw [hall, List.mem_cons, List.mem_cons]
    tauto

/-- Binding to a scene leaves the lists as they are and rebuilds the indices for all of them. -/
theorem rebuilt_bindScene {w : Workspace} (s : SceneId) (hn : w.registry.ids.Nodup)
    (hr : ∀ i ∈ w.registry.ids, i < w.registry.store.length) :
    (w.bindScene s).1.forest = w.forest ∧
      ∃ all, (∀ i, i ∈ all ↔ i ∈ w.registry.ids) ∧
        Rebuilt w.forest w.registry all (w.bindScene s).1.registry := by
  have hempty : Rebuilt (w.followed s).forest w.registry [] (w.followed s).registry := by
    refine ⟨rfl, rfl, fun j => ⟨_, rfl⟩, fun p i hp => ?_, fun p i hp => ?_, fun i hi => ?_,
      fun k p hk => ?_⟩
    · cases hp
    · cases hp
    · cases hi
    · cases hk
  obtain ⟨hf, all, hall, hdone⟩ := rebuilt_bindEach s w.registry.ids hempty (by simpa using hn) hr
  rw [bindScene_eq]
  exact ⟨hf, all, by simpa using hall, hdone⟩

end Workspace

end SceneBindings
