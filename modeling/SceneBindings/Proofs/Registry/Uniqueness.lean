import SceneBindings.Proofs.Registry.Keyed

/-!
Duplicates. New paths are compared with the path index only, and a reference that is missing may
have left that index though the lists still hold it. So the paths stay distinct exactly as long as
no entry is made where such a reference has its path.
-/

namespace SceneBindings

open Forest

namespace Registry

variable {f f' : Forest} {g g' : Registry}

/-- The second registry has an entry for another reference at the path of a reference that the
first one lists but does not find. -/
def Clashes (g g' : Registry) : Prop :=
  ∃ j ∈ g.ids, g.findPath? (g.reference j).path = none ∧
    ∃ i, i ≠ j ∧ g'.findPath? (g.reference j).path = some i

lemma path_ne_of_not_clashes (h : ¬ g.Clashes g') {i j : RefId} {p : String} (hj : j ∈ g.ids)
    (hij : i ≠ j) (hfree : g.findPath? p = none) (hi : g'.findPath? p = some i) :
    (g.reference j).path ≠ p := by
  rintro rfl
  exact h ⟨j, hj, hfree, i, hij, hi⟩

lemma clashes_of_lists {u : Registry} (hs : u.store = g.store) (hc : u.categories = g.categories)
    (hp : u.byPath = g.byPath) (h : u.Clashes g') : g.Clashes g' := by
  simpa [Clashes, ids, reference, findPath?, hs, hc, hp] using h

def PathsDistinct (g : Registry) : Prop :=
  ∀ i ∈ g.ids, ∀ j ∈ g.ids, (g.reference i).path = (g.reference j).path → i = j

/-- The paths of the lists are distinct, and the key index has the path of each reference that is
bound under the key of its node. -/
structure Unique (f : Forest) (g : Registry) : Prop where
  path : g.PathsDistinct
  key : ∀ i ∈ g.ids, ∀ k, (g.reference i).binding = .bound k → f.IsAlive k →
    g.byKey.get? k = some (g.reference i).path

namespace Unique

lemma mono (h : Unique f g) (hf : f.NoneRevived f') : Unique f' g where
  path := h.path
  key := fun i hi k hk ha => h.key i hi k hk (hf k ha)

lemma of_lists (h : Unique f g) (hs : g'.store = g.store) (hc : g'.categories = g.categories)
    (hk : g'.byKey = g.byKey) : Unique f g' := by
  obtain ⟨hpath, hkey⟩ := h
  exact ⟨by simpa [PathsDistinct, ids, reference, hs, hc] using hpath,
    by simpa [ids, reference, hs, hc, hk] using hkey⟩

lemma node (h : Unique f g) {i j : RefId} {k : Key} (hi : i ∈ g.ids) (hj : j ∈ g.ids)
    (hik : (g.reference i).binding = .bound k) (hjk : (g.reference j).binding = .bound k)
    (ha : f.IsAlive k) : i = j := by
  have hpi := h.key i hi k hik ha
  rw [h.key j hj k hjk ha, Option.some.injEq] at hpi
  exact h.path i hi j hj hpi.symm

lemma insert (h : Unique f g) (hs : Sound f g) {r : Reference} {k : Key}
    (hb : r.binding = .bound k) (hpath : ∀ j ∈ g.ids, (g.reference j).path ≠ r.path)
    (hnew : g.byKey.get? k = none) : Unique f (g.insert f r).1 := by
  have hmem : ∀ j, j ∈ (g.insert f r).1.ids ↔ j = g.store.length ∨ j ∈ g.ids :=
    fun j => mem_addMember g.categories
  have hself : (g.insert f r).1.reference g.store.length = r := reference_append_self g r
  have hold : ∀ j ∈ g.ids, (g.insert f r).1.reference j = g.reference j :=
    fun j hj => reference_append g r j (hs.stored j hj)
  refine ⟨fun i hi j hj he => ?_, Keyed.insert h.key hs hb hnew⟩
  rcases (hmem i).mp hi with rfl | hi <;> rcases (hmem j).mp hj with rfl | hj
  · rfl
  · rw [hself, hold j hj] at he
    exact absurd he.symm (hpath j hj)
  · rw [hself, hold i hi] at he
    exact absurd he (hpath i hi)
  · rw [hold i hi, hold j hj] at he
    exact h.path i hi j hj he

lemma relocate (h : Unique f g) (hs : Sound f g) {i : RefId} (hi : i ∈ g.ids) {path : String}
    (name : String) {k : Key} (hpath : ∀ j ∈ g.ids, j ≠ i → (g.reference j).path ≠ path)
    (hnew : ∀ j ∈ g.ids, j ≠ i → (g.reference j).binding = .bound k → ¬ f.IsAlive k) :
    Unique f (g.relocate f i path name k) := by
  have href := reference_relocate (f := f) path name k (hs.stored i hi)
  refine ⟨fun a ha b hb he => ?_, Keyed.relocate h.key hs hi name hnew⟩
  rw [href, href] at he
  by_cases hai : a = i <;> by_cases hbi : b = i
  · rw [hai, hbi]
  · rw [if_pos hai, if_neg hbi] at he
    exact absurd he.symm (hpath b hb hbi)
  · rw [if_neg hai, if_pos hbi] at he
    exact absurd he (hpath a ha hai)
  · rw [if_neg hai, if_neg hbi] at he
    exact h.path a ha b hb he

lemma drop (h : Unique f g) {i : RefId} (hi : i ∈ g.ids) : Unique f (g.drop f i).1 := by
  have hsub : (g.drop f i).1.ids ⊆ g.ids := by
    rw [ids_drop]; exact (removeMember_sublist i _ _).subset
  have hpath : ∀ j, ((g.drop f i).1.reference j).path = (g.reference j).path := by
    intro j
    rw [reference_drop]
    split
    · next hji => rw [hji]
    · rfl
  refine ⟨fun a ha b hb he => ?_, Keyed.drop h.key fun j hj hji k hk ha hlost => ?_⟩
  · rw [hpath, hpath] at he
    exact h.path a (hsub ha) b (hsub hb) he
  · have hkey := hlost.2
    rw [h.key j hj k hk ha, Option.some.injEq] at hkey
    exact hji (h.path j hj i hi hkey)

/-- A change that makes no entry at the path of a listed reference keeps the paths distinct. -/
lemma change (h : Unique f g) (hs : Sound f g) (hc : g.Change f g') (hno : ¬ g.Clashes g') :
    Unique f g' := by
  cases hc with
  | same => exact h
  | insert binding free new =>
    refine h.insert hs binding (fun j hj => ?_) new
    have hne : g.store.length ≠ j := Nat.ne_of_gt (hs.stored j hj)
    exact path_ne_of_not_clashes hno hj hne free (by rw [findPath?_insert, if_pos rfl])
  | @drop i known =>
    rcases known with hi | ⟨p, hp⟩
    · exact h.drop hi
    · exact h.drop (hs.entry p i hp).2
  | unindex listed lost => exact ⟨h.path, h.key⟩
  | @repair i k path listed lost new free =>
    have hentry : (g.relocate f i path (g.reference i).name k).findPath? path = some i := by
      rw [findPath?_relocate _ _ _ (hs.stored i listed), if_pos rfl]
    refine h.relocate hs listed _ (fun j hj hji => ?_) fun j hj _ hjk ha => ?_
    · rw [findPath?_unindex] at free
      split at free
      · next hown =>
        rw [hown.1]
        exact fun he => hji (h.path j hj i listed he)
      · exact path_ne_of_not_clashes hno hj (Ne.symm hji) free hentry
    · have hkey := h.key j hj k hjk ha
      rw [new] at hkey
      cases hkey
  | @refresh i k path name listed binding alive free =>
    have hentry : (g.relocate f i path name k).findPath? path = some i := by
      rw [findPath?_relocate _ _ _ (hs.stored i listed), if_pos rfl]
    refine h.relocate hs listed _ (fun j hj hji => ?_) fun j hj hji hjk ha => ?_
    · exact path_ne_of_not_clashes hno hj (Ne.symm hji) free hentry
    · exact hji (h.node hj listed hjk binding ha)

lemma of_rebuilt (h : Unique f g) {all : List RefId} (hall : ∀ i, i ∈ all ↔ i ∈ g.ids)
    (hr : Rebuilt f g all g') : Unique f g' := by
  have hids : g'.ids = g.ids := by simp [ids, hr.categories]
  refine ⟨fun i hi j hj he => ?_, Keyed.of_rebuilt hall hr⟩
  rw [hr.path, hr.path] at he
  rw [hids] at hi hj
  exact h.path i hi j hj he

end Unique

lemma eq_of_findPath?_relocate (hs : Sound f g) {a i j : RefId} {path name : String} {k : Key}
    (ha : a ∈ g.ids) (hj : j ∈ g.ids) (hd : (g.relocate f a path name k).PathsDistinct)
    (hfree : g.findPath? (g.reference j).path = none)
    (hi : (g.relocate f a path name k).findPath? (g.reference j).path = some i) : i = j := by
  have href := reference_relocate (f := f) path name k (hs.stored a ha)
  rw [findPath?_relocate _ _ _ (hs.stored a ha)] at hi
  split at hi
  · next hp =>
    cases hi
    by_cases hja : j = a
    · exact hja.symm
    · exact hd a ha j hj (by rw [href, href, if_pos rfl, if_neg hja, hp])
  · rw [findPath?_unindex, hfree, ite_self] at hi
    cases hi

/-- Where the paths are distinct afterwards, no entry was made at the path of another reference. -/
lemma not_clashes_of_change (hs : Sound f g) (hd : g'.PathsDistinct) (hc : g.Change f g') :
    ¬ g.Clashes g' := by
  rintro ⟨j, hj, hfree, i, hij, hi⟩
  cases hc with
  | same =>
    rw [hfree] at hi
    cases hi
  | @insert r k binding free new =>
    rw [findPath?_insert] at hi
    split at hi
    · next hp =>
      cases hi
      have hself : (g.insert f r).1.reference g.store.length = r := reference_append_self g r
      have hold : (g.insert f r).1.reference j = g.reference j :=
        reference_append g r j (hs.stored j hj)
      exact hij (hd _ ((mem_addMember _).mpr (.inl rfl)) j ((mem_addMember _).mpr (.inr hj))
        (by rw [hself, hold, hp]))
    · rw [hfree] at hi
      cases hi
  | drop known =>
    rw [findPath?_drop, hfree, ite_self] at hi
    cases hi
  | unindex listed lost =>
    rw [findPath?_unindex, hfree, ite_self] at hi
    cases hi
  | repair listed lost new free => exact hij (eq_of_findPath?_relocate hs listed hj hd hfree hi)
  | refresh listed binding alive free =>
    exact hij (eq_of_findPath?_relocate hs listed hj hd hfree hi)

lemma not_clashes_of_rebuilt (hd : g.PathsDistinct) {all : List RefId}
    (hall : ∀ i, i ∈ all ↔ i ∈ g.ids) (hr : Rebuilt f g all g') : ¬ g.Clashes g' := by
  rintro ⟨j, hj, -, i, hij, hi⟩
  obtain ⟨hpath, hi⟩ := hr.entry _ i hi
  rw [hr.path] at hpath
  exact hij (hd i ((hall i).mp hi) j hj hpath)

/-- No two listed references have the same path, and no two that are bound have the same node. -/
structure Distinct (f : Forest) (g : Registry) : Prop where
  paths : (g.references.map (·.path)).Nodup
  nodes : ((g.references.filter (·.isBound f)).map (·.binding)).Nodup

instance (f : Forest) (g : Registry) : Decidable (g.Distinct f) :=
  decidable_of_iff ((g.references.map (·.path)).Nodup ∧
      ((g.references.filter (·.isBound f)).map (·.binding)).Nodup)
    ⟨fun h => ⟨h.1, h.2⟩, fun h => ⟨h.1, h.2⟩⟩

lemma pathsDistinct_iff (hn : g.ids.Nodup) :
    g.PathsDistinct ↔ (g.references.map (·.path)).Nodup := by
  rw [references, List.map_map, List.nodup_map_iff_inj_on hn]
  rfl

lemma distinct_of_unique (hn : g.ids.Nodup) (h : Unique f g) : g.Distinct f := by
  refine ⟨(pathsDistinct_iff hn).mp h.path, ?_⟩
  rw [references, List.filter_map, List.map_map]
  refine (hn.filter _).map_on fun i hi j hj he => ?_
  rw [List.mem_filter] at hi hj
  obtain ⟨k, hk, ha⟩ := Reference.isBound_iff.mp hi.2
  exact h.node hi.1 hj.1 hk (he.symm.trans hk) ha

end Registry

namespace Workspace

open Registry

variable {v w : Workspace}

/-- Between two states, an entry is made at the path of another listed reference. -/
def Clashes (w v : Workspace) : Prop := w.registry.Clashes v.registry

def Distinct (w : Workspace) : Prop := w.registry.Distinct w.forest

instance (w : Workspace) : Decidable w.Distinct :=
  inferInstanceAs (Decidable (w.registry.Distinct w.forest))

lemma unique_move (hs : Sound w.forest w.registry) (h : Unique w.forest w.registry)
    (hm : Move w v) (hno : ¬ w.Clashes v) : Unique v.forest v.registry := by
  cases hm with
  | change u quiet change forest =>
    have hsu : Sound u.forest u.registry := sound_quiet hs quiet
    have hu : Unique u.forest u.registry :=
      (h.mono quiet.forest).of_lists quiet.store quiet.categories quiet.byKey
    have hno' : ¬ u.registry.Clashes v.registry :=
      fun hc => hno (clashes_of_lists quiet.store quiet.categories quiet.byPath hc)
    exact (hu.change hsu change hno').mono forest
  | rebind s eq =>
    obtain ⟨hf, all, hall, hr⟩ := rebuilt_bindScene s hs.nodup hs.stored
    rw [eq, hf]
    exact h.of_rebuilt hall hr

lemma not_clashes_of_move (hs : Sound w.forest w.registry) (hw : w.registry.PathsDistinct)
    (hv : v.registry.PathsDistinct) (hm : Move w v) : ¬ w.Clashes v := by
  cases hm with
  | change u quiet change forest =>
    have hsu : Sound u.forest u.registry := sound_quiet hs quiet
    intro hc
    refine not_clashes_of_change hsu hv change ?_
    exact clashes_of_lists quiet.store.symm quiet.categories.symm quiet.byPath.symm hc
  | rebind s eq =>
    obtain ⟨-, all, hall, hr⟩ := rebuilt_bindScene s hs.nodup hs.stored
    rw [Clashes, eq]
    exact not_clashes_of_rebuilt hw hall hr

/-- From a state without duplicates a run passes only through such states exactly if no entry is
made at the path of a reference that is listed but not found. -/
theorem distinct_passed_iff (hs : Sound w.forest w.registry) (h : Unique w.forest w.registry)
    (as : List Action) :
    (∀ v ∈ w.passed as, v.Distinct) ↔ (w.passed as).IsChain fun v v' => ¬ v.Clashes v' := by
  have hmoves := isChain_passed hs as
  have hsound := sound_passed hs as
  constructor
  · intro hd
    have hpaths : ∀ v ∈ w.passed as, v.registry.PathsDistinct :=
      fun v hv => (pathsDistinct_iff (hsound v hv).nodup).mpr (hd v hv).paths
    exact hmoves.imp_of_mem_imp fun v v' hv hv' hm =>
      not_clashes_of_move (hsound v hv) (hpaths v hv) (hpaths v' hv') hm
  · intro hno
    have hboth : (w.passed as).IsChain fun v v' => Move v v' ∧ ¬ v.Clashes v' :=
      List.isChain_iff_getElem.mpr fun i hi => ⟨hmoves.getElem i hi, hno.getElem i hi⟩
    have hkept : ∀ v ∈ w.passed as,
        Sound v.forest v.registry ∧ Unique v.forest v.registry := by
      refine forall_of_isChain (P := fun v =>
        Sound v.forest v.registry ∧ Unique v.forest v.registry) ?_ ⟨hs, h⟩ hboth
      exact fun hu hm => ⟨sound_move hu.1 hm.1, unique_move hu.1 hu.2 hm.1 hm.2⟩
    exact fun v hv => distinct_of_unique (hkept v hv).1.nodup (hkept v hv).2

lemma unique_of_no_ids {f : Forest} {g : Registry} (h : g.ids = []) : Unique f g where
  path := fun i hi => by simp [h] at hi
  key := fun i hi => by simp [h] at hi

/-- A registry without references, for a scene or for none. -/
def emptyOrigin : Option SceneId → Origin
  | none => .blank
  | some s => .scene s

/-- **Canonical uniqueness**: a run that starts without references passes only through states
without duplicates exactly if no entry is made at the path of a reference that is listed but not
found. -/
theorem distinct_from_empty_iff (f : Forest) (s : Option SceneId) (namer : Option Standardizer)
    (as : List Action) :
    (∀ w ∈ (start f (emptyOrigin s) namer).passed as, w.Distinct) ↔
      ((start f (emptyOrigin s) namer).passed as).IsChain fun w v => ¬ w.Clashes v := by
  have hids : (start f (emptyOrigin s) namer).registry.ids = [] := by cases s <;> rfl
  exact distinct_passed_iff (sound_start f _ namer) (unique_of_no_ids hids) as

/-- A button is registered, renamed while the registry is bound anew, renamed back and registered
again. -/
def readding : List Action :=
  [.edit (.create "Play" [Component.new .button] true), .edit (.addRoot 0 1),
    .add (some 1) .standard none, .edit (.rename 1 "Start"), .bindScene 0,
    .edit (.rename 1 "Play"), .add (some 1) .standard none]

/-- Then the lost reference is removed, and the button is registered once more under a new name. -/
def thenRenaming : List Action :=
  [.removeMissing, .edit (.rename 1 "Start"), .add (some 1) .standard none]

/-- Two references come to have one path, and then two bound references one node. -/
theorem not_distinct_of_readding :
    let w := start (Forest.empty.edit (.addScene "Main")) (.scene 0) none
    ((w.run readding).registry.references.map fun r => (r.path, r.binding)) =
        [("Play", .released 1), ("Play", .bound 1)] ∧
      ((w.run (readding ++ thenRenaming)).registry.references.map fun r => (r.path, r.binding)) =
        [("Play", .bound 1), ("Start", .bound 1)] := by
  decide +kernel

end Workspace

end SceneBindings
