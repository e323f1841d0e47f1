import SceneBindings.Proofs.Registry.Rebinding
import SceneBindings.Proofs.Registry.Stages

/-!
The path index is exact in every state of every run: it leads to each reference that is bound, under
the path that the reference has, and to no reference that the lists do not hold.
-/

namespace SceneBindings

open Forest

/-- The lists hold each reference once; the path index holds only listed references, under their
own paths, and among them all that are bound. -/
structure Registry.Sound (f : Forest) (g : Registry) : Prop where
  nodup : g.ids.Nodup
  stored : ∀ i ∈ g.ids, i < g.store.length
  entry : ∀ p i, g.findPath? p = some i → (g.reference i).path = p ∧ i ∈ g.ids
  bound : ∀ i ∈ g.ids, (g.reference i).isBound f = true →
    g.findPath? (g.reference i).path = some i

namespace Registry.Sound

variable {f f' : Forest} {g g' : Registry}

lemma mono (h : Sound f g) (hf : f.NoneRevived f') : Sound f' g where
  nodup := h.nodup
  stored := h.stored
  entry := h.entry
  bound := fun i hi hb => h.bound i hi (Reference.isBound_mono hf hb)

/-- No two references that are bound have one path. -/
lemma eq_of_path (h : Sound f g) {i j : RefId} (hi : i ∈ g.ids) (hj : j ∈ g.ids)
    (hbi : (g.reference i).isBound f = true) (hbj : (g.reference j).isBound f = true)
    (hp : (g.reference i).path = (g.reference j).path) : i = j := by
  have hfound := h.bound i hi hbi
  rw [hp, h.bound j hj hbj] at hfound
  exact (Option.some.inj hfound).symm

lemma of_lists (h : Sound f g) (hs : g'.store = g.store) (hc : g'.categories = g.categories)
    (hp : g'.byPath = g.byPath) : Sound f g' := by
  have hids : g'.ids = g.ids := by simp [ids, hc]
  have href : ∀ i, g'.reference i = g.reference i := fun i => by simp [reference, hs]
  have hfind : ∀ p, g'.findPath? p = g.findPath? p := fun p => by simp [findPath?, hp]
  exact ⟨hids ▸ h.nodup, by rw [hids, hs]; exact h.stored, by simpa [hids, href, hfind] using h.entry,
    by simpa [hids, href, hfind] using h.bound⟩

lemma insert (h : Sound f g) {r : Reference} (hfree : g.findPath? r.path = none) :
    Sound f (g.insert f r).1 := by
  have hmem : ∀ j, j ∈ (g.insert f r).1.ids ↔ j = g.store.length ∨ j ∈ g.ids :=
    fun j => mem_addMember g.categories
  have hnew : g.store.length ∉ g.ids := fun hi => Nat.lt_irrefl _ (h.stored _ hi)
  have hself : (g.insert f r).1.reference g.store.length = r := reference_append_self g r
  have hold : ∀ j ∈ g.ids, (g.insert f r).1.reference j = g.reference j :=
    fun j hj => reference_append g r j (h.stored j hj)
  refine ⟨nodup_addMember _ h.nodup hnew, fun j hj => ?_, fun p j hp => ?_, fun j hj hb => ?_⟩
  · have hlen : (g.insert f r).1.store.length = g.store.length + 1 := by simp [Registry.insert, index]
    rw [hlen]
    rcases (hmem j).mp hj with rfl | hj
    · exact Nat.lt_succ_self _
    · exact Nat.lt_succ_of_lt (h.stored j hj)
  · rw [findPath?_insert] at hp
    split at hp
    · next hpr =>
      cases hp
      exact ⟨by rw [hself, hpr], (hmem _).mpr (.inl rfl)⟩
    · obtain ⟨hpath, hj⟩ := h.entry p j hp
      exact ⟨by rw [hold j hj, hpath], (hmem j).mpr (.inr hj)⟩
  · rcases (hmem j).mp hj with rfl | hj
    · rw [hself, findPath?_insert, if_pos rfl]
    · rw [hold j hj] at hb ⊢
      have hp := h.bound j hj hb
      have hne : (g.reference j).path ≠ r.path := ne_of_found hp hfree
      rw [findPath?_insert, if_neg hne, hp]

lemma drop (h : Sound f g) (i : RefId) : Sound f (g.drop f i).1 := by
  have hsub : (g.drop f i).1.ids.Sublist g.ids := by
    rw [ids_drop]; exact removeMember_sublist i _ _
  have hkeep : ∀ j ∈ g.ids, j ≠ i → j ∈ (g.drop f i).1.ids := by
    intro j hj hji
    rw [ids_drop]
    exact mem_removeMember_of_ne hj hji
  refine ⟨hsub.nodup h.nodup, fun j hj => ?_, fun p j hp => ?_, fun j hj hb => ?_⟩
  · rw [store_drop, List.length_modify]
    exact h.stored j (hsub.subset hj)
  · rw [findPath?_drop] at hp
    split at hp
    · cases hp
    · next hne =>
      obtain ⟨hpath, hj⟩ := h.entry p j hp
      have hji : j ≠ i := by
        rintro rfl
        exact hne ⟨hpath.symm, hp⟩
      exact ⟨by rw [reference_drop, if_neg hji, hpath], hkeep j hj hji⟩
  · rw [reference_drop] at hb ⊢
    split at hb
    · obtain ⟨k, hk, -⟩ := Reference.isBound_iff.mp hb
      exact absurd hk (Binding.release_ne_bound _ k)
    · next hji =>
      have hp := h.bound j (hsub.subset hj) hb
      rw [if_neg hji, findPath?_drop, hp, if_neg]
      rintro ⟨-, he⟩
      cases he
      exact hji rfl

lemma findPath?_unindex_of_ne {i j : RefId} {p : String}
    (hp : g.findPath? p = some j) (hne : j ≠ i) : (g.unindex i).findPath? p = some j := by
  rw [findPath?_unindex, if_neg, hp]
  rintro ⟨-, he⟩
  rw [hp] at he
  cases he
  exact hne rfl

/-- An index without the entry of a reference knows the reference under no path. -/
lemma ne_of_findPath?_unindex (h : Sound f g) {i j : RefId} {p : String}
    (hp : (g.unindex i).findPath? p = some j) : g.findPath? p = some j ∧ j ≠ i := by
  rw [findPath?_unindex] at hp
  split at hp
  · cases hp
  · next hne =>
    refine ⟨hp, ?_⟩
    rintro rfl
    exact hne ⟨(h.entry p j hp).1.symm, hp⟩

lemma unindex (h : Sound f g) {i : RefId} (hlost : (g.reference i).isBound f = false) :
    Sound f (g.unindex i) := by
  refine ⟨h.nodup, h.stored, fun p j hp => ?_, fun j hj hb => ?_⟩
  · exact h.entry p j (h.ne_of_findPath?_unindex hp).1
  · have hb' : (g.reference j).isBound f = true := hb
    have hji : j ≠ i := by
      rintro rfl
      rw [hlost] at hb'
      cases hb'
    exact findPath?_unindex_of_ne (h.bound j hj hb') hji

lemma relocate (h : Sound f g) {i : RefId} (hi : i ∈ g.ids) {path : String}
    (hfree : (g.unindex i).findPath? path = none) (name : String) (k : Key) :
    Sound f (g.relocate f i path name k) := by
  have hr := h.stored i hi
  have href := reference_relocate (f := f) path name k hr
  have hfind := findPath?_relocate (f := f) path name k hr
  refine ⟨h.nodup, ?_, fun p j hp => ?_, fun j hj hb => ?_⟩
  · intro j hj
    have := h.stored j hj
    simpa [Registry.relocate, index, modify, Registry.unindex] using this
  · rw [hfind] at hp
    split at hp
    · next hpp =>
      cases hp
      exact ⟨by rw [href, if_pos rfl, hpp], hi⟩
    · obtain ⟨hp, hji⟩ := h.ne_of_findPath?_unindex hp
      obtain ⟨hpath, hj⟩ := h.entry p j hp
      exact ⟨by rw [href, if_neg hji, hpath], hj⟩
  · rw [href] at hb ⊢
    by_cases hji : j = i
    · subst hji
      rw [if_pos rfl, hfind, if_pos rfl]
    · rw [if_neg hji] at hb ⊢
      have hp := findPath?_unindex_of_ne (h.bound j hj hb) hji
      rw [hfind, if_neg (ne_of_found hp hfree), hp]

lemma change (h : Sound f g) (hc : g.Change f g') : Sound f g' := by
  cases hc with
  | same => exact h
  | insert binding free new => exact h.insert free
  | drop known => exact h.drop _
  | unindex listed lost => exact h.unindex lost
  | repair listed lost new free => exact h.relocate listed free _ _
  | refresh listed binding alive free =>
    refine h.relocate listed ?_ _ _
    rw [findPath?_unindex, free, ite_self]

lemma of_rebuilt (hn : g.ids.Nodup) (hs : ∀ i ∈ g.ids, i < g.store.length) {all : List RefId}
    (hall : ∀ i, i ∈ all ↔ i ∈ g.ids) (hr : Rebuilt f g all g') : Sound f g' := by
  have hids : g'.ids = g.ids := by simp [ids, hr.categories]
  refine ⟨hids ▸ hn, ?_, fun p i hp => ?_, fun i hi hb => ?_⟩
  · rw [hids, hr.length]
    exact hs
  · obtain ⟨hpath, hi⟩ := hr.entry p i hp
    exact ⟨hpath, by rw [hids]; exact (hall i).mp hi⟩
  · obtain ⟨k, hk, -⟩ := Reference.isBound_iff.mp hb
    rw [hids] at hi
    exact (hr.bound i ((hall i).mpr hi) k hk).2.1

lemma of_no_entries (hn : g.ids.Nodup) (hs : ∀ i ∈ g.ids, i < g.store.length)
    (hp : g.byPath = .empty) (hb : ∀ r ∈ g.store, r.binding = .never) : Sound f g := by
  refine ⟨hn, hs, fun p i hi => ?_, fun i hi hib => ?_⟩
  · rw [findPath?, hp] at hi
    cases hi
  · obtain ⟨k, hk, -⟩ := Reference.isBound_iff.mp hib
    have hmem : g.reference i ∈ g.store := by
      simp only [reference, List.getElem?_eq_getElem (hs i hi), Option.getD_some]
      exact List.getElem_mem _
    rw [hb _ hmem] at hk
    cases hk

end Registry.Sound

namespace Registry

/-- The lists of a registry that nothing was bound in. -/
structure Fresh (g : Registry) : Prop where
  nodup : g.ids.Nodup
  stored : ∀ i ∈ g.ids, i < g.store.length
  byPath : g.byPath = .empty
  byKey : g.byKey = .empty
  never : ∀ r ∈ g.store, r.binding = .never

lemma fresh_ofCategory {g : Registry} (h : g.Fresh) (c : StoredCategory) :
    (g.ofCategory c).Fresh := by
  obtain ⟨hn, hs, hp, hk, hb⟩ := h
  have hids : (g.ofCategory c).ids =
      g.ids ++ (List.range c.references.length).map (g.store.length + ·) := by
    simp [ofCategory, ids]
  have hlen : (g.ofCategory c).store.length = g.store.length + c.references.length := by
    simp [ofCategory]
  refine ⟨?_, fun i hi => ?_, hp, hk, fun r hr => ?_⟩
  · rw [hids, List.nodup_append]
    refine ⟨hn, ?_, fun i hi j hj => ?_⟩
    · exact List.nodup_range.map fun m n hmn => Nat.add_left_cancel hmn
    · obtain ⟨m, -, rfl⟩ := List.mem_map.mp hj
      exact Nat.ne_of_lt (Nat.lt_of_lt_of_le (hs i hi) (Nat.le_add_right _ m))
  · rw [hlen]
    rw [hids, List.mem_append] at hi
    rcases hi with hi | hi
    · exact Nat.lt_of_lt_of_le (hs i hi) (Nat.le_add_right _ _)
    · obtain ⟨m, hm, rfl⟩ := List.mem_map.mp hi
      exact Nat.add_lt_add_left (List.mem_range.mp hm) _
  · rcases List.mem_append.mp hr with hr | hr
    · exact hb r hr
    · obtain ⟨s, -, rfl⟩ := List.mem_map.mp hr
      rfl

lemma fresh_origin (o : Origin) (f : Forest) : (o.registry f).Fresh := by
  cases o with
  | blank => exact ⟨List.nodup_nil, nofun, rfl, rfl, nofun⟩
  | scene s => exact ⟨List.nodup_nil, nofun, rfl, rfl, nofun⟩
  | document d =>
    have hfold : ∀ (cs : List StoredCategory) (g : Registry), g.Fresh →
        (cs.foldl ofCategory g).Fresh := by
      intro cs
      induction cs with
      | nil => exact fun _ h => h
      | cons c cs ih => exact fun g h => ih _ (fresh_ofCategory h c)
    exact hfold d.categories _
      ⟨List.nodup_nil, nofun, rfl, rfl, nofun⟩

end Registry

namespace Workspace

open Registry

variable {v w : Workspace}

lemma sound_start (f : Forest) (o : Origin) (namer : Option Standardizer) :
    Sound (start f o namer).forest (start f o namer).registry :=
  have h := fresh_origin o f
  .of_no_entries h.nodup h.stored h.byPath h.never

lemma sound_quiet (h : Sound w.forest w.registry) (hq : w.Quiet v) : Sound v.forest v.registry :=
  (h.mono hq.forest).of_lists hq.store hq.categories hq.byPath

lemma sound_move (h : Sound w.forest w.registry) (hm : Move w v) : Sound v.forest v.registry := by
  cases hm with
  | change u quiet change forest => exact ((sound_quiet h quiet).change change).mono forest
  | rebind s eq =>
    obtain ⟨hf, all, hall, hr⟩ := rebuilt_bindScene s h.nodup h.stored
    rw [eq, hf]
    exact .of_rebuilt h.nodup h.stored hall hr

lemma Move.noneRevived (hs : Sound w.forest w.registry) (hm : Move w v) :
    w.forest.NoneRevived v.forest := by
  cases hm with
  | change u quiet change forest => exact quiet.forest.trans forest
  | rebind s eq =>
    rw [eq, (rebuilt_bindScene s hs.nodup hs.stored).1]
    exact .refl _

/-! ### Each state that is passed comes by a move -/

lemma Stage.move {a : Action} (hs : Sound w.forest w.registry) (h : Stage w a v) : Move w v := by
  cases h with
  | edit e => exact (Quiet.edit w e).move
  | add k probe standardize => exact Move.add w k probe standardize
  | addEach k probe ks => exact Move.add w k probe none
  | remove key => exact Move.remove w key
  | bindScene s => exact .rebind s rfl
  | repairEach s gone =>
    obtain ⟨hi, hlost⟩ := mem_missing.mp gone
    exact Move.repairOne hi hlost s
  | dropEach listed => exact Move.drop (.inl listed)
  | refreshEach listed => exact Move.refreshOne listed (hs.bound _ listed)
  | setPanelActive key isActive others keepLast =>
    exact (Quiet.setPanelActive w key isActive others keepLast).move
  | togglePanel key => exact (Quiet.togglePanel w key).move
  | isPanelVisible key => exact (Quiet.isPanelVisible w key).move
  | activate k exclusive keepLast => exact (Quiet.activate w k exclusive keepLast).move
  | deactivate k => exact (Quiet.deactivate w k).move

/-- A step of one of the actions. -/
def StageOf (as : List Action) (w v : Workspace) : Prop := ∃ a ∈ as, Stage w a v

lemma sound_stageOf {as : List Action} (hs : Sound w.forest w.registry) (h : StageOf as w v) :
    Sound v.forest v.registry := by
  obtain ⟨a, -, hstage⟩ := h
  exact sound_move hs (hstage.move hs)

lemma noneRevived_stageOf {as : List Action} (hs : Sound w.forest w.registry)
    (h : StageOf as w v) : w.forest.NoneRevived v.forest := by
  obtain ⟨a, -, hstage⟩ := h
  exact (hstage.move hs).noneRevived hs

/-- A run is a chain of steps. -/
theorem isChain_stageOf (hs : Sound w.forest w.registry) (as : List Action) :
    (w.passed as).IsChain (StageOf as) := by
  induction as generalizing w with
  | nil => exact .singleton w
  | cons a as ih =>
    have hfirst : (w :: w.stages a).IsChain (StageOf (a :: as)) :=
      (isChain_stages hs.nodup a).imp fun u v h => ⟨a, List.mem_cons_self, h⟩
    have hact : Sound (w.act a).forest (w.act a).registry := by
      refine forall_of_isChain (P := fun v => Sound v.forest v.registry) sound_stageOf hs hfirst _ ?_
      rw [← getLastD_stages]
      exact List.getLastD_mem_cons
    refine isChain_append_of_last hfirst ?_
    rw [getLastD_stages]
    refine (ih hact).imp fun u v => ?_
    rintro ⟨b, hb, hstage⟩
    exact ⟨b, List.mem_cons_of_mem a hb, hstage⟩

theorem sound_passed (hs : Sound w.forest w.registry) (as : List Action) :
    ∀ v ∈ w.passed as, Sound v.forest v.registry :=
  forall_of_isChain (P := fun v => Sound v.forest v.registry) sound_stageOf hs (isChain_stageOf hs as)

/-- A run is a chain of moves. -/
theorem isChain_passed (hs : Sound w.forest w.registry) (as : List Action) :
    (w.passed as).IsChain Move := by
  refine (isChain_stageOf hs as).imp_of_mem_imp fun u v hu _ => ?_
  rintro ⟨a, -, hstage⟩
  exact hstage.move (sound_passed hs as u hu)

/-! ### Exactness -/

/-- The path index leads to every reference that is listed and bound, and to its node; and each of
its entries is the path of a listed reference. -/
structure PathExact (w : Workspace) : Prop where
  listed : ∀ c ∈ w.registry.categories, ∀ i ∈ c.members, ∀ k,
    (w.registry.reference i).binding = .bound k → w.forest.IsAlive k →
      w.registry.findPath? (w.registry.reference i).path = some i ∧
        w.registry.lookup w.forest none (w.registry.reference i).path = .ok k
  entry : ∀ p i, w.registry.findPath? p = some i →
    (w.registry.reference i).path = p ∧ ∃ c ∈ w.registry.categories, i ∈ c.members

lemma lookup_of_bound {f : Forest} {g : Registry} {i : RefId} {k : Key} {p : String}
    (hp : g.findPath? p = some i) (hb : (g.reference i).binding = .bound k) (ha : f.IsAlive k) :
    g.lookup f none p = .ok k := by
  have hbound : (g.reference i).isBound f = true := Reference.isBound_iff.mpr ⟨k, hb, ha⟩
  simp [lookup, hp, hb, hbound, Binding.node?]

lemma pathExact_of_sound (hs : Sound w.forest w.registry) : w.PathExact where
  listed c hc i hi k hb ha := by
    have hbound := Reference.isBound_iff.mpr ⟨k, hb, ha⟩
    have hp := hs.bound i (List.mem_flatMap.mpr ⟨c, hc, hi⟩) hbound
    exact ⟨hp, lookup_of_bound hp hb ha⟩
  entry p i hp := (hs.entry p i hp).imp id List.mem_flatMap.mp

/-- **The path index is exact in every state that a run reaches.** -/
theorem pathExact_run (f : Forest) (o : Origin) (namer : Option Standardizer)
    (as : List Action) : ((start f o namer).run as).PathExact :=
  pathExact_of_sound (sound_passed (sound_start f o namer) as _ (run_mem_passed _ as))

/-! ### Registries in use -/

/-- The states of a registry in use. It is new or read from a document; then it works, and beside it the
scene changes, standardizers come and go and remembered paths are cleared. A registry that was disposed
of is in use again as soon as it is bound to a scene. -/
inductive InUse : Workspace → Prop where
  | start (f : Forest) (o : Origin) (namer : Option Standardizer) : InUse (start f o namer)
  | act {w : Workspace} (before : InUse w) (a : Action) : InUse (w.act a)
  | quiet {w v : Workspace} (before : InUse w) (quiet : w.Quiet v) : InUse v
  | rebind {w v : Workspace} (before : InUse w)
      (disposed : Quiet { w with registry := w.registry.dispose w.forest } v) (s : SceneId) :
      InUse (v.bindScene s).1

lemma InUse.run (h : w.InUse) (as : List Action) : (w.run as).InUse := by
  induction as generalizing w with
  | nil => exact h
  | cons a as ih => exact ih (h.act a)

lemma InUse.sound (h : w.InUse) : Sound w.forest w.registry := by
  induction h with
  | start f o namer => exact sound_start f o namer
  | @act w before a ih => exact sound_passed ih [a] _ (run_mem_passed w [a])
  | quiet before quiet ih => exact sound_quiet ih quiet
  | @rebind w v before disposed s ih =>
    have hids : v.registry.ids = w.registry.ids := by
      rw [ids, disposed.categories]
      rfl
    have hstore : v.registry.store = w.registry.store := disposed.store
    have hn : v.registry.ids.Nodup := hids ▸ ih.nodup
    have hr : ∀ i ∈ v.registry.ids, i < v.registry.store.length := by
      rw [hids, hstore]
      exact ih.stored
    obtain ⟨hf, all, hall, hrebuilt⟩ := rebuilt_bindScene s hn hr
    rw [hf]
    exact .of_rebuilt hn hr hall hrebuilt

end Workspace

end SceneBindings
