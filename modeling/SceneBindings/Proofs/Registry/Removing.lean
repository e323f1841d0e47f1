import SceneBindings.Proofs.Registry.KeyIndex
import SceneBindings.Proofs.Registry.Panels

/-!
Removing an element. Both indices lose its entries and nothing else. The category that the reference is
taken out of is looked up by the name of its role; a document may list the reference elsewhere, and then
it stays in the lists.
-/

namespace SceneBindings

open Forest

namespace Registry

variable {f : Forest} {g g' : Registry} {i j : RefId} {k l : Key} {p : String}

/-! ### Both indices -/

/-- The indices point at each other: every path leads to a reference with a node, and the key of a node
has a path exactly if that path leads to the node. -/
structure Paired (g : Registry) : Prop where
  entered : ∀ p i, g.findPath? p = some i → ∃ k, (g.reference i).binding = .bound k
  keys : ∀ p k, g.byKey.get? k = some p ↔ g.Leads p k

namespace Paired

lemma of_lists (h : g.Paired) (hs : g'.store = g.store) (hp : g'.byPath = g.byPath)
    (hk : g'.byKey = g.byKey) : g'.Paired := by
  obtain ⟨hentered, hkeys⟩ := h
  constructor
  · simpa [findPath?, reference, hs, hp] using hentered
  · simpa [Leads, findPath?, reference, hs, hp, hk] using hkeys

lemma of_empty (hp : g.byPath = .empty) (hk : g.byKey = .empty) : g.Paired := by
  constructor
  · intro p i hi
    rw [findPath?, hp] at hi
    cases hi
  · intro p k
    rw [hk]
    refine iff_of_false (fun hkey => ?_) ?_
    · cases hkey
    · rintro ⟨i, hi, -⟩
      rw [findPath?, hp] at hi
      cases hi

lemma insert (h : g.Paired) (hs : Sound f g) {r : Reference} (hb : r.binding = .bound k)
    (ha : f.IsAlive k) (hfree : g.findPath? r.path = none) (hnew : g.byKey.get? k = none) :
    (g.insert f r).1.Paired := by
  have hself : (g.insert f r).1.reference g.store.length = r := reference_append_self g r
  have hold : ∀ p j, g.findPath? p = some j → (g.insert f r).1.reference j = g.reference j :=
    fun p j hj => reference_append g r j (hs.stored j (hs.entry p j hj).2)
  constructor
  · intro p j hj
    rw [findPath?_insert] at hj
    split at hj
    · cases hj
      exact ⟨k, by rw [hself, hb]⟩
    · rw [hold p j hj]
      exact h.entered p j hj
  · intro p l
    rw [byKey_insert hb]
    by_cases hlk : l = k
    · subst hlk
      rw [if_pos ⟨rfl, ha⟩]
      constructor
      · intro hp
        cases hp
        exact ⟨_, by rw [findPath?_insert, if_pos rfl], by rw [hself, hb]⟩
      · rintro ⟨j, hj, hjl⟩
        rw [findPath?_insert] at hj
        split at hj
        · next hp => rw [hp]
        · rw [hold p j hj] at hjl
          rw [(h.keys p l).mpr ⟨j, hj, hjl⟩] at hnew
          cases hnew
    · rw [if_neg fun hl => hlk hl.1, h.keys]
      exact ⟨leads_insert hs hfree, leads_of_insert hs hb hlk⟩

/-- The reference at a path can be dropped: both of its entries go. -/
lemma drop (h : g.Paired) (hs : Sound f g) (hp : g.findPath? p = some i) :
    (g.drop f i).1.Paired := by
  obtain ⟨k, hk⟩ := h.entered p i hp
  obtain ⟨rfl, -⟩ := hs.entry p i hp
  have hkey := (h.keys _ k).mpr ⟨i, hp, hk⟩
  constructor
  · intro q j hj
    rw [findPath?_drop] at hj
    split at hj
    · cases hj
    · next hne =>
      have hji : j ≠ i := by
        rintro rfl
        exact hne ⟨(hs.entry q j hj).1.symm, hj⟩
      rw [reference_drop, if_neg hji]
      exact h.entered q j hj
  · intro q l
    have hlast : (g.reference i).binding.lastKey? = some k := by rw [hk]; rfl
    rw [byKey_drop]
    by_cases hlk : l = k
    · subst hlk
      rw [if_pos ⟨hlast, hkey⟩]
      refine iff_of_false nofun fun hleads => ?_
      cases hkey.symm.trans ((h.keys q l).mpr (leads_of_drop hleads))
      obtain ⟨j, hj, -⟩ := hleads
      rw [findPath?_drop, if_pos ⟨rfl, hp⟩] at hj
      cases hj
    · rw [if_neg fun hl => hlk (Option.some.inj (hl.1.symm.trans hlast)), h.keys]
      refine ⟨leads_drop hs fun hl => hlk ?_, leads_of_drop⟩
      exact Binding.bound.inj (hl.1.symm.trans hk)

lemma relocate (h : g.Paired) (hs : Sound f g) (hi : i ∈ g.ids)
    (hb : (g.reference i).binding = .bound k) (ha : f.IsAlive k) {path : String} (name : String)
    (hfree : (g.unindex i).findPath? path = none) : (g.relocate f i path name k).Paired := by
  have hr := hs.stored i hi
  have hp := hs.bound i hi (Reference.isBound_iff.mpr ⟨k, hb, ha⟩)
  have hkey := (h.keys _ k).mpr ⟨i, hp, hb⟩
  constructor
  · intro q j hj
    rw [findPath?_relocate _ _ _ hr] at hj
    split at hj
    · cases hj
      exact ⟨k, by rw [reference_relocate _ _ _ hr, if_pos rfl]⟩
    · obtain ⟨hj, hji⟩ := hs.ne_of_findPath?_unindex hj
      rw [reference_relocate _ _ _ hr, if_neg hji]
      exact h.entered q j hj
  · intro q l
    rw [byKey_relocate _ _ _ hr]
    by_cases hlk : l = k
    · subst hlk
      rw [if_pos ⟨rfl, ha⟩]
      constructor
      · intro hq
        cases hq
        exact leads_relocate_self hr
      · rintro ⟨j, hj, hjl⟩
        rw [findPath?_relocate _ _ _ hr] at hj
        split at hj
        · next hq => rw [hq]
        · obtain ⟨hj, hji⟩ := hs.ne_of_findPath?_unindex hj
          rw [reference_relocate _ _ _ hr, if_neg hji] at hjl
          cases hkey.symm.trans ((h.keys q l).mpr ⟨j, hj, hjl⟩)
          exact absurd (Option.some.inj (hj.symm.trans hp)) hji
    · rw [if_neg fun hl => hlk hl.1, h.keys]
      refine ⟨leads_relocate hr hfree fun hl => hlk ?_, leads_of_relocate hs hr hlk⟩
      exact Binding.bound.inj (hl.symm.trans hb)

lemma of_rebuilt {all : List RefId} (hr : Rebuilt f g all g') : g'.Paired := by
  refine ⟨hr.entered, fun p k => ⟨fun hk => (leads_of_rebuilt hr hk).1, ?_⟩⟩
  rintro ⟨i, hp, hb⟩
  obtain ⟨rfl, hi⟩ := hr.entry p i hp
  exact (hr.bound i hi k hb).2.2

end Paired

/-! ### The lists -/

/-- The categories without a reference. -/
def unlisted (i : RefId) (cs : List Category) : List Category :=
  cs.map fun c => { c with members := c.members.filter (· != i) }

lemma unlisted_of_not_mem {cs : List Category} (hi : i ∉ cs.flatMap (·.members)) :
    unlisted i cs = cs := by
  induction cs with
  | nil => rfl
  | cons c cs ih =>
    rw [List.flatMap_cons, List.mem_append, not_or] at hi
    have hc : c.members.filter (· != i) = c.members := by
      refine List.filter_eq_self.mpr fun j hj => ?_
      simp only [bne_iff_ne]
      rintro rfl
      exact hi.1 hj
    rw [unlisted, List.map_cons, hc]
    exact congrArg (c :: ·) (ih hi.2)

lemma members_unlisted (i : RefId) (cs : List Category) :
    (unlisted i cs).flatMap (·.members) = (cs.flatMap (·.members)).filter (· != i) := by
  induction cs with
  | nil => rfl
  | cons c cs ih =>
    rw [List.flatMap_cons, List.filter_append, ← ih]
    rfl

/-- The first category of the name has the reference among its members. -/
def ListedUnder (i : RefId) (name : String) (cs : List Category) : Prop :=
  ∃ c, cs.find? (fun c => c.name == name) = some c ∧ i ∈ c.members

/-- A reference that stands in the first category of a name is taken out of the lists. -/
lemma removeMember_of_listedUnder {name : String} {cs : List Category}
    (hn : (cs.flatMap (·.members)).Nodup) (h : ListedUnder i name cs) :
    removeMember i name cs = unlisted i cs := by
  obtain ⟨d, hd, hi⟩ := h
  induction cs with
  | nil => cases hd
  | cons c cs ih =>
    rw [List.flatMap_cons, List.nodup_append] at hn
    obtain ⟨-, hcs, hne⟩ := hn
    rw [removeMember]
    by_cases hname : c.name = name
    · rw [List.find?_cons_of_pos (by simpa using hname)] at hd
      obtain rfl := Option.some.inj hd
      have hrest : i ∉ cs.flatMap (·.members) := fun hmem => hne i hi i hmem rfl
      rw [if_pos hname]
      exact congrArg (_ :: ·) (unlisted_of_not_mem hrest).symm
    · rw [List.find?_cons_of_neg (by simpa using hname)] at hd
      have hmem : i ∈ cs.flatMap (·.members) := List.mem_flatMap.mpr ⟨d, List.mem_of_find?_eq_some hd, hi⟩
      have hc : c.members.filter (· != i) = c.members := by
        refine List.filter_eq_self.mpr fun j hj => ?_
        simp only [bne_iff_ne]
        exact hne j hj i hmem
      rw [if_neg hname, ih hcs hd, unlisted, unlisted, List.map_cons, hc]

/-- Any other reference stays in the lists. -/
lemma removeMember_of_not_listedUnder {name : String} {cs : List Category}
    (h : ¬ ListedUnder i name cs) : removeMember i name cs = cs := by
  induction cs with
  | nil => rfl
  | cons c cs ih =>
    rw [removeMember]
    by_cases hname : c.name = name
    · have hi : i ∉ c.members := fun hi =>
        h ⟨c, List.find?_cons_of_pos (by simpa using hname), hi⟩
      have hc : c.members.filter (· != i) = c.members := by
        refine List.filter_eq_self.mpr fun j hj => ?_
        simp only [bne_iff_ne]
        rintro rfl
        exact hi hj
      rw [if_pos hname, hc]
    · rw [if_neg hname, ih]
      rintro ⟨d, hd, hi⟩
      exact h ⟨d, (List.find?_cons_of_neg (by simpa using hname)).trans hd, hi⟩

end Registry

namespace Workspace

open Registry

variable {v w : Workspace} {i j : RefId} {k : Key} {key : ElementKey}

/-! ### Runs -/

/-- Whether an action works on missing references. -/
def Action.Mends : Action → Prop
  | .repair _ | .removeMissing => True
  | _ => False

lemma paired_quiet (h : w.registry.Paired) (hq : w.Quiet v) : v.registry.Paired :=
  h.of_lists hq.store hq.byPath hq.byKey

lemma paired_add (hs : Sound w.forest w.registry) (h : w.registry.Paired) (k : Option Key)
    (probe : Probe) (standardize : Option Bool) :
    (w.add k probe standardize).1.registry.Paired := by
  cases Admits.add w k probe standardize with
  | quiet hq => exact paired_quiet h hq
  | entered quiet binding alive free new checked eq =>
    rw [eq]
    exact (paired_quiet h quiet).insert (sound_quiet hs quiet) binding alive free new

lemma paired_remove (hs : Sound w.forest w.registry) (h : w.registry.Paired) (key : ElementKey) :
    (w.remove key).1.registry.Paired := by
  obtain ⟨i, p, hp, heq⟩ | ⟨d, heq⟩ := remove_cases w key
  · rw [heq]
    exact h.drop hs hp
  · rw [heq]
    exact h

lemma paired_refreshOne (hs : Sound w.forest w.registry) (h : w.registry.Paired)
    (hi : i ∈ w.registry.ids) : (w.refreshOne i).1.registry.Paired := by
  have hindexed := hs.bound i hi
  have hcases := refreshes_refreshOne w i
  generalize w.refreshOne i = r at hcases ⊢
  cases hcases with
  | unbound => exact h
  | kept => exact paired_quiet h (.pathOf w _)
  | refused => exact paired_quiet h ((Quiet.pathOf w _).trans (.report _ _))
  | @moved k binding alive other free =>
    have hentry := hindexed (Reference.isBound_iff.mpr ⟨k, binding, alive⟩)
    have hmoved := Registry.index_modify_erase_eq_relocate (f := w.forest)
      (g := (w.pathOf k).1.registry) (w.pathOf k).2 (w.name k) hentry binding
    have hu := sound_quiet hs (.pathOf w k)
    refine hmoved ▸ (paired_quiet h (.pathOf w k)).relocate hu hi binding alive _ ?_
    rw [findPath?_unindex]
    exact ite_eq_left_iff.mpr fun _ => free

/-- Every step but those on missing references keeps the indices paired. -/
lemma paired_stage {a : Action} (hs : Sound w.forest w.registry) (h : w.registry.Paired)
    (ha : ¬ a.Mends) (hstage : Stage w a v) : v.registry.Paired := by
  cases hstage with
  | edit e => exact paired_quiet h (.edit w e)
  | add k probe standardize => exact paired_add hs h k probe standardize
  | addEach k probe ks => exact paired_add hs h k probe none
  | remove key => exact paired_remove hs h key
  | bindScene s =>
    obtain ⟨-, all, -, hr⟩ := rebuilt_bindScene s hs.nodup hs.stored
    exact .of_rebuilt hr
  | repairEach s gone => exact absurd trivial ha
  | dropEach listed => exact absurd trivial ha
  | refreshEach listed => exact paired_refreshOne hs h listed
  | setPanelActive key isActive others keepLast =>
    exact paired_quiet h (.setPanelActive w key isActive others keepLast)
  | togglePanel key => exact paired_quiet h (.togglePanel w key)
  | isPanelVisible key => exact paired_quiet h (.isPanelVisible w key)
  | activate k exclusive keepLast => exact paired_quiet h (.activate w k exclusive keepLast)
  | deactivate k => exact paired_quiet h (.deactivate w k)

lemma paired_passed (f : Forest) (o : Origin) (namer : Option Standardizer) {as : List Action}
    (has : ∀ a ∈ as, ¬ a.Mends) :
    ∀ v ∈ (start f o namer).passed as, Sound v.forest v.registry ∧ v.registry.Paired := by
  have hfresh := fresh_origin o f
  refine forall_of_isChain (P := fun v => Sound v.forest v.registry ∧ v.registry.Paired)
    (fun {u v} hu hstage => ⟨sound_stageOf hu.1 hstage, ?_⟩)
    ⟨sound_start f o namer, .of_empty hfresh.byPath hfresh.byKey⟩
    (isChain_stageOf (sound_start f o namer) as)
  obtain ⟨a, ha, hstage⟩ := hstage
  exact paired_stage hu.1 hu.2 (has a ha) hstage

/-! ### What a removal does -/

/-- The entries of a reference and of its node are gone from both indices; all other references and
entries are as they were. -/
structure Unindexes (w v : Workspace) (i : RefId) (k : Key) : Prop where
  path : v.registry.hasPath (w.registry.reference i).path = false
  key : v.registry.hasKey k = false
  others : ∀ j, j ≠ i → v.registry.reference j = w.registry.reference j
  paths : ∀ p j, j ≠ i → (v.registry.findPath? p = some j ↔ w.registry.findPath? p = some j)
  keys : ∀ l, l ≠ k → v.registry.byKey.get? l = w.registry.byKey.get? l

/-- Just one reference has left the lists. -/
structure Unlists (w v : Workspace) (i : RefId) : Prop where
  categories : v.registry.categories = unlisted i w.registry.categories
  size : v.registry.size + 1 = w.registry.size

lemma unindexes_drop (hs : Sound w.forest w.registry) (h : w.registry.Paired) {p : String}
    (hp : w.registry.findPath? p = some i) (hk : (w.registry.reference i).binding = .bound k) :
    Unindexes w (w.drop i) i k := by
  obtain ⟨rfl, -⟩ := hs.entry p i hp
  have hkey := (h.keys _ k).mpr ⟨i, hp, hk⟩
  have hlast : (w.registry.reference i).binding.lastKey? = some k := by rw [hk]; rfl
  refine ⟨?_, ?_, fun j hj => ?_, fun q j hj => ?_, fun l hl => ?_⟩
  · rw [hasPath_eq_false]
    exact (findPath?_drop _ _ i _).trans (if_pos ⟨rfl, hp⟩)
  · rw [hasKey_eq_false]
    exact (byKey_drop _ _ i k).trans (if_pos ⟨hlast, hkey⟩)
  · exact (reference_drop _ _ i j).trans (if_neg hj)
  · refine (Eq.congr_left (findPath?_drop w.registry w.forest i q)).trans ?_
    split
    · next hq => exact iff_of_false nofun fun hqj => hj (Option.some.inj (hqj.symm.trans hq.2))
    · exact .rfl
  · exact (byKey_drop _ _ i l).trans (if_neg fun h => hl (Option.some.inj (h.1.symm.trans hlast)))

/-- A dropped reference leaves the lists exactly if it stands in the first category that has the name of
its role. -/
lemma unlists_drop_iff (hs : Sound w.forest w.registry) (hi : i ∈ w.registry.ids) :
    Unlists w (w.drop i) i ↔
      ListedUnder i (w.registry.reference i).capability.label w.registry.categories := by
  have hcategories : (w.drop i).registry.categories =
      removeMember i (w.registry.reference i).capability.label w.registry.categories := by
    obtain ⟨active, last, hdrop⟩ := drop_eq w.registry w.forest i
    exact congrArg Registry.categories hdrop
  have hlength : (w.registry.ids.filter (· != i)).length + 1 = w.registry.size := by
    have herase := hs.nodup.erase_eq_filter i
    rw [← herase, List.length_erase_of_mem hi, size]
    exact Nat.succ_pred_eq_of_pos (List.length_pos_of_mem hi)
  constructor
  · intro h
    by_contra hno
    have hsame := hcategories.trans (removeMember_of_not_listedUnder hno)
    have hsize : (w.drop i).registry.size = w.registry.size := by
      rw [size, ids, hsame, size, ids]
    exact absurd h.size (by omega)
  · intro h
    have hgone := hcategories.trans (removeMember_of_listedUnder hs.nodup h)
    refine ⟨hgone, ?_⟩
    rw [← hlength, size, ids, hgone, members_unlisted]
    rfl

/-- **Removing an element.** In a run that does not work on missing references, a removal that fails only
says so. One that succeeds takes the entries of the reference that the key leads to, and of its node, out
of the indices and nothing else; the reference leaves the lists exactly if it stands in the first category
that has the name of its role. -/
theorem remove_exact_iff (f : Forest) (o : Origin) (namer : Option Standardizer) {as : List Action}
    (has : ∀ a ∈ as, ¬ a.Mends) (key : ElementKey) :
    let w := (start f o namer).run as
    ((w.remove key).2 = false → ∃ d, (w.remove key).1 = w.report d) ∧
      ((w.remove key).2 = true → ∃ i ∈ w.registry.ids, w.Resolves key i ∧
        ∃ k, (w.registry.reference i).binding = .bound k ∧ Unindexes w (w.remove key).1 i k ∧
          (Unlists w (w.remove key).1 i ↔
            ListedUnder i (w.registry.reference i).capability.label w.registry.categories)) := by
  intro w
  obtain ⟨hs, hpaired⟩ := paired_passed f o namer has w (run_mem_passed _ as)
  obtain ⟨i, hi, heq⟩ | ⟨d, heq⟩ := remove_eq w key
  · rw [heq]
    refine ⟨nofun, fun _ => ?_⟩
    obtain ⟨p, hp⟩ := hi.found
    obtain ⟨k, hk⟩ := hpaired.entered p i hp
    have hlisted := (hs.entry p i hp).2
    exact ⟨i, hlisted, hi, k, hk, unindexes_drop hs hpaired hp hk, unlists_drop_iff hs hlisted⟩
  · rw [heq]
    exact ⟨fun _ => ⟨d, rfl⟩, nofun⟩

/-- The button Play, listed under a category of the given name. -/
def playUnder (category : String) : RegistryDocument :=
  ⟨"", [⟨category, [⟨"Play", "Play", .button⟩]⟩]⟩

/-- The button is made a root, and the registry is bound. -/
def bindingPlay : List Action :=
  [.edit (.create "Play" [Component.new .button] true), .edit (.addRoot 0 1), .bindScene 0]

/-- A button that is listed with the buttons is removed. -/
theorem remove_exact_of_button :
    let w := (start (Forest.empty.edit (.addScene "Main")) (.document (playUnder "Button")) none).run
      bindingPlay
    (∀ a ∈ bindingPlay, ¬ a.Mends) ∧ (w.remove (.ofKey 1)).2 = true ∧
      Unindexes w (w.remove (.ofKey 1)).1 0 1 ∧ Unlists w (w.remove (.ofKey 1)).1 0 := by
  intro w
  have has : ∀ a ∈ bindingPlay, ¬ a.Mends := by simp [bindingPlay, Action.Mends]
  have hdone : (w.remove (.ofKey 1)).2 = true := by decide +kernel
  obtain ⟨-, hremoved⟩ := remove_exact_iff (Forest.empty.edit (.addScene "Main"))
    (.document (playUnder "Button")) none has (.ofKey 1)
  obtain ⟨i, hi, -, k, hk, hindices, hlists⟩ := hremoved hdone
  have hids : w.registry.ids = [0] := by decide +kernel
  obtain rfl : i = 0 := List.mem_singleton.mp (hids ▸ hi)
  have hbinding : (w.registry.reference 0).binding = .bound 1 := by decide +kernel
  cases hbinding.symm.trans hk
  exact ⟨has, hdone, hindices, hlists.mpr ⟨⟨"Button", [0]⟩, by decide +kernel, List.mem_singleton_self 0⟩⟩

/-- A button that is listed with the panels is said to be removed and stays listed. -/
theorem not_unlists_of_panel :
    let w := (start (Forest.empty.edit (.addScene "Main")) (.document (playUnder "Panel")) none).run
      bindingPlay
    (w.remove (.path "Play")).2 = true ∧ w.registry.ids = [0] ∧
      (w.remove (.path "Play")).1.registry.ids = [0] ∧ ¬ Unlists w (w.remove (.path "Play")).1 0 := by
  intro w
  have hbefore : w.registry.ids = [0] := by decide +kernel
  have hafter : (w.remove (.path "Play")).1.registry.ids = [0] := by decide +kernel
  refine ⟨by decide +kernel, hbefore, hafter, fun h => ?_⟩
  have hsize := h.size
  rw [size, size, hbefore, hafter] at hsize
  cases hsize

end Workspace

end SceneBindings
