import SceneBindings.Proofs.Register.SecondRun

/-!
Registering nodes that are not to be renamed. References only get more, and they do get more unless
all nodes are passed over. An element whose path leads nowhere is not passed over.
-/

namespace SceneBindings

open Forest

namespace Workspace

open Registry

variable {u v w : Workspace} {s : SceneId} {j k : Key} {ks : List Key}

/-! ### Steady nodes -/

/-- Nothing was renamed and no reference was lost. -/
structure Adds (s : SceneId) (w v : Workspace) : Prop where
  forest : v.forest = w.forest
  namer : v.namer = w.namer
  tracks : v.Tracks s
  known : ∀ k, w.registry.hasKey k = true → v.registry.hasKey k = true
  taken : ∀ p, w.registry.hasPath p = true → v.registry.hasPath p = true
  grows : w.registry.ids.length ≤ v.registry.ids.length

lemma length_addMember (i : RefId) (name : String) (cs : List Category) :
    ((addMember i name cs).flatMap (·.members)).length = (cs.flatMap (·.members)).length + 1 := by
  induction cs with
  | nil => rfl
  | cons c cs ih =>
    rw [addMember]
    split
    · simp only [List.flatMap_cons, List.length_append, List.length_singleton]
      omega
    · simp only [List.flatMap_cons, List.length_append, ih]
      omega

namespace Adds

lemma trans (h : Adds s w u) (h' : Adds s u v) : Adds s w v where
  forest := h'.forest.trans h.forest
  namer := h'.namer.trans h.namer
  tracks := h'.tracks
  known k hk := h'.known k (h.known k hk)
  taken p hp := h'.taken p (h.taken p hp)
  grows := Nat.le_trans h.grows h'.grows

lemma proposed_eq (h : Adds s w v) (k : Key) : v.proposed k = w.proposed k := by
  rw [proposed, proposed, h.namer, name, name, h.forest]

lemma steady (h : Adds s w v) (hw : w.Steady k) : v.Steady k := by
  intro hnew
  rw [h.proposed_eq, name, h.forest]
  refine (hw (Bool.eq_false_iff.mpr fun hold => ?_)).imp id (h.taken _)
  rw [h.known k hold] at hnew
  cases hnew

end Adds

lemma Idle.adds (h : Idle s w v) (hw : w.Tracks s) : Adds s w v where
  forest := h.forest
  namer := h.namer
  tracks := h.tracks hw
  known k hk := by rwa [hasKey, h.byKey]
  taken p hp := by rwa [h.hasPath]
  grows := Nat.le_of_eq (congrArg List.length h.ids.symm)

lemma Enters.adds (h : Enters s k w v) (hw : w.Tracks s) :
    Adds s w v ∧ v.registry.ids.length = w.registry.ids.length + 1 := by
  have hlength : v.registry.ids.length = w.registry.ids.length + 1 := by
    obtain ⟨c, -, hv⟩ := h.registry
    rw [hv]
    exact length_addMember _ _ _
  refine ⟨⟨h.forest, h.namer, h.tracks hw, fun l hl => ?_,
    fun p hp => h.hasPath_iff.mpr (.inr hp), by omega⟩, hlength⟩
  rw [hasKey, Table.contains, h.byKey]
  split
  · rfl
  · exact hl

/-- A steady node is passed over or gets a reference. -/
lemma registerNode_of_steady (h : w.Tracks s) (hk : k ∈ w.forest.walk s) (hsteady : w.Steady k)
    (hok : Cli.registerNode w k = (v, .ok ())) :
    Adds s w v ∧ (w.PassedOver k ∧ Idle s w v ∨
      ¬ w.PassedOver k ∧ w.registry.ids.length < v.registry.ids.length) := by
  rcases registerNode_cases h hk hok with ⟨hpassed, hidle⟩ | ⟨hfree, u, -, hstill, hlast⟩
  · exact ⟨hidle.adds h, .inl ⟨hpassed, hidle⟩⟩
  · have hname : w.proposed k = w.name k := by
      by_contra hrenamed
      have hnew : w.registry.hasKey k = false :=
        Bool.eq_false_iff.mpr fun hknown => hfree (.known hknown)
      exact hfree (.taken hrenamed ((hsteady hnew).resolve_left hrenamed))
    have hidle := hstill hname
    rcases hlast with ⟨hbarred, -⟩ | henters
    · refine absurd (.barred hname ?_) hfree
      rw [Barred, hidle.forest, hidle.hasPath] at hbarred
      exact hbarred
    · obtain ⟨hadds, hlength⟩ := henters.adds (hidle.tracks h)
      have hids : u.registry.ids.length = w.registry.ids.length := congrArg List.length hidle.ids
      exact ⟨(hidle.adds h).trans hadds, .inr ⟨hfree, by omega⟩⟩

/-- Steady nodes get no reference only if all are passed over. -/
theorem registerNodes_of_steady (h : w.Tracks s)
    (hks : ∀ k ∈ ks, k ∈ w.forest.walk s ∧ w.Steady k) (hok : Cli.registerNodes w ks = (v, .ok ())) :
    Adds s w v ∧ (v.registry.ids.length = w.registry.ids.length → ∀ k ∈ ks, w.PassedOver k) := by
  induction ks generalizing w with
  | nil =>
    cases hok
    exact ⟨(Idle.refl h).adds h, fun _ => List.forall_mem_nil _⟩
  | cons k ks ih =>
    rw [List.forall_mem_cons] at hks
    rw [Cli.registerNodes] at hok
    split at hok
    · next u hu =>
      obtain ⟨hone, hstep⟩ := registerNode_of_steady h hks.1.1 hks.1.2 hu
      obtain ⟨hmore, hrest⟩ := ih hone.tracks
        (fun j hj => ⟨hone.forest ▸ (hks.2 j hj).1, hone.steady (hks.2 j hj).2⟩) hok
      refine ⟨hone.trans hmore, fun hlength => ?_⟩
      rcases hstep with ⟨hpassed, hidle⟩ | ⟨-, hgrows⟩
      · have hids : u.registry.ids.length = w.registry.ids.length := congrArg List.length hidle.ids
        refine List.forall_mem_cons.mpr ⟨hpassed, fun j hj => ?_⟩
        exact hidle.passedOver_iff.mp (hrest (by omega) j hj)
      · have hgrows' := hmore.grows
        omega
    · cases hok

/-! ### Entries of a bound registry -/

/-- Every entry of the indices leads to a node in the scene. -/
structure Led (s : SceneId) (w : Workspace) : Prop where
  path : ∀ p, w.registry.hasPath p = true → ∃ k, w.forest.findByPath? s p = some k
  key : ∀ k p, w.registry.byKey.get? k = some p → w.forest.findByPath? s p = some k

lemma Led.of_tables (h : Led s w) (hf : v.forest = w.forest)
    (hpath : v.registry.byPath = w.registry.byPath) (hkey : v.registry.byKey = w.registry.byKey) :
    Led s v where
  path p hp := by
    rw [hasPath, hpath] at hp
    rw [hf]
    exact h.path p hp
  key k p hp := by
    rw [hkey] at hp
    rw [hf]
    exact h.key k p hp

lemma led_bindOne (h : Led s w) {i : RefId} (hi : i < w.registry.store.length) :
    Led s (bindOne s w i).1 := by
  obtain ⟨k, hk, -, -, heq⟩ | ⟨-, heq⟩ := bindOne_cases s w i
  · obtain ⟨g, hg⟩ : ∃ g, g = w.registry.modify i fun r => { r with binding := .bound k } := ⟨_, rfl⟩
    have href : g.reference i = { w.registry.reference i with binding := .bound k } := by
      rw [hg, reference_modify, if_pos ⟨rfl, hi⟩]
    rw [heq, ← hg]
    refine ⟨fun p hp => ?_, fun l p hl => ?_⟩
    · rw [hasPath, Table.contains] at hp
      have hfind := findPath?_index g w.forest i p
      rw [findPath?] at hfind
      rw [hfind, href] at hp
      split at hp
      · next hpath => exact ⟨k, hpath ▸ (liveAt?_eq_some.mp hk).1⟩
      · refine h.path p ?_
        rw [hg] at hp
        exact hp
    · rw [byKey_index (k := k) (by rw [href]), href] at hl
      split at hl
      · next hlk =>
        cases hl
        rw [hlk.1]
        exact (liveAt?_eq_some.mp hk).1
      · refine h.key l p ?_
        rw [hg] at hl
        exact hl
  · rw [heq]
    exact h.of_tables rfl rfl rfl

lemma led_bindScene (s : SceneId) (hlt : ∀ i ∈ w.registry.ids, i < w.registry.store.length) :
    Led s (w.bindScene s).1 := by
  have hfold : ∀ (is : List RefId) (u : Workspace), (∀ i ∈ is, i < u.registry.store.length) →
      Led s u → Led s (bindEach s u is).1 := by
    intro is
    induction is with
    | nil => exact fun _ _ hu => hu
    | cons i is ih =>
      intro u his hu
      rw [List.forall_mem_cons] at his
      rw [bindEach]
      refine ih _ (fun j hj => ?_) (led_bindOne hu his.1)
      obtain ⟨store, byPath, byKey, events, hlength, heq⟩ := bindOne_frame s u i
      rw [heq]
      exact (his.2 j hj).trans_eq hlength.symm
  rw [bindScene_eq]
  refine hfold _ _ hlt ⟨fun p hp => ?_, fun k p hp => ?_⟩
  · cases hp
  · cases hp

section Restored

variable {f : Forest} {d : RegistryDocument}

lemma led_restored (f : Forest) (s : SceneId) (d : RegistryDocument) : Led s (restored f s d) :=
  led_bindScene s (fresh_origin (.document d) f).stored

lemma canonical_byKey_restored (hvalid : d.Valid) {p : String}
    (hp : (restored f s d).registry.byKey.get? k = some p) : isCanonicalPath p = true := by
  have hfresh : (Registry.ofDocument f d).Fresh := fresh_origin (.document d) f
  obtain ⟨-, all, hall, hrebuilt⟩ := rebuilt_bindScene (w := ⟨f, .ofDocument f d, none, []⟩) s
    hfresh.nodup hfresh.stored
  obtain ⟨i, hi, hfind, -⟩ := hrebuilt.key k p hp
  obtain ⟨hpath, -⟩ := hrebuilt.entry p i hfind
  refine hvalid.path p ?_
  rw [← paths_ofDocument f d, ← hpath, hrebuilt.path]
  exact List.mem_map_of_mem (List.mem_map_of_mem ((hall i).mp hi))

end Restored

/-- An element without a reference is not passed over if its path leads nowhere. -/
lemma found_of_passedOver (hled : Led s w) (hwell : w.forest.WellFormed)
    (hroots : ∀ r ∈ w.forest.roots s, (w.forest.node r).parent = none)
    (hcanonical : ∀ k p, w.registry.byKey.get? k = some p → isCanonicalPath p = true)
    (hkept : w.registry.hasKey k = false → w.proposed k = w.name k)
    (hpath : isCanonicalPath (w.forest.fullPath k) = true) (hrole : w.forest.classify k ≠ .unknown)
    (h : w.PassedOver k) : ∃ j, w.forest.findByPath? s (w.forest.fullPath k) = some j := by
  cases hknown : w.registry.hasKey k with
  | true =>
    rw [hasKey, Table.contains] at hknown
    obtain ⟨p, hp⟩ := Option.isSome_iff_exists.mp hknown
    have hk := hled.key k p hp
    obtain ⟨-, hfull⟩ := fullPath_of_findByPath? hwell hroots (hcanonical k p hp) hk
    exact ⟨k, by rw [hfull, hk]⟩
  | false =>
    cases h with
    | unknown role => exact absurd role hrole
    | known key => exact absurd (hknown.symm.trans key) Bool.false_ne_true
    | taken renamed path => exact absurd (hkept hknown) renamed
    | barred kept path =>
      rcases path with hno | htaken
      · rw [hpath] at hno
        cases hno
      · exact hled.path _ htaken

end Workspace

end SceneBindings
