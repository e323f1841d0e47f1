import SceneBindings.Proofs.Forest.Paths
import SceneBindings.Proofs.Registry.Documents
import SceneBindings.Proofs.Registry.Panels

/-!
What becomes of each reference when a registry is bound to a scene. Of the references that share a path
the first gets the live node that the path leads to; all others are let go, and a finding says so.
-/

namespace SceneBindings

lemma Table.size_put {α β : Type} [DecidableEq α] {t : Table α β} {k : α} (h : t.get? k = none)
    (v : β) : (t.put k v).size = t.size + 1 := by
  have hkeys := Table.keys_insert k v t.entries
  have hk : k ∉ t.entries.map (·.1) := fun hk => by
    rw [← Table.lookup_isSome, ← Table.get?, h] at hk
    cases hk
  rw [if_neg hk] at hkeys
  simpa [Table.size, Table.put] using congrArg List.length hkeys

open Forest

namespace Registry

variable {f : Forest} {g : Registry} {is : List RefId} {i : RefId} {p : String}

/-- The first reference in a list that has a path. -/
def firstAt? (g : Registry) (is : List RefId) (p : String) : Option RefId :=
  is.find? fun i => (g.reference i).path == p

lemma firstAt?_eq_none : g.firstAt? is p = none ↔ ∀ i ∈ is, (g.reference i).path ≠ p := by
  simp [firstAt?]

lemma mem_of_firstAt? (h : g.firstAt? is p = some i) : i ∈ is ∧ (g.reference i).path = p :=
  ⟨List.mem_of_find?_eq_some h, by simpa using List.find?_some h⟩

lemma firstAt?_concat (g : Registry) (is : List RefId) (i : RefId) (p : String) :
    g.firstAt? (is ++ [i]) p =
      (g.firstAt? is p).or (if (g.reference i).path = p then some i else none) := by
  simp [firstAt?, List.find?_append, List.find?_singleton]

/-- What comes first stays first. -/
lemma firstAt?_concat_of_mem {j : RefId} (hj : j ∈ is) (i : RefId) :
    g.firstAt? (is ++ [i]) (g.reference j).path = g.firstAt? is (g.reference j).path := by
  rw [firstAt?_concat]
  refine Option.or_of_isSome (Option.isSome_iff_ne_none.mpr fun hnone => ?_)
  exact firstAt?_eq_none.mp hnone j hj rfl

lemma exists_firstAt? (h : i ∈ is) : ∃ j, g.firstAt? is (g.reference i).path = some j := by
  refine Option.ne_none_iff_exists'.mp fun hnone => ?_
  exact firstAt?_eq_none.mp hnone i h rfl

/-- The only reference with a path is the first. -/
lemma firstAt?_of_alone (hi : i ∈ is)
    (halone : ∀ j ∈ is, (g.reference j).path = (g.reference i).path → j = i) :
    g.firstAt? is (g.reference i).path = some i := by
  obtain ⟨j, hj⟩ := exists_firstAt? (g := g) hi
  obtain ⟨hmem, hpath⟩ := mem_of_firstAt? hj
  rw [hj, halone j hmem hpath]

/-- Paths of listed references that lead to one live node are the same. -/
def Unambiguous (f : Forest) (s : SceneId) (g : Registry) : Prop :=
  ∀ i ∈ g.ids, ∀ j ∈ g.ids, ∀ k, f.liveAt? s (g.reference i).path = some k →
    f.liveAt? s (g.reference j).path = some k → (g.reference i).path = (g.reference j).path

end Registry

namespace Workspace

open Registry

variable {s : SceneId} {w v u : Workspace} {done : List RefId} {i : RefId} {o : Option Key}

/-! ### The turn of one reference -/

lemma size_bindOne (s : SceneId) (v : Workspace) (i : RefId) :
    (bindOne s v i).1.registry.byPath.size =
      v.registry.byPath.size + if (bindOne s v i).2 then 1 else 0 := by
  obtain ⟨k, -, hfree, -, heq⟩ | ⟨-, heq⟩ := bindOne_cases s v i
  · rw [heq]
    refine Table.size_put ?_ i
    rw [reference_modify]
    split
    · next hi => exact hi.1 ▸ hfree
    · exact hfree
  · rw [heq]
    rfl

lemma size_bindEach (s : SceneId) (is : List RefId) (v : Workspace) :
    (bindEach s v is).1.registry.byPath.size = v.registry.byPath.size + (bindEach s v is).2 := by
  induction is generalizing v with
  | nil => rfl
  | cons i is ih =>
    rw [bindEach]
    dsimp only
    rw [ih, size_bindOne, Nat.add_assoc, Nat.add_comm (bindEach s _ is).2]

/-- Each reference that is bound enters a new path, so their count is the size of the path index. -/
lemma count_bindScene (w : Workspace) (s : SceneId) :
    (w.bindScene s).2 = (w.bindScene s).1.registry.byPath.size := by
  rw [bindScene_eq, size_bindEach]
  exact (Nat.zero_add _).symm

/-- A reference had its turn and got a node or none. -/
structure Decides (s : SceneId) (i : RefId) (o : Option Key) (v u : Workspace) : Prop where
  forest : u.forest = v.forest
  reference : ∀ j, u.registry.reference j = if j = i then { v.registry.reference i with
    binding := o.elim (v.registry.reference i).binding.release .bound } else v.registry.reference j
  path : ∀ p, u.registry.findPath? p =
    if o.isSome ∧ p = (v.registry.reference i).path then some i else v.registry.findPath? p
  key : ∀ l, u.registry.byKey.get? l =
    if o = some l then some (v.registry.reference i).path else v.registry.byKey.get? l
  size : u.registry.byPath.size = v.registry.byPath.size + o.toList.length
  events : u.events =
    v.events ++ if o.isSome then [] else [.found (refusal v.forest s (v.registry.reference i))]

/-- A reference gets the live node that its path leads to unless one of the indices knows the path or
the node. -/
lemma decides_bindOne (s : SceneId) (hlt : i < v.registry.store.length) :
    ∃ o, Decides s i o v (bindOne s v i).1 ∧ ∀ k, o = some k ↔
      v.forest.liveAt? s (v.registry.reference i).path = some k ∧
        v.registry.findPath? (v.registry.reference i).path = none ∧
          v.registry.byKey.get? k = none := by
  have href : ∀ (b : Binding → Binding) j,
      (v.registry.modify i fun r => { r with binding := b r.binding }).reference j =
        if j = i then { v.registry.reference i with binding := b (v.registry.reference i).binding }
        else v.registry.reference j := by
    intro b j
    rw [reference_modify]
    simp only [hlt, and_true]
  obtain ⟨k, hk, hfree, hnew, heq⟩ | ⟨hno, heq⟩ := bindOne_cases s v i
  · obtain ⟨g, hg⟩ : ∃ g, g = v.registry.modify i fun r => { r with binding := .bound k } := ⟨_, rfl⟩
    have hself : g.reference i = { v.registry.reference i with binding := .bound k } := by
      rw [hg, href fun _ => .bound k, if_pos rfl]
    refine ⟨some k, ?_, fun l => ?_⟩
    · rw [heq, ← hg]
      refine ⟨rfl, fun j => ?_, fun p => ?_, fun l => ?_, ?_, (List.append_nil _).symm⟩
      · exact (congrArg (·.reference j) hg).trans (href (fun _ => .bound k) j)
      · refine (findPath?_index g v.forest i p).trans ?_
        rw [hself, hg]
        simp [findPath?, Registry.modify]
      · refine (byKey_index (k := k) (by rw [hself]) l).trans ?_
        rw [hself, hg]
        simp [(liveAt?_eq_some.mp hk).2, Registry.modify, eq_comm]
      · have hsize := size_bindOne s v i
        rw [heq, ← hg] at hsize
        exact hsize
    · rw [hk, Option.some.injEq]
      refine ⟨?_, And.left⟩
      rintro rfl
      exact ⟨rfl, hfree, hnew⟩
  · refine ⟨none, ?_, fun k => iff_of_false (Option.some_ne_none k).symm ?_⟩
    · rw [heq]
      exact ⟨rfl, href Binding.release, fun p => (if_neg (by simp)).symm, fun l => rfl, rfl, rfl⟩
    · rintro ⟨hk, hfree, hnew⟩
      exact (hno k hk).elim (fun h => h hfree) fun h => h hnew

namespace Decides

lemma binding_eq_bound (h : Decides s i o v u) {k : Key} :
    (u.registry.reference i).binding = .bound k ↔ o = some k := by
  rw [h.reference, if_pos rfl]
  cases o with
  | none => simpa using Binding.release_ne_bound _ k
  | some l => simp

lemma isBound (h : Decides s i o v u) {f : Forest} (ho : ∀ k, o = some k → f.IsAlive k) :
    (u.registry.reference i).isBound f = o.isSome := by
  rw [Bool.eq_iff_iff, Reference.isBound_iff, Option.isSome_iff_exists]
  refine exists_congr fun k => ?_
  rw [h.binding_eq_bound]
  exact and_iff_left_of_imp (ho k)

lemma reference_of_mem (h : Decides s i o v u) (hi : i ∉ done) {j : RefId} (hj : j ∈ done) :
    u.registry.reference j = v.registry.reference j := by
  rw [h.reference, if_neg (ne_of_mem_of_not_mem hj hi)]

/-- Of the references that had their turn before, the same are selected as before. -/
lemma filter_concat (h : Decides s i o v u) (hi : i ∉ done) (q : Reference → Bool) :
    (done ++ [i]).filter (fun j => q (u.registry.reference j)) =
      done.filter (fun j => q (v.registry.reference j)) ++
        if q (u.registry.reference i) then [i] else [] := by
  rw [List.filter_append, List.filter_singleton, Bool.cond_eq_ite]
  congr 1
  exact List.filter_congr fun j hj => by rw [h.reference_of_mem hi hj]

end Decides

/-! ### All references in order -/

/-- The references dealt with so far. The first that has a path is bound to the live node that the path
leads to, and the indices know it; all others are let go, and that is said of each. -/
structure Dealt (s : SceneId) (w : Workspace) (done : List RefId) (v : Workspace) : Prop where
  forest : v.forest = w.forest
  rest : ∀ i ∉ done, v.registry.reference i = w.registry.reference i
  bound : ∀ i ∈ done, ∀ k, (v.registry.reference i).binding = .bound k ↔
    w.forest.liveAt? s (w.registry.reference i).path = some k ∧
      w.registry.firstAt? done (w.registry.reference i).path = some i
  path : ∀ p, v.registry.findPath? p =
    (w.forest.liveAt? s p).bind fun _ => w.registry.firstAt? done p
  key : ∀ k p, v.registry.byKey.get? k = some p →
    w.forest.liveAt? s p = some k ∧ ∃ i ∈ done, (w.registry.reference i).path = p
  size : v.registry.byPath.size =
    (done.filter fun i => (v.registry.reference i).isBound w.forest).length
  events : v.events = w.events ++
    ((done.filter fun i => !(v.registry.reference i).isBound w.forest).map fun i =>
      refusal w.forest s (w.registry.reference i)).map .found

namespace Dealt

/-- A reference gets a node if it is the first with its path. -/
lemma decides_bindOne (h : Dealt s w done v) (hpaths : Unambiguous w.forest s w.registry)
    (hdone : ∀ j ∈ done, j ∈ w.registry.ids) (hi : i ∈ w.registry.ids) (hnew : i ∉ done)
    (hlt : i < v.registry.store.length) :
    ∃ o, Decides s i o v (bindOne s v i).1 ∧ ∀ k, o = some k ↔
      w.forest.liveAt? s (w.registry.reference i).path = some k ∧
        w.registry.firstAt? done (w.registry.reference i).path = none := by
  obtain ⟨o, ho, hsome⟩ := Workspace.decides_bindOne s hlt
  refine ⟨o, ho, fun k => ?_⟩
  rw [hsome, h.forest, h.rest i hnew]
  refine and_congr_right fun hk => ?_
  have hpath : v.registry.findPath? (w.registry.reference i).path =
      w.registry.firstAt? done (w.registry.reference i).path := by
    rw [h.path, hk]
    rfl
  rw [hpath]
  refine and_iff_left_of_imp fun hfirst => Option.eq_none_iff_forall_ne_some.mpr fun p hp => ?_
  obtain ⟨hpk, j, hj, rfl⟩ := h.key k p hp
  exact firstAt?_eq_none.mp hfirst j hj (hpaths j (hdone j hj) i hi k hpk hk)

section Step

variable (h : Dealt s w done v) (hnew : i ∉ done) (hu : Decides s i o v u)
  (ho : ∀ k, o = some k ↔ w.forest.liveAt? s (w.registry.reference i).path = some k ∧
    w.registry.firstAt? done (w.registry.reference i).path = none)
include h hnew hu ho

lemma bound_step : ∀ j ∈ done ++ [i], ∀ k, (u.registry.reference j).binding = .bound k ↔
    w.forest.liveAt? s (w.registry.reference j).path = some k ∧
      w.registry.firstAt? (done ++ [i]) (w.registry.reference j).path = some j := by
  intro j hj k
  rcases List.mem_append.mp hj with hj | hj
  · rw [hu.reference_of_mem hnew hj, h.bound j hj, firstAt?_concat_of_mem hj]
  · obtain rfl := List.mem_singleton.mp hj
    rw [hu.binding_eq_bound, ho, firstAt?_concat, if_pos rfl]
    refine and_congr_right fun _ => ?_
    cases hfirst : w.registry.firstAt? done (w.registry.reference j).path with
    | none => simp
    | some l => simpa using fun hl : l = j => hnew (hl ▸ (mem_of_firstAt? hfirst).1)

/-- A reference that was found at a path stays the one found there. -/
lemma path_step (p : String) : u.registry.findPath? p =
    (w.forest.liveAt? s p).bind fun _ => w.registry.firstAt? (done ++ [i]) p := by
  rw [hu.path, h.rest i hnew, firstAt?_concat, h.path]
  by_cases hp : (w.registry.reference i).path = p
  · subst hp
    cases hk : w.forest.liveAt? s (w.registry.reference i).path with
    | none =>
      have hnone : o = none := Option.eq_none_iff_forall_ne_some.mpr fun k hok => by
        rw [ho, hk] at hok
        cases hok.1
      simp [hnone]
    | some k =>
      cases hfirst : w.registry.firstAt? done (w.registry.reference i).path with
      | none => simp [(ho k).mpr ⟨hk, hfirst⟩]
      | some j =>
        have hnone : o = none := Option.eq_none_iff_forall_ne_some.mpr fun l hol => by
          rw [ho, hfirst] at hol
          cases hol.2
        simp [hnone]
  · rw [if_neg (fun hop => hp hop.2.symm), if_neg hp, Option.or_none]

lemma step : Dealt s w (done ++ [i]) u := by
  have hbound : (u.registry.reference i).isBound w.forest = o.isSome :=
    hu.isBound fun k hk => (liveAt?_eq_some.mp ((ho k).mp hk).1).2
  constructor
  case forest => exact hu.forest.trans h.forest
  case rest =>
    intro j hj
    rw [List.mem_append, List.mem_singleton, not_or] at hj
    rw [hu.reference, if_neg hj.2, h.rest j hj.1]
  case bound => exact h.bound_step hnew hu ho
  case path => exact h.path_step hnew hu ho
  case key =>
    intro k p hk
    rw [hu.key, h.rest i hnew] at hk
    split at hk
    · next hok =>
      cases hk
      exact ⟨((ho k).mp hok).1, i, List.mem_append_right _ (List.mem_singleton_self i), rfl⟩
    · obtain ⟨hpk, j, hj, hjp⟩ := h.key k p hk
      exact ⟨hpk, j, List.mem_append_left _ hj, hjp⟩
  case size =>
    rw [hu.size, h.size, hu.filter_concat hnew fun r => r.isBound w.forest, hbound,
      List.length_append]
    cases o <;> rfl
  case events =>
    rw [hu.events, h.events, hu.filter_concat hnew fun r => !r.isBound w.forest, hbound, h.forest,
      h.rest i hnew]
    cases o <;> simp

end Step

lemma bindEach (h : Dealt s w done v) (hpaths : Unambiguous w.forest s w.registry)
    {is : List RefId} (hids : ∀ i ∈ done ++ is, i ∈ w.registry.ids) (hn : (done ++ is).Nodup)
    (hlt : ∀ i ∈ is, i < v.registry.store.length) :
    Dealt s w (done ++ is) (bindEach s v is).1 := by
  induction is generalizing done v with
  | nil =>
    rw [List.append_nil]
    exact h
  | cons i is ih =>
    rw [List.forall_mem_cons] at hlt
    rw [List.append_cons] at hids hn ⊢
    have hnew : i ∉ done := by
      rw [List.append_assoc, List.nodup_append] at hn
      exact fun hi => hn.2.2 i hi i List.mem_cons_self rfl
    have hdone : ∀ j ∈ done ++ [i], j ∈ w.registry.ids :=
      fun j hj => hids j (List.mem_append_left _ hj)
    obtain ⟨o, hu, ho⟩ := h.decides_bindOne hpaths (fun j hj => hdone j (List.mem_append_left _ hj))
      (hdone i (List.mem_append_right _ (List.mem_singleton_self i))) hnew hlt.1
    refine ih (h.step hnew hu ho) hids hn fun j hj => ?_
    obtain ⟨store, byPath, byKey, events, hlength, heq⟩ := bindOne_frame s v i
    rw [heq]
    exact (hlt.2 j hj).trans_eq hlength.symm

end Dealt

/-- Binding to a scene deals with all references in the order of the categories. -/
lemma dealt_bindScene (hn : w.registry.ids.Nodup)
    (hlt : ∀ i ∈ w.registry.ids, i < w.registry.store.length)
    (hpaths : Unambiguous w.forest s w.registry) :
    Dealt s w w.registry.ids (w.bindScene s).1 := by
  have hstart : Dealt s w [] (w.followed s) := by
    refine ⟨rfl, fun i _ => rfl, List.forall_mem_nil _, fun p => ?_, fun k p hk => ?_, rfl,
      (List.append_nil _).symm⟩
    · exact (Option.bind_fun_none _).symm
    · cases hk
  exact hstart.bindEach hpaths (fun i hi => hi) hn hlt

/-! ### What binding leaves -/

/-- Every reference is bound to the node at its path or reported, and the indices hold those that are
bound. -/
structure Outcome (s : SceneId) (w v : Workspace) (n : Nat) : Prop where
  forest : v.forest = w.forest
  categories : v.registry.categories = w.registry.categories
  same : ∀ i, ∃ b, v.registry.reference i = { w.registry.reference i with binding := b }
  count : n = (v.registry.ids.filter fun i => (v.registry.reference i).isBound v.forest).length
  located : ∀ i ∈ v.registry.ids, ∀ k, (v.registry.reference i).binding = .bound k →
    v.forest.IsAlive k ∧ k ∈ v.forest.walk s ∧
      v.forest.fullPath k = (v.registry.reference i).path
  first : ∀ i ∈ v.registry.ids, (v.registry.reference i).isBound v.forest = true ↔
    (v.forest.liveAt? s (v.registry.reference i).path).isSome = true ∧
      v.registry.firstAt? v.registry.ids (v.registry.reference i).path = some i
  byPath : ∀ p i, v.registry.findPath? p = some i ↔ i ∈ v.registry.ids ∧
    (v.registry.reference i).path = p ∧ (v.registry.reference i).isBound v.forest = true
  byKey : ∀ k p, v.registry.byKey.get? k = some p ↔ ∃ i ∈ v.registry.ids,
    (v.registry.reference i).binding = .bound k ∧ (v.registry.reference i).path = p
  said : v.events = w.events ++
    ((v.registry.ids.filter fun i => !(v.registry.reference i).isBound v.forest).map fun i =>
      refusal v.forest s (v.registry.reference i)).map .found
  warns : ∀ i, (refusal v.forest s (v.registry.reference i)).severity = .warning ∧
    (refusal v.forest s (v.registry.reference i)).subject = (v.registry.reference i).path
  active : v.registry.activePanels = []
  lastActive : v.registry.lastActive = none

lemma warns_refusal (f : Forest) (s : SceneId) (r : Reference) :
    (refusal f s r).severity = .warning ∧ (refusal f s r).subject = r.path := by
  rw [refusal]
  split <;> exact ⟨rfl, rfl⟩

/-- Canonical paths are not ambiguous: the node that one leads to has just that path. -/
lemma unambiguous_of_canonical (hf : w.forest.WellFormed)
    (hroots : ∀ r ∈ w.forest.roots s, (w.forest.node r).parent = none)
    (hpaths : ∀ i ∈ w.registry.ids, isCanonicalPath (w.registry.reference i).path = true) :
    Unambiguous w.forest s w.registry := by
  intro i hi j hj k hik hjk
  rw [← (fullPath_of_findByPath? hf hroots (hpaths i hi) (liveAt?_eq_some.mp hik).1).2,
    ← (fullPath_of_findByPath? hf hroots (hpaths j hj) (liveAt?_eq_some.mp hjk).1).2]

section

variable (hs : Sound w.forest w.registry) (hf : w.forest.WellFormed)
  (hroots : ∀ r ∈ w.forest.roots s, (w.forest.node r).parent = none)
  (hpaths : ∀ i ∈ w.registry.ids, isCanonicalPath (w.registry.reference i).path = true)
include hs hf hroots hpaths

lemma outcome_bindScene : Outcome s w (w.bindScene s).1 (w.bindScene s).2 := by
  have h := dealt_bindScene hs.nodup hs.stored (unambiguous_of_canonical hf hroots hpaths)
  obtain ⟨hforest, all, hall, hr⟩ := rebuilt_bindScene s hs.nodup hs.stored
  obtain ⟨hactive, hlast⟩ := panels_bindScene w s
  have hcount := count_bindScene w s
  obtain ⟨v, hv⟩ : ∃ v, v = (w.bindScene s).1 := ⟨_, rfl⟩
  rw [← hv] at h hforest hr hactive hlast hcount ⊢
  have hids : v.registry.ids = w.registry.ids := by rw [ids, hr.categories, ← ids]
  have hpath : ∀ i, (v.registry.reference i).path = (w.registry.reference i).path := hr.path
  have hfirst : ∀ is p, v.registry.firstAt? is p = w.registry.firstAt? is p := fun is p => by
    simp only [firstAt?, hpath]
  have hbound : ∀ i ∈ w.registry.ids, (v.registry.reference i).isBound w.forest = true ↔
      (w.forest.liveAt? s (w.registry.reference i).path).isSome = true ∧
        w.registry.firstAt? w.registry.ids (w.registry.reference i).path = some i := by
    intro i hi
    rw [Reference.isBound_iff, Option.isSome_iff_exists, ← exists_and_right]
    refine exists_congr fun k => ?_
    rw [h.bound i hi, and_iff_left_iff_imp]
    exact fun hk => (liveAt?_eq_some.mp hk.1).2
  constructor
  case forest => exact hforest
  case categories => exact hr.categories
  case same => exact hr.same
  case count => rw [hcount, h.size, hids, hforest]
  case located =>
    rw [hids, hforest]
    intro i hi k hk
    obtain ⟨hfound, halive⟩ := liveAt?_eq_some.mp ((h.bound i hi k).mp hk).1
    rw [hpath]
    exact ⟨halive, mem_walk_of_findByPath? hf hfound,
      (fullPath_of_findByPath? hf hroots (hpaths i hi) hfound).2⟩
  case first =>
    rw [hids, hforest]
    intro i hi
    rw [hbound i hi, hpath, hfirst]
  case byPath =>
    rw [hids, hforest]
    intro p i
    rw [h.path, Option.bind_eq_some_iff]
    constructor
    · rintro ⟨k, hk, hi⟩
      obtain ⟨hmem, rfl⟩ := mem_of_firstAt? hi
      exact ⟨hmem, hpath i, (hbound i hmem).mpr ⟨Option.isSome_iff_exists.mpr ⟨k, hk⟩, hi⟩⟩
    · rintro ⟨hmem, rfl, hb⟩
      obtain ⟨hlive, hi⟩ := (hbound i hmem).mp hb
      obtain ⟨k, hk⟩ := Option.isSome_iff_exists.mp hlive
      exact ⟨k, by rwa [hpath], by rwa [hpath]⟩
  case byKey =>
    rw [hids]
    intro k p
    constructor
    · intro hk
      obtain ⟨i, hi, hfind, hb⟩ := hr.key k p hk
      exact ⟨i, (hall i).mp hi, hb, (hr.entry p i hfind).1⟩
    · rintro ⟨i, hi, hb, rfl⟩
      exact (hr.bound i ((hall i).mpr hi) k hb).2.2
  case said =>
    have hrefusal : ∀ i, refusal w.forest s (v.registry.reference i) =
        refusal w.forest s (w.registry.reference i) := fun i => by
      obtain ⟨b, hb⟩ := hr.same i
      rw [hb]
      rfl
    rw [h.events, hids, hforest]
    simp only [hrefusal]
  case warns => exact fun i => warns_refusal _ _ _
  case active => rw [activePanels, hactive]; rfl
  case lastActive => exact hlast

end

/-! ### Documents -/

/-- An edit of the forest, binding to a scene, or switching panels. -/
def Action.onlyBinds : Action → Bool
  | .edit _ | .bindScene _ | .setPanelActive .. | .togglePanel _ | .isPanelVisible _ | .activate ..
  | .deactivate _ => true
  | _ => false

/-- Such a step leaves the references as they are stored. -/
lemma stored_stage {a : Action} (hs : Sound w.forest w.registry) (ha : a.onlyBinds = true)
    (h : Stage w a v) : v.registry.stored.categories = w.registry.stored.categories := by
  have hquiet : w.Quiet v → v.registry.stored.categories = w.registry.stored.categories := by
    intro hq
    have href : ∀ i, v.registry.reference i = w.registry.reference i := fun i => by
      simp only [reference, hq.store]
    simp only [stored, hq.categories, href]
  cases h with
  | edit e => exact hquiet (.edit w e)
  | bindScene s =>
    obtain ⟨-, all, -, hr⟩ := rebuilt_bindScene s hs.nodup hs.stored
    rw [hr.stored_eq]
  | setPanelActive key isActive others keepLast =>
    exact hquiet (.setPanelActive w key isActive others keepLast)
  | togglePanel key => exact hquiet (.togglePanel w key)
  | isPanelVisible key => exact hquiet (.isPanelVisible w key)
  | activate k exclusive keepLast => exact hquiet (.activate w k exclusive keepLast)
  | deactivate k => exact hquiet (.deactivate w k)
  | _ => cases ha

/-- A document that is only bound keeps its references. -/
lemma stored_run (f : Forest) (d : RegistryDocument) (namer : Option Standardizer) {as : List Action}
    (has : ∀ a ∈ as, a.onlyBinds = true) :
    let w := (start f (.document d) namer).run as
    Sound w.forest w.registry ∧ w.registry.stored.categories = d.categories := by
  have hs := sound_start f (.document d) namer
  have hd : (start f (.document d) namer).registry.stored.categories = d.categories :=
    congrArg RegistryDocument.categories (ofDocument_fields f d).1
  refine forall_of_isChain (P := fun v => Sound v.forest v.registry ∧
    v.registry.stored.categories = d.categories) (fun {u v} hu hstage => ?_) ⟨hs, hd⟩
    (isChain_stageOf hs as) _ (run_mem_passed _ as)
  refine ⟨sound_stageOf hu.1 hstage, ?_⟩
  obtain ⟨a, ha, hone⟩ := hstage
  exact (stored_stage hu.1 (has a ha) hone).trans hu.2

/-- **Binding a document to a scene.** Whatever scenes a registry from a valid document was bound to and
whatever panels were switched there, binding it to a scene decides for each reference of the document
whether it is bound, leaves indices of just the bound ones, and reports each of the others once. -/
theorem outcome_of_document (f : Forest) {d : RegistryDocument} (hd : d.Valid)
    (namer : Option Standardizer) {as : List Action} (has : ∀ a ∈ as, a.onlyBinds = true)
    {s : SceneId} (hf : ((start f (.document d) namer).run as).forest.WellFormed)
    (hroots : ∀ r ∈ ((start f (.document d) namer).run as).forest.roots s,
      (((start f (.document d) namer).run as).forest.node r).parent = none) :
    let w := (start f (.document d) namer).run as
    w.registry.stored.categories = d.categories ∧
      Outcome s w (w.bindScene s).1 (w.bindScene s).2 := by
  intro w
  obtain ⟨hs, hstored⟩ := stored_run f d namer has
  have hvalid : w.registry.stored.Valid := fun c hc => hd c (hstored ▸ hc)
  refine ⟨hstored, outcome_bindScene hs hf hroots fun i hi => ?_⟩
  refine hvalid.path _ ?_
  rw [paths_stored]
  exact List.mem_map_of_mem (List.mem_map_of_mem hi)

/-- A panel of one name in each of two scenes. -/
def twoMenus : Forest :=
  (([.addScene "Game", .create "A_Panel" [Component.new .image] true, .addRoot 0 1,
    .create "A_Panel" [Component.new .image] true].foldl Forest.edit
      (Forest.empty.addScene "Menu").1).edit (.addRoot 1 2))

lemma wellFormed_twoMenus : twoMenus.WellFormed := by
  have hallowed : (Forest.empty.addScene "Menu").1.AllowsAll 0 [.addScene "Game",
      .create "A_Panel" [Component.new .image] true, .addRoot 0 1,
      .create "A_Panel" [Component.new .image] true] :=
    ⟨trivial, trivial, ⟨rfl, by decide⟩, trivial, trivial⟩
  have hfirst := (housed_addScene_empty "Menu").edits hallowed
  -- the other scene has no root yet
  have hsecond : Housed _ 1 := { hfirst with
    known := by decide
    nodupRoots := .nil
    parentless := nofun
    housed := nofun }
  exact (hsecond.edit (e := .addRoot 1 2) ⟨rfl, by decide⟩).toWellFormed

/-- The panel twice, in two categories of one name, and one that is nowhere. -/
def repeatedPanels : RegistryDocument :=
  ⟨"", [⟨"Panels", [⟨"A_Panel", "A_Panel", .panel⟩, ⟨"B_Panel", "B_Panel", .panel⟩]⟩,
    ⟨"Panels", [⟨"A_Panel", "A_Panel", .panel⟩]⟩]⟩

/-- Bound to the second scene with the panel of the first still active, the document gets one node. -/
theorem outcome_of_repeatedPanels :
    let as : List Action := [.bindScene 0, .setPanelActive (.path "A_Panel") true true false]
    let w := (start twoMenus (.document repeatedPanels) none).run as
    (repeatedPanels.Valid ∧ (∀ a ∈ as, a.onlyBinds = true) ∧ w.forest.WellFormed ∧
        (∀ r ∈ w.forest.roots 1, (w.forest.node r).parent = none) ∧
          w.registry.activePanels = [1]) ∧
      w.registry.stored.categories = repeatedPanels.categories ∧
        Outcome 1 w (w.bindScene 1).1 (w.bindScene 1).2 ∧ (w.bindScene 1).2 = 1 ∧
          (w.bindScene 1).1.registry.references.map (·.binding) = [.bound 2, .never, .never] := by
  intro as w
  have hvalid : repeatedPanels.Valid :=
    (RegistryDocument.validate_eq_ok.mp (by rfl : repeatedPanels.validate = .ok repeatedPanels)).1
  have has : ∀ a ∈ as, a.onlyBinds = true := by decide
  have hforest : w.forest = twoMenus.setActive 1 true := by rfl
  have hf : w.forest.WellFormed := by
    rw [hforest]
    refine wellFormed_twoMenus.congr (fun j => node_modify_keeps (·.parent) _ _ _)
      (fun j => node_modify_keeps (·.children) _ _ _) fun t r hr => ?_
    exact (isNode_setActive _ _ _).mpr (wellFormed_twoMenus.roots t r hr)
  have hroots : ∀ r ∈ w.forest.roots 1, (w.forest.node r).parent = none := by
    rw [hforest]
    decide +kernel
  obtain ⟨hstored, hout⟩ := outcome_of_document twoMenus hvalid none has hf hroots
  exact ⟨⟨hvalid, has, hf, hroots, by decide +kernel⟩, hstored, hout, by decide +kernel⟩

end Workspace

end SceneBindings
