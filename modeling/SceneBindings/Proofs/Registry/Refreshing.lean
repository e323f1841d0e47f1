import SceneBindings.Proofs.Registry.Panels
import SceneBindings.Proofs.Registry.PathIndex
import SceneBindings.Proofs.Search.CatchingUp

/-!
Following renamed and moved nodes. The references are entered anew one after the other, each unless
the path that it is to have still belongs to another one; so a reference whose new path is the old path
of one that comes later stays where it is. The paths are remembered ones, and one that is out of date
leads a reference away from its node, unless another reference stands in its way.
-/

namespace SceneBindings

open Forest

namespace PathCache

variable {c : PathCache} {f : Forest}

/-- A cache that has seen all changes has nothing to forget. -/
lemma get?_sync_of_seen (h : c.seen = f.changes.length) (k : Key) :
    (c.sync f).paths.get? k = c.paths.get? k := by
  have hunseen : c.unseen f = [] := by simp [unseen, h]
  rw [sync]
  dsimp only
  rw [get?_forget, hunseen]
  rfl

/-- Asking for one path changes the answer for no other. -/
lemma get_get (c : PathCache) (f : Forest) (n k : Key) :
    ((c.get f n).1.get f k).2 = (c.get f k).2 := by
  rw [get_eq, get?_sync_of_seen (get_fields c f n).1, get_eq, get]
  cases hn : (c.sync f).paths.get? n with
  | some path => rfl
  | none =>
    dsimp only
    rw [Table.get?_put]
    split
    · next hnk =>
      rw [← hnk, hn]
      rfl
    · rfl

end PathCache

namespace Workspace

open Registry

variable {u v w : Workspace} {i j : RefId} {k : Key}

/-- The places of a list with an element in front: the front, and those of the rest. -/
lemma forall_splits_cons {α : Type} {a : α} {l : List α} {P : List α → α → List α → Prop} :
    (∀ front b back, a :: l = front ++ b :: back → P front b back) ↔
      P [] a l ∧ ∀ front b back, l = front ++ b :: back → P (a :: front) b back := by
  constructor
  · exact fun h => ⟨h [] a l rfl, fun front b back heq => h (a :: front) b back (by rw [heq]; rfl)⟩
  · rintro ⟨ha, hl⟩ front b back heq
    cases front with
    | nil =>
      obtain ⟨rfl, rfl⟩ := List.cons.inj heq
      exact ha
    | cons c front =>
      obtain ⟨rfl, rfl⟩ := List.cons.inj heq
      exact hl front b back rfl

lemma pairwise_iff_splits {α : Type} {l : List α} {R : α → α → Prop} :
    l.Pairwise R ↔ ∀ front a back, l = front ++ a :: back → ∀ b ∈ back, R a b := by
  induction l with
  | nil => simp
  | cons a l ih => rw [List.pairwise_cons, ih, forall_splits_cons]

/-! ### References and their nodes -/

/-- The path that the node of a reference has now. -/
def nodePath? (w : Workspace) (i : RefId) : Option String :=
  (w.registry.reference i).binding.node?.map w.forest.fullPath

/-- The path that is remembered of the node of a reference; it may be out of date. -/
def knownPath? (w : Workspace) (i : RefId) : Option String :=
  (w.registry.reference i).binding.node?.map fun k => (w.pathOf k).2

/-- The name that the node of a reference has now. -/
def nodeName? (w : Workspace) (i : RefId) : Option String :=
  (w.registry.reference i).binding.node?.map w.name

/-- Every reference has the path and the name of its node, the path index has just these paths as its
keys, and following the nodes once more moves nothing. -/
structure Current (w : Workspace) : Prop where
  path : ∀ i ∈ w.registry.ids, w.nodePath? i = some (w.registry.reference i).path
  name : ∀ i ∈ w.registry.ids, w.nodeName? i = some (w.registry.reference i).name
  keys : ∀ p, w.registry.hasPath p = true ↔ ∃ i ∈ w.registry.ids, w.nodePath? i = some p
  still : w.refreshPaths.2 = 0

/-- All references are bound, to nodes that have different paths. -/
structure Refreshable (w : Workspace) : Prop where
  bound : ∀ i ∈ w.registry.ids, (w.registry.reference i).isBound w.forest = true
  distinct : ∀ i ∈ w.registry.ids, ∀ j ∈ w.registry.ids, w.nodePath? i = w.nodePath? j → i = j

lemma knownPath?_of_bound (hb : (w.registry.reference i).binding = .bound k) :
    w.knownPath? i = some (w.pathOf k).2 := by
  rw [knownPath?, hb]
  rfl

lemma nodeName?_of_bound (hb : (w.registry.reference i).binding = .bound k) :
    w.nodeName? i = some (w.name k) := by
  rw [nodeName?, hb]
  rfl

/-! ### Following one node -/

lemma binding_refreshOne (w : Workspace) (i j : RefId) :
    ((w.refreshOne i).1.registry.reference j).binding = (w.registry.reference j).binding := by
  obtain ⟨htouches, hself⟩ := touches_refreshOne w i
  by_cases hji : j = i
  · rw [hji, hself]
  · rw [htouches.others j hji]

lemma nodePath?_refreshOne (w : Workspace) (i j : RefId) :
    (w.refreshOne i).1.nodePath? j = w.nodePath? j := by
  rw [nodePath?, binding_refreshOne, (touches_refreshOne w i).1.forest, nodePath?]

lemma nodeName?_refreshOne (w : Workspace) (i j : RefId) :
    (w.refreshOne i).1.nodeName? j = w.nodeName? j := by
  have hname : (w.refreshOne i).1.name = w.name := by
    funext k
    rw [name, (touches_refreshOne w i).1.forest, name]
  rw [nodeName?, binding_refreshOne, hname, nodeName?]

lemma pathOf_refreshOne (w : Workspace) (i : RefId) (k : Key) :
    ((w.refreshOne i).1.pathOf k).2 = (w.pathOf k).2 := by
  have hcases := refreshes_refreshOne w i
  generalize w.refreshOne i = r at hcases ⊢
  cases hcases with
  | unbound => rfl
  | kept => exact PathCache.get_get _ _ _ k
  | refused => exact PathCache.get_get _ _ _ k
  | moved => exact PathCache.get_get _ _ _ k

lemma knownPath?_refreshOne (w : Workspace) (i j : RefId) :
    (w.refreshOne i).1.knownPath? j = w.knownPath? j := by
  simp only [knownPath?, binding_refreshOne, pathOf_refreshOne]

lemma Refreshable.refreshOne (h : w.Refreshable) (i : RefId) :
    (w.refreshOne i).1.Refreshable := by
  have htouches := (touches_refreshOne w i).1
  refine ⟨fun j hj => ?_, fun j hj l hl heq => ?_⟩
  · rw [htouches.ids] at hj
    rw [Reference.isBound, binding_refreshOne, htouches.forest]
    exact h.bound j hj
  · rw [htouches.ids] at hj hl
    rw [nodePath?_refreshOne, nodePath?_refreshOne] at heq
    exact h.distinct j hj l hl heq

lemma sound_refreshOne (hs : Sound w.forest w.registry) (hi : i ∈ w.registry.ids) :
    Sound (w.refreshOne i).1.forest (w.refreshOne i).1.registry :=
  sound_move hs (.refreshOne hi (hs.bound i hi))

/-- What may become of a reference when its node is followed: it has the remembered path already, or that
path belongs to another reference, or it gets the path and the name of its node. -/
inductive Followed (w : Workspace) (i : RefId) (v : Workspace) : Prop where
  | kept (same : v.registry.reference i = w.registry.reference i)
      (right : w.knownPath? i = some (w.registry.reference i).path)
  | refused {j : RefId} (same : v.registry.reference i = w.registry.reference i)
      (behind : w.knownPath? i ≠ some (w.registry.reference i).path)
      (listed : j ∈ w.registry.ids)
      (taken : w.knownPath? i = some (w.registry.reference j).path)
  | moved (path : w.knownPath? i = some (v.registry.reference i).path)
      (name : w.nodeName? i = some (v.registry.reference i).name)
      (behind : w.knownPath? i ≠ some (w.registry.reference i).path)
      (free : ∀ j ∈ w.registry.ids, w.knownPath? i ≠ some (w.registry.reference j).path)

lemma followed_refreshOne (hs : Sound w.forest w.registry) (h : w.Refreshable)
    (hi : i ∈ w.registry.ids) : Followed w i (w.refreshOne i).1 := by
  obtain ⟨k, hk, halive⟩ := Reference.isBound_iff.mp (h.bound i hi)
  have hknown := knownPath?_of_bound hk
  have hname := nodeName?_of_bound hk
  have hcases := refreshes_refreshOne w i
  generalize w.refreshOne i = r at hcases ⊢
  cases hcases with
  | unbound lost => exact absurd ((h.bound i hi).symm.trans lost) (by decide)
  | kept binding alive same =>
    cases hk.symm.trans binding
    exact .kept rfl (by rw [hknown, same])
  | refused binding alive other taken =>
    cases hk.symm.trans binding
    obtain ⟨j, hj⟩ := Option.ne_none_iff_exists'.mp taken
    obtain ⟨hjpath, hjlisted⟩ := hs.entry _ j hj
    exact .refused (j := j) rfl (fun hp => other (Option.some.inj (hknown.symm.trans hp))) hjlisted
      (by rw [hknown, hjpath])
  | moved binding alive other free =>
    cases hk.symm.trans binding
    have hself := (reference_modify { (w.pathOf k).1.registry with
      byPath := w.registry.byPath.erase (w.registry.reference i).path } i i fun r =>
        { r with path := (w.pathOf k).2, name := w.name k }).trans (if_pos ⟨rfl, hs.stored i hi⟩)
    refine .moved ?_ ?_ (fun hp => other (Option.some.inj (hknown.symm.trans hp))) fun j hj hp => ?_
    · rw [hknown]
      exact congrArg some (congrArg Reference.path hself).symm
    · rw [hname]
      exact congrArg some (congrArg Reference.name hself).symm
    · rw [hknown, Option.some.injEq] at hp
      have hfound := hs.bound j hj (h.bound j hj)
      rw [← hp, free] at hfound
      cases hfound

/-! ### Following the nodes in order -/

/-- Every reference is entered under the path of its node. -/
def UpToDate (w : Workspace) : Prop :=
  ∀ i ∈ w.registry.ids, w.nodePath? i = some (w.registry.reference i).path

section Each

variable {is : List RefId}

lemma nodePath?_refreshEach (w : Workspace) (is : List RefId) (j : RefId) :
    (w.refreshEach is).1.nodePath? j = w.nodePath? j := by
  induction is generalizing w with
  | nil => rfl
  | cons i is ih => exact (ih _).trans (nodePath?_refreshOne w i j)

lemma knownPath?_refreshEach (w : Workspace) (is : List RefId) (j : RefId) :
    (w.refreshEach is).1.knownPath? j = w.knownPath? j := by
  induction is generalizing w with
  | nil => rfl
  | cons i is ih => exact (ih _).trans (knownPath?_refreshOne w i j)

lemma nodeName?_refreshEach (w : Workspace) (is : List RefId) (j : RefId) :
    (w.refreshEach is).1.nodeName? j = w.nodeName? j := by
  induction is generalizing w with
  | nil => rfl
  | cons i is ih => exact (ih _).trans (nodeName?_refreshOne w i j)

lemma reference_refreshEach (w : Workspace) (hj : j ∉ is) :
    (w.refreshEach is).1.registry.reference j = w.registry.reference j := by
  induction is generalizing w with
  | nil => rfl
  | cons i is ih =>
    rw [List.mem_cons, not_or] at hj
    exact (ih _ hj.2).trans ((touches_refreshOne w i).1.others j hj.1)

lemma sound_refreshEach (hs : Sound w.forest w.registry) (his : ∀ i ∈ is, i ∈ w.registry.ids) :
    Sound (w.refreshEach is).1.forest (w.refreshEach is).1.registry := by
  induction is generalizing w with
  | nil => exact hs
  | cons i is ih =>
    rw [List.forall_mem_cons] at his
    refine ih (sound_refreshOne hs his.1) fun j hj => ?_
    rw [(touches_refreshOne w i).1.ids]
    exact his.2 j hj

/-- The turn of a reference leaves it under the path of its node. It is not in the way of that, nor is one
that comes later; and if a wrong path is remembered, the reference has the right one and stays, since
the remembered one belongs to another reference at that time. -/
structure Settles (w : Workspace) (before : List RefId) (i : RefId) (after : List RefId) : Prop where
  free : ∀ j ∈ after, w.nodePath? i ≠ some (w.registry.reference j).path
  stale : w.knownPath? i ≠ w.nodePath? i → w.nodePath? i = some (w.registry.reference i).path ∧
    ((∃ j ∈ before, w.nodePath? j = w.knownPath? i) ∨
      ∃ j ∈ after, w.knownPath? i = some (w.registry.reference j).path)

/-- Each reference of a list settles when its turn comes. -/
def SettlesAll (w : Workspace) (before is : List RefId) : Prop :=
  ∀ front i back, is = front ++ i :: back → w.Settles (before ++ front) i back

lemma settlesAll_cons {before : List RefId} : w.SettlesAll before (i :: is) ↔
    w.Settles before i is ∧ w.SettlesAll (before ++ [i]) is := by
  refine forall_splits_cons.trans ?_
  rw [List.append_nil]
  refine and_congr_right fun _ => forall₄_congr fun front j back _ => ?_
  rw [List.append_assoc, List.singleton_append]

lemma SettlesAll.congr {before : List RefId} (hpath : ∀ j, v.nodePath? j = w.nodePath? j)
    (hknown : ∀ j, v.knownPath? j = w.knownPath? j)
    (hsame : ∀ j ∈ is, v.registry.reference j = w.registry.reference j) :
    v.SettlesAll before is ↔ w.SettlesAll before is := by
  refine forall₄_congr fun front i back heq => ?_
  have hi : i ∈ is := by simp [heq]
  have hback : ∀ j ∈ back, v.registry.reference j = w.registry.reference j :=
    fun j hj => hsame j (by simp [heq, hj])
  have hlater : ∀ o : Option String, (∃ j ∈ back, o = some (v.registry.reference j).path) ↔
      ∃ j ∈ back, o = some (w.registry.reference j).path :=
    fun o => exists_congr fun j => and_congr_right fun hj => by rw [hback j hj]
  have hfree : (∀ j ∈ back, v.nodePath? i ≠ some (v.registry.reference j).path) ↔
      ∀ j ∈ back, w.nodePath? i ≠ some (w.registry.reference j).path :=
    forall₂_congr fun j hj => by rw [hpath, hback j hj]
  constructor
  · rintro ⟨free, stale⟩
    simp only [hpath, hknown, hlater, hsame i hi] at stale
    exact ⟨hfree.mp free, stale⟩
  · rintro ⟨free, stale⟩
    refine ⟨hfree.mpr free, ?_⟩
    simpa only [hpath, hknown, hlater, hsame i hi] using stale

/-- The turn of one reference, and whether it settles. The references before it have the paths of their
nodes. -/
lemma settles_iff {before after : List RefId} (hs : Sound w.forest w.registry) (h : w.Refreshable)
    (hids : w.registry.ids = before ++ i :: after)
    (hdone : ∀ j ∈ before, w.nodePath? j = some (w.registry.reference j).path) :
    w.Settles before i after ↔
      w.nodePath? i = some ((w.refreshOne i).1.registry.reference i).path := by
  have hi : i ∈ w.registry.ids := by simp [hids]
  have hafter : ∀ j ∈ after, j ∈ w.registry.ids := fun j hj => by simp [hids, hj]
  have hbefore : ∀ j ∈ before, j ∈ w.registry.ids := fun j hj => by simp [hids, hj]
  have hnew : i ∉ after := by
    have hn := hs.nodup
    rw [hids] at hn
    exact (List.nodup_cons.mp (List.nodup_append.mp hn).2.1).1
  -- two references never have the same path
  have hapart : w.nodePath? i = some (w.registry.reference i).path →
      ∀ j ∈ after, w.nodePath? i ≠ some (w.registry.reference j).path := by
    intro hright j hj hp
    have hpath := Option.some.inj (hright.symm.trans hp)
    exact hnew (hs.eq_of_path hi (hafter j hj) (h.bound i hi) (h.bound j (hafter j hj)) hpath ▸ hj)
  cases followed_refreshOne hs h hi with
  | kept same right =>
    rw [same]
    refine ⟨fun hset => ?_, fun hright => ⟨hapart hright, fun hstale => ?_⟩⟩
    · by_contra hwrong
      have hstale : w.knownPath? i ≠ w.nodePath? i := fun hknown => hwrong (hknown ▸ right)
      exact hwrong (hset.stale hstale).1
    · exact absurd (right.trans hright.symm) hstale
  | @refused j same behind listed taken =>
    rw [same]
    refine ⟨fun hset => ?_, fun hright => ⟨hapart hright, fun _ => ⟨hright, ?_⟩⟩⟩
    · by_contra hwrong
      have hknown : w.knownPath? i = w.nodePath? i :=
        by_contra fun hstale => hwrong (hset.stale hstale).1
      have hj : j ∈ before ++ i :: after := hids ▸ listed
      obtain hj | rfl | hj := by simpa using hj
      · obtain rfl := h.distinct j listed i hi
          ((hdone j hj).trans (taken.symm.trans hknown))
        exact behind taken
      · exact behind taken
      · exact hset.free j hj (hknown.symm.trans taken)
    · have hj : j ∈ before ++ i :: after := hids ▸ listed
      obtain hj | rfl | hj := by simpa using hj
      · exact .inl ⟨j, hj, (hdone j hj).trans taken.symm⟩
      · exact absurd taken behind
      · exact .inr ⟨j, hj, taken⟩
  | moved path name behind free =>
    rw [← path]
    refine ⟨fun hset => ?_, fun hright => ⟨fun j hj => hright ▸ free j (hafter j hj), fun hstale =>
      absurd hright.symm hstale⟩⟩
    by_contra hwrong
    obtain ⟨-, ⟨j, hj, hp⟩ | ⟨j, hj, hp⟩⟩ := hset.stale (Ne.symm hwrong)
    · exact free j (hbefore j hj) (hp.symm.trans (hdone j hj))
    · exact free j (hafter j hj) hp

/-- All nodes are followed exactly if each reference settles when its turn comes. -/
lemma upToDate_refreshEach_iff {before : List RefId} (hs : Sound w.forest w.registry)
    (h : w.Refreshable) (hids : w.registry.ids = before ++ is)
    (hdone : ∀ j ∈ before, w.nodePath? j = some (w.registry.reference j).path) :
    (w.refreshEach is).1.UpToDate ↔ w.SettlesAll before is := by
  induction is generalizing w before with
  | nil =>
    rw [List.append_nil] at hids
    exact iff_of_true (fun i hi => hdone i (hids ▸ hi)) fun front i back heq => by simp at heq
  | cons i is ih =>
    have htouches := (touches_refreshOne w i).1
    have hi : i ∈ w.registry.ids := by simp [hids]
    have hnew : i ∉ before ∧ i ∉ is := by
      have hn := hs.nodup
      rw [hids, List.nodup_append, List.nodup_cons] at hn
      exact ⟨fun hib => hn.2.2 i hib i List.mem_cons_self rfl, hn.2.1.1⟩
    have hothers : ∀ j, j ≠ i →
        (w.refreshOne i).1.registry.reference j = w.registry.reference j := htouches.others
    rw [settlesAll_cons, settles_iff hs h hids hdone]
    by_cases hright : w.nodePath? i = some ((w.refreshOne i).1.registry.reference i).path
    · rw [and_iff_right hright, ← SettlesAll.congr (nodePath?_refreshOne w i)
        (knownPath?_refreshOne w i) fun j hj => hothers j (ne_of_mem_of_not_mem hj hnew.2)]
      refine ih (sound_refreshOne hs hi) (h.refreshOne i) ?_ fun j hj => ?_
      · rw [htouches.ids, hids, List.append_assoc]
        rfl
      · rw [nodePath?_refreshOne]
        rcases List.mem_append.mp hj with hj | hj
        · rw [hothers j (ne_of_mem_of_not_mem hj hnew.1)]
          exact hdone j hj
        · rw [List.mem_singleton.mp hj, hright]
    · refine iff_of_false (fun hall => hright ?_) fun hset => hright hset.1
      have hend := hall i (by rw [ids_refreshEach]; exact hi)
      rwa [nodePath?_refreshEach, refreshEach, reference_refreshEach _ hnew.2] at hend

/-- In the end a reference is as it was, or it has been moved to the path that is remembered of its node
and has the name of the node. -/
lemma reference_refreshEach_cases (hs : Sound w.forest w.registry) (h : w.Refreshable)
    (his : ∀ i ∈ is, i ∈ w.registry.ids) (hn : is.Nodup) (j : RefId) :
    (w.refreshEach is).1.registry.reference j = w.registry.reference j ∨
      w.knownPath? j = some ((w.refreshEach is).1.registry.reference j).path ∧
        w.knownPath? j ≠ some (w.registry.reference j).path ∧
          w.nodeName? j = some ((w.refreshEach is).1.registry.reference j).name := by
  induction is generalizing w with
  | nil => exact .inl rfl
  | cons i is ih =>
    rw [List.forall_mem_cons] at his
    rw [List.nodup_cons] at hn
    have htouches := (touches_refreshOne w i).1
    rw [refreshEach]
    by_cases hji : j = i
    · subst hji
      rw [reference_refreshEach _ hn.1]
      cases followed_refreshOne hs h his.1 with
      | kept same => exact .inl same
      | refused same => exact .inl same
      | moved path name behind => exact .inr ⟨path, behind, name⟩
    · have hmore := ih (sound_refreshOne hs his.1) (h.refreshOne i) (htouches.ids ▸ his.2) hn.2
      rwa [knownPath?_refreshOne, nodeName?_refreshOne, htouches.others j hji] at hmore

/-- A reference that is under the path of its node stays, provided that a wrong path that is remembered of
the node belongs to another one. -/
lemma refreshOne_eq_false_iff (hs : Sound w.forest w.registry) (h : w.Refreshable) (hall : w.UpToDate)
    (hi : i ∈ w.registry.ids) : (w.refreshOne i).2 = false ↔ (w.knownPath? i ≠ w.nodePath? i →
      ∃ j ∈ w.registry.ids, w.nodePath? j = w.knownPath? i) := by
  have hlisted : (∃ j ∈ w.registry.ids, w.nodePath? j = w.knownPath? i) ↔
      ∃ j ∈ w.registry.ids, w.knownPath? i = some (w.registry.reference j).path :=
    exists_congr fun j => and_congr_right fun hj => by rw [hall j hj, eq_comm]
  obtain ⟨k, hk, -⟩ := Reference.isBound_iff.mp (h.bound i hi)
  rw [hlisted, knownPath?_of_bound hk, hall i hi]
  have hcases := refreshes_refreshOne w i
  generalize w.refreshOne i = r at hcases ⊢
  cases hcases with
  | unbound lost => exact absurd ((h.bound i hi).symm.trans lost) (by decide)
  | kept binding alive same =>
    cases hk.symm.trans binding
    exact iff_of_true rfl fun hno => absurd (congrArg some same) hno
  | refused binding alive other taken =>
    cases hk.symm.trans binding
    obtain ⟨j, hj⟩ := Option.ne_none_iff_exists'.mp taken
    obtain ⟨hpath, hjlisted⟩ := hs.entry _ j hj
    exact iff_of_true rfl fun _ => ⟨j, hjlisted, by rw [hpath]⟩
  | moved binding alive other free =>
    cases hk.symm.trans binding
    refine iff_of_false Bool.true_eq_false.mp fun hno => ?_
    obtain ⟨j, hj, hp⟩ := hno fun hp => other (Option.some.inj hp)
    have hfound := hs.bound j hj (h.bound j hj)
    rw [← Option.some.inj hp, free] at hfound
    cases hfound

lemma reference_refreshOne_of_still (hstill : (w.refreshOne i).2 = false) (j : RefId) :
    (w.refreshOne i).1.registry.reference j = w.registry.reference j := by
  by_cases hji : j = i
  · subst hji
    have hcases := refreshes_refreshOne w j
    generalize w.refreshOne j = r at hcases hstill ⊢
    cases hcases with
    | unbound => rfl
    | kept => rfl
    | refused => rfl
    | moved => cases hstill
  · exact (touches_refreshOne w i).1.others j hji

/-- Where all nodes are followed, nothing moves, provided that each wrong path that is remembered of a node
belongs to another one. -/
lemma refreshEach_eq_zero_iff (hs : Sound w.forest w.registry) (h : w.Refreshable)
    (his : ∀ i ∈ is, i ∈ w.registry.ids) (hall : w.UpToDate) : (w.refreshEach is).2 = 0 ↔
      ∀ i ∈ is, w.knownPath? i ≠ w.nodePath? i →
        ∃ j ∈ w.registry.ids, w.nodePath? j = w.knownPath? i := by
  induction is generalizing w with
  | nil => simp [refreshEach]
  | cons i is ih =>
    rw [List.forall_mem_cons] at his ⊢
    have hids := (touches_refreshOne w i).1.ids
    have hone := refreshOne_eq_false_iff hs h hall his.1
    rw [refreshEach]
    dsimp only
    by_cases hstill : (w.refreshOne i).2 = false
    · have hmore := ih (sound_refreshOne hs his.1) (h.refreshOne i) (hids ▸ his.2) fun j hj => by
        rw [nodePath?_refreshOne, reference_refreshOne_of_still hstill]
        exact hall j (hids ▸ hj)
      simp only [nodePath?_refreshOne, knownPath?_refreshOne, hids] at hmore
      rw [← hmore, hstill, and_iff_right (hone.mp hstill)]
      rfl
    · rw [Bool.not_eq_false] at hstill
      refine iff_of_false (by simp [hstill]) fun hno => ?_
      rw [hone.mpr hno.1] at hstill
      cases hstill

end Each

lemma Refreshable.refreshEach (h : w.Refreshable) (is : List RefId) :
    (w.refreshEach is).1.Refreshable := by
  induction is generalizing w with
  | nil => exact h
  | cons i is ih => exact ih (h.refreshOne i)

/-- The keys of a sound path index whose references are all bound. -/
lemma hasPath_iff_of_upToDate (hs : Sound w.forest w.registry)
    (hbound : ∀ i ∈ w.registry.ids, (w.registry.reference i).isBound w.forest = true)
    (hall : w.UpToDate) (p : String) :
    w.registry.hasPath p = true ↔ ∃ i ∈ w.registry.ids, w.nodePath? i = some p := by
  rw [hasPath, Table.contains, Option.isSome_iff_exists]
  constructor
  · rintro ⟨i, hi⟩
    obtain ⟨hpath, hlisted⟩ := hs.entry p i hi
    exact ⟨i, hlisted, by rw [hall i hlisted, hpath]⟩
  · rintro ⟨i, hi, hp⟩
    have hpath := Option.some.inj ((hall i hi).symm.trans hp)
    exact ⟨i, hpath ▸ hs.bound i hi (hbound i hi)⟩

/-- A wrong path is remembered of the node of a reference, but does no harm: the reference has the right path
and stays, since the wrong one belongs to another reference when its turn comes and in the end. -/
structure StaysPut (w : Workspace) (before : List RefId) (i : RefId) (after : List RefId) : Prop where
  right : w.nodePath? i = some (w.registry.reference i).path
  taken : (∃ j ∈ before, w.nodePath? j = w.knownPath? i) ∨
    (∃ j ∈ after, w.knownPath? i = some (w.registry.reference j).path) ∧
      ∃ j ∈ after, w.nodePath? j = w.knownPath? i

/-- All references settle and then stay, just if none is in the way of an earlier one and those of whose
nodes a wrong path is remembered stay put. -/
lemma settlesAll_and_still_iff :
    (w.SettlesAll [] w.registry.ids ∧ ∀ i ∈ w.registry.ids, w.knownPath? i ≠ w.nodePath? i →
        ∃ j ∈ w.registry.ids, w.nodePath? j = w.knownPath? i) ↔
      w.registry.ids.Pairwise (fun i j => w.nodePath? i ≠ some (w.registry.reference j).path) ∧
        ∀ before i after, w.registry.ids = before ++ i :: after →
          w.knownPath? i ≠ w.nodePath? i → w.StaysPut before i after := by
  rw [pairwise_iff_splits]
  constructor
  · rintro ⟨hset, hstill⟩
    refine ⟨fun before i after heq => (hset before i after heq).free,
      fun before i after heq hstale => ?_⟩
    obtain ⟨hright, htaken⟩ := (hset before i after heq).stale hstale
    refine ⟨hright, ?_⟩
    obtain ⟨j, hj, hp⟩ := hstill i (by simp [heq]) hstale
    have hji : j ≠ i := by
      rintro rfl
      exact hstale hp.symm
    rw [heq] at hj
    obtain hj | hj : j ∈ before ∨ j ∈ after := by simpa [hji] using hj
    · exact .inl ⟨j, hj, hp⟩
    · exact htaken.imp id fun hlater => ⟨hlater, j, hj, hp⟩
  · rintro ⟨hfree, hput⟩
    refine ⟨fun before i after heq => ⟨hfree before i after heq, fun hstale => ?_⟩,
      fun i hi hstale => ?_⟩
    · have h := hput before i after heq hstale
      exact ⟨h.right, h.taken.imp id And.left⟩
    · obtain ⟨before, after, heq⟩ := List.append_of_mem hi
      obtain ⟨j, hj, hp⟩ | ⟨-, j, hj, hp⟩ := (hput before i after heq hstale).taken
      · exact ⟨j, by simp [heq, hj], hp⟩
      · exact ⟨j, by simp [heq, hj], hp⟩

/-- **One refresh brings all references up to date exactly if no node has got the path of a reference that
comes later, every reference with the right path has the right name as well, and every reference of
whose node a wrong path is remembered stays put.** -/
theorem current_refreshPaths_iff (hw : w.InUse) (h : w.Refreshable) :
    w.refreshPaths.1.Current ↔
      w.registry.ids.Pairwise (fun i j => w.nodePath? i ≠ some (w.registry.reference j).path) ∧
        (∀ i ∈ w.registry.ids, w.nodePath? i = some (w.registry.reference i).path →
          w.nodeName? i = some (w.registry.reference i).name) ∧
        ∀ before i after, w.registry.ids = before ++ i :: after →
          w.knownPath? i ≠ w.nodePath? i → w.StaysPut before i after := by
  have hs := hw.sound
  have hids : w.refreshPaths.1.registry.ids = w.registry.ids := ids_refreshEach w _
  have hs' : Sound w.refreshPaths.1.forest w.refreshPaths.1.registry :=
    sound_refreshEach hs fun i hi => hi
  have h' : w.refreshPaths.1.Refreshable := h.refreshEach _
  have hupToDate : w.refreshPaths.1.UpToDate ↔ w.SettlesAll [] w.registry.ids :=
    upToDate_refreshEach_iff hs h rfl fun j hj => absurd hj List.not_mem_nil
  have hcases : ∀ j, w.refreshPaths.1.registry.reference j = w.registry.reference j ∨
      w.knownPath? j = some (w.refreshPaths.1.registry.reference j).path ∧
        w.knownPath? j ≠ some (w.registry.reference j).path ∧
          w.nodeName? j = some (w.refreshPaths.1.registry.reference j).name :=
    reference_refreshEach_cases hs h (fun i hi => hi) hs.nodup
  have hpath : ∀ i, w.refreshPaths.1.nodePath? i = w.nodePath? i := nodePath?_refreshEach w _
  have hknown : ∀ i, w.refreshPaths.1.knownPath? i = w.knownPath? i := knownPath?_refreshEach w _
  have hname : ∀ i, w.refreshPaths.1.nodeName? i = w.nodeName? i := nodeName?_refreshEach w _
  have hstill : w.refreshPaths.1.UpToDate → (w.refreshPaths.1.refreshPaths.2 = 0 ↔
      ∀ i ∈ w.registry.ids, w.knownPath? i ≠ w.nodePath? i →
        ∃ j ∈ w.registry.ids, w.nodePath? j = w.knownPath? i) := by
    intro hall
    have hzero := refreshEach_eq_zero_iff hs' h' (fun i hi => hi) hall
    simp only [hpath, hknown, hids] at hzero
    rw [refreshPaths, hids]
    exact hzero
  rw [and_left_comm, ← settlesAll_and_still_iff, ← hupToDate]
  constructor
  · intro hcurrent
    refine ⟨fun i hi hright => ?_, hcurrent.path, (hstill hcurrent.path).mp hcurrent.still⟩
    obtain hsame | ⟨hmoved, hbehind, -⟩ := hcases i
    · rw [← hname, hcurrent.name i (hids ▸ hi)]
      exact congrArg (some ·.name) hsame
    · have hend := hcurrent.path i (hids ▸ hi)
      rw [hpath, hright] at hend
      exact absurd (hmoved.trans hend.symm) hbehind
  · rintro ⟨hnames, hall, hmore⟩
    refine ⟨hall, fun i hi => ?_, hasPath_iff_of_upToDate hs' h'.bound hall, (hstill hall).mpr hmore⟩
    rw [hname]
    obtain hsame | ⟨-, -, hnew⟩ := hcases i
    · have hright := hall i hi
      rw [hsame, hpath] at hright
      rw [hnames i (hids ▸ hi) hright]
      exact congrArg (some ·.name) hsame.symm
    · exact hnew

/-- Two buttons A and B are registered and get other names. -/
def renamingBoth (first second : String) : List Action :=
  [.edit (.create "A" [Component.new .button] true), .edit (.addRoot 0 1),
    .edit (.create "B" [Component.new .button] true), .edit (.addRoot 0 2),
    .add (some 1) .standard none, .add (some 2) .standard none,
    .edit (.rename 1 first), .edit (.rename 2 second)]

/-- A path that was left by an earlier reference is free for a later one. -/
theorem current_refreshPaths_of_earlier :
    let w := mainScene.run (renamingBoth "C" "A")
    (w.InUse ∧ w.Refreshable) ∧ w.refreshPaths.1.Current := by
  intro w
  have hw : w.InUse := (InUse.start _ _ _).run _
  have h : w.Refreshable := ⟨by decide +kernel, by decide +kernel⟩
  have hknown : ∀ i ∈ w.registry.ids, w.knownPath? i = w.nodePath? i := by decide +kernel
  refine ⟨⟨hw, h⟩, (current_refreshPaths_iff hw h).mpr ⟨by decide +kernel, by decide +kernel, ?_⟩⟩
  intro before i after heq hstale
  exact absurd (hknown i (by simp [heq])) hstale

/-- The first button has got the old name of the second one. The first refresh leaves its reference where
it is, and the second one moves it. -/
theorem not_current_of_later :
    let w := mainScene.run (renamingBoth "B" "C")
    w.Refreshable ∧ w.refreshPaths.1.registry.references.map (·.path) = ["A", "C"] ∧
      w.refreshPaths.1.refreshPaths.2 = 1 ∧ ¬ w.refreshPaths.1.Current := by
  intro w
  have hagain : w.refreshPaths.1.refreshPaths.2 = 1 := by decide +kernel
  refine ⟨⟨by decide +kernel, by decide +kernel⟩, by decide +kernel, hagain, ?_⟩
  exact fun hcurrent => absurd (hagain.symm.trans hcurrent.still) (by decide)

/-- Two references whose nodes have exchanged their names are never moved. -/
example :
    let w := mainScene.run (renamingBoth "B" "A")
    w.refreshPaths.2 = 0 ∧ w.refreshPaths.1.registry.references = w.registry.references := by
  decide +kernel

end Workspace

end SceneBindings
