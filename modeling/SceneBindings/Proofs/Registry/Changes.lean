import Mathlib.Tactic.Tauto
import SceneBindings.Proofs.Forest.Edits
import SceneBindings.Registry.Workspace

/-!
What can happen to the lists and the indices of a registry. Every operation is made of five
changes: a new reference, a reference dropped, one taken out of the path index, one that moves to
another path, and the rebuilding of both indices.
-/

namespace SceneBindings

open Forest

lemma Reference.isBound_iff {r : Reference} {f : Forest} :
    r.isBound f = true ↔ ∃ k, r.binding = .bound k ∧ f.IsAlive k := by
  cases hb : r.binding <;> simp [isBound, hb, Binding.node?, IsAlive]

lemma Reference.isBound_mono {r : Reference} {f g : Forest} (h : f.NoneRevived g)
    (hr : r.isBound g = true) : r.isBound f = true := by
  obtain ⟨k, hk, ha⟩ := isBound_iff.mp hr
  exact isBound_iff.mpr ⟨k, hk, h k ha⟩

lemma Binding.release_ne_bound (b : Binding) (k : Key) : b.release ≠ .bound k := by
  cases b <;> simp [release]

namespace Registry

variable {f : Forest} {g : Registry}

/-- What is found at one place is not at a place where nothing is found. -/
lemma ne_of_found {α β : Type} {find : α → Option β} {a b : α} {v : β} (ha : find a = some v)
    (hb : find b = none) : a ≠ b := by
  rintro rfl
  exact Option.some_ne_none v (ha.symm.trans hb)

/-! ### Lists -/

lemma mem_addMember {i j : RefId} {name : String} (cs : List Category) :
    j ∈ (addMember i name cs).flatMap (·.members) ↔ j = i ∨ j ∈ cs.flatMap (·.members) := by
  induction cs with
  | nil => simp [addMember]
  | cons c cs ih =>
    rw [addMember]
    split
    · simp only [List.flatMap_cons, List.mem_append, List.mem_singleton]
      tauto
    · rw [List.flatMap_cons, List.mem_append, ih, List.flatMap_cons, List.mem_append]
      tauto

lemma nodup_addMember {i : RefId} {name : String} (cs : List Category)
    (hn : (cs.flatMap (·.members)).Nodup) (hi : i ∉ cs.flatMap (·.members)) :
    ((addMember i name cs).flatMap (·.members)).Nodup := by
  induction cs with
  | nil => simp [addMember]
  | cons c cs ih =>
    rw [List.flatMap_cons, List.nodup_append] at hn
    rw [List.flatMap_cons, List.mem_append, not_or] at hi
    obtain ⟨hc, hcs, hne⟩ := hn
    rw [addMember]
    split
    · simp only [List.flatMap_cons, List.append_assoc, List.nodup_append, List.singleton_append,
        List.nodup_cons]
      refine ⟨hc, ⟨hi.2, hcs⟩, fun a ha b hb => ?_⟩
      rcases List.mem_cons.mp hb with rfl | hb
      · exact fun hab => hi.1 (hab ▸ ha)
      · exact hne a ha b hb
    · rw [List.flatMap_cons, List.nodup_append]
      refine ⟨hc, ih hcs hi.2, fun a ha b hb => ?_⟩
      rcases (mem_addMember cs).mp hb with rfl | hb
      · exact fun hab => hi.1 (hab ▸ ha)
      · exact hne a ha b hb

lemma removeMember_sublist (i : RefId) (name : String) (cs : List Category) :
    ((removeMember i name cs).flatMap (·.members)).Sublist (cs.flatMap (·.members)) := by
  induction cs with
  | nil => exact List.Sublist.refl _
  | cons c cs ih =>
    rw [removeMember]
    split
    · exact List.filter_sublist.append (List.Sublist.refl _)
    · exact (List.Sublist.refl _).append ih

lemma mem_removeMember_of_ne {i j : RefId} {name : String} {cs : List Category}
    (hj : j ∈ cs.flatMap (·.members)) (hne : j ≠ i) :
    j ∈ (removeMember i name cs).flatMap (·.members) := by
  induction cs with
  | nil => exact hj
  | cons c cs ih =>
    rw [List.flatMap_cons, List.mem_append] at hj
    rw [removeMember]
    split
    · rw [List.flatMap_cons, List.mem_append]
      exact hj.imp (fun h => List.mem_filter.mpr ⟨h, by simpa using hne⟩) id
    · rw [List.flatMap_cons, List.mem_append]
      exact hj.imp id ih

/-! ### References -/

lemma reference_modify (g : Registry) (i j : RefId) (h : Reference → Reference) :
    (g.modify i h).reference j =
      if j = i ∧ i < g.store.length then h (g.reference i) else g.reference j := by
  simp only [modify, reference, List.getElem?_modify]
  by_cases hij : i = j
  · subst hij
    by_cases hi : i < g.store.length
    · simp [hi]
    · simp [hi]
  · have hji : ¬ j = i := fun h => hij h.symm
    cases g.store[j]? <;> simp [hij, hji]

lemma modify_congr {i : RefId} {u v : Reference → Reference}
    (h : u (g.reference i) = v (g.reference i)) : g.modify i u = g.modify i v := by
  have hs : g.store.modify i u = g.store.modify i v := by
    apply List.ext_getElem?
    intro j
    simp only [List.getElem?_modify]
    split
    · next hij =>
      subst hij
      cases hi : g.store[i]? with
      | none => rfl
      | some r => simpa [reference, hi] using h
    · rfl
  simp only [modify, hs]

lemma reference_append (g : Registry) (r : Reference) (j : RefId) (hj : j < g.store.length) :
    ({ g with store := g.store ++ [r] } : Registry).reference j = g.reference j := by
  simp [reference, List.getElem?_append_left hj]

lemma reference_append_self (g : Registry) (r : Reference) :
    ({ g with store := g.store ++ [r] } : Registry).reference g.store.length = r := by
  simp [reference]

/-! ### What a change does -/

/-- Takes a reference out of the path index, if it stands there. -/
def unindex (g : Registry) (i : RefId) : Registry :=
  { g with
    byPath :=
      if g.byPath.get? (g.reference i).path = some i then g.byPath.erase (g.reference i).path
      else g.byPath }

/-- Gives a reference a path, a name and a node, and enters it in both indices. -/
def relocate (g : Registry) (f : Forest) (i : RefId) (path name : String) (k : Key) : Registry :=
  ((g.unindex i).modify i fun r => { r with path, name, binding := .bound k }).index f i

inductive Change (f : Forest) (g : Registry) : Registry → Prop where
  | same : Change f g g
  | insert {r : Reference} {k : Key} (binding : r.binding = .bound k)
      (free : g.findPath? r.path = none) (new : g.byKey.get? k = none) :
      Change f g (g.insert f r).1
  | drop {i : RefId} (known : i ∈ g.ids ∨ ∃ p, g.findPath? p = some i) :
      Change f g (g.drop f i).1
  | unindex {i : RefId} (listed : i ∈ g.ids) (lost : (g.reference i).isBound f = false) :
      Change f g (g.unindex i)
  | repair {i : RefId} {k : Key} {path : String} (listed : i ∈ g.ids)
      (lost : (g.reference i).isBound f = false) (new : g.byKey.get? k = none)
      (free : (g.unindex i).findPath? path = none) :
      Change f g (g.relocate f i path (g.reference i).name k)
  | refresh {i : RefId} {k : Key} {path name : String} (listed : i ∈ g.ids)
      (binding : (g.reference i).binding = .bound k) (alive : f.IsAlive k)
      (free : g.findPath? path = none) : Change f g (g.relocate f i path name k)

lemma hasPath_eq_false {p : String} : g.hasPath p = false ↔ g.findPath? p = none := by
  simp [hasPath, Table.contains, findPath?]

lemma hasKey_eq_false {k : Key} : g.hasKey k = false ↔ g.byKey.get? k = none := by
  simp [hasKey, Table.contains]

lemma findPath?_unindex (g : Registry) (i : RefId) (p : String) :
    (g.unindex i).findPath? p =
      if p = (g.reference i).path ∧ g.findPath? p = some i then none else g.findPath? p := by
  simp only [unindex, findPath?]
  split
  · rw [Table.get?_erase]
    grind
  · grind

lemma findPath?_index (g : Registry) (f : Forest) (i : RefId) (p : String) :
    (g.index f i).findPath? p =
      if p = (g.reference i).path then some i else g.findPath? p := by
  simp only [index, findPath?, Table.get?_put]
  grind

lemma byKey_index {i : RefId} {k : Key} (hb : (g.reference i).binding = .bound k) (j : Key) :
    (g.index f i).byKey.get? j =
      if j = k ∧ f.IsAlive k then some (g.reference i).path else g.byKey.get? j := by
  simp only [index, hb, Binding.node?]
  split
  · next h =>
    have hk : f.IsAlive k := by
      obtain ⟨k', hk', ha⟩ := Reference.isBound_iff.mp h
      rw [hb] at hk'
      cases hk'
      exact ha
    rw [Table.get?_put]
    grind
  · next h =>
    have hk : ¬ f.IsAlive k := fun ha => h (Reference.isBound_iff.mpr ⟨k, hb, ha⟩)
    simp [hk]

lemma insert_eq_index (g : Registry) (f : Forest) (r : Reference) :
    ∃ u : Registry, (g.insert f r).1 = u.index f g.store.length ∧
      u.reference g.store.length = r ∧ u.byPath = g.byPath ∧ u.byKey = g.byKey :=
  ⟨_, rfl, by simp [reference], rfl, rfl⟩

lemma findPath?_insert (g : Registry) (f : Forest) (r : Reference) (p : String) :
    (g.insert f r).1.findPath? p =
      if p = r.path then some g.store.length else g.findPath? p := by
  obtain ⟨u, hu, hr, hp, -⟩ := insert_eq_index g f r
  rw [hu, findPath?_index, hr, findPath?, hp, findPath?]

lemma hasPath_insert {r : Reference} {p : String} :
    (g.insert f r).1.hasPath p = true ↔ r.path = p ∨ g.hasPath p = true := by
  change ((g.insert f r).1.findPath? p).isSome = true ↔ r.path = p ∨ (g.findPath? p).isSome = true
  rw [findPath?_insert]
  by_cases hp : p = r.path
  · simp [hp]
  · simp [hp, Ne.symm hp]

lemma byKey_insert {r : Reference} {k : Key} (hb : r.binding = .bound k) (j : Key) :
    (g.insert f r).1.byKey.get? j =
      if j = k ∧ f.IsAlive k then some r.path else g.byKey.get? j := by
  obtain ⟨u, hu, hr, -, hk⟩ := insert_eq_index g f r
  rw [hu, byKey_index (k := k) (hr ▸ hb), hr, hk]

lemma noneRevived_drop (g : Registry) (f : Forest) (i : RefId) :
    f.NoneRevived (g.drop f i).2 := by
  simp only [drop]
  cases (g.reference i).binding.node? with
  | none => exact .refl f
  | some k =>
    dsimp only
    split
    · exact .setActive f k false
    · exact .refl f

lemma unindex_eq (g : Registry) (i : RefId) :
    g.unindex i = if g.byPath.get? (g.reference i).path = some i then
      { g with byPath := g.byPath.erase (g.reference i).path } else g := by
  rw [unindex]
  split <;> rfl

/-- The registry without a reference: out of its category and the indices, its node let go. -/
def without (g : Registry) (i : RefId) : Registry :=
  { g.modify i fun r => { r with binding := r.binding.release } with
    byPath := (g.unindex i).byPath
    byKey := (g.reference i).binding.lastKey?.elim g.byKey fun k =>
      if g.byKey.get? k = some (g.reference i).path then g.byKey.erase k else g.byKey
    categories := removeMember i (g.reference i).capability.label g.categories }

/-- Dropping a reference does that, and may switch a panel off. -/
lemma drop_eq (g : Registry) (f : Forest) (i : RefId) :
    ∃ active last, (g.drop f i).1 = { g.without i with active, lastActive := last } := by
  simp only [drop, without]
  cases (g.reference i).binding.lastKey? <;> cases (g.reference i).binding.node? with
  | none => exact ⟨_, _, rfl⟩
  | some k => cases hk : g.active.contains k <;> simp only [hk] <;> exact ⟨_, _, rfl⟩

lemma ids_drop (g : Registry) (f : Forest) (i : RefId) :
    (g.drop f i).1.ids =
      (removeMember i (g.reference i).capability.label g.categories).flatMap (·.members) := by
  obtain ⟨active, last, hdrop⟩ := drop_eq g f i
  rw [hdrop]
  rfl

lemma store_drop (g : Registry) (f : Forest) (i : RefId) :
    (g.drop f i).1.store = g.store.modify i fun r => { r with binding := r.binding.release } := by
  obtain ⟨active, last, hdrop⟩ := drop_eq g f i
  rw [hdrop]
  rfl

lemma byPath_drop (g : Registry) (f : Forest) (i : RefId) :
    (g.drop f i).1.byPath = (g.unindex i).byPath := by
  obtain ⟨active, last, hdrop⟩ := drop_eq g f i
  rw [hdrop]
  rfl

lemma byKey_drop (g : Registry) (f : Forest) (i : RefId) (k : Key) :
    (g.drop f i).1.byKey.get? k =
      if (g.reference i).binding.lastKey? = some k ∧ g.byKey.get? k = some (g.reference i).path
      then none else g.byKey.get? k := by
  obtain ⟨active, last, hdrop⟩ := drop_eq g f i
  rw [hdrop, without]
  cases (g.reference i).binding.lastKey? with
  | none => simp
  | some j => grind

lemma reference_drop (g : Registry) (f : Forest) (i j : RefId) :
    (g.drop f i).1.reference j =
      if j = i then { g.reference i with binding := (g.reference i).binding.release }
      else g.reference j := by
  have hs : (g.drop f i).1.reference j =
      (g.modify i fun r => { r with binding := r.binding.release }).reference j := by
    simp only [reference, store_drop, modify]
  rw [hs, reference_modify]
  by_cases hji : j = i
  · subst hji
    by_cases hj : j < g.store.length
    · simp [hj]
    · simp [hj, reference, Binding.release]
  · simp [hji]

lemma findPath?_drop (g : Registry) (f : Forest) (i : RefId) (p : String) :
    (g.drop f i).1.findPath? p =
      if p = (g.reference i).path ∧ g.findPath? p = some i then none else g.findPath? p := by
  rw [← findPath?_unindex, findPath?, byPath_drop, findPath?]

/-- A reference that keeps its name is entered elsewhere under it. -/
lemma index_modify_eq_relocate (g : Registry) (f : Forest) (i : RefId) (path : String) (k : Key) :
    ((g.unindex i).modify i fun r => { r with path, binding := .bound k }).index f i =
      g.relocate f i path (g.reference i).name k := by
  rw [relocate, modify_congr]
  rfl

/-- A reference that stands in the path index and keeps its node is entered elsewhere. -/
lemma index_modify_erase_eq_relocate {i : RefId} {k : Key} (path name : String)
    (hp : g.findPath? (g.reference i).path = some i) (hb : (g.reference i).binding = .bound k) :
    ({ g with byPath := g.byPath.erase (g.reference i).path }.modify i fun r =>
      { r with path, name }).index f i = g.relocate f i path name k := by
  have hun : g.unindex i = { g with byPath := g.byPath.erase (g.reference i).path } :=
    (unindex_eq g i).trans (if_pos hp)
  rw [relocate, ← hun, modify_congr]
  exact congrArg (Reference.mk _ _ _) hb

section Relocate

variable {i : RefId} (path name : String) (k : Key)

variable (hi : i < g.store.length)
include hi

lemma reference_relocate (j : RefId) :
    (g.relocate f i path name k).reference j =
      if j = i then { g.reference i with path, name, binding := .bound k }
      else g.reference j := by
  refine (reference_modify (g.unindex i) i j _).trans ?_
  rw [show (g.unindex i).store = g.store from rfl]
  simp only [hi, and_true]
  rfl

lemma relocate_eq_index :
    ∃ u : Registry, g.relocate f i path name k = u.index f i ∧
      (u.reference i).path = path ∧ (u.reference i).binding = .bound k ∧
      u.byPath = (g.unindex i).byPath ∧ u.byKey = g.byKey := by
  refine ⟨_, rfl, ?_, ?_, rfl, rfl⟩ <;> rw [reference_modify, if_pos ⟨rfl, hi⟩]

lemma findPath?_relocate (p : String) :
    (g.relocate f i path name k).findPath? p =
      if p = path then some i else (g.unindex i).findPath? p := by
  obtain ⟨u, hu, hr, -, hp, -⟩ := relocate_eq_index (f := f) path name k hi
  rw [hu, findPath?_index, hr, findPath?, hp, findPath?]

lemma byKey_relocate (j : Key) :
    (g.relocate f i path name k).byKey.get? j =
      if j = k ∧ f.IsAlive k then some path else g.byKey.get? j := by
  obtain ⟨u, hu, hr, hb, -, hk⟩ := relocate_eq_index (f := f) path name k hi
  rw [hu, byKey_index hb, hr, hk]

end Relocate

end Registry

end SceneBindings
