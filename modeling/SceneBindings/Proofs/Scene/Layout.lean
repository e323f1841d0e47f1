import SceneBindings.Proofs.Forest.Housing
import SceneBindings.Scene.Loading

/-!
How a described tree lies in a forest. A description takes up consecutive keys in hierarchy order,
so a subtree is a range of keys and a parent has a smaller key than its children. Names and what
components hold play no part in this, so renaming leaves the layout alone.
-/

namespace SceneBindings

/-- What finding parts leaves alone of a component: its kind, and what a node keeps it under. -/
def Component.bare (c : Component) : Component :=
  ⟨c.kind, ⟨[("type_name", c.label)]⟩, .empty, none⟩

lemma Component.label_bare (c : Component) : c.bare.label = c.label := rfl

/-- What neither renaming nor finding parts changes of a node. -/
def Node.shape (n : Node) : Node :=
  { n with name := "", components := n.components.map Component.bare }

namespace Forest

/-- The components that a list of entries describes, if all of them can be made. -/
def described (entries : List Value) : List (Component × Value) :=
  match describedComponents entries with
  | .ok cs => cs
  | .error _ => []

/-- Puts a component with its entry in the place of the one of its label, or after all others. -/
def putEntry (es : List (Component × Value)) (e : Component × Value) : List (Component × Value) :=
  if es.any fun d => d.1.label.sameKey e.1.label then
    es.map fun d => if d.1.label.sameKey e.1.label then e else d
  else es ++ [e]

/-- Of several components with one label the last takes the place of the first. -/
def installed (es : List (Component × Value)) : List (Component × Value) := es.foldl putEntry []

end Forest

namespace NodeSpec

mutual

def size : NodeSpec → Nat
  | ⟨_, _, _, children⟩ => sizeAll children + 1

def sizeAll : List NodeSpec → Nat
  | [] => 0
  | t :: ts => t.size + sizeAll ts

end

/-- The keys of siblings, the first of which has key `k`. -/
def keysFrom (k : Key) : List NodeSpec → List Key
  | [] => []
  | t :: ts => k :: keysFrom (k + t.size) ts

/-- The components that a node gets from a list of entries, without what they hold. -/
def bares (entries : List Value) : List Component :=
  ((Forest.installed (Forest.described entries)).map (·.1)).map Component.bare

mutual

/-- The names of a tree in hierarchy order. -/
def names : NodeSpec → List String
  | ⟨name, _, _, children⟩ => name :: namesAll children

def namesAll : List NodeSpec → List String
  | [] => []
  | t :: ts => t.names ++ namesAll ts

end

mutual

/-- The component entries of a tree in hierarchy order, a list for each node. -/
def entries : NodeSpec → List (List Value)
  | ⟨_, _, components, children⟩ => components :: entriesAll children

def entriesAll : List NodeSpec → List (List Value)
  | [] => []
  | t :: ts => t.entries ++ entriesAll ts

end

mutual

/-- The shapes of a tree in hierarchy order, if the keys from `k` on are taken up. -/
def shapes (s : Option SceneId) (p : Option Key) (k : Key) : NodeSpec → List Node
  | ⟨_, active, entries, children⟩ =>
    ⟨"", p, keysFrom (k + 1) children, bares entries, active, false, s⟩ ::
      shapesAll s (some k) (k + 1) children

def shapesAll (s : Option SceneId) (p : Option Key) (k : Key) : List NodeSpec → List Node
  | [] => []
  | t :: ts => t.shapes s p k ++ shapesAll s p (k + t.size) ts

end

variable {s : Option SceneId} {p : Option Key} {c k : Nat} {t : NodeSpec} {ts : List NodeSpec}

lemma size_pos (t : NodeSpec) : 0 < t.size := by
  cases t
  rw [size]
  exact Nat.succ_pos _

mutual

theorem length_shapes (s : Option SceneId) (p : Option Key) (k : Key) (t : NodeSpec) :
    (t.shapes s p k).length = t.size := by
  cases t with
  | mk name active entries children =>
    rw [shapes, size, List.length_cons, length_shapesAll s (some k) (k + 1) children]

theorem length_shapesAll (s : Option SceneId) (p : Option Key) (k : Key) (ts : List NodeSpec) :
    (shapesAll s p k ts).length = sizeAll ts := by
  cases ts with
  | nil => rfl
  | cons t ts =>
    rw [shapesAll, sizeAll, List.length_append, length_shapes s p k t,
      length_shapesAll s p (k + t.size) ts]

end

mutual

theorem map_shapes (s s' : Option SceneId) (p : Option Key) (k : Key) (t : NodeSpec) :
    (t.shapes s p k).map (fun n => { n with scene := s' }) = t.shapes s' p k := by
  cases t with
  | mk name active entries children =>
    rw [shapes, shapes, List.map_cons, map_shapesAll s s' (some k) (k + 1) children]

theorem map_shapesAll (s s' : Option SceneId) (p : Option Key) (k : Key) (ts : List NodeSpec) :
    (shapesAll s p k ts).map (fun n => { n with scene := s' }) = shapesAll s' p k ts := by
  cases ts with
  | nil => rfl
  | cons t ts =>
    rw [shapesAll, shapesAll, List.map_append, map_shapes s s' p k t,
      map_shapesAll s s' p (k + t.size) ts]

end

lemma keysFrom_bounds (hc : c ∈ keysFrom k ts) : k ≤ c ∧ c < k + sizeAll ts := by
  induction ts generalizing k with
  | nil => cases hc
  | cons t ts ih =>
    have hpos := t.size_pos
    rw [keysFrom] at hc
    rw [sizeAll]
    rcases List.mem_cons.mp hc with rfl | hc
    · omega
    · have := ih hc
      omega

lemma pairwise_keysFrom (k : Nat) (ts : List NodeSpec) : (keysFrom k ts).Pairwise (· < ·) := by
  induction ts generalizing k with
  | nil => exact .nil
  | cons t ts ih =>
    rw [keysFrom]
    exact .cons (fun c hc => Nat.lt_of_lt_of_le (Nat.lt_add_of_pos_right t.size_pos)
      (keysFrom_bounds hc).1) (ih _)

lemma nodup_keysFrom (k : Key) (ts : List NodeSpec) : (keysFrom k ts).Nodup :=
  (pairwise_keysFrom k ts).imp Nat.ne_of_lt

end NodeSpec

namespace Forest

open NodeSpec

/-- The nodes from a key on have the shapes of a list. -/
def Shows (f : Forest) (k : Key) : List Node → Prop
  | [] => True
  | n :: ns => f.IsNode k ∧ (f.node k).shape = n ∧ f.Shows (k + 1) ns

variable {f g : Forest} {s : Option SceneId} {p : Option Key} {c j k : Nat} {t : NodeSpec}
  {ts : List NodeSpec} {ns ms : List Node}

lemma shows_append : f.Shows k (ns ++ ms) ↔ f.Shows k ns ∧ f.Shows (k + ns.length) ms := by
  induction ns generalizing k with
  | nil => simp [Shows]
  | cons n ns ih =>
    rw [List.cons_append, Shows, Shows, ih, List.length_cons, and_assoc, and_assoc,
      Nat.add_right_comm, Nat.add_assoc]

lemma Shows.isNode (h : f.Shows k ns) (hj : k ≤ j) (hjk : j < k + ns.length) : f.IsNode j := by
  induction ns generalizing k with
  | nil =>
    rw [List.length_nil] at hjk
    omega
  | cons n ns ih =>
    rw [List.length_cons] at hjk
    rcases Nat.eq_or_lt_of_le hj with rfl | hlt
    · exact h.1
    · exact ih h.2.2 hlt (by omega)

lemma Shows.map (h : f.Shows k ns) {u : Node → Node}
    (hnode : ∀ j, k ≤ j → j < k + ns.length → f.IsNode j →
      g.IsNode j ∧ (g.node j).shape = u (f.node j).shape) : g.Shows k (ns.map u) := by
  induction ns generalizing k with
  | nil => trivial
  | cons n ns ih =>
    rw [List.length_cons] at hnode
    obtain ⟨hk, hn⟩ := hnode k (Nat.le_refl k) (by omega) h.1
    refine ⟨hk, hn.trans (congrArg u h.2.1), ih h.2.2 fun j hj hjk => ?_⟩
    exact hnode j (by omega) (by omega)

lemma Shows.congr (h : f.Shows k ns) (hnode : ∀ j, k ≤ j → j < k + ns.length → f.IsNode j →
    g.IsNode j ∧ (g.node j).shape = (f.node j).shape) : g.Shows k ns := by
  have hmap := h.map (u := id) hnode
  rwa [List.map_id] at hmap

lemma shows_cons_shapes : f.Shows k (shapesAll s p k (t :: ts)) ↔
    f.Shows k (t.shapes s p k) ∧ f.Shows (k + t.size) (shapesAll s p (k + t.size) ts) := by
  rw [shapesAll, shows_append, length_shapes]

/-! ### Subtrees -/

mutual

/-- A subtree is a range of keys. -/
theorem subtreeTo_of_shows {t : NodeSpec} {k : Nat} {p : Option Key}
    (h : f.Shows k (t.shapes s p k)) {n : Nat} (hn : t.size ≤ n) :
    f.subtreeTo n k = List.range' k t.size := by
  cases t with
  | mk name active entries children =>
    rw [size] at hn
    obtain ⟨n, rfl⟩ : ∃ m, n = m + 1 := ⟨n - 1, by omega⟩
    rw [shapes] at h
    have hchildren : (f.node k).children = keysFrom (k + 1) children :=
      congrArg Node.children h.2.1
    rw [subtreeTo, hchildren, size, List.range'_succ,
      flatMap_subtreeTo_of_shows h.2.2 (Nat.le_of_succ_le_succ hn)]

theorem flatMap_subtreeTo_of_shows {ts : List NodeSpec} {k : Nat} {p : Option Key}
    (h : f.Shows k (shapesAll s p k ts)) {n : Nat} (hn : sizeAll ts ≤ n) :
    (keysFrom k ts).flatMap (f.subtreeTo n) = List.range' k (sizeAll ts) := by
  cases ts with
  | nil => rfl
  | cons t ts =>
    rw [sizeAll] at hn
    obtain ⟨hfirst, hrest⟩ := shows_cons_shapes.mp h
    rw [keysFrom, List.flatMap_cons, sizeAll, subtreeTo_of_shows hfirst (by omega),
      flatMap_subtreeTo_of_shows hrest (by omega), List.range'_append_1]

end

/-! ### Relations of the nodes -/

lemma parent_of_shows (h : f.Shows k (t.shapes s p k)) : (f.node k).parent = p := by
  cases t
  exact congrArg Node.parent h.2.1

lemma parent_of_shows_of_mem (h : f.Shows k (shapesAll s p k ts)) (hj : j ∈ keysFrom k ts) :
    (f.node j).parent = p := by
  induction ts generalizing k with
  | nil => cases hj
  | cons t ts ih =>
    obtain ⟨hfirst, hrest⟩ := shows_cons_shapes.mp h
    rw [keysFrom] at hj
    rcases List.mem_cons.mp hj with rfl | hj
    · exact parent_of_shows hfirst
    · exact ih hrest hj

/-- How a node stands among those of a range of keys that ends at `e`. -/
structure Stands (f : Forest) (s : Option SceneId) (e j : Nat) : Prop where
  scene : (f.node j).scene = s
  alive : f.IsAlive j
  nodup : (f.node j).children.Nodup
  children : ∀ c : Nat, c ∈ (f.node j).children → j < c ∧ c < e ∧ f.IsChild j c

lemma Stands.mono {e e' : Nat} (h : f.Stands s e j) (he : e ≤ e') : f.Stands s e' j :=
  { h with children := fun c hc => (h.children c hc).imp_right (And.imp_left (Nat.lt_of_lt_of_le · he)) }

mutual

theorem stands_of_shows {t : NodeSpec} {k : Nat} {p : Option Key}
    (h : f.Shows k (t.shapes s p k)) {j : Nat} (hj : k ≤ j) (hjk : j < k + t.size) :
    f.Stands s (k + t.size) j := by
  cases t with
  | mk name active entries children =>
    rw [shapes] at h
    rw [size] at hjk ⊢
    have hshape := h.2.1
    rcases Nat.eq_or_lt_of_le hj with rfl | hlt
    · have hchildren : (f.node k).children = keysFrom (k + 1) children :=
        congrArg Node.children hshape
      refine ⟨congrArg Node.scene hshape, congrArg Node.destroyed hshape, ?_, fun c hc => ?_⟩
      · rw [hchildren]
        exact nodup_keysFrom _ _
      · rw [hchildren] at hc
        have hbounds := keysFrom_bounds hc
        exact ⟨by omega, by omega, parent_of_shows_of_mem h.2.2 hc⟩
    · have := stands_of_shows_all h.2.2 hlt (by omega)
      exact this.mono (by omega)

theorem stands_of_shows_all {ts : List NodeSpec} {k : Nat} {p : Option Key}
    (h : f.Shows k (shapesAll s p k ts)) {j : Nat} (hj : k ≤ j) (hjk : j < k + sizeAll ts) :
    f.Stands s (k + sizeAll ts) j := by
  cases ts with
  | nil =>
    rw [sizeAll] at hjk
    omega
  | cons t ts =>
    rw [sizeAll] at hjk ⊢
    obtain ⟨hfirst, hrest⟩ := shows_cons_shapes.mp h
    rcases Nat.lt_or_ge j (k + t.size) with hlt | hge
    · exact (stands_of_shows hfirst hj hlt).mono (by omega)
    · exact (stands_of_shows_all hrest hge (by omega)).mono (by omega)

end

mutual

/-- Below its root, every node of a tree is a child of a node of the tree. -/
theorem listed_of_shows {t : NodeSpec} {k : Nat} {p : Option Key}
    (h : f.Shows k (t.shapes s p k)) {j : Nat} (hj : k < j) (hjk : j < k + t.size) :
    ∃ q, (f.node j).parent = some q ∧ j ∈ (f.node q).children := by
  cases t with
  | mk name active entries children =>
    rw [shapes] at h
    rw [size] at hjk
    rcases listed_of_shows_all h.2.2 hj (by omega) with hmem | hlisted
    · refine ⟨k, parent_of_shows_of_mem h.2.2 hmem, ?_⟩
      rwa [show (f.node k).children = keysFrom (k + 1) children from congrArg Node.children h.2.1]
    · exact hlisted

theorem listed_of_shows_all {ts : List NodeSpec} {k : Nat} {p : Option Key}
    (h : f.Shows k (shapesAll s p k ts)) {j : Nat} (hj : k ≤ j) (hjk : j < k + sizeAll ts) :
    j ∈ keysFrom k ts ∨ ∃ q, (f.node j).parent = some q ∧ j ∈ (f.node q).children := by
  cases ts with
  | nil =>
    rw [sizeAll] at hjk
    omega
  | cons t ts =>
    rw [sizeAll] at hjk
    obtain ⟨hfirst, hrest⟩ := shows_cons_shapes.mp h
    rw [keysFrom, List.mem_cons]
    rcases Nat.eq_or_lt_of_le hj with rfl | hlt
    · exact .inl (.inl rfl)
    · rcases Nat.lt_or_ge j (k + t.size) with hin | hout
      · exact .inr (listed_of_shows hfirst hlt hin)
      · exact (listed_of_shows_all hrest hout (by omega)).imp_left .inr

end

end Forest

end SceneBindings
