import SceneBindings.Proofs.Forest.Housing
import SceneBindings.Proofs.Search.Snapshot

/-!
What an index answers. Its tables are filled by a snapshot and, later, by the questions themselves;
as long as the forest stays as it is, every entry is right, so the order of the questions is of no
consequence.
-/

namespace SceneBindings.SearchIndex

open Forest

variable {f : Forest} {P : Key → Prop} {q : String} {k : Key} {x y : SearchIndex}

/-- The tables are right on some nodes, and what is expanded is on all that the scene shows. -/
structure Exact (f : Forest) (P : Key → Prop) (x : SearchIndex) : Prop where
  direct : ∀ k b, P k → x.direct.get? k = some b → (b = true ↔ f.Matches x.query k)
  subtree : ∀ k b, P k → x.subtree.get? k = some b → (b = true ↔ f.MatchesWithin x.query k)
  expanded : ∀ k ∈ f.walk x.scene, (k ∈ x.expanded ↔ f.MatchesBelow x.query k)

/-- A set of nodes that holds whole trees only, and no key that is not a node's. -/
structure Trees (f : Forest) (P : Key → Prop) : Prop where
  isNode : ∀ k, P k → f.IsNode k
  whole : ∀ p c, f.IsChild p c → (P c ↔ P p)

lemma trees_isNode (hf : f.WellFormed) : Trees f f.IsNode :=
  ⟨fun _ h => h, fun _ _ h => iff_of_true h.isNode (hf.isNode_parent h)⟩

/-! ### Catching up -/

lemma sync_of_seen (h : x.seen = f.changes.length) : x.sync f = x := by
  rw [sync, h, Nat.sub_self, ← h]
  simp

lemma seen_sync (x : SearchIndex) (f : Forest) : (x.sync f).seen = f.changes.length := by
  rw [sync]
  split <;> rfl

lemma query_sync (x : SearchIndex) (f : Forest) : (x.sync f).query = x.query := by
  rw [sync]
  split <;> rfl

lemma scene_sync (x : SearchIndex) (f : Forest) : (x.sync f).scene = x.scene := by
  rw [sync]
  split <;> rfl

lemma attached_sync (x : SearchIndex) (f : Forest) : (x.sync f).attached = x.attached := by
  rw [sync]
  split <;> rfl

/-- Once it has caught up, an index with a query has computed nothing or nothing wrong. -/
def Settled (f : Forest) (P : Key → Prop) (x : SearchIndex) : Prop :=
  x.query ≠ "" → (x.sync f).computed = true → Exact f P (x.sync f)

lemma settled_of_exact (hseen : x.seen = f.changes.length) (h : Exact f P x) : Settled f P x := by
  intro _ _
  rwa [sync_of_seen hseen]

/-! ### Refreshing -/

lemma refresh_fields (x : SearchIndex) (f : Forest) (snapshot : Option (List Key)) :
    (x.refresh f snapshot).seen = f.changes.length ∧
      (x.refresh f snapshot).query = x.query ∧ (x.refresh f snapshot).scene = x.scene ∧
      (x.refresh f snapshot).attached = x.attached ∧ (x.refresh f snapshot).computed = true := by
  have hfields := And.intro (seen_sync x f)
    (And.intro (query_sync x f) (And.intro (scene_sync x f) (attached_sync x f)))
  rw [refresh]
  split
  · simpa [discard] using hfields
  · simpa [discard] using hfields

lemma exact_refresh (hf : f.WellFormed) (hq : x.query ≠ "") {snapshot : Option (List Key)}
    (hsnapshot : ∀ nodes, snapshot = some nodes → nodes.Perm (f.walk x.scene)) (P : Key → Prop) :
    Exact f P (x.refresh f snapshot) := by
  obtain ⟨nodes, hnodes⟩ : ∃ nodes, nodes = snapshot.getD (f.walk x.scene) := ⟨_, rfl⟩
  have hmem : ∀ k, k ∈ nodes ↔ k ∈ f.walk x.scene := by
    intro k
    rw [hnodes]
    cases hs : snapshot with
    | none => rfl
    | some ns => exact (hsnapshot ns hs).mem_iff
  have hempty : ((x.sync f).discard.query.isEmpty) = false := by
    rw [discard, query_sync, ← Bool.not_eq_true, String.isEmpty_iff]
    exact hq
  have hx : x.refresh f snapshot = { (x.sync f).discard with
      computed := true
      direct := computeDirect f x.query nodes
      subtree := computeSubtree f (computeDirect f x.query nodes) nodes
      expanded := computeExpanded f (computeDirect f x.query nodes) nodes } := by
    rw [refresh, if_neg (by rw [hempty]; exact Bool.false_ne_true), hnodes]
    simp only [discard, query_sync, scene_sync]
  have hdirect : ∀ k ∈ nodes,
      (isDirect (computeDirect f x.query nodes) k = true ↔ f.Matches x.query k) :=
    fun k hk => isDirect_computeDirect hk
  have hclosed : ∀ k ∈ nodes, ∀ c, f.IsChild k c → c ∈ nodes := by
    intro k hk c hc
    rw [hmem] at hk ⊢
    exact hf.mem_walk_of_within hk (.single hc)
  rw [hx]
  refine ⟨fun k b _ hb => ?_, fun k b _ hb => ?_, fun k hk => ?_⟩
  · simp only [discard, query_sync, get?_computeDirect] at hb ⊢
    split at hb
    · cases hb
      exact nameMatches_iff
    · cases hb
  · simp only [discard, query_sync] at hb ⊢
    exact (computeSubtree_spec hf hdirect hclosed).1 k b hb
  · simp only [discard, query_sync, scene_sync] at hk ⊢
    rw [mem_computeExpanded hf fun k hk => hf.isNode_of_mem_walk ((hmem k).mp hk), MatchesBelow]
    constructor
    · rintro ⟨d, hd, hm, hbelow⟩
      exact ⟨d, hbelow, (hdirect d hd).mp hm⟩
    · rintro ⟨d, hbelow, hm⟩
      have hd : d ∈ nodes := (hmem d).mpr (hf.mem_walk_of_within hk hbelow.to_reflTransGen)
      exact ⟨d, hd, (hdirect d hd).mpr hm, hbelow⟩

/-! ### Deciding -/

/-- Work on the two tables only. -/
def Keeps (x y : SearchIndex) : Prop := ∃ d t, y = { x with direct := d, subtree := t }

lemma Keeps.refl (x : SearchIndex) : Keeps x x := ⟨x.direct, x.subtree, rfl⟩

lemma Keeps.trans {z : SearchIndex} (hxy : Keeps x y) (hyz : Keeps y z) : Keeps x z := by
  obtain ⟨d, t, rfl⟩ := hxy
  obtain ⟨d', t', rfl⟩ := hyz
  exact ⟨d', t', rfl⟩

lemma Keeps.query (h : Keeps x y) : y.query = x.query := by
  obtain ⟨d, t, rfl⟩ := h
  rfl

lemma decideDirect_keeps (x : SearchIndex) (f : Forest) (k : Key) :
    Keeps x (x.decideDirect f k).1 := by
  rw [decideDirect]
  split
  · exact .refl x
  · exact ⟨_, x.subtree, rfl⟩

lemma exact_decideDirect (h : Exact f P x) (k : Key) : Exact f P (x.decideDirect f k).1 := by
  rw [decideDirect]
  split
  · exact h
  · refine ⟨fun j b hj hb => ?_, h.subtree, h.expanded⟩
    simp only [Table.get?_put] at hb
    split at hb
    · next hkj =>
      cases hb
      rw [← hkj]
      exact nameMatches_iff
    · exact h.direct j b hj hb

lemma decideDirect_iff (h : Exact f P x) (hk : P k) :
    (x.decideDirect f k).2 = true ↔ f.Matches x.query k := by
  rw [decideDirect]
  split
  · next b hb => exact h.direct k b hk hb
  · exact nameMatches_iff

/-- A search over some nodes keeps what each step keeps and finds whom one step would. -/
lemma anyOf_spec {decide : SearchIndex → Key → SearchIndex × Bool} {I : SearchIndex → Prop}
    (R : Key → Prop) (ks : List Key) (hkeeps : ∀ k ∈ ks, ∀ x, I x → I (decide x k).1)
    (x : SearchIndex) (hx : I x) :
    I (anyOf decide x ks).1 ∧ ((∀ k ∈ ks, ∀ x, I x → ((decide x k).2 = true ↔ R k)) →
      ((anyOf decide x ks).2 = true ↔ ∃ k ∈ ks, R k)) := by
  induction ks generalizing x with
  | nil => exact ⟨hx, fun _ => by simp [anyOf]⟩
  | cons k ks ih =>
    rw [List.forall_mem_cons] at hkeeps
    have hnext := hkeeps.1 x hx
    rw [anyOf, List.forall_mem_cons, List.exists_mem_cons_iff]
    split
    · next y hy =>
      rw [hy] at hnext
      refine ⟨hnext, fun hright => iff_of_true rfl (.inl ((hright.1 x hx).mp ?_))⟩
      rw [hy]
    · next y hy =>
      rw [hy] at hnext
      refine ⟨(ih hkeeps.2 y hnext).1, fun hright => ?_⟩
      have hk : ¬ R k := by
        rw [← hright.1 x hx, hy]
        exact Bool.false_ne_true
      rw [(ih hkeeps.2 y hnext).2 hright.2]
      exact (or_iff_right hk).symm

lemma exact_enter {b : Bool} (h : Exact f P x) (hb : P k → (b = true ↔ f.MatchesWithin x.query k)) :
    Exact f P { x with subtree := x.subtree.put k b } := by
  refine ⟨h.direct, fun j c hj hc => ?_, h.expanded⟩
  simp only [Table.get?_put] at hc
  split at hc
  · next hkj =>
    cases hc
    subst hkj
    exact hb hj
  · exact h.subtree j c hj hc

/-- What is found out about a node that is not entered yet. -/
def decideAnew (f : Forest) (decide : SearchIndex → Key → SearchIndex × Bool) (x : SearchIndex)
    (k : Key) : SearchIndex × Bool :=
  if (x.decideDirect f k).2 then x.decideDirect f k
  else anyOf decide (x.decideDirect f k).1 (f.node k).children

lemma decideSubtree_of_none {n : Nat} (h : x.subtree.get? k = none) :
    decideSubtree f (n + 1) x k =
      let found := decideAnew f (decideSubtree f n) x k
      ({ found.1 with subtree := found.1.subtree.put k found.2 }, found.2) := by
  rw [decideSubtree, h]
  rfl

lemma decideAnew_spec (hf : f.WellFormed) (hP : Trees f P)
    {decide : SearchIndex → Key → SearchIndex × Bool} (hx : Exact f P x)
    (hdecide : ∀ c, f.IsChild k c → ∀ y, Exact f P y →
      (Keeps y (decide y c).1 ∧ Exact f P (decide y c).1) ∧
        (P c → ((decide y c).2 = true ↔ f.MatchesWithin y.query c))) :
    (Keeps x (decideAnew f decide x k).1 ∧ Exact f P (decideAnew f decide x k).1) ∧
      (P k → ((decideAnew f decide x k).2 = true ↔ f.MatchesWithin x.query k)) := by
  have hown := And.intro (decideDirect_keeps x f k) (exact_decideDirect hx k)
  have hchild : ∀ c ∈ (f.node k).children, f.IsChild k c := fun c => (hf.children k c).mp
  obtain ⟨hkeeps, hright⟩ := anyOf_spec (I := fun y => Keeps x y ∧ Exact f P y)
    (f.MatchesWithin x.query) (f.node k).children (fun c hc y hy =>
      have h := hdecide c (hchild c hc) y hy.2
      ⟨hy.1.trans h.1.1, h.1.2⟩) (x.decideDirect f k).1 hown
  rw [decideAnew]
  split
  · next hself =>
    refine ⟨hown, fun hk => iff_of_true hself (matchesWithin_iff.mpr (.inl ?_))⟩
    exact (decideDirect_iff hx hk).mp hself
  · next hself =>
    refine ⟨hkeeps, fun hk => ?_⟩
    rw [decideDirect_iff hx hk] at hself
    rw [matchesWithin_iff, or_iff_right hself, matchesBelow_iff, hright]
    · simp only [hf.children]
    · intro c hc y hy
      rw [← hy.1.query]
      exact (hdecide c (hchild c hc) y hy.2).2 ((hP.whole k c (hchild c hc)).mpr hk)

/-- The induction is on the levels left; a node among the trees has enough of them for all that
stands below it. -/
lemma decideSubtree_spec (hf : f.WellFormed) (hP : Trees f P) (n : Nat) (x : SearchIndex) (k : Key)
    (hx : Exact f P x) (hn : P k → ∀ d, f.Within k d → f.depth d < f.depth k + n) :
    (Keeps x (decideSubtree f n x k).1 ∧ Exact f P (decideSubtree f n x k).1) ∧
      (P k → ((decideSubtree f n x k).2 = true ↔ f.MatchesWithin x.query k)) := by
  induction n generalizing x k with
  | zero =>
    refine ⟨⟨.refl x, hx⟩, fun hk => ?_⟩
    have := hn hk k .refl
    omega
  | succ n ih =>
    cases hget : x.subtree.get? k with
    | some b =>
      have hsame : decideSubtree f (n + 1) x k = (x, b) := by
        rw [decideSubtree, hget]
      rw [hsame]
      exact ⟨⟨.refl x, hx⟩, fun hk => hx.subtree k b hk hget⟩
    | none =>
      obtain ⟨⟨hkeeps, hexact⟩, hright⟩ := decideAnew_spec (k := k) hf hP hx fun c hc y hy => by
        refine ih y c hy fun hPc d hd => ?_
        have hdepth := hf.depth_child hc
        have := hn ((hP.whole k c hc).mp hPc) d (.head hc hd)
        omega
      rw [decideSubtree_of_none hget]
      exact ⟨⟨hkeeps.trans ⟨_, _, rfl⟩, exact_enter hexact (by rwa [hkeeps.query])⟩, hright⟩

/-! ### Questions -/

/-- The same search, with nothing wrong in it. -/
structure Continues (f : Forest) (P : Key → Prop) (x y : SearchIndex) : Prop where
  scene : y.scene = x.scene
  query : y.query = x.query
  attached : y.attached = x.attached
  seen : y.seen = x.seen ∨ y.seen = f.changes.length
  settled : Settled f P y

namespace Continues

lemma refl (h : Settled f P x) : Continues f P x x := ⟨rfl, rfl, rfl, .inl rfl, h⟩

lemma trans {z : SearchIndex} (hxy : Continues f P x y) (hyz : Continues f P y z) :
    Continues f P x z where
  scene := hyz.scene.trans hxy.scene
  query := hyz.query.trans hxy.query
  attached := hyz.attached.trans hxy.attached
  seen := by
    rcases hyz.seen with h | h
    · rw [h]
      exact hxy.seen
    · exact .inr h
  settled := hyz.settled

lemma of_keeps {z : SearchIndex} (hxy : Continues f P x y) (hseen : y.seen = f.changes.length)
    (hyz : Keeps y z) (hz : Exact f P z) : Continues f P x z := by
  obtain ⟨d, t, rfl⟩ := hyz
  exact ⟨hxy.scene, hxy.query, hxy.attached, .inr hseen, settled_of_exact hseen hz⟩

end Continues

lemma continues_sync (h : Settled f P x) : Continues f P x (x.sync f) where
  scene := scene_sync x f
  query := query_sync x f
  attached := attached_sync x f
  seen := .inr (seen_sync x f)
  settled := by
    intro hq
    rw [sync_of_seen (seen_sync x f)]
    exact h (query_sync x f ▸ hq)

lemma continues_refresh (hf : f.WellFormed) {snapshot : Option (List Key)}
    (hsnapshot : ∀ nodes, snapshot = some nodes → nodes.Perm (f.walk x.scene)) (P : Key → Prop) :
    Continues f P x (x.refresh f snapshot) := by
  obtain ⟨hseen, hquery, hscene, hattached, -⟩ := refresh_fields x f snapshot
  refine ⟨hscene, hquery, hattached, .inr hseen, fun hq hcomputed => ?_⟩
  rw [sync_of_seen hseen]
  exact exact_refresh hf (hquery ▸ hq) hsnapshot P

lemma seen_ensure (x : SearchIndex) (f : Forest) : (x.ensure f).seen = f.changes.length := by
  rw [ensure]
  split
  · exact seen_sync x f
  · exact (refresh_fields _ f none).1

lemma continues_ensure (hf : f.WellFormed) (h : Settled f P x) :
    Continues f P x (x.ensure f) ∧ (x.query ≠ "" → Exact f P (x.ensure f)) := by
  have hsync := continues_sync h
  have hrefresh : Continues f P (x.sync f) ((x.sync f).refresh f none) :=
    continues_refresh hf (by rintro _ ⟨⟩) P
  have hexact : (x.sync f).query ≠ "" → Exact f P ((x.sync f).refresh f none) :=
    fun hq => exact_refresh hf hq (by rintro _ ⟨⟩) P
  rw [ensure]
  split
  · next hcomputed => exact ⟨hsync, fun hq => h hq hcomputed⟩
  · exact ⟨hsync.trans hrefresh, fun hq => hexact (by rwa [query_sync])⟩

section Questions

variable (hf : f.WellFormed) (hP : Trees f P) (hx : Settled f P x)
include hf hx

lemma continues_isMatch (k : Key) : Continues f P x (x.isMatch f k).1 := by
  have hsync := continues_sync hx
  rw [isMatch]
  split
  · exact hsync
  · next hq =>
    obtain ⟨hensure, hexact⟩ := continues_ensure hf hsync.settled
    have hexact := hexact (by simpa using hq)
    exact (hsync.trans hensure).of_keeps (seen_ensure _ f) (decideDirect_keeps _ f k)
      (exact_decideDirect hexact k)

lemma isMatch_iff (hq : x.query ≠ "") (hk : P k) :
    (x.isMatch f k).2 = true ↔ f.Matches x.query k := by
  have hsync := continues_sync hx
  have hq' : (x.sync f).query ≠ "" := by rwa [query_sync]
  obtain ⟨hensure, hexact⟩ := continues_ensure hf hsync.settled
  rw [isMatch, if_neg (by simpa using hq'), decideDirect_iff (hexact hq') hk, hensure.query,
    query_sync]

lemma continues_shouldExpand (k : Key) : Continues f P x (x.shouldExpand f k).1 := by
  have hsync := continues_sync hx
  rw [shouldExpand]
  split
  · exact hsync
  · exact hsync.trans (continues_ensure hf hsync.settled).1

lemma shouldExpand_iff (hq : x.query ≠ "") (hk : k ∈ f.walk x.scene) :
    (x.shouldExpand f k).2 = true ↔ f.MatchesBelow x.query k := by
  have hsync := continues_sync hx
  have hq' : (x.sync f).query ≠ "" := by rwa [query_sync]
  obtain ⟨hensure, hexact⟩ := continues_ensure hf hsync.settled
  have hexpanded := (hexact hq').expanded k (by rwa [hensure.scene, scene_sync])
  rw [hensure.query, query_sync] at hexpanded
  rw [shouldExpand, if_neg (by simpa using hq'), ← hexpanded]
  exact List.contains_iff_mem

include hP

lemma decideSubtree_ensure (hq : x.query ≠ "") (k : Key) :
    Continues f P x (decideSubtree f f.nodes.length (x.ensure f) k).1 ∧
      (P k → ((decideSubtree f f.nodes.length (x.ensure f) k).2 = true ↔
        f.MatchesWithin x.query k)) := by
  obtain ⟨hensure, hexact⟩ := continues_ensure hf hx
  obtain ⟨⟨hkeeps, hexact⟩, hright⟩ := decideSubtree_spec hf hP f.nodes.length (x.ensure f) k
    (hexact hq) fun hk d hd => by
      have := hf.depth_lt (hd.isNode (hP.isNode k hk))
      omega
  rw [hensure.query] at hright
  exact ⟨hensure.of_keeps (seen_ensure x f) hkeeps hexact, hright⟩

lemma continues_subtreeMatches (k : Key) : Continues f P x (x.subtreeMatches f k).1 := by
  have hsync := continues_sync hx
  rw [subtreeMatches]
  split
  · exact hsync
  · next hq =>
    exact hsync.trans (decideSubtree_ensure hf hP hsync.settled (by simpa using hq) k).1

lemma subtreeMatches_iff (hq : x.query ≠ "") (hk : P k) :
    (x.subtreeMatches f k).2 = true ↔ f.MatchesWithin x.query k := by
  have hsync := continues_sync hx
  have hq' : (x.sync f).query ≠ "" := by rwa [query_sync]
  rw [subtreeMatches, if_neg (by simpa using hq'),
    (decideSubtree_ensure hf hP hsync.settled hq' k).2 hk, query_sync]

lemma continues_filterVisible (ks : List Key) : Continues f P x (filterVisible f x ks).1 := by
  induction ks generalizing x with
  | nil => exact .refl hx
  | cons k ks ih =>
    have hone := continues_subtreeMatches hf hP hx k
    exact hone.trans (ih hone.settled)

lemma filterVisible_eq (hq : x.query ≠ "") {v : Key → Bool} {ks : List Key} (hks : ∀ k ∈ ks, P k)
    (hv : ∀ k ∈ ks, (v k = true ↔ f.MatchesWithin x.query k)) :
    (filterVisible f x ks).2 = ks.filter v := by
  induction ks generalizing x with
  | nil => rfl
  | cons k ks ih =>
    rw [List.forall_mem_cons] at hks hv
    have hone := continues_subtreeMatches hf hP hx k
    have hmore := ih hone.settled (by rwa [hone.query]) hks.2 (by rw [hone.query]; exact hv.2)
    have hk : (x.subtreeMatches f k).2 = v k := by
      rw [Bool.eq_iff_iff, subtreeMatches_iff hf hP hx hq hks.1, hv.1]
    rw [filterVisible, hmore, hk, List.filter_cons]

end Questions

/-! ### Asking in any order -/

inductive Question where
  | isMatch (k : Key)
  | subtreeMatches (k : Key)
  | shouldExpand (k : Key)
  | visible

/-- The index after a question, which may have filled its tables further. -/
def ask (f : Forest) (x : SearchIndex) : Question → SearchIndex
  | .isMatch k => (x.isMatch f k).1
  | .subtreeMatches k => (x.subtreeMatches f k).1
  | .shouldExpand k => (x.shouldExpand f k).1
  | .visible => (x.visible f).1

def askAll (f : Forest) (x : SearchIndex) (asked : List Question) : SearchIndex :=
  asked.foldl (ask f) x

lemma continues_ask (hf : f.WellFormed) (hP : Trees f P) (hx : Settled f P x) (a : Question) :
    Continues f P x (x.ask f a) := by
  cases a with
  | isMatch k => exact continues_isMatch hf hx k
  | subtreeMatches k => exact continues_subtreeMatches hf hP hx k
  | shouldExpand k => exact continues_shouldExpand hf hx k
  | visible => exact continues_filterVisible hf hP hx _

lemma continues_askAll (hf : f.WellFormed) (hP : Trees f P) (hx : Settled f P x)
    (asked : List Question) : Continues f P x (x.askAll f asked) := by
  induction asked generalizing x with
  | nil => exact .refl hx
  | cons a asked ih =>
    have hone := continues_ask hf hP hx a
    exact hone.trans (ih hone.settled)

lemma query_setQuery (x : SearchIndex) (query : String) :
    (x.setQuery query).query = Name.trim query ∧ (x.setQuery query).scene = x.scene := by
  rw [setQuery]
  split
  · next h => exact ⟨(beq_iff_eq.mp h).symm, rfl⟩
  · exact ⟨rfl, rfl⟩

/-- **The answers of a search.** After a refresh from the nodes of the scene in any order, and
whatever was asked since: a node matches if its name contains the query; its tree matches if the name
of the node or of one below it does; it expands if a name below it does, so that a tree matches just
if its node matches or expands; and the nodes to show are those whose trees match, in hierarchy
order. Of a node that the scene does not hold the first two are true as well. -/
theorem answers_exact (hf : f.WellFormed) (x : SearchIndex) {query : String}
    (hq : Name.trim query ≠ "") {nodes : List Key} (hnodes : nodes.Perm (f.walk x.scene))
    (asked : List Question) :
    let y := ((x.setQuery query).refresh f (some nodes)).askAll f asked
    (∀ k, f.IsNode k → ((y.isMatch f k).2 = true ↔ f.Matches (Name.trim query) k) ∧
      ((y.subtreeMatches f k).2 = true ↔ f.MatchesWithin (Name.trim query) k)) ∧
    (∀ k ∈ f.walk x.scene, ((y.shouldExpand f k).2 = true ↔ f.MatchesBelow (Name.trim query) k) ∧
      (y.subtreeMatches f k).2 = ((y.isMatch f k).2 || (y.shouldExpand f k).2)) ∧
    (y.visible f).2 = (f.walk x.scene).filter fun k => (y.subtreeMatches f k).2 := by
  intro y
  obtain ⟨hquery, hscene⟩ := query_setQuery x query
  have hrefresh : Continues f f.IsNode (x.setQuery query)
      ((x.setQuery query).refresh f (some nodes)) := by
    refine continues_refresh hf (fun ns hns => ?_) _
    rwa [hscene, ← Option.some.inj hns]
  have hy : Continues f f.IsNode (x.setQuery query) y :=
    hrefresh.trans (continues_askAll hf (trees_isNode hf) hrefresh.settled asked)
  have hyq : y.query = Name.trim query := hy.query.trans hquery
  have hys : y.scene = x.scene := hy.scene.trans hscene
  have hne : y.query ≠ "" := by rwa [hyq]
  have hmatch : ∀ k, f.IsNode k → ((y.isMatch f k).2 = true ↔ f.Matches (Name.trim query) k) := by
    intro k hk
    rw [isMatch_iff hf hy.settled hne hk, hyq]
  have hsubtree : ∀ k, f.IsNode k →
      ((y.subtreeMatches f k).2 = true ↔ f.MatchesWithin (Name.trim query) k) := by
    intro k hk
    rw [subtreeMatches_iff hf (trees_isNode hf) hy.settled hne hk, hyq]
  have hexpand : ∀ k ∈ f.walk x.scene,
      ((y.shouldExpand f k).2 = true ↔ f.MatchesBelow (Name.trim query) k) := by
    intro k hk
    rw [shouldExpand_iff hf hy.settled hne (by rwa [hys]), hyq]
  have hwalk : ∀ k ∈ f.walk x.scene, f.IsNode k := fun k hk => hf.isNode_of_mem_walk hk
  refine ⟨fun k hk => ⟨hmatch k hk, hsubtree k hk⟩, fun k hk => ⟨hexpand k hk, ?_⟩, ?_⟩
  · rw [Bool.eq_iff_iff, Bool.or_eq_true, hsubtree k (hwalk k hk), hmatch k (hwalk k hk),
      hexpand k hk, matchesWithin_iff]
  · rw [visible, hys]
    exact filterVisible_eq hf (trees_isNode hf) hy.settled hne hwalk fun k hk => by
      rw [hsubtree k (hwalk k hk), hyq]

/-- A scene with a menu and a button below its root, and a node outside of the scene. -/
def menuForest : Forest :=
  [.create "Root" [] true, .create "Menu" [] true, .create "PlayButton" [] true,
    .create "Replay" [] true, .setParent 3 (some 2), .setParent 2 (some 1),
    .addRoot 0 1].foldl edit (empty.addScene "Main").1

lemma housed_menuForest : menuForest.Housed 0 := by
  refine (housed_addScene_empty "Main").edits ?_
  exact ⟨trivial, trivial, trivial, trivial,
    allows_setParent (by decide) (by decide) (by decide) (by decide),
    allows_setParent (by decide) (by decide) (by decide) (by decide), ⟨rfl, by decide⟩, trivial⟩

theorem answers_exact_of_menu :
    menuForest.WellFormed ∧ Name.trim " play " ≠ "" ∧ [2, 3, 1].Perm (menuForest.walk 0) ∧
    let y := (((new menuForest 0).setQuery " play ").refresh menuForest (some [2, 3, 1])).askAll
      menuForest [.subtreeMatches 4, .visible, .isMatch 2]
    (∀ k, menuForest.IsNode k →
      ((y.isMatch menuForest k).2 = true ↔ menuForest.Matches (Name.trim " play ") k) ∧
      ((y.subtreeMatches menuForest k).2 = true ↔
        menuForest.MatchesWithin (Name.trim " play ") k)) ∧
    (∀ k ∈ menuForest.walk 0,
      ((y.shouldExpand menuForest k).2 = true ↔
        menuForest.MatchesBelow (Name.trim " play ") k) ∧
      (y.subtreeMatches menuForest k).2 =
        ((y.isMatch menuForest k).2 || (y.shouldExpand menuForest k).2)) ∧
    (y.visible menuForest).2 =
      (menuForest.walk 0).filter fun k => (y.subtreeMatches menuForest k).2 := by
  have hq : Name.trim " play " ≠ "" := by decide +kernel
  have hnodes : [2, 3, 1].Perm (menuForest.walk 0) := by decide +kernel
  exact ⟨housed_menuForest.toWellFormed, hq, hnodes,
    answers_exact housed_menuForest.toWellFormed (new menuForest 0) hq hnodes
      [.subtreeMatches 4, .visible, .isMatch 2]⟩

end SceneBindings.SearchIndex
