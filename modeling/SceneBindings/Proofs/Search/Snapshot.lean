import SceneBindings.Proofs.Forest.Descent
import SceneBindings.Search.Index

/-!
What a snapshot computes. Whatever order the nodes come in, after the passes over them each node is
entered with whether its name matches and whether any name within its tree does, and the nodes that
are expanded are those with a match below them.
-/

namespace SceneBindings

lemma Text.occursIn_iff {p s : List Char} : occursIn p s = true ↔ p <:+: s := by
  induction s with
  | nil => simp [occursIn]
  | cons c r ih => rw [occursIn, Bool.or_eq_true, ih, List.isPrefixOf_iff_prefix, List.infix_cons_iff]

namespace Forest

/-- The name of a node contains a text, case ignored. -/
def Matches (f : Forest) (q : String) (k : Key) : Prop :=
  Text.lower q.toList <:+: Text.lower (f.node k).name.toList

def MatchesWithin (f : Forest) (q : String) (k : Key) : Prop := ∃ d, f.Within k d ∧ f.Matches q d

def MatchesBelow (f : Forest) (q : String) (k : Key) : Prop := ∃ d, f.Below k d ∧ f.Matches q d

variable {f : Forest} {q : String} {k : Key}

lemma matchesBelow_iff : f.MatchesBelow q k ↔ ∃ c, f.IsChild k c ∧ f.MatchesWithin q c := by
  simp only [MatchesBelow, MatchesWithin, below_iff]
  constructor
  · rintro ⟨d, ⟨c, hc, hd⟩, hm⟩
    exact ⟨c, hc, d, hd, hm⟩
  · rintro ⟨c, hc, d, hd, hm⟩
    exact ⟨d, ⟨c, hc, hd⟩, hm⟩

lemma matchesWithin_iff : f.MatchesWithin q k ↔ f.Matches q k ∨ f.MatchesBelow q k := by
  simp only [MatchesWithin, MatchesBelow, within_iff_below, or_and_right, exists_or, exists_eq_left]

end Forest

namespace SearchIndex

open Forest

variable {f : Forest} {q : String} {a c d k : Key} {nodes : List Key} {t direct : Table Key Bool}

lemma nameMatches_iff : nameMatches q (f.node k).name = true ↔ f.Matches q k := Text.occursIn_iff

/-! ### Direct matches -/

lemma get?_foldl_put (v : Key → Bool) (nodes : List Key) (t : Table Key Bool) (k : Key) :
    (nodes.foldl (fun t k => t.put k (v k)) t).get? k =
      if k ∈ nodes then some (v k) else t.get? k := by
  induction nodes generalizing t with
  | nil => rfl
  | cons j nodes ih =>
    rw [List.foldl_cons, ih, Table.get?_put]
    by_cases hk : k ∈ nodes
    · rw [if_pos hk, if_pos (List.mem_cons_of_mem j hk)]
    · by_cases hj : j = k
      · rw [if_neg hk, if_pos hj, if_pos (by rw [hj]; exact List.mem_cons_self), hj]
      · rw [if_neg hk, if_neg hj, if_neg (by simp [hk, Ne.symm hj])]

lemma get?_computeDirect (f : Forest) (q : String) (nodes : List Key) (k : Key) :
    (computeDirect f q nodes).get? k =
      if k ∈ nodes then some (nameMatches q (f.node k).name) else none :=
  get?_foldl_put (fun k => nameMatches q (f.node k).name) nodes .empty k

lemma isDirect_computeDirect (hk : k ∈ nodes) :
    isDirect (computeDirect f q nodes) k = true ↔ f.Matches q k := by
  rw [isDirect, get?_computeDirect, if_pos hk, Option.getD_some, nameMatches_iff]

/-! ### Matches within a tree -/

/-- The table says of no node what is not so. -/
def Truthful (f : Forest) (q : String) (t : Table Key Bool) : Prop :=
  ∀ k b, t.get? k = some b → (b = true ↔ f.MatchesWithin q k)

lemma Truthful.put {b : Bool} (ht : Truthful f q t) (hb : b = true ↔ f.MatchesWithin q k) :
    Truthful f q (t.put k b) := by
  intro j c hc
  rw [Table.get?_put] at hc
  split at hc
  · next hj =>
    cases hc
    rwa [← hj]
  · exact ht j c hc

/-- Where all children are entered, what they say and the node's own name decide. -/
lemma Truthful.decides (hf : f.WellFormed) (ht : Truthful f q t)
    (hdirect : isDirect direct k = true ↔ f.Matches q k)
    (hin : ∀ c, f.IsChild k c → (t.get? c).isSome) :
    (isDirect direct k || (f.node k).children.any fun c => (t.get? c).getD false) = true ↔
      f.MatchesWithin q k := by
  have hchild : ∀ c, f.IsChild k c → ((t.get? c).getD false = true ↔ f.MatchesWithin q c) := by
    intro c hc
    obtain ⟨b, hb⟩ := Option.isSome_iff_exists.mp (hin c hc)
    rw [hb, Option.getD_some, ht c b hb]
  rw [matchesWithin_iff, matchesBelow_iff, Bool.or_eq_true, hdirect, List.any_eq_true]
  refine or_congr_right (exists_congr fun c => ?_)
  rw [hf.children]
  exact and_congr_right (hchild c)

lemma enterLevel_spec (hf : f.WellFormed) (nodes : List Key)
    (hdirect : ∀ k ∈ nodes, (isDirect direct k = true ↔ f.Matches q k)) (t : Table Key Bool)
    (ht : Truthful f q t) (hin : ∀ k ∈ nodes, ∀ c, f.IsChild k c → (t.get? c).isSome) :
    Truthful f q (enterLevel f direct nodes t) ∧
      ∀ c, ((enterLevel f direct nodes t).get? c).isSome ↔ c ∈ nodes ∨ (t.get? c).isSome := by
  induction nodes generalizing t with
  | nil => exact ⟨ht, fun c => by simp [enterLevel]⟩
  | cons k nodes ih =>
    rw [List.forall_mem_cons] at hdirect hin
    obtain ⟨t', ht'⟩ : ∃ t', t' = t.put k
        (isDirect direct k || (f.node k).children.any fun c => (t.get? c).getD false) := ⟨_, rfl⟩
    have htruthful : Truthful f q t' := by
      rw [ht']
      exact ht.put (ht.decides hf hdirect.1 hin.1)
    have hsome : ∀ c, (t'.get? c).isSome ↔ c = k ∨ (t.get? c).isSome := by
      intro c
      rw [ht', Table.get?_put]
      by_cases hck : k = c
      · simp [hck]
      · simp [hck, Ne.symm hck]
    obtain ⟨h₁, h₂⟩ := ih hdirect.2 t' htruthful fun j hj c hc =>
      (hsome c).mpr (.inr (hin.2 j hj c hc))
    have hstep : enterLevel f direct (k :: nodes) t = enterLevel f direct nodes t' := by
      rw [ht']
      rfl
    rw [hstep]
    refine ⟨h₁, fun c => ?_⟩
    rw [h₂, hsome, List.mem_cons, or_left_comm, or_assoc]

/-- The induction goes up the levels: what is entered is all that lies deeper. -/
lemma enterLevels_spec (hf : f.WellFormed)
    (hdirect : ∀ k ∈ nodes, (isDirect direct k = true ↔ f.Matches q k))
    (hclosed : ∀ k ∈ nodes, ∀ c, f.IsChild k c → c ∈ nodes) (n : Nat) (t : Table Key Bool)
    (ht : Truthful f q t) (hdeep : ∀ c, (t.get? c).isSome ↔ c ∈ nodes ∧ n ≤ f.depth c) :
    Truthful f q (enterLevels f direct nodes n t) ∧
      ∀ c, ((enterLevels f direct nodes n t).get? c).isSome ↔ c ∈ nodes := by
  induction n generalizing t with
  | zero => exact ⟨ht, fun c => by simp [enterLevels, hdeep]⟩
  | succ n ih =>
    have hlevel : ∀ k ∈ nodes.filter (fun k => f.depth k == n), k ∈ nodes ∧ f.depth k = n := by
      intro k hk
      simpa using List.mem_filter.mp hk
    obtain ⟨h₁, h₂⟩ := enterLevel_spec hf (nodes.filter fun k => f.depth k == n)
      (fun k hk => hdirect k (hlevel k hk).1) t ht fun k hk c hc => by
        have hdepth := hf.depth_child hc
        have hkn := (hlevel k hk).2
        exact (hdeep c).mpr ⟨hclosed k (hlevel k hk).1 c hc, by omega⟩
    rw [enterLevels]
    refine ih _ h₁ fun c => ?_
    rw [h₂, hdeep, List.mem_filter, ← and_or_left, beq_iff_eq]
    exact and_congr_right fun _ => by omega

lemma depth_lt_levels (nodes : List Key) (hk : k ∈ nodes) : f.depth k < levels f nodes := by
  have hfold : ∀ (ks : List Key) (n : Nat), n ≤ ks.foldl (fun n k => max n (f.depth k + 1)) n ∧
      ∀ k ∈ ks, f.depth k < ks.foldl (fun n k => max n (f.depth k + 1)) n := by
    intro ks
    induction ks with
    | nil => exact fun n => ⟨Nat.le_refl n, nofun⟩
    | cons j ks ih =>
      intro n
      obtain ⟨hle, hlt⟩ := ih (max n (f.depth j + 1))
      rw [List.foldl_cons]
      refine ⟨by omega, List.forall_mem_cons.mpr ⟨by omega, hlt⟩⟩
  exact (hfold nodes 0).2 k hk

lemma computeSubtree_spec (hf : f.WellFormed)
    (hdirect : ∀ k ∈ nodes, (isDirect direct k = true ↔ f.Matches q k))
    (hclosed : ∀ k ∈ nodes, ∀ c, f.IsChild k c → c ∈ nodes) :
    Truthful f q (computeSubtree f direct nodes) ∧
      ∀ c, ((computeSubtree f direct nodes).get? c).isSome ↔ c ∈ nodes := by
  refine enterLevels_spec hf hdirect hclosed _ .empty nofun fun c => ?_
  refine ⟨nofun, fun ⟨hc, hdepth⟩ => ?_⟩
  have := depth_lt_levels (f := f) nodes hc
  omega

/-! ### Expanded nodes -/

/-- The way up ends early only where all that lies higher is there already. -/
lemma mem_expandUp (hf : f.WellFormed) {up : List Key} (hup : up.Pairwise fun d a => f.Below a d)
    (expanded : List Key)
    (hclosed : ∀ d ∈ up, d ∈ expanded → ∀ a ∈ up, f.Below a d → a ∈ expanded) :
    a ∈ expandUp expanded up ↔ a ∈ expanded ∨ a ∈ up := by
  induction up generalizing expanded with
  | nil => simp [expandUp]
  | cons k up ih =>
    obtain ⟨hk, hup⟩ := List.pairwise_cons.mp hup
    rw [expandUp]
    split
    · next hmem =>
      have hmem : k ∈ expanded := List.contains_iff_mem.mp hmem
      have hall : ∀ a ∈ k :: up, a ∈ expanded := by
        refine List.forall_mem_cons.mpr ⟨hmem, fun a ha => ?_⟩
        exact hclosed k List.mem_cons_self hmem a (List.mem_cons_of_mem k ha) (hk a ha)
      exact ⟨.inl, fun h => h.elim id (hall a)⟩
    · rw [ih hup (k :: expanded), List.mem_cons, List.mem_cons, or_left_comm, or_assoc]
      intro d hd hdk a ha hbelow
      rcases List.mem_cons.mp hdk with rfl | hd'
      · exact absurd (hk d hd) (hf.not_below_self d)
      · exact List.mem_cons_of_mem k (hclosed d (List.mem_cons_of_mem k hd) hd' a
          (List.mem_cons_of_mem k ha) hbelow)

lemma mem_computeExpanded (hf : f.WellFormed) (hnodes : ∀ k ∈ nodes, f.IsNode k) :
    a ∈ computeExpanded f direct nodes ↔
      ∃ d ∈ nodes, isDirect direct d = true ∧ f.Below a d := by
  have hfold : ∀ (ks e : List Key), (∀ k ∈ ks, f.IsNode k) →
      (∀ d ∈ e, ∀ a, f.Below a d → a ∈ e) → ∀ a,
      a ∈ ks.foldl (fun e k =>
        if isDirect direct k then expandUp e ((f.chain k).drop 1) else e) e ↔
      a ∈ e ∨ ∃ d ∈ ks, isDirect direct d = true ∧ f.Below a d := by
    intro ks
    induction ks with
    | nil => exact fun e _ _ a => by simp
    | cons k ks ih =>
      intro e hks he a
      rw [List.forall_mem_cons] at hks
      rw [List.foldl_cons, List.exists_mem_cons_iff]
      by_cases hk : isDirect direct k = true
      · have hup : ((f.chain k).drop 1).Pairwise fun d a => f.Below a d :=
          (pairwise_chainUpTo _ k).sublist (List.drop_sublist 1 _)
        have hmem : ∀ a, a ∈ expandUp e ((f.chain k).drop 1) ↔ a ∈ e ∨ f.Below a k := by
          intro a
          rw [mem_expandUp hf hup e (fun d _ hd a _ => he d hd a), hf.mem_drop_chain hks.1]
        rw [if_pos hk, ih _ hks.2 ?_ a, hmem]
        · simp only [hk, true_and, or_assoc]
        · intro d hd a hbelow
          rcases (hmem d).mp hd with hd | hd
          · exact (hmem a).mpr (.inl (he d hd a hbelow))
          · exact (hmem a).mpr (.inr (hbelow.trans hd))
      · rw [if_neg hk, ih e hks.2 he a]
        simp only [hk, false_and, false_or, Bool.false_eq_true]
  have := hfold nodes [] hnodes nofun a
  simpa [computeExpanded] using this

end SearchIndex

end SceneBindings
