import SceneBindings.Proofs.Search.Coherence
import SceneBindings.Proofs.Text.FinalSigma

/-!
Searching for a part of a name. Query and name are made small each by itself, so a node is found by a
part of its name just if the small form of the part stands in that of the name. Only a sigma can come
between.
-/

namespace SceneBindings.SearchIndex

open Forest

variable {f : Forest} {s : SceneId} {k a : Key} {x : SearchIndex} {part : String}

/-- A new query discards what was computed for the last one. -/
lemma settled_setQuery {P : Key → Prop} (query : String)
    (h : x.query = Name.trim query → Settled f P x) : Settled f P (x.setQuery query) := by
  rw [setQuery]
  split
  · next hsame => exact h (beq_iff_eq.mp hsame).symm
  · intro _ hcomputed
    rw [sync] at hcomputed
    split at hcomputed <;> cases hcomputed

lemma mem_walk_of_within_up (hf : f.Housed s) (hk : k ∈ f.walk s) (ha : f.Within a k) :
    a ∈ f.walk s := by
  induction ha with
  | refl => exact hk
  | tail _ hchild ih => exact ih (hf.mem_walk_parent hk hchild)

/-- The node matches, and it is shown with all the nodes that it hangs below. -/
def Finds (y : SearchIndex) (f : Forest) (k : Key) : Prop :=
  (y.isMatch f k).2 = true ∧ ∀ a, f.Within a k → a ∈ (y.visible f).2

lemma finds_iff (hf : f.Housed s) (hs : x.scene = s) (hx : Settled f (· ∈ f.walk s) x)
    (hq : x.query ≠ "") (hk : k ∈ f.walk s) : x.Finds f k ↔ f.Matches x.query k := by
  have htrees := trees_walk hf
  rw [Finds, isMatch_iff hf.toWellFormed hx hq hk, and_iff_left_iff_imp]
  intro hmatch a ha
  have hwalk := mem_walk_of_within_up hf hk ha
  have hwithin : f.MatchesWithin x.query a := ⟨k, ha, hmatch⟩
  classical
  rw [visible, hs, filterVisible_eq hf.toWellFormed htrees hx hq (fun _ h => h)
    (v := fun j => decide (f.MatchesWithin x.query j)) fun _ _ => decide_eq_true_iff]
  exact List.mem_filter.mpr ⟨hwalk, decide_eq_true hwithin⟩

lemma finds_setQuery_iff (hpart : Name.trim part = part) (hne : part ≠ "") (hf : f.Housed s)
    (hs : x.scene = s) (hx : x.query = part → Settled f (· ∈ f.walk s) x) (asked : List Question)
    (hk : k ∈ f.walk s) : ((x.setQuery part).askAll f asked).Finds f k ↔ f.Matches part k := by
  obtain ⟨hquery, hscene⟩ := query_setQuery x part
  have hsettled : Settled f (· ∈ f.walk s) (x.setQuery part) :=
    settled_setQuery part fun h => hx (h.trans hpart)
  have hy := continues_askAll hf.toWellFormed (trees_walk hf) hsettled asked
  have hyq : ((x.setQuery part).askAll f asked).query = part :=
    hy.query.trans (hquery.trans hpart)
  rw [finds_iff hf (hy.scene.trans (hscene.trans hs)) hy.settled (by rwa [hyq]) hk, hyq]

/-- A scene with one node. -/
def oneNode (name : String) : Forest :=
  [.create name [] true, .addRoot 0 1].foldl edit (empty.addScene "Main").1

lemma housed_oneNode (name : String) : (oneNode name).Housed 0 :=
  (housed_addScene_empty "Main").edits ⟨trivial, ⟨rfl, rfl⟩, trivial⟩

lemma name_oneNode (name : String) : ((oneNode name).node 1).name = name := rfl

lemma mem_walk_oneNode (name : String) : 1 ∈ (oneNode name).walk 0 := by
  rw [show (oneNode name).walk 0 = [1] from rfl]
  exact List.mem_singleton_self 1

lemma settled_new (f : Forest) (s : SceneId) : Settled f (· ∈ f.walk s) (new f s) :=
  View.settled_of_not_computed rfl rfl

lemma finds_oneNode_iff (hpart : Name.trim part = part) (hne : part ≠ "") (name : String)
    (asked : List Question) :
    (((new (oneNode name) 0).setQuery part).askAll (oneNode name) asked).Finds (oneNode name) 1 ↔
      Text.lower part.toList <:+: Text.lower name.toList := by
  rw [finds_setQuery_iff hpart hne (housed_oneNode name) rfl (fun _ => settled_new _ _) asked
    (mem_walk_oneNode name), Forest.Matches, name_oneNode]

/-- **Found by a part of the name.** A text without white space around it finds all nodes that have
it in their names, in every scene and whatever has been asked, exactly if it decides the forms of all
its sigmas. An index that has this query already must be right so far. -/
theorem found_by_part_iff (hpart : Name.trim part = part) (hne : part ≠ "") :
    (∀ (f : Forest) (s : SceneId) (x : SearchIndex) (asked : List Question) (k : Key),
      f.Housed s → x.scene = s → (x.query = part → Settled f (· ∈ f.walk s) x) → k ∈ f.walk s →
      part.toList <:+: (f.node k).name.toList → ((x.setQuery part).askAll f asked).Finds f k) ↔
    ∀ before after, part.toList = before ++ 'Σ' :: after → Text.Decides before after := by
  constructor
  · intro h before after hsplit
    by_contra hundecided
    obtain ⟨t, hin, hnot⟩ := Text.exists_not_infix hundecided
    rw [← hsplit] at hin hnot
    have hfound := h (oneNode (String.ofList t)) 0 (new _ 0) [] 1 (housed_oneNode _) rfl
      (fun _ => settled_new _ _) (mem_walk_oneNode _)
      (by rwa [name_oneNode, String.toList_ofList])
    rw [finds_oneNode_iff hpart hne, String.toList_ofList] at hfound
    exact hnot hfound
  · intro h f s x asked k hf hs hx hk hin
    rw [finds_setQuery_iff hpart hne hf hs hx asked hk]
    exact Text.lower_infix_of_decides h hin

/-- The letters around it decide the form of the sigma. -/
theorem found_by_part_iff_of_inner :
    Name.trim "ΥΣΙ" = "ΥΣΙ" ∧ "ΥΣΙ" ≠ "" ∧
    ∀ (f : Forest) (s : SceneId) (x : SearchIndex) (asked : List Question) (k : Key),
      f.Housed s → x.scene = s → (x.query = "ΥΣΙ" → Settled f (· ∈ f.walk s) x) →
      k ∈ f.walk s → "ΥΣΙ".toList <:+: (f.node k).name.toList →
      ((x.setQuery "ΥΣΙ").askAll f asked).Finds f k := by
  have hpart : Name.trim "ΥΣΙ" = "ΥΣΙ" := by decide +kernel
  have hne : "ΥΣΙ" ≠ "" := by decide
  have hnext : Text.casedNext ['Ι'] = true := by decide +kernel
  refine ⟨hpart, hne, (found_by_part_iff hpart hne).mpr fun before after hsplit => .inl ?_⟩
  rw [show "ΥΣΙ".toList = ['Υ', 'Σ', 'Ι'] from rfl] at hsplit
  rcases before with _ | ⟨b, _ | ⟨c, _ | ⟨d, before⟩⟩⟩ <;> simp at hsplit
  rwa [← hsplit.2]

/-- At the end of the query the sigma gets its final form, which it has not inside the name. -/
theorem not_found_by_part :
    let f := oneNode "ΜΟΥΣΙΚΗ"
    let x := (new f 0).setQuery "ΜΟΥΣ"
    f.Housed 0 ∧ 1 ∈ f.walk 0 ∧ "ΜΟΥΣ".toList <:+: (f.node 1).name.toList ∧
      Name.trim "ΜΟΥΣ" = "ΜΟΥΣ" ∧ "ΜΟΥΣ" ≠ "" ∧
      (x.isMatch f 1).2 = false ∧ (x.visible f).2 = [] :=
  ⟨housed_oneNode _, mem_walk_oneNode _, ⟨[], "ΙΚΗ".toList, by decide +kernel⟩, by decide +kernel,
    by decide, by decide +kernel, by decide +kernel⟩

end SceneBindings.SearchIndex
