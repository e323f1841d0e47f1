import SceneBindings.Forest.PathCache
import SceneBindings.Proofs.Forest.Locality
import SceneBindings.Proofs.Search.Answers

/-!
Catching up with an edit. A path cache forgets what the scene was told of, a search index starts
anew; if the scene was told of all that the edit touched, then what is still remembered is right.
-/

namespace SceneBindings

open Forest

variable {f g : Forest} {s : SceneId} {n : Key} {news : List Change}

lemma Table.lookup_filter {α β : Type} [DecidableEq α] (p : α → Bool) (k : α) (es : List (α × β)) :
    lookup k (es.filter fun e => p e.1) = if p k then lookup k es else none := by
  induction es with
  | nil => simp [lookup]
  | cons e es ih =>
    rw [List.filter_cons]
    by_cases he : p e.1 = true
    · rw [if_pos he, lookup, lookup, ih]
      by_cases hek : e.1 = k
      · rw [if_pos hek, if_pos hek, if_pos (by rwa [← hek])]
      · rw [if_neg hek, if_neg hek]
    · rw [if_neg he, ih, lookup]
      by_cases hek : e.1 = k
      · rw [if_pos hek, if_neg (by rwa [← hek]), if_neg (by rwa [← hek])]
      · rw [if_neg hek]

lemma take_news {α : Type} (news old : List α) {n : Nat} (hn : n ≤ old.length) :
    (news ++ old).take ((news ++ old).length - n) = news ++ old.take (old.length - n) := by
  rw [List.length_append, Nat.add_sub_assoc hn, List.take_length_add_append]

namespace PathCache

variable {c : PathCache} {path : String} {t : SceneId}

lemma get?_forget (c : PathCache) (ks : List Key) (k : Key) :
    (c.forget ks).paths.get? k = if ks.contains k then none else c.paths.get? k := by
  rw [forget, Table.get?, Table.lookup_filter fun k => !ks.contains k]
  by_cases hk : ks.contains k = true
  · rw [if_pos hk, if_neg (by rw [hk]; exact Bool.false_ne_true)]
  · rw [if_neg hk, if_pos (by simpa using hk)]
    rfl

/-- What is still remembered is what no change of a followed scene has touched. -/
lemma get?_sync_eq_some : (c.sync f).paths.get? n = some path ↔
    c.paths.get? n = some path ∧
      ∀ ch ∈ c.unseen f, c.follows.contains ch.scene = true → n ∉ ch.affected := by
  rw [sync]
  dsimp only
  rw [get?_forget]
  have htouched : (((c.unseen f).filter fun ch => c.follows.contains ch.scene).flatMap
      (·.affected)).contains n = true ↔
      ∃ ch ∈ c.unseen f, c.follows.contains ch.scene = true ∧ n ∈ ch.affected := by
    simp only [List.contains_iff_mem, List.mem_flatMap, List.mem_filter, and_assoc]
  split
  · next h =>
    obtain ⟨ch, hch, hfollows, hn⟩ := htouched.mp h
    exact ⟨nofun, fun hno => absurd hn (hno.2 ch hch hfollows)⟩
  · next h =>
    refine ⟨fun hn => ⟨hn, fun ch hch hfollows hmem => ?_⟩, And.left⟩
    exact h (htouched.mpr ⟨ch, hch, hfollows, hmem⟩)

lemma unseen_append (h : g.changes = news ++ f.changes) (hseen : c.seen ≤ f.changes.length) :
    c.unseen g = news ++ c.unseen f := by
  rw [unseen, h, take_news news f.changes hseen, unseen]

/-- Once it has caught up, a cache remembers no wrong path of a node that the scene shows. -/
def Settled (f : Forest) (s : SceneId) (c : PathCache) : Prop :=
  ∀ n ∈ f.walk s, ∀ path, (c.sync f).paths.get? n = some path → path = f.fullPath n

lemma get_eq (c : PathCache) (f : Forest) (n : Key) :
    (c.get f n).2 = ((c.sync f).paths.get? n).getD (f.fullPath n) := by
  rw [get]
  cases (c.sync f).paths.get? n <;> rfl

lemma settled_iff : Settled f s c ↔ ∀ n ∈ f.walk s, (c.get f n).2 = f.fullPath n := by
  refine forall₂_congr fun n _ => ?_
  rw [get_eq]
  cases (c.sync f).paths.get? n <;> simp

lemma get_fields (c : PathCache) (f : Forest) (n : Key) :
    (c.get f n).1.seen = f.changes.length ∧ (c.get f n).1.follows = c.follows ∧
      ∀ j path, (c.get f n).1.paths.get? j = some path →
        (c.sync f).paths.get? j = some path ∨ path = f.fullPath j := by
  rw [get]
  split
  · exact ⟨rfl, rfl, fun j path hj => .inl hj⟩
  · refine ⟨rfl, rfl, fun j path hj => ?_⟩
    simp only [Table.get?_put] at hj
    split at hj
    · next hnj =>
      cases hj
      exact .inr (by rw [hnj])
    · exact .inl hj

lemma settled_get (h : Settled f s c) (n : Key) : Settled f s (c.get f n).1 := by
  obtain ⟨hseen, -, hpaths⟩ := get_fields c f n
  intro j hj path hpath
  rcases hpaths j path (get?_sync_eq_some.mp hpath).1 with hpath | hpath
  · exact h j hj path hpath
  · exact hpath

/-- The paths that a reaching edit leaves in the cache are right, as the others are forgotten. -/
lemma settled_of_reaches (h : Settled f s c) (hreach : Reaches f g s) (hg : g.Housed s)
    (hchanges : g.changes = news ++ f.changes) (hseen : c.seen ≤ f.changes.length)
    (hfollows : c.follows.contains s = true) : Settled g s c := by
  intro n hn path hpath
  obtain ⟨hget, htold⟩ := get?_sync_eq_some.mp hpath
  rw [unseen_append hchanges hseen] at htold
  rcases hreach.fullPath_eq hg hn with ⟨hnf, heq⟩ | ⟨ch, hch, rfl, hmem⟩
  · rw [heq]
    refine h n hnf path (get?_sync_eq_some.mpr ⟨hget, fun ch hch => htold ch ?_⟩)
    exact List.mem_append_right news hch
  · rw [hchanges] at hch
    have hnews : news = [ch] := List.append_cancel_right hch
    rw [hnews] at htold
    exact absurd hmem (htold ch (List.mem_append_left _ (List.mem_singleton_self ch)) hfollows)

end PathCache

namespace SearchIndex

variable {x : SearchIndex} {q : String}

/-- The trees of a scene. -/
lemma trees_walk (hf : f.Housed s) : Trees f (· ∈ f.walk s) where
  isNode _ h := hf.isNode_of_mem_walk h
  whole _ _ hc := ⟨fun h => hf.mem_walk_parent h hc, fun h => hf.mem_walk_of_within h (.single hc)⟩

lemma below_iff_within (hf : f.WellFormed) {k d : Key} : f.Below k d ↔ f.Within k d ∧ d ≠ k := by
  rw [within_iff_below]
  constructor
  · intro h
    refine ⟨.inr h, ?_⟩
    rintro rfl
    exact hf.not_below_self d h
  · rintro ⟨h, hne⟩
    exact h.resolve_left hne

section SameIn

variable (h : SameIn f g s) (hf : f.Housed s)
include h

lemma matches_of_sameIn (hn : n ∈ f.walk s) : g.Matches q n ↔ f.Matches q n := by
  rw [Matches, Matches, h.name n hn]

include hf

lemma matchesWithin_of_sameIn (hn : n ∈ f.walk s) :
    g.MatchesWithin q n ↔ f.MatchesWithin q n := by
  refine exists_congr fun d => ?_
  rw [h.within n hn]
  exact and_congr_right fun hd => matches_of_sameIn h (hf.mem_walk_of_within hn hd)

lemma matchesBelow_of_sameIn (hg : g.Housed s) (hn : n ∈ f.walk s) :
    g.MatchesBelow q n ↔ f.MatchesBelow q n := by
  refine exists_congr fun d => ?_
  rw [below_iff_within hf.toWellFormed, below_iff_within hg.toWellFormed, h.within n hn]
  exact and_congr_right fun hd => matches_of_sameIn h (hf.mem_walk_of_within hn hd.1)

lemma exact_of_sameIn (hg : g.Housed s) (hs : x.scene = s) (hx : Exact f (· ∈ f.walk s) x) :
    Exact g (· ∈ g.walk s) x := by
  refine ⟨fun k b hk hb => ?_, fun k b hk hb => ?_, fun k hk => ?_⟩
  · rw [h.walk] at hk
    rw [matches_of_sameIn h hk]
    exact hx.direct k b hk hb
  · rw [h.walk] at hk
    rw [matchesWithin_of_sameIn h hf hk]
    exact hx.subtree k b hk hb
  · rw [hs, h.walk] at hk
    rw [matchesBelow_of_sameIn h hf hg hk]
    exact hx.expanded k (by rwa [hs])

end SameIn

/-- An index that was told of a change starts anew; else it only counts the changes. -/
lemma sync_append (h : g.changes = news ++ f.changes) (hseen : x.seen ≤ f.changes.length) :
    x.sync g = if x.attached && news.any (fun c => c.scene == x.scene) then
      { (x.sync f).discard with seen := g.changes.length }
    else { x.sync f with seen := g.changes.length } := by
  rw [sync, sync, h, take_news news f.changes hseen, List.any_append]
  cases x.attached <;> cases news.any (fun c => c.scene == x.scene) <;>
    cases (f.changes.take (f.changes.length - x.seen)).any (fun c => c.scene == x.scene) <;> rfl

lemma settled_of_reaches (hx : Settled f (· ∈ f.walk s) x) (hreach : Reaches f g s)
    (hf : f.Housed s) (hg : g.Housed s) (hchanges : g.changes = news ++ f.changes)
    (hseen : x.seen ≤ f.changes.length) (hs : x.scene = s) (hattached : x.attached = true) :
    Settled g (· ∈ g.walk s) x := by
  intro hq hcomputed
  rw [sync_append hchanges hseen] at hcomputed ⊢
  split at hcomputed
  · cases hcomputed
  · next hquiet =>
    rw [if_neg hquiet]
    have hexact := hx hq hcomputed
    rcases hreach.sameIn hf hg with hsame | ⟨c, hc, hcs⟩
    · have hg := exact_of_sameIn hsame hf hg ((scene_sync x f).trans hs) hexact
      exact ⟨hg.direct, hg.subtree, hg.expanded⟩
    · rw [hchanges] at hc
      have hnews : news = [c] := List.append_cancel_right hc
      rw [hnews, hattached, hs, ← hcs] at hquiet
      simp at hquiet

/-- An index that answers as it should remembers nothing wrong. -/
lemma settled_of_answers (hf : f.Housed s) (hs : x.scene = s) (h : x.query ≠ "" → ∀ n ∈ f.walk s,
    ((x.isMatch f n).2 = true ↔ f.Matches x.query n) ∧
      ((x.subtreeMatches f n).2 = true ↔ f.MatchesWithin x.query n) ∧
      ((x.shouldExpand f n).2 = true ↔ f.MatchesBelow x.query n)) :
    Settled f (· ∈ f.walk s) x := by
  intro hq hcomputed
  have hq' : ¬ (x.sync f).query.isEmpty = true := by
    rw [query_sync]
    simpa using hq
  have hensure : (x.sync f).ensure f = x.sync f := by
    rw [ensure, sync_of_seen (seen_sync x f), if_pos hcomputed]
  refine ⟨fun k b hk hb => ?_, fun k b hk hb => ?_, fun k hk => ?_⟩
  · have hanswer : (x.isMatch f k).2 = b := by
      rw [isMatch, if_neg hq', hensure, decideDirect, hb]
    rw [← hanswer, query_sync]
    exact (h hq k hk).1
  · have hanswer : (x.subtreeMatches f k).2 = b := by
      have hpos := hf.depth_lt (hf.isNode_of_mem_walk hk)
      obtain ⟨m, hm⟩ : ∃ m, f.nodes.length = m + 1 := ⟨f.nodes.length - 1, by omega⟩
      rw [subtreeMatches, if_neg hq', hensure, hm, decideSubtree, hb]
    rw [← hanswer, query_sync]
    exact (h hq k hk).2.1
  · rw [scene_sync, hs] at hk
    have hanswer : (x.shouldExpand f k).2 = (x.sync f).expanded.contains k := by
      rw [shouldExpand, if_neg hq', hensure]
    rw [← List.contains_iff_mem, ← hanswer, query_sync]
    exact (h hq k hk).2.2

end SearchIndex

end SceneBindings
