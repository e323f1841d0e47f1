import SceneBindings.Proofs.Search.Coherence
import SceneBindings.Search.Debounce

/-!
The newest query wins. Queries are submitted and cancelled, tasks take their turns and the index is
asked, in any order; a query is applied only as long as nothing was submitted or cancelled after it.
-/

namespace SceneBindings

open Forest SearchIndex

/-- What an index says about all nodes when it answers for a query. The empty query matches
everywhere and expands nothing. -/
structure SearchIndex.AnswersFor (f : Forest) (s : SceneId) (q : String) (x : SearchIndex) :
    Prop where
  query : x.query = q
  scene : x.scene = s
  isMatch : ∀ k, f.IsNode k → ((x.isMatch f k).2 = true ↔ f.Matches q k)
  subtreeMatches : ∀ k, f.IsNode k → ((x.subtreeMatches f k).2 = true ↔ f.MatchesWithin q k)
  shouldExpand : ∀ k ∈ f.walk s, ((x.shouldExpand f k).2 = true ↔ q ≠ "" ∧ f.MatchesBelow q k)
  visible : (x.visible f).2 = (f.walk s).filter fun k => (x.subtreeMatches f k).2

lemma Forest.matches_empty (f : Forest) (k : Key) : f.Matches "" k := List.nil_infix

lemma SearchIndex.filterVisible_of_empty {x : SearchIndex} (hq : x.query = "") (f : Forest)
    (ks : List Key) : (filterVisible f x ks).2 = ks := by
  induction ks generalizing x with
  | nil => rfl
  | cons k ks ih =>
    have hempty : (x.sync f).query = "" := (query_sync x f).trans hq
    have hnext : (x.subtreeMatches f k).1.query = "" := by
      rw [subtreeMatches, if_pos (String.isEmpty_iff.mpr hempty), hempty]
    rw [filterVisible, ih hnext, (View.answers_of_empty hq f k).2.1, if_pos rfl]

lemma SearchIndex.answersFor_of_settled {f : Forest} {x : SearchIndex} (hf : f.WellFormed)
    (hx : Settled f f.IsNode x) : AnswersFor f x.scene x.query x := by
  by_cases hq : x.query = ""
  · have hall := View.answers_of_empty hq f
    refine ⟨rfl, rfl, fun k _ => ?_, fun k _ => ?_, fun k _ => ?_, ?_⟩
    · rw [hq]
      exact iff_of_true (hall k).1 (f.matches_empty k)
    · rw [hq]
      exact iff_of_true (hall k).2.1 ⟨k, .refl, f.matches_empty k⟩
    · rw [(hall k).2.2]
      exact iff_of_false Bool.false_ne_true fun h => h.1 hq
    · rw [visible, filterVisible_of_empty hq, List.filter_eq_self.mpr fun k _ => (hall k).2.1]
  · have hsubtree := fun k (hk : f.IsNode k) => subtreeMatches_iff hf (trees_isNode hf) hx hq hk
    refine ⟨rfl, rfl, fun k => isMatch_iff hf hx hq, hsubtree, fun k hk => ?_, ?_⟩
    · rw [shouldExpand_iff hf hx hq hk]
      exact (and_iff_right hq).symm
    · have hwalk : ∀ k ∈ f.walk x.scene, f.IsNode k := fun k hk => hf.isNode_of_mem_walk hk
      exact filterVisible_eq hf (trees_isNode hf) hx hq hwalk fun k hk => hsubtree k (hwalk k hk)

/-! ### Questions leave the scene -/

namespace SearchIndex

variable {f : Forest} {k : Key}

lemma scene_ensure (x : SearchIndex) (f : Forest) : (x.ensure f).scene = x.scene := by
  rw [ensure]
  split
  · exact scene_sync x f
  · exact (refresh_fields _ f none).2.2.1.trans (scene_sync x f)

lemma scene_decideDirect (x : SearchIndex) (f : Forest) (k : Key) :
    (x.decideDirect f k).1.scene = x.scene := by
  rw [decideDirect]
  split <;> rfl

lemma scene_decideSubtree (f : Forest) (n : Nat) (x : SearchIndex) (k : Key) :
    (decideSubtree f n x k).1.scene = x.scene := by
  induction n generalizing x k with
  | zero => rfl
  | succ n ih =>
    cases hget : x.subtree.get? k with
    | some b => rw [decideSubtree, hget]
    | none =>
      rw [decideSubtree_of_none hget]
      change (decideAnew f (decideSubtree f n) x k).1.scene = x.scene
      rw [decideAnew]
      split
      · exact scene_decideDirect x f k
      · exact (anyOf_spec (I := fun y => y.scene = x.scene) (fun _ => True) _
          (fun c _ y hy => (ih y c).trans hy) _ (scene_decideDirect x f k)).1

lemma scene_subtreeMatches (x : SearchIndex) (f : Forest) (k : Key) :
    (x.subtreeMatches f k).1.scene = x.scene := by
  rw [subtreeMatches]
  split
  · exact scene_sync x f
  · rw [scene_decideSubtree, scene_ensure, scene_sync]

lemma scene_ask (x : SearchIndex) (f : Forest) (a : Question) : (x.ask f a).scene = x.scene := by
  cases a with
  | isMatch k =>
    rw [ask, isMatch]
    split
    · exact scene_sync x f
    · rw [scene_decideDirect, scene_ensure, scene_sync]
  | subtreeMatches k => exact scene_subtreeMatches x f k
  | shouldExpand k =>
    rw [ask, shouldExpand]
    split
    · exact scene_sync x f
    · exact (scene_ensure _ f).trans (scene_sync x f)
  | visible =>
    rw [ask, visible]
    generalize f.walk x.scene = ks
    induction ks generalizing x with
    | nil => rfl
    | cons k ks ih =>
      rw [filterVisible]
      exact (ih _).trans (scene_subtreeMatches x f k)

end SearchIndex

namespace DebouncedSearch

/-! ### Runs -/

/-- Any task may take its turn at any time, so that quiet periods of every length are among the
runs. -/
inductive Action where
  | submit (query : String)
  | cancel
  | turn (i : Nat)
  | ask (a : Question)

/-- A search, and the results that it announced: the query of the index then, and the number of the
task that applied it. -/
structure Play where
  search : DebouncedSearch
  results : List (String × Nat)

def Play.step (f : Forest) (p : Play) : Action → Play
  | .submit query => { p with search := p.search.submit query }
  | .cancel => { p with search := p.search.cancel }
  | .turn i =>
    match p.search.turn f i with
    | (d, true) => ⟨d, p.results ++ [(d.index.query, i)]⟩
    | (d, false) => ⟨d, p.results⟩
  | .ask a => { p with search := { p.search with index := p.search.index.ask f a } }

def play (f : Forest) (x : SearchIndex) (as : List Action) : Play :=
  as.foldl (Play.step f) ⟨new x, []⟩

def submitted (as : List Action) : List String :=
  as.filterMap fun
    | .submit query => some query
    | _ => none

/-- The query that was asked for last and not called off since. -/
def lastRequest? (as : List Action) : Option String :=
  as.foldl (fun last a => match a with
    | .submit query => some query
    | .cancel => none
    | _ => last) none

/-- What it means after some actions that the newest query wins. -/
structure NewestWins (f : Forest) (s : SceneId) (as : List Action) (p : Play) : Prop where
  /-- At most one task may still apply its query. -/
  waiting : p.search.tasks.countP (fun t => t.phase = .waiting) ≤ 1
  /-- What was applied was submitted, in this order, and nothing was applied twice. -/
  ordered : p.results.Sublist ((submitted as).map Name.trim).zipIdx
  runs : p.search.runs = p.results.length
  applied : p.search.tasks.countP (fun t => t.phase = .applied) = p.results.length
  /-- Only the task of the newest query applies it, only once, and not after it was cancelled. -/
  turn : ∀ i, (p.search.turn f i).2 = true ↔
    (lastRequest? as).isSome ∧ i + 1 = (submitted as).length ∧ i ∉ p.results.map Prod.snd
  answers : p.search.isPending = false →
    ∀ query ∈ lastRequest? as, AnswersFor f s (Name.trim query) p.search.index

variable {f : Forest} {s : SceneId} {x : SearchIndex} {d : DebouncedSearch} {p : Play}
  {as : List Action} {ts past : List SearchTask} {t : SearchTask} {i : Nat}

lemma play_concat (f : Forest) (x : SearchIndex) (as : List Action) (a : Action) :
    play f x (as ++ [a]) = (play f x as).step f a := List.foldl_concat ..

/-! ### The last task -/

lemma mapLast_concat (g : SearchTask → SearchTask) (ts : List SearchTask) (t : SearchTask) :
    mapLast g (ts ++ [t]) = ts ++ [g t] := by
  induction ts with
  | nil => rfl
  | cons u ts ih =>
    rw [List.cons_append, mapLast, ih, List.cons_append]
    exact fun h => List.append_ne_nil_of_right_ne_nil ts (List.cons_ne_nil t []) h

/-- What a task has announced, if it was applied. -/
def result? (t : SearchTask) : Option String :=
  if t.phase = .applied then some (Name.trim t.query) else none

/-- The results that the tasks which were applied have announced. -/
def announced (results : List (Option String)) : List (String × Nat) :=
  results.zipIdx.filterMap fun r => r.1.map (·, r.2)

lemma stop_spec (t : SearchTask) :
    t.stop.phase ≠ .waiting ∧ t.stop.query = t.query ∧ result? t.stop = result? t := by
  rw [SearchTask.stop]
  split
  · next h => exact ⟨nofun, rfl, by rw [result?, result?, h, if_neg nofun, if_neg nofun]⟩
  · next h => exact ⟨h, rfl, rfl⟩

lemma map_mapLast_stop {α : Type} {g : SearchTask → α} (hg : ∀ t, g t.stop = g t)
    (ts : List SearchTask) : (mapLast .stop ts).map g = ts.map g := by
  induction ts using List.reverseRecOn with
  | nil => rfl
  | append_singleton ts t _ =>
    rw [mapLast_concat, List.map_append, List.map_append, List.map_singleton, List.map_singleton,
      hg]

/-- No task of a list applies its query any more. -/
def Past (ts : List SearchTask) : Prop := ∀ t ∈ ts, t.phase ≠ .waiting

lemma past_concat : Past (ts ++ [t]) ↔ Past ts ∧ t.phase ≠ .waiting := by
  simp only [Past, List.forall_mem_append, List.forall_mem_singleton]

lemma past_set (h : Past ts) (ht : t.phase ≠ .waiting) : Past (ts.set i t) := by
  intro u hu
  rcases List.mem_or_eq_of_mem_set hu with hu | rfl
  · exact h u hu
  · exact ht

lemma map_set_of_eq {α : Type} {g : SearchTask → α} {u : SearchTask} (ht : ts[i]? = some t)
    (hg : g u = g t) : (ts.set i u).map g = ts.map g := by
  obtain ⟨hi, rfl⟩ := List.getElem?_eq_some_iff.mp ht
  rw [List.map_set, hg, ← List.getElem_map g, List.set_getElem_self]
  rwa [List.length_map]

/-! ### What is announced -/

lemma announced_concat (rs : List (Option String)) (r : Option String) :
    announced (rs ++ [r]) = announced rs ++ (r.map (·, rs.length)).toList := by
  rw [announced, announced, List.zipIdx_append, List.filterMap_append]
  cases r <;> simp

lemma announced_sublist (ts : List SearchTask) :
    (announced (ts.map result?)).Sublist ((ts.map SearchTask.query).map Name.trim).zipIdx := by
  induction ts using List.reverseRecOn with
  | nil => exact .slnil
  | append_singleton ts t ih =>
    simp only [List.map_append, List.map_singleton, announced_concat, List.zipIdx_append,
      List.length_map]
    refine ih.append ?_
    rw [result?]
    split
    · simp
    · exact List.nil_sublist _

lemma length_announced (ts : List SearchTask) :
    (announced (ts.map result?)).length = ts.countP fun t => t.phase = .applied := by
  induction ts using List.reverseRecOn with
  | nil => rfl
  | append_singleton ts t ih =>
    rw [List.map_append, List.map_singleton, announced_concat, List.length_append, ih,
      List.countP_append, result?, List.countP_singleton]
    by_cases h : t.phase = .applied <;> simp [h]

lemma mem_announced (ts : List SearchTask) (i : Nat) :
    i ∈ (announced (ts.map result?)).map Prod.snd ↔ ∃ q, ts[i]? = some ⟨q, .applied⟩ := by
  simp only [announced, List.mem_map, List.mem_filterMap, List.mem_zipIdx_iff_getElem?,
    List.getElem?_map, Option.map_eq_some_iff, Prod.exists]
  constructor
  · rintro ⟨_, _, ⟨_, _, ⟨⟨q, phase⟩, ht, rfl⟩, _, hr, hi⟩, rfl⟩
    cases hi
    have hphase : phase = .applied := by
      by_contra h
      rw [result?, if_neg h] at hr
      cases hr
    exact ⟨q, hphase ▸ ht⟩
  · rintro ⟨q, ht⟩
    exact ⟨Name.trim q, i, ⟨some (Name.trim q), i, ⟨_, ht, rfl⟩, _, rfl, rfl⟩, rfl⟩

/-! ### What stays true -/

/-- Only the task of the newest query still waits, or it has been applied. -/
def Newest (f : Forest) (x : SearchIndex) : Option String → List SearchTask → Prop
  | none, ts => Past ts
  | some q, ts => ∃ past phase, ts = past ++ [⟨q, phase⟩] ∧ Past past ∧
    (phase = .waiting ∨ phase = .applied ∧ x.query = Name.trim q ∧ Settled f f.IsNode x)

lemma Newest.past_stop {last : Option String} (h : Newest f x last ts) :
    Past (mapLast .stop ts) := by
  cases last with
  | some q =>
    obtain ⟨past, phase, rfl, hpast, -⟩ := h
    rw [mapLast_concat]
    exact past_concat.mpr ⟨hpast, (stop_spec _).1⟩
  | none =>
    induction ts using List.reverseRecOn with
    | nil => exact h
    | append_singleton ts t _ =>
      rw [mapLast_concat]
      exact past_concat.mpr ⟨(past_concat.mp h).1, (stop_spec t).1⟩

lemma getElem?_concat_cases {u : SearchTask} (h : (past ++ [t])[i]? = some u) :
    i < past.length ∧ past[i]? = some u ∨ i = past.length ∧ u = t := by
  rcases Nat.lt_trichotomy i past.length with hlt | rfl | hgt
  · exact .inl ⟨hlt, List.getElem?_append_left hlt ▸ h⟩
  · rw [List.getElem?_concat_length] at h
    exact .inr ⟨rfl, (Option.some.inj h).symm⟩
  · rw [List.getElem?_eq_none (by simpa using Nat.succ_le_of_lt hgt)] at h
    cases h

lemma Newest.of_waiting {last : Option String} {q : String} (h : Newest f x last ts)
    (hi : ts[i]? = some ⟨q, .waiting⟩) :
    last = some q ∧ ∃ past, ts = past ++ [⟨q, .waiting⟩] ∧ i = past.length ∧ Past past := by
  cases last with
  | none => exact absurd rfl (h _ (List.mem_of_getElem? hi))
  | some q' =>
    obtain ⟨past, phase, rfl, hpast, -⟩ := h
    obtain ⟨-, hi⟩ | ⟨rfl, ht⟩ := getElem?_concat_cases hi
    · exact absurd rfl (hpast _ (List.mem_of_getElem? hi))
    · cases ht
      exact ⟨rfl, past, rfl, rfl, hpast⟩

lemma Newest.stopped {last : Option String} {q : String} (h : Newest f x last ts)
    (hi : ts[i]? = some ⟨q, .stopping⟩) : Newest f x last (ts.set i ⟨q, .stopped⟩) := by
  cases last with
  | none => exact past_set h nofun
  | some q' =>
    obtain ⟨past, phase, rfl, hpast, hphase⟩ := h
    obtain ⟨hlt, -⟩ | ⟨-, ht⟩ := getElem?_concat_cases hi
    · exact ⟨past.set i ⟨q, .stopped⟩, phase, List.set_append_left _ _ hlt, past_set hpast nofun,
        hphase⟩
    · cases ht
      simp at hphase

lemma Newest.of_continues {last : Option String} {y : SearchIndex} (h : Newest f x last ts)
    (hy : Settled f f.IsNode x → Continues f f.IsNode x y) : Newest f y last ts := by
  cases last with
  | none => exact h
  | some q =>
    obtain ⟨past, phase, hts, hpast, hphase⟩ := h
    refine ⟨past, phase, hts, hpast, hphase.imp_right fun ⟨happlied, hquery, hx⟩ => ?_⟩
    exact ⟨happlied, (hy hx).query.trans hquery, (hy hx).settled⟩

/-- What holds of a search after some actions. -/
structure Follows (f : Forest) (s : SceneId) (as : List Action) (p : Play) : Prop where
  queries : p.search.tasks.map SearchTask.query = submitted as
  results : p.results = announced (p.search.tasks.map result?)
  runs : p.search.runs = p.results.length
  scene : p.search.index.scene = s
  newest : Newest f p.search.index (lastRequest? as) p.search.tasks

lemma submitted_concat (as : List Action) (a : Action) :
    submitted (as ++ [a]) = submitted as ++ submitted [a] := List.filterMap_append ..

lemma lastRequest?_concat (as : List Action) (a : Action) :
    lastRequest? (as ++ [a]) = match a with
      | .submit query => some query
      | .cancel => none
      | _ => lastRequest? as := List.foldl_concat ..

lemma turn_cases (d : DebouncedSearch) (f : Forest) (i : Nat) :
    (∃ q, d.tasks[i]? = some ⟨q, .waiting⟩ ∧ d.turn f i =
      (⟨d.tasks.set i ⟨q, .applied⟩, ((d.index.sync f).setQuery q).refresh f none, d.runs + 1⟩,
        true)) ∨
    (∃ q, d.tasks[i]? = some ⟨q, .stopping⟩ ∧
      d.turn f i = ({ d with tasks := d.tasks.set i ⟨q, .stopped⟩ }, false)) ∨
    d.turn f i = (d, false) ∧ ∀ q, d.tasks[i]? ≠ some ⟨q, .waiting⟩ := by
  rw [turn]
  split
  · next q h => exact .inl ⟨q, h, rfl⟩
  · next q h => exact .inr (.inl ⟨q, h, rfl⟩)
  · next h _ => exact .inr (.inr ⟨rfl, h⟩)

lemma turn_iff (d : DebouncedSearch) (f : Forest) (i : Nat) :
    (d.turn f i).2 = true ↔ ∃ q, d.tasks[i]? = some ⟨q, .waiting⟩ := by
  obtain ⟨q, hi, hturn⟩ | ⟨q, hi, hturn⟩ | ⟨hturn, hi⟩ := turn_cases d f i
  · simp [hturn, hi]
  · simp [hturn, hi]
  · simpa [hturn] using hi

lemma follows_submit (h : Follows f s as p) (q : String) :
    Follows f s (as ++ [.submit q]) (p.step f (.submit q)) where
  queries := by
    rw [submitted_concat, ← h.queries, Play.step, submit, List.map_append,
      map_mapLast_stop fun t => (stop_spec t).2.1]
    rfl
  results := by
    rw [Play.step, h.results, submit, List.map_append,
      map_mapLast_stop fun t => (stop_spec t).2.2, List.map_singleton, announced_concat]
    exact (List.append_nil _).symm
  runs := h.runs
  scene := h.scene
  newest := by
    rw [lastRequest?_concat]
    exact ⟨_, _, rfl, h.newest.past_stop, .inl rfl⟩

lemma follows_cancel (h : Follows f s as p) :
    Follows f s (as ++ [.cancel]) (p.step f .cancel) where
  queries := by
    rw [submitted_concat, ← h.queries, Play.step, cancel,
      map_mapLast_stop fun t => (stop_spec t).2.1]
    exact (List.append_nil _).symm
  results := by
    rw [Play.step, h.results, cancel, map_mapLast_stop fun t => (stop_spec t).2.2]
  runs := h.runs
  scene := h.scene
  newest := by
    rw [lastRequest?_concat]
    exact h.newest.past_stop

lemma follows_ask (hf : f.WellFormed) (h : Follows f s as p) (a : Question) :
    Follows f s (as ++ [.ask a]) (p.step f (.ask a)) where
  queries := by
    rw [submitted_concat, ← h.queries]
    exact (List.append_nil _).symm
  results := h.results
  runs := h.runs
  scene := (scene_ask p.search.index f a).trans h.scene
  newest := by
    rw [lastRequest?_concat]
    exact h.newest.of_continues fun hx => continues_ask hf (trees_isNode hf) hx a

lemma setQuery_refresh_spec (hf : f.WellFormed) (x : SearchIndex) (q : String) :
    let y := ((x.sync f).setQuery q).refresh f none
    y.query = Name.trim q ∧ y.scene = x.scene ∧ Settled f f.IsNode y := by
  obtain ⟨hquery, hscene⟩ := query_setQuery (x.sync f) q
  have hrefresh : Continues f f.IsNode ((x.sync f).setQuery q)
      (((x.sync f).setQuery q).refresh f none) := continues_refresh hf (by rintro _ ⟨⟩) _
  exact ⟨hrefresh.query.trans hquery, (hrefresh.scene.trans hscene).trans (scene_sync x f),
    hrefresh.settled⟩

lemma follows_turn (hf : f.WellFormed) (h : Follows f s as p) (i : Nat) :
    Follows f s (as ++ [.turn i]) (p.step f (.turn i)) := by
  have hqueries : submitted (as ++ [.turn i]) = submitted as := by
    rw [submitted_concat]
    exact List.append_nil _
  have hlast : lastRequest? (as ++ [.turn i]) = lastRequest? as := lastRequest?_concat ..
  obtain ⟨q, hi, hturn⟩ | ⟨q, hi, hturn⟩ | ⟨hturn, -⟩ := turn_cases p.search f i
  · -- only the last task can wait, so the query that is applied is the newest
    obtain ⟨hq, past, htasks, rfl, hpast⟩ := h.newest.of_waiting hi
    obtain ⟨hquery, hscene, hsettled⟩ := setQuery_refresh_spec hf p.search.index q
    generalize ((p.search.index.sync f).setQuery q).refresh f none = y at *
    have hset : p.search.tasks.set past.length ⟨q, .applied⟩ = past ++ [⟨q, .applied⟩] := by
      rw [htasks, List.set_append_right _ _ (Nat.le_refl _), Nat.sub_self, List.set_cons_zero]
    have hstep : p.step f (.turn past.length) =
        ⟨⟨past ++ [⟨q, .applied⟩], y, p.search.runs + 1⟩,
          p.results ++ [(Name.trim q, past.length)]⟩ := by
      rw [Play.step, hturn, hset, ← hquery]
    rw [hstep]
    refine ⟨?_, ?_, ?_, hscene.trans h.scene, ?_⟩
    · rw [hqueries, ← h.queries, htasks, List.map_append, List.map_append]
      rfl
    · rw [h.results, htasks]
      simp [announced_concat, result?]
    · rw [h.runs, List.length_append, List.length_singleton]
    · rw [hlast, hq]
      exact ⟨past, .applied, rfl, hpast, .inr ⟨rfl, hquery, hsettled⟩⟩
  · have hsame : (p.search.tasks.set i ⟨q, .stopped⟩).map result? = p.search.tasks.map result? :=
      map_set_of_eq hi rfl
    rw [Play.step, hturn]
    refine ⟨?_, h.results.trans (congrArg announced hsame.symm), h.runs, h.scene, ?_⟩
    · rw [hqueries, ← h.queries]
      exact map_set_of_eq hi rfl
    · rw [hlast]
      exact h.newest.stopped hi
  · rw [Play.step, hturn]
    exact ⟨hqueries ▸ h.queries, h.results, h.runs, h.scene, hlast ▸ h.newest⟩

lemma follows_play (hf : f.WellFormed) (x : SearchIndex) (as : List Action) :
    Follows f x.scene as (play f x as) := by
  induction as using List.reverseRecOn with
  | nil => exact ⟨rfl, rfl, rfl, rfl, nofun⟩
  | append_singleton as a ih =>
    rw [play_concat]
    cases a with
    | submit q => exact follows_submit ih q
    | cancel => exact follows_cancel ih
    | turn i => exact follows_turn hf ih i
    | ask a => exact follows_ask hf ih a

/-! ### The newest query -/

lemma Past.countP_waiting (h : Past ts) : ts.countP (fun t => t.phase = .waiting) = 0 :=
  List.countP_eq_zero.mpr fun t ht => by simpa using h t ht

lemma Newest.countP_waiting_le {last : Option String} (h : Newest f x last ts) :
    ts.countP (fun t => t.phase = .waiting) ≤ 1 := by
  cases last with
  | none => exact (Past.countP_waiting h).le.trans (Nat.zero_le 1)
  | some q =>
    obtain ⟨past, phase, rfl, hpast, -⟩ := h
    rw [List.countP_append, hpast.countP_waiting, Nat.zero_add]
    exact List.countP_le_length

lemma Newest.waiting_iff {last : Option String} (h : Newest f x last ts) (i : Nat) :
    (∃ q, ts[i]? = some ⟨q, .waiting⟩) ↔
      last.isSome ∧ i + 1 = ts.length ∧ ¬ ∃ q, ts[i]? = some ⟨q, .applied⟩ := by
  constructor
  · rintro ⟨q, hi⟩
    obtain ⟨rfl, past, rfl, rfl, -⟩ := h.of_waiting hi
    simp
  · rintro ⟨hlast, hi, hunapplied⟩
    obtain ⟨q, rfl⟩ := Option.isSome_iff_exists.mp hlast
    obtain ⟨past, phase, rfl, -, rfl | ⟨rfl, -, -⟩⟩ := h
    · obtain rfl : i = past.length := by simpa using hi
      exact ⟨q, List.getElem?_concat_length⟩
    · obtain rfl : i = past.length := by simpa using hi
      exact absurd ⟨q, List.getElem?_concat_length⟩ hunapplied

/-- **The newest query wins.** Whatever is submitted and cancelled, and whenever the tasks take their
turns: at most one task waits; the queries that are applied are among the submitted ones, in their
order and each at most once, never one that was superseded or cancelled before; `runs` counts them
and what was announced; and once nothing is pending after a query was submitted, the index answers
for this query. -/
theorem newest_wins (hf : f.WellFormed) (x : SearchIndex) (as : List Action) :
    NewestWins f x.scene as (play f x as) := by
  have h := follows_play hf x as
  have hlength : (play f x as).search.tasks.length = (submitted as).length := by
    rw [← h.queries, List.length_map]
  refine ⟨h.newest.countP_waiting_le, ?_, h.runs, ?_, fun i => ?_, fun hidle q hq => ?_⟩
  · rw [h.results, ← h.queries]
    exact announced_sublist _
  · rw [h.results, length_announced]
  · rw [turn_iff, h.newest.waiting_iff, hlength, h.results, mem_announced]
  · have hnewest := h.newest
    rw [Option.mem_def.mp hq] at hnewest
    obtain ⟨past, phase, htasks, -, rfl | ⟨-, hquery, hsettled⟩⟩ := hnewest
    · simp [isPending, htasks, SearchTask.isOpen] at hidle
    · have hanswers := answersFor_of_settled hf hsettled
      rwa [hquery, h.scene] at hanswers

/-- A query that is applied, and one that is superseded while the quiet period still runs. -/
def typing : List Action :=
  [.submit "menu", .turn 0, .submit "a", .submit " play ", .turn 1, .ask .visible, .turn 2]

theorem newest_wins_of_typing :
    menuForest.WellFormed ∧
      NewestWins menuForest 0 typing (play menuForest (.new menuForest 0) typing) :=
  ⟨housed_menuForest.toWellFormed,
    newest_wins housed_menuForest.toWellFormed (.new menuForest 0) typing⟩

example :
    (play menuForest (.new menuForest 0) typing).results = [("menu", 0), ("play", 2)] := by
  decide +kernel

end DebouncedSearch

end SceneBindings
