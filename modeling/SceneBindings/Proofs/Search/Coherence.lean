import Mathlib.Data.List.DropRight
import SceneBindings.Proofs.Search.CatchingUp

/-!
Coherence. A scene with a path cache and a search index attached to it goes through edits and
questions; what the two remember is right in every state, up to the edits that the scene is not told
of.
-/

namespace SceneBindings

open Forest SearchIndex

lemma Name.trim_trim (s : String) : Name.trim (Name.trim s) = Name.trim s := by
  have hchars : ∀ cs, Text.trim (Text.trim cs) = Text.trim cs := by
    intro cs
    have hpre : Text.trim cs <+: cs.dropWhile Text.isBlank := List.rdropWhile_prefix _ _
    have hhead : (Text.trim cs).dropWhile Text.isBlank = Text.trim cs := by
      rw [List.dropWhile_eq_self_iff]
      intro hpos
      have hpos' := Nat.lt_of_lt_of_le hpos hpre.length_le
      rw [hpre.getElem hpos]
      exact List.dropWhile_eq_self_iff.mp (List.dropWhile_idempotent _ cs) hpos'
    rw [Text.trim, Text.dropLeading, hhead]
    exact List.rdropWhile_idempotent _ _
  simp only [Name.trim, Name.ofChars, String.toList_ofList, hchars]

/-- A forest, and a path cache and a search index that follow a scene of it. -/
structure View where
  forest : Forest
  cache : PathCache
  index : SearchIndex

namespace View

/-- A cache and an index as they are attached to a scene. -/
def new (f : Forest) (s : SceneId) : View := ⟨f, (PathCache.new f).attach f s, SearchIndex.new f s⟩

inductive Action where
  | edit (e : Edit)
  | path (k : Key)
  | setQuery (query : String)
  | refresh (snapshot : Option (List Key))
  | ask (a : Question)

def step (v : View) : Action → View
  | .edit e => { v with forest := v.forest.edit e }
  | .path k => { v with cache := (v.cache.get v.forest k).1 }
  | .setQuery query => { v with index := (v.index.sync v.forest).setQuery query }
  | .refresh snapshot => { v with index := v.index.refresh v.forest snapshot }
  | .ask a => { v with index := v.index.ask v.forest a }

def run (v : View) (as : List Action) : View := as.foldl step v

/-- Edits of the scene that hang nothing below itself, and snapshots of the scene in any order. -/
def Allows (v : View) (s : SceneId) : Action → Prop
  | .edit e => v.forest.Allows s e
  | .refresh (some nodes) => nodes.Perm (v.forest.walk s)
  | _ => True

def AllowsAll (v : View) (s : SceneId) : List Action → Prop
  | [] => True
  | a :: as => v.Allows s a ∧ (v.step a).AllowsAll s as

/-- A new index for the same query. -/
def fresh (v : View) (s : SceneId) : SearchIndex :=
  (SearchIndex.new v.forest s).setQuery v.index.query

/-- Of all nodes that the scene shows, the cache gives the full path, and the index answers as a new
one does. -/
structure Coherent (v : View) (s : SceneId) : Prop where
  path : ∀ n ∈ v.forest.walk s, (v.cache.get v.forest n).2 = v.forest.fullPath n
  isMatch : ∀ n ∈ v.forest.walk s,
    (v.index.isMatch v.forest n).2 = ((v.fresh s).isMatch v.forest n).2
  subtreeMatches : ∀ n ∈ v.forest.walk s,
    (v.index.subtreeMatches v.forest n).2 = ((v.fresh s).subtreeMatches v.forest n).2
  shouldExpand : ∀ n ∈ v.forest.walk s,
    (v.index.shouldExpand v.forest n).2 = ((v.fresh s).shouldExpand v.forest n).2

/-- What holds of cache and index whatever edits there are. -/
structure Attached (v : View) (s : SceneId) : Prop where
  housed : v.forest.Housed s
  scene : v.index.scene = s
  attached : v.index.attached = true
  seen : v.index.seen ≤ v.forest.changes.length
  trimmed : Name.trim v.index.query = v.index.query
  follows : v.cache.follows.contains s = true
  seenPaths : v.cache.seen ≤ v.forest.changes.length

/-- Neither cache nor index remembers anything wrong of what the scene shows. -/
structure Current (v : View) (s : SceneId) : Prop where
  paths : v.cache.Settled v.forest s
  answers : SearchIndex.Settled v.forest (· ∈ v.forest.walk s) v.index

variable {f : Forest} {s : SceneId} {v : View} {a : Action} {as : List Action}

/-! ### Coherent is current -/

lemma settled_of_not_computed {x : SearchIndex} {P : Key → Prop}
    (hseen : x.seen = f.changes.length) (hx : x.computed = false) :
    SearchIndex.Settled f P x := by
  intro _ hcomputed
  rw [sync_of_seen hseen, hx] at hcomputed
  cases hcomputed

lemma fresh_spec (v : View) (s : SceneId) :
    (v.fresh s).query = Name.trim v.index.query ∧ (v.fresh s).scene = s ∧
      SearchIndex.Settled v.forest (· ∈ v.forest.walk s) (v.fresh s) := by
  obtain ⟨hquery, hscene⟩ := query_setQuery (SearchIndex.new v.forest s) v.index.query
  refine ⟨hquery, hscene, settled_of_not_computed ?_ ?_⟩
  · rw [fresh, setQuery]
    split <;> rfl
  · rw [fresh, setQuery]
    split <;> rfl

lemma answers_of_empty {x : SearchIndex} (hq : x.query = "") (f : Forest) (k : Key) :
    (x.isMatch f k).2 = true ∧ (x.subtreeMatches f k).2 = true ∧ (x.shouldExpand f k).2 = false := by
  have hempty : (x.sync f).query.isEmpty = true := by
    rw [query_sync, hq]
    rfl
  refine ⟨?_, ?_, ?_⟩
  · rw [isMatch, if_pos hempty]
  · rw [subtreeMatches, if_pos hempty]
  · rw [shouldExpand, if_pos hempty]

lemma coherent_of_current (h : v.Attached s) (hv : v.Current s) : v.Coherent s := by
  obtain ⟨hquery, hscene, hfresh⟩ := v.fresh_spec s
  rw [h.trimmed] at hquery
  have hpath := PathCache.settled_iff.mp hv.paths
  have hf := h.housed.toWellFormed
  by_cases hq : v.index.query = ""
  · have hsame := fun k => And.intro (answers_of_empty hq v.forest k)
      (answers_of_empty (hquery.trans hq) v.forest k)
    refine ⟨hpath, fun n _ => ?_, fun n _ => ?_, fun n _ => ?_⟩
    · rw [(hsame n).1.1, (hsame n).2.1]
    · rw [(hsame n).1.2.1, (hsame n).2.2.1]
    · rw [(hsame n).1.2.2, (hsame n).2.2.2]
  · have hq' : (v.fresh s).query ≠ "" := by rwa [hquery]
    have htrees := trees_walk h.housed
    refine ⟨hpath, fun n hn => ?_, fun n hn => ?_, fun n hn => ?_⟩
    · rw [Bool.eq_iff_iff, isMatch_iff hf hv.answers hq hn, isMatch_iff hf hfresh hq' hn, hquery]
    · rw [Bool.eq_iff_iff, subtreeMatches_iff hf htrees hv.answers hq hn,
        subtreeMatches_iff hf htrees hfresh hq' hn, hquery]
    · rw [Bool.eq_iff_iff, shouldExpand_iff hf hv.answers hq (by rwa [h.scene]),
        shouldExpand_iff hf hfresh hq' (by rwa [hscene]), hquery]

lemma current_of_coherent (h : v.Attached s) (hv : v.Coherent s) : v.Current s := by
  obtain ⟨hquery, hscene, hfresh⟩ := v.fresh_spec s
  rw [h.trimmed] at hquery
  have hf := h.housed.toWellFormed
  have htrees := trees_walk h.housed
  refine ⟨PathCache.settled_iff.mpr hv.path, settled_of_answers h.housed h.scene ?_⟩
  intro hq n hn
  have hq' : (v.fresh s).query ≠ "" := by rwa [hquery]
  refine ⟨?_, ?_, ?_⟩
  · rw [hv.isMatch n hn, isMatch_iff hf hfresh hq' hn, hquery]
  · rw [hv.subtreeMatches n hn, subtreeMatches_iff hf htrees hfresh hq' hn, hquery]
  · rw [hv.shouldExpand n hn, shouldExpand_iff hf hfresh hq' (by rwa [hscene]), hquery]

/-! ### Steps -/

lemma attached_edit (h : v.Attached s) {e : Edit} (he : v.forest.Allows s e) :
    (v.step (.edit e)).Attached s := by
  obtain ⟨news, hchanges⟩ := changes_edit v.forest e
  have hgrown : v.forest.changes.length ≤ (v.forest.edit e).changes.length := by
    rw [hchanges, List.length_append]
    exact Nat.le_add_left _ _
  exact ⟨h.housed.edit he, h.scene, h.attached, h.seen.trans hgrown, h.trimmed, h.follows,
    h.seenPaths.trans hgrown⟩

lemma current_edit (h : v.Attached s) (hv : v.Current s) {e : Edit} (he : v.forest.Allows s e)
    (hs : ¬ v.forest.Silent s e) : (v.step (.edit e)).Current s := by
  have hreach := reaches_edit h.housed he hs
  have hg := h.housed.edit he
  obtain ⟨news, hchanges⟩ := changes_edit v.forest e
  exact ⟨PathCache.settled_of_reaches hv.paths hreach hg hchanges h.seenPaths h.follows,
    SearchIndex.settled_of_reaches hv.answers hreach h.housed hg hchanges h.seen h.scene h.attached⟩

lemma attached_of_continues (h : v.Attached s) {x : SearchIndex} {P : Key → Prop}
    (hx : Continues v.forest P v.index x) : ({ v with index := x } : View).Attached s := by
  refine ⟨h.housed, hx.scene.trans h.scene, hx.attached.trans h.attached, ?_, ?_, h.follows,
    h.seenPaths⟩
  · rcases hx.seen with hseen | hseen
    · exact hseen ▸ h.seen
    · exact Nat.le_of_eq hseen
  · rw [hx.query]
    exact h.trimmed

lemma step_path (h : v.Attached s) (hv : v.Current s) (k : Key) :
    (v.step (.path k)).Attached s ∧ (v.step (.path k)).Current s := by
  obtain ⟨hseen, hfollows, -⟩ := PathCache.get_fields v.cache v.forest k
  refine ⟨⟨h.housed, h.scene, h.attached, h.seen, h.trimmed, ?_, Nat.le_of_eq hseen⟩,
    PathCache.settled_get hv.paths k, hv.answers⟩
  rw [step, hfollows]
  exact h.follows

lemma step_setQuery (h : v.Attached s) (hv : v.Current s) (query : String) :
    (v.step (.setQuery query)).Attached s ∧ (v.step (.setQuery query)).Current s := by
  have hsync := continues_sync hv.answers
  have hseen := seen_sync v.index v.forest
  by_cases hq : Name.trim query = (v.index.sync v.forest).query
  · have hsame : (v.index.sync v.forest).setQuery query = v.index.sync v.forest := by
      rw [setQuery, if_pos (beq_iff_eq.mpr hq)]
    rw [step, hsame]
    exact ⟨attached_of_continues h hsync, hv.paths, hsync.settled⟩
  · have hnew : (v.index.sync v.forest).setQuery query =
        { (v.index.sync v.forest).discard with query := Name.trim query } := by
      rw [setQuery, if_neg fun h => hq (beq_iff_eq.mp h)]
    rw [step, hnew]
    exact ⟨⟨h.housed, hsync.scene.trans h.scene, hsync.attached.trans h.attached,
      Nat.le_of_eq hseen, Name.trim_trim query, h.follows, h.seenPaths⟩, hv.paths,
      settled_of_not_computed hseen rfl⟩

lemma step_refresh (h : v.Attached s) (hv : v.Current s) {snapshot : Option (List Key)}
    (ha : v.Allows s (.refresh snapshot)) :
    (v.step (.refresh snapshot)).Attached s ∧ (v.step (.refresh snapshot)).Current s := by
  have hrefresh : Continues v.forest (· ∈ v.forest.walk s) v.index
      (v.index.refresh v.forest snapshot) := by
    refine continues_refresh h.housed.toWellFormed (fun nodes hnodes => ?_) _
    subst hnodes
    rw [h.scene]
    exact ha
  exact ⟨attached_of_continues h hrefresh, hv.paths, hrefresh.settled⟩

lemma step_ask (h : v.Attached s) (hv : v.Current s) (a : Question) :
    (v.step (.ask a)).Attached s ∧ (v.step (.ask a)).Current s := by
  have hask := continues_ask h.housed.toWellFormed (trees_walk h.housed) hv.answers a
  exact ⟨attached_of_continues h hask, hv.paths, hask.settled⟩

/-! ### Runs -/

lemma run_concat (v : View) (as : List Action) (a : Action) :
    v.run (as ++ [a]) = (v.run as).step a := List.foldl_concat ..

lemma allows_of_prefix {bs : List Action} (has : v.AllowsAll s as) (hbs : bs ++ [a] <+: as) :
    (v.run bs).Allows s a := by
  induction bs generalizing v as with
  | nil =>
    obtain ⟨cs, rfl⟩ := hbs
    exact has.1
  | cons b bs ih =>
    obtain ⟨cs, rfl⟩ := hbs
    exact ih has.2 ⟨cs, rfl⟩

lemma attached_new (hf : f.Housed s) : (new f s).Attached s where
  housed := hf
  scene := rfl
  attached := rfl
  seen := Nat.le_refl _
  trimmed := (by decide +kernel : Name.trim "" = "")
  follows := by simp [new, PathCache.attach, PathCache.sync, PathCache.forget, PathCache.new]
  seenPaths := by
    simp [new, PathCache.attach, PathCache.sync, PathCache.forget, PathCache.new]

lemma current_new (f : Forest) (s : SceneId) : (new f s).Current s where
  paths := by
    intro n _ path hpath
    have hget := (PathCache.get?_sync_eq_some.mp hpath).1
    simp [new, PathCache.attach, PathCache.sync, PathCache.forget, PathCache.new, Table.get?,
      Table.empty, Table.lookup] at hget
  answers := settled_of_not_computed rfl rfl

/-- **Coherence.** A cache and an index that are attached to a scene give of all nodes that it shows
the full paths and the answers of a new index, in every state of a run, exactly if they do so right
after each edit that the scene is not told of. -/
theorem coherent_iff_after_silent (hf : f.Housed s) (has : (new f s).AllowsAll s as) :
    (∀ bs, bs <+: as → ((new f s).run bs).Coherent s) ↔
      ∀ bs e, bs ++ [.edit e] <+: as → ((new f s).run bs).forest.Silent s e →
        ((new f s).run (bs ++ [.edit e])).Coherent s := by
  refine ⟨fun h bs e hbs _ => h _ hbs, fun h => ?_⟩
  have hkept : ∀ bs, bs <+: as → ((new f s).run bs).Attached s ∧ ((new f s).run bs).Current s := by
    intro bs
    induction bs using List.reverseRecOn with
    | nil => exact fun _ => ⟨attached_new hf, current_new f s⟩
    | append_singleton bs a ih =>
      intro hbs
      obtain ⟨hattached, hcurrent⟩ := ih ((List.prefix_append bs [a]).trans hbs)
      have ha := allows_of_prefix has hbs
      rw [run_concat]
      cases a with
      | edit e =>
        have hnext := attached_edit hattached ha
        by_cases hs : ((new f s).run bs).forest.Silent s e
        · have hcoherent := h bs e hbs hs
          rw [run_concat] at hcoherent
          exact ⟨hnext, current_of_coherent hnext hcoherent⟩
        · exact ⟨hnext, current_edit hattached hcurrent ha hs⟩
      | path k => exact step_path hattached hcurrent k
      | setQuery query => exact step_setQuery hattached hcurrent query
      | refresh snapshot => exact step_refresh hattached hcurrent ha
      | ask a => exact step_ask hattached hcurrent a
  exact fun bs hbs => coherent_of_current (hkept bs hbs).1 (hkept bs hbs).2

/-- A bolt is searched for below the root, and then moved below a shelf outside of the scene. -/
def moving : List Action :=
  [.edit (.create "Root" [] true), .edit (.create "Bolt" [] true),
    .edit (.create "Shelf" [] true), .edit (.addRoot 0 1), .edit (.setParent 2 (some 1)),
    .setQuery "b", .ask (.subtreeMatches 1), .path 2, .edit (.setParent 2 (some 3))]

/-- Then the shelf becomes a root. -/
def thenShelving : List Action := [.edit (.addRoot 0 3)]

lemma allowsAll_moving :
    (new (empty.addScene "Main").1 0).AllowsAll 0 (moving ++ thenShelving) := by
  refine ⟨trivial, trivial, trivial, ⟨rfl, by decide⟩, ?_, trivial, trivial, trivial, ?_,
    ⟨rfl, by decide +kernel⟩, trivial⟩
  · exact allows_setParent (s := 0) (by decide) (by decide) (by decide) (by decide)
  · exact allows_setParent (s := 0) (by decide +kernel) (by decide +kernel) (by decide +kernel) (by decide)

theorem coherent_iff_of_moving :
    (empty.addScene "Main").1.Housed 0 ∧
      (new (empty.addScene "Main").1 0).AllowsAll 0 (moving ++ thenShelving) ∧
      ((∀ bs, bs <+: moving ++ thenShelving →
          ((new (empty.addScene "Main").1 0).run bs).Coherent 0) ↔
        ∀ bs e, bs ++ [.edit e] <+: moving ++ thenShelving →
          ((new (empty.addScene "Main").1 0).run bs).forest.Silent 0 e →
          ((new (empty.addScene "Main").1 0).run (bs ++ [.edit e])).Coherent 0) :=
  ⟨housed_addScene_empty "Main", allowsAll_moving,
    coherent_iff_after_silent (housed_addScene_empty "Main") allowsAll_moving⟩

/-- The root still matches although the bolt is gone, and when the bolt is back below the shelf it
is given its old path. -/
theorem not_coherent_of_moving :
    let v := (new (empty.addScene "Main").1 0).run moving
    let w := v.run thenShelving
    (new (empty.addScene "Main").1 0).AllowsAll 0 (moving ++ thenShelving) ∧
      v.forest.walk 0 = [1] ∧
      ((v.index.subtreeMatches v.forest 1).2, ((v.fresh 0).subtreeMatches v.forest 1).2) =
        (true, false) ∧
      w.forest.walk 0 = [1, 3, 2] ∧
      ((w.cache.get w.forest 2).2, w.forest.fullPath 2) = ("Root/Bolt", "Shelf/Bolt") := by
  refine ⟨allowsAll_moving, ?_⟩
  decide +kernel

end View

end SceneBindings
