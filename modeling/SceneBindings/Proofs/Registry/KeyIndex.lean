import SceneBindings.Proofs.Registry.PathIndex

/-!
The key index. A key has a path, and the path leads to a reference; the answer is right as long as
that reference is bound to the node of the key. This holds for every live node. The entry of a
destroyed node may outlive the reference's move to another node, and nothing else goes wrong.
-/

namespace SceneBindings

open Forest

/-- The key that an integer means; no node has a negative one. -/
def ElementKey.ofInt (z : Int) : ElementKey := .key (toString z) z.toNat?

namespace Registry

variable {f f' : Forest} {g g' : Registry} {k k' : Key} {p : String}

/-- The path leads to a reference that is bound to the node. -/
def Leads (g : Registry) (p : String) (k : Key) : Prop :=
  ∃ i, g.findPath? p = some i ∧ (g.reference i).binding = .bound k

/-- The key has an entry, and it leads to a reference that is bound to the key's node. -/
def Knows (g : Registry) (k : Key) : Prop := ∃ p, g.byKey.get? k = some p ∧ g.Leads p k

/-- The entries of live nodes lead to their references. -/
def KnowsLive (f : Forest) (g : Registry) : Prop :=
  ∀ k p, f.IsAlive k → g.byKey.get? k = some p → g.Leads p k

lemma KnowsLive.mono (h : KnowsLive f g) (hf : f.NoneRevived f') : KnowsLive f' g :=
  fun k p ha hp => h k p (hf k ha) hp

lemma KnowsLive.of_lists (h : KnowsLive f g) (hs : g'.store = g.store) (hp : g'.byPath = g.byPath)
    (hk : g'.byKey = g.byKey) : KnowsLive f g' := by
  simpa [KnowsLive, Leads, findPath?, reference, hs, hp, hk] using h

lemma knows_of_lists (hs : g'.store = g.store) (hp : g'.byPath = g.byPath)
    (hk : g'.byKey = g.byKey) : g'.Knows k ↔ g.Knows k := by
  simp [Knows, Leads, findPath?, reference, hs, hp, hk]

lemma Knows.binding {i : RefId} (h : g.Knows k) (hk : g.byKey.get? k = some p)
    (hp : g.findPath? p = some i) : (g.reference i).binding = .bound k := by
  obtain ⟨q, hq, j, hj, hb⟩ := h
  rw [hk, Option.some.injEq] at hq
  rw [← hq, hp, Option.some.injEq] at hj
  rw [hj, hb]

/-! ### One change -/

lemma leads_insert (hs : Sound f g) {r : Reference} (hfree : g.findPath? r.path = none)
    (h : g.Leads p k) : (g.insert f r).1.Leads p k := by
  obtain ⟨i, hp, hb⟩ := h
  have hold : (g.insert f r).1.reference i = g.reference i :=
    reference_append g r i (hs.stored i (hs.entry p i hp).2)
  refine ⟨i, ?_, by rw [hold, hb]⟩
  rw [findPath?_insert, if_neg (ne_of_found hp hfree), hp]

lemma leads_of_insert (hs : Sound f g) {r : Reference} (hb : r.binding = .bound k') (hne : k ≠ k')
    (h : (g.insert f r).1.Leads p k) : g.Leads p k := by
  obtain ⟨i, hp, hi⟩ := h
  have hself : (g.insert f r).1.reference g.store.length = r := reference_append_self g r
  rw [findPath?_insert] at hp
  split at hp
  · cases hp
    rw [hself, hb] at hi
    cases hi
    exact absurd rfl hne
  · have hold : (g.insert f r).1.reference i = g.reference i :=
      reference_append g r i (hs.stored i (hs.entry p i hp).2)
    exact ⟨i, hp, by rw [← hold, hi]⟩

lemma leads_drop (hs : Sound f g) {i : RefId}
    (hne : ¬ ((g.reference i).binding = .bound k ∧ (g.reference i).path = p)) (h : g.Leads p k) :
    (g.drop f i).1.Leads p k := by
  obtain ⟨j, hp, hj⟩ := h
  have hji : j ≠ i := by
    rintro rfl
    exact hne ⟨hj, (hs.entry p j hp).1⟩
  refine ⟨j, ?_, by rw [reference_drop, if_neg hji, hj]⟩
  rw [findPath?_drop, hp, if_neg]
  rintro ⟨-, he⟩
  cases he
  exact hji rfl

lemma leads_of_drop {i : RefId} (h : (g.drop f i).1.Leads p k) : g.Leads p k := by
  obtain ⟨j, hp, hj⟩ := h
  rw [findPath?_drop] at hp
  rw [reference_drop] at hj
  split at hp
  · cases hp
  · split at hj
    · exact absurd hj (Binding.release_ne_bound _ k)
    · exact ⟨j, hp, hj⟩

lemma leads_unindex {i : RefId} (hne : (g.reference i).binding ≠ .bound k) (h : g.Leads p k) :
    (g.unindex i).Leads p k := by
  obtain ⟨j, hp, hj⟩ := h
  refine ⟨j, Sound.findPath?_unindex_of_ne hp ?_, hj⟩
  rintro rfl
  exact hne hj

lemma leads_of_unindex (hs : Sound f g) {i : RefId} (h : (g.unindex i).Leads p k) :
    g.Leads p k := by
  obtain ⟨j, hp, hj⟩ := h
  exact ⟨j, (hs.ne_of_findPath?_unindex hp).1, hj⟩

section Relocate

variable {i : RefId} {path name : String}

lemma leads_relocate (hi : i < g.store.length) (hfree : (g.unindex i).findPath? path = none)
    (hne : (g.reference i).binding ≠ .bound k) (h : g.Leads p k) :
    (g.relocate f i path name k').Leads p k := by
  obtain ⟨j, hp, hj⟩ := leads_unindex hne h
  have hji : j ≠ i := by
    rintro rfl
    exact hne hj
  refine ⟨j, ?_, by rw [reference_relocate _ _ _ hi, if_neg hji]; exact hj⟩
  rw [findPath?_relocate _ _ _ hi, if_neg (ne_of_found hp hfree), hp]

lemma leads_relocate_self (hi : i < g.store.length) : (g.relocate f i path name k).Leads path k :=
  ⟨i, by rw [findPath?_relocate _ _ _ hi, if_pos rfl], by rw [reference_relocate _ _ _ hi, if_pos rfl]⟩

lemma leads_of_relocate (hs : Sound f g) (hi : i < g.store.length) (hne : k ≠ k')
    (h : (g.relocate f i path name k').Leads p k) : g.Leads p k := by
  obtain ⟨j, hp, hj⟩ := h
  rw [reference_relocate _ _ _ hi] at hj
  split at hj
  · cases hj
    exact absurd rfl hne
  · next hji =>
    rw [findPath?_relocate _ _ _ hi] at hp
    split at hp
    · cases hp
      exact absurd rfl hji
    · exact ⟨j, (hs.ne_of_findPath?_unindex hp).1, hj⟩

end Relocate

/-- An entry that a change makes is the entry of a live node. -/
lemma alive_of_new_entry (hs : Sound f g) (hc : g.Change f g') (h : g.byKey.get? k = none)
    (h' : g'.byKey.get? k ≠ none) : f.IsAlive k := by
  cases hc with
  | same => exact absurd h h'
  | insert binding free new =>
    rw [byKey_insert binding] at h'
    split at h'
    · next hk => exact hk.1 ▸ hk.2
    · exact absurd h h'
  | drop known =>
    rw [byKey_drop, h, ite_self] at h'
    exact absurd rfl h'
  | unindex listed lost => exact absurd h h'
  | repair listed lost new free =>
    rw [byKey_relocate _ _ _ (hs.stored _ listed)] at h'
    split at h'
    · next hk => exact hk.1 ▸ hk.2
    · exact absurd h h'
  | refresh listed binding alive free =>
    rw [byKey_relocate _ _ _ (hs.stored _ listed)] at h'
    split at h'
    · next hk => exact hk.1 ▸ hk.2
    · exact absurd h h'

lemma KnowsLive.change (h : KnowsLive f g) (hs : Sound f g) (hc : g.Change f g') :
    KnowsLive f g' := by
  intro k p ha hk
  cases hc with
  | same => exact h k p ha hk
  | @insert r l binding free new =>
    rw [byKey_insert binding] at hk
    split at hk
    · next hkl =>
      cases hk
      refine ⟨g.store.length, by rw [findPath?_insert, if_pos rfl], ?_⟩
      have hself : (g.insert f r).1.reference g.store.length = r := reference_append_self g r
      rw [hself, binding, hkl.1]
    · exact leads_insert hs free (h k p ha hk)
  | @drop i known =>
    rw [byKey_drop] at hk
    split at hk
    · cases hk
    · next hkept =>
      refine leads_drop hs ?_ (h k p ha hk)
      rintro ⟨hb, rfl⟩
      exact hkept ⟨by simp [hb, Binding.lastKey?], hk⟩
  | unindex listed lost => exact leads_unindex (ne_bound_of_lost ha lost) (h k p ha hk)
  | repair listed lost new free =>
    have hi := hs.stored _ listed
    rw [byKey_relocate _ _ _ hi] at hk
    split at hk
    · next hkl =>
      cases hk
      rw [hkl.1]
      exact leads_relocate_self hi
    · exact leads_relocate hi free (ne_bound_of_lost ha lost) (h k p ha hk)
  | @refresh i l path name listed binding alive free =>
    have hi := hs.stored i listed
    have hfree : (g.unindex i).findPath? path = none := by rw [findPath?_unindex, free, ite_self]
    rw [byKey_relocate _ _ _ hi] at hk
    split at hk
    · next hkl =>
      cases hk
      rw [hkl.1]
      exact leads_relocate_self hi
    · next hkl =>
      refine leads_relocate hi hfree ?_ (h k p ha hk)
      rw [binding]
      intro he
      cases he
      exact hkl ⟨rfl, ha⟩
where
  ne_bound_of_lost {i : RefId} {k : Key} (ha : f.IsAlive k)
      (hlost : (g.reference i).isBound f = false) : (g.reference i).binding ≠ .bound k := by
    intro hb
    rw [Reference.isBound_iff.mpr ⟨k, hb, ha⟩] at hlost
    cases hlost

/-- What was not known before a change is not known after it, except about live nodes. -/
lemma knows_of_change (hs : Sound f g) (hc : g.Change f g') (hdead : ¬ f.IsAlive k)
    (h : g'.Knows k) : g.Knows k := by
  obtain ⟨p, hk, hp⟩ := h
  have hno : ∀ l, ¬ (k = l ∧ f.IsAlive l) := fun l hl => hdead (hl.1 ▸ hl.2)
  cases hc with
  | same => exact ⟨p, hk, hp⟩
  | @insert r l binding free new =>
    rw [byKey_insert binding, if_neg (hno l)] at hk
    have hne : k ≠ l := ne_of_found hk new
    exact ⟨p, hk, leads_of_insert hs binding hne hp⟩
  | drop known =>
    rw [byKey_drop] at hk
    split at hk
    · cases hk
    · exact ⟨p, hk, leads_of_drop hp⟩
  | unindex listed lost => exact ⟨p, hk, leads_of_unindex hs hp⟩
  | @repair i l path listed lost new free =>
    have hi := hs.stored i listed
    rw [byKey_relocate _ _ _ hi, if_neg (hno l)] at hk
    have hne : k ≠ l := ne_of_found hk new
    exact ⟨p, hk, leads_of_relocate hs hi hne hp⟩
  | @refresh i l path name listed binding alive free =>
    have hi := hs.stored i listed
    have hne : k ≠ l := by
      rintro rfl
      exact hdead alive
    rw [byKey_relocate _ _ _ hi, if_neg fun hkl => hne hkl.1] at hk
    exact ⟨p, hk, leads_of_relocate hs hi hne hp⟩

lemma leads_of_rebuilt {all : List RefId} (hr : Rebuilt f g all g')
    (hk : g'.byKey.get? k = some p) : g'.Leads p k ∧ f.IsAlive k := by
  obtain ⟨i, hi, hp, hb⟩ := hr.key k p hk
  exact ⟨⟨i, hp, hb⟩, (hr.bound i hi k hb).1⟩

end Registry

namespace Workspace

open Registry

variable {v w : Workspace} {k : Key}

/-- The entry of a key led to the reference of its node; it still stands and does so no longer. -/
def Strands (w v : Workspace) (k : Key) : Prop :=
  w.registry.Knows k ∧ v.registry.byKey.get? k ≠ none ∧ ¬ v.registry.Knows k

lemma knowsLive_move (hs : Sound w.forest w.registry) (h : KnowsLive w.forest w.registry)
    (hm : Move w v) : KnowsLive v.forest v.registry := by
  cases hm with
  | change u quiet change forest =>
    have hsu : Sound u.forest u.registry := sound_quiet hs quiet
    have hu : KnowsLive u.forest u.registry :=
      (h.mono quiet.forest).of_lists quiet.store quiet.byPath quiet.byKey
    exact (hu.change hsu change).mono forest
  | rebind s eq =>
    obtain ⟨-, all, -, hr⟩ := rebuilt_bindScene s hs.nodup hs.stored
    rw [eq]
    exact fun k p _ hk => (leads_of_rebuilt hr hk).1

/-- An entry that is new is right. -/
lemma knows_of_new_entry (hs : Sound w.forest w.registry) (h : KnowsLive w.forest w.registry)
    (hm : Move w v) (hk : w.registry.byKey.get? k = none) (hk' : v.registry.byKey.get? k ≠ none) :
    v.registry.Knows k := by
  obtain ⟨p, hp⟩ := Option.ne_none_iff_exists'.mp hk'
  cases hm with
  | change u quiet change forest =>
    have hsu : Sound u.forest u.registry := sound_quiet hs quiet
    have hu : KnowsLive u.forest u.registry :=
      (h.mono quiet.forest).of_lists quiet.store quiet.byPath quiet.byKey
    have ha := alive_of_new_entry hsu change (by rw [quiet.byKey, hk]) hk'
    exact ⟨p, hp, hu.change hsu change k p ha hp⟩
  | rebind s eq =>
    obtain ⟨-, all, -, hr⟩ := rebuilt_bindScene s hs.nodup hs.stored
    rw [eq] at hp ⊢
    exact ⟨p, hp, (leads_of_rebuilt hr hp).1⟩

/-- Whoever is alive or known after a move was alive or known before. -/
lemma known_or_alive_of_move (hs : Sound w.forest w.registry) (hm : Move w v)
    (h : v.registry.Knows k ∨ v.forest.IsAlive k) : w.registry.Knows k ∨ w.forest.IsAlive k := by
  by_cases ha : w.forest.IsAlive k
  · exact .inr ha
  · cases hm with
    | change u quiet change forest =>
      have hdead : ¬ u.forest.IsAlive k := fun hu => ha (quiet.forest k hu)
      have hsu : Sound u.forest u.registry := sound_quiet hs quiet
      rcases h with h | h
      · have hu := knows_of_change hsu change hdead h
        exact .inl ((knows_of_lists quiet.store quiet.byPath quiet.byKey).mp hu)
      · exact absurd (forest k h) hdead
    | rebind s eq =>
      obtain ⟨hf, all, -, hr⟩ := rebuilt_bindScene s hs.nodup hs.stored
      rw [eq] at h
      rcases h with ⟨p, hk, -⟩ | h
      · exact absurd (leads_of_rebuilt hr hk).2 ha
      · exact absurd (hf ▸ h) ha

/-! ### Runs -/

lemma knowsLive_start (f : Forest) (o : Origin) (namer : Option Standardizer) :
    KnowsLive (start f o namer).forest (start f o namer).registry := by
  intro k p _ hk
  have hnone : (start f o namer).registry.byKey = .empty := (fresh_origin o f).byKey
  rw [hnone] at hk
  cases hk

lemma knowsLive_passed (hs : Sound w.forest w.registry) (h : KnowsLive w.forest w.registry)
    (as : List Action) :
    ∀ v ∈ w.passed as, Sound v.forest v.registry ∧ KnowsLive v.forest v.registry :=
  forall_of_isChain (P := fun v => Sound v.forest v.registry ∧ KnowsLive v.forest v.registry)
    (fun hu hm => ⟨sound_move hu.1 hm, knowsLive_move hu.1 hu.2 hm⟩) ⟨hs, h⟩ (isChain_passed hs as)

variable {f : Forest} {o : Origin} {namer : Option Standardizer} {as : List Action}

/-- As long as no entry of a key was stranded, the key is known or has no entry. -/
lemma knows_of_isChain (hno : ((start f o namer).passed as).IsChain fun w v => ¬ w.Strands v k)
    (hk : ((start f o namer).run as).registry.byKey.get? k ≠ none) :
    ((start f o namer).run as).registry.Knows k := by
  have hs := sound_start f o namer
  have hl := knowsLive_start f o namer
  have hmoves := isChain_passed hs as
  have hboth : ((start f o namer).passed as).IsChain fun w v => Move w v ∧ ¬ w.Strands v k :=
    List.isChain_iff_getElem.mpr fun i hi => ⟨hmoves.getElem i hi, hno.getElem i hi⟩
  have hall : ∀ v ∈ (start f o namer).passed as,
      (Sound v.forest v.registry ∧ KnowsLive v.forest v.registry) ∧
        (v.registry.byKey.get? k ≠ none → v.registry.Knows k) := by
    refine forall_of_isChain (P := fun v =>
      (Sound v.forest v.registry ∧ KnowsLive v.forest v.registry) ∧
        (v.registry.byKey.get? k ≠ none → v.registry.Knows k)) ?_ ⟨⟨hs, hl⟩, ?_⟩ hboth
    · rintro w v ⟨⟨hs, hl⟩, hw⟩ ⟨hm, hkept⟩
      refine ⟨⟨sound_move hs hm, knowsLive_move hs hl hm⟩, fun hv => ?_⟩
      by_cases hold : w.registry.byKey.get? k = none
      · exact knows_of_new_entry hs hl hm hold hv
      · by_contra hlost
        exact hkept ⟨hw hold, hv, hlost⟩
    · intro hentry
      have hnone : (start f o namer).registry.byKey = .empty := (fresh_origin o f).byKey
      rw [hnone] at hentry
      exact absurd rfl hentry
  exact (hall _ (run_mem_passed _ as)).2 hk

/-- A key that is known at the end, or whose node is alive then, was never stranded. -/
lemma isChain_of_knows_or_alive
    (h : ((start f o namer).run as).registry.Knows k ∨ ((start f o namer).run as).forest.IsAlive k) :
    ((start f o namer).passed as).IsChain fun w v => ¬ w.Strands v k := by
  have hall := knowsLive_passed (sound_start f o namer) (knowsLive_start f o namer) as
  have hmoves := isChain_passed (sound_start f o namer) as
  have hsound : ((start f o namer).passed as).IsChain fun w v =>
      Sound w.forest w.registry ∧ Move w v :=
    hmoves.imp_of_mem_imp fun w v hw hv hm => ⟨(hall w hw).1, hm⟩
  rw [← getLastD_later] at h
  have hknown := forall_of_isChain_of_last
    (P := fun v => v.registry.Knows k ∨ v.forest.IsAlive k)
    (fun hm hv => known_or_alive_of_move hm.1 hm.2 hv) hsound h
  refine hmoves.imp_of_mem_imp ?_
  rintro w v - hv - ⟨-, hentry, hlost⟩
  obtain ⟨p, hp⟩ := Option.ne_none_iff_exists'.mp hentry
  rcases hknown v hv with hk | ha
  · exact hlost hk
  · exact hlost ⟨p, hp, (hall v hv).2 k p ha hp⟩

lemma lookup_eq_ok {f : Forest} {g : Registry} {p : String} {n : Key}
    (h : g.lookup f none p = .ok n) :
    ∃ i, g.findPath? p = some i ∧ (g.reference i).binding = .bound n ∧ f.IsAlive n := by
  rw [Registry.lookup] at h
  split at h
  · cases h
  · next i hi =>
    simp only [Option.filter_none] at h
    split at h
    · next k hk =>
      split at h
      · next hb =>
        cases h
        obtain ⟨l, hl, ha⟩ := Reference.isBound_iff.mp hb
        rw [hl] at hk
        cases hk
        exact ⟨i, hi, hl, ha⟩
      · cases h
    · cases h

lemma resolve_ofInt {f : Forest} {g : Registry} {z : Int} {n : Key}
    (h : g.resolve f (.ofInt z) = .ok n) :
    ∃ (k : Key) (p : String), z = k ∧ g.byKey.get? k = some p ∧ g.lookup f none p = .ok n := by
  cases z with
  | ofNat k =>
    simp only [Registry.resolve, ElementKey.ofInt, Int.toNat?, Option.bind_some] at h
    split at h
    · next p hp => exact ⟨k, p, rfl, hp, h⟩
    · cases h
  | negSucc m => cases h

lemma remove_ofInt {z : Int} (h : (w.remove (.ofInt z)).2 = true) :
    ∃ (k : Key) (p : String) (i : RefId), z = k ∧ w.registry.byKey.get? k = some p ∧
      w.registry.findPath? p = some i ∧ (w.remove (.ofInt z)).1 = w.drop i := by
  cases z with
  | ofNat k =>
    simp only [remove, removeKey, ElementKey.ofInt, Int.toNat?, Option.bind_some] at h ⊢
    split at h
    · next i hi =>
      obtain ⟨p, hp, hpi⟩ := Option.bind_eq_some_iff.mp hi
      exact ⟨k, p, i, rfl, hp, hpi, rfl⟩
    · cases h
  | negSucc m => cases h

/-- **Instance-key identity.** A look-up by a key that finds a node finds the node of the key, and a
removal by a key removes a reference bound to that node, exactly if the key's entry was never
stranded; and the entry of a live node never was. -/
theorem key_identity_iff (f : Forest) (o : Origin) (namer : Option Standardizer)
    (as : List Action) (z : Int) :
    let w := (start f o namer).run as
    let kept := fun k => ((start f o namer).passed as).IsChain fun u v => ¬ u.Strands v k
    (∀ n, w.registry.resolve w.forest (.ofInt z) = .ok n →
      ∃ k : Key, z = k ∧ (n = k ↔ kept k) ∧ (n = k ↔ w.forest.IsAlive k)) ∧
    ((w.remove (.ofInt z)).2 = true →
      ∃ (k : Key) (i : RefId), z = k ∧ (w.remove (.ofInt z)).1 = w.drop i ∧ i ∈ w.registry.ids ∧
        ((w.registry.reference i).binding = .bound k ↔ kept k) ∧
          (w.forest.IsAlive k → kept k)) := by
  intro w kept
  have hs : Sound w.forest w.registry :=
    sound_passed (sound_start f o namer) as w (run_mem_passed _ as)
  have hknows : ∀ {k p}, w.registry.byKey.get? k = some p → kept k → w.registry.Knows k :=
    fun hk hkept => knows_of_isChain hkept (by rw [hk]; exact Option.some_ne_none _)
  refine ⟨fun n hn => ?_, fun h => ?_⟩
  · obtain ⟨k, p, hz, hk, hp⟩ := resolve_ofInt hn
    obtain ⟨i, hi, hb, ha⟩ := lookup_eq_ok hp
    have hkept : kept k → n = k := by
      intro hkept
      have hbk := Knows.binding (hknows hk hkept) hk hi
      rw [hb] at hbk
      cases hbk
      rfl
    have hlive : n = k → w.forest.IsAlive k := fun he => he ▸ ha
    have hchain : w.forest.IsAlive k → kept k := fun ha => isChain_of_knows_or_alive (.inr ha)
    exact ⟨k, hz, ⟨fun he => hchain (hlive he), hkept⟩, ⟨hlive, fun ha => hkept (hchain ha)⟩⟩
  · obtain ⟨k, p, i, hz, hk, hi, hdrop⟩ := remove_ofInt h
    refine ⟨k, i, hz, hdrop, (hs.entry p i hi).2, ⟨fun hb => ?_, fun hkept => ?_⟩, fun ha => ?_⟩
    · exact isChain_of_knows_or_alive (.inl ⟨p, hk, i, hi, hb⟩)
    · exact Knows.binding (hknows hk hkept) hk hi
    · exact isChain_of_knows_or_alive (.inr ha)

/-- A button is registered and destroyed, another takes its place, and the registry is repaired. -/
def replacing : List Action :=
  [.edit (.create "Play" [Component.new .button] true), .edit (.addRoot 0 1),
    .add (some 1) .standard none, .edit (.destroy 1),
    .edit (.create "Play" [Component.new .button] true), .edit (.addRoot 0 2), .repair none]

/-- The key of the destroyed button leads to the other one, and removes its reference. -/
theorem stranded_of_replacing :
    let w := (start (Forest.empty.edit (.addScene "Main")) (.scene 0) none).run replacing
    w.registry.resolve w.forest (.ofInt 1) = .ok 2 ∧
      w.registry.references.map (·.binding) = [.bound 2] ∧
      (w.remove (.ofInt 1)).2 = true ∧ (w.remove (.ofInt 1)).1.registry.references = [] := by
  decide +kernel

end Workspace

end SceneBindings
