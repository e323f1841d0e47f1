import SceneBindings.Proofs.Register.Nodes

/-!
Registering all nodes of a scene that nothing is registered of. Parents come before their children,
so the paths of the nodes that have had their turn do not change any more.
-/

namespace SceneBindings

open Forest

namespace Forest

variable {f g : Forest} {ts : List NodeSpec} {k m : Nat}

section Renames

variable (hf : f.Planted ts) (h : Renames m f g) (hk : k < m)
include hf h hk

lemma Renames.name_eq : (g.node k).name = (f.node k).name := by
  rcases h.name k with heq | ⟨hwithin, -⟩
  · exact heq
  · exact absurd (hf.le_of_within hwithin) (Nat.not_le.mpr hk)

lemma Renames.classify_eq : g.classify k = f.classify k :=
  Forest.classify_eq (h.shape k) (h.name_eq hf hk)

/-- The path of a node is made of names of older nodes. -/
lemma Renames.fullPath_eq : g.fullPath k = f.fullPath k :=
  h.toReshaped.fullPath_eq fun _ ha => h.name_eq hf (Nat.lt_of_le_of_lt (hf.le_of_within ha) hk)

end Renames

end Forest

namespace Workspace

open Registry

variable {ts : List NodeSpec} {u v w : Workspace} {k m n : Nat}

/-- A node that had its turn: it has no role, or its path is malformed or taken, unless its name is
none that it would keep. -/
def Placed (w : Workspace) (k : Key) : Prop :=
  w.forest.classify k = .unknown ∨ w.Barred k ∨ w.proposed k ≠ w.name k

/-- The state when all nodes older than a node have had their turn. -/
structure Midway (ts : List NodeSpec) (m : Nat) (w : Workspace) : Prop where
  planted : w.forest.Planted ts
  tracks : w.Tracks 0
  sound : Sound w.forest w.registry
  unique : Unique w.forest w.registry
  entered : ∀ i ∈ w.registry.ids, ∃ k < m, w.forest.IsNode k ∧ w.forest.classify k ≠ .unknown ∧
    (w.registry.reference i).binding = .bound k ∧
    (w.registry.reference i).path = w.forest.fullPath k
  known : ∀ k : Nat, w.registry.hasKey k = true → k < m
  placed : ∀ k < m, w.forest.IsNode k → w.Placed k

/-- What holds between any two states of a run. -/
structure Proceeds (w v : Workspace) : Prop where
  forest : Renamed w.forest v.forest
  counted : Counted w v
  sceneName : v.registry.sceneName = w.registry.sceneName

lemma Proceeds.trans (h : Proceeds w u) (h' : Proceeds u v) : Proceeds w v where
  forest := h.forest.trans h'.forest
  counted := h.counted.trans h'.counted
  sceneName := h'.sceneName.trans h.sceneName

lemma Moves.proceeds {s : SceneId} (h : Moves s m w v) : Proceeds w v where
  forest := h.forest.toRenamed
  counted := h.counted
  sceneName := by
    obtain ⟨c, -, hv⟩ := h.registry
    rw [hv]

lemma Enters.proceeds {s : SceneId} (h : Enters s m w v) : Proceeds w v where
  forest := h.forest ▸ .refl _
  counted := .of_idle h.forest h.namer
  sceneName := by
    obtain ⟨c, -, hv⟩ := h.registry
    rw [hv]
    rfl

/-- Both workspaces rename by the same rule, or neither does. -/
def SameRule (w v : Workspace) : Prop :=
  v.namer.map (·.respectsExisting) = w.namer.map (·.respectsExisting)

lemma Counted.sameRule (h : Counted w v) : SameRule w v := by
  rw [Counted] at h
  rw [SameRule]
  revert h
  cases w.namer <;> cases v.namer <;> simp +contextual

lemma Counted.forest_eq (h : Counted w v) (hw : ∀ z, w.namer = some z → z.renamed = 0)
    (hv : ∀ z, v.namer = some z → z.renamed = 0) : v.forest = w.forest := by
  rw [Counted] at h
  revert h
  cases hwn : w.namer <;> cases hvn : v.namer <;> simp only [false_imp_iff, imp_self]
  exact fun h => h.2.2 ((hv _ hvn).trans (hw _ hwn).symm)

lemma SameRule.proposed_eq (h : SameRule w v) (hname : v.name k = w.name k)
    (hrole : v.forest.classify k = w.forest.classify k) : v.proposed k = w.proposed k := by
  rw [name, name] at hname
  rw [SameRule] at h
  rw [proposed, proposed]
  revert h
  cases w.namer <;> cases v.namer <;> simp only [Option.map_none, Option.map_some, Option.some.injEq,
    reduceCtorEq, false_imp_iff, forall_const]
  · exact hname
  · intro hrule
    rw [Standardizer.proposedName, Standardizer.proposedName, Standardizer.keepsName,
      Standardizer.keepsName, hrule, hrole, hname]

lemma Placed.mono (h : w.Placed k) (hname : v.name k = w.name k)
    (hrole : v.forest.classify k = w.forest.classify k)
    (hpath : v.forest.fullPath k = w.forest.fullPath k) (hrule : SameRule w v)
    (hpaths : ∀ p, w.registry.hasPath p = true → v.registry.hasPath p = true) : v.Placed k := by
  rw [Placed, hrole, hrule.proposed_eq hname hrole, hname, Barred, hpath]
  exact h.imp id (.imp (.imp id (hpaths _)) id)

lemma Enters.placed {s : SceneId} (h : Enters s m w v) (hk : w.Placed k) : v.Placed k := by
  refine hk.mono ?_ ?_ ?_ h.proceeds.counted.sameRule fun p hp => h.hasPath_iff.mpr (.inr hp)
  · rw [name, h.forest, name]
  · rw [h.forest]
  · rw [h.forest]

namespace Midway

lemma next (h : Midway ts m w) (hm : w.Placed m) : Midway ts (m + 1) w where
  planted := h.planted
  tracks := h.tracks
  sound := h.sound
  unique := h.unique
  entered i hi := by
    obtain ⟨k, hk, hbound⟩ := h.entered i hi
    exact ⟨k, Nat.lt_succ_of_lt hk, hbound⟩
  known k hk := Nat.lt_succ_of_lt (h.known k hk)
  placed k hk hnode := by
    rcases Nat.lt_succ_iff_lt_or_eq.mp hk with hk | rfl
    · exact h.placed k hk hnode
    · exact hm

/-- The node whose turn comes is not known yet. -/
lemma new (h : Midway ts m w) : w.registry.hasKey m = false :=
  Bool.eq_false_iff.mpr fun hknown => Nat.lt_irrefl m (h.known m hknown)

lemma moves (h : Midway ts m w) (hmoves : Moves 0 m w v) : Midway ts m v := by
  obtain ⟨c, -, hv⟩ := hmoves.registry
  have hplanted := hmoves.forest.planted h.planted
  have hstore : v.registry.store = w.registry.store := by rw [hv]
  have hcategories : v.registry.categories = w.registry.categories := by rw [hv]
  have hbyPath : v.registry.byPath = w.registry.byPath := by rw [hv]
  have hbyKey : v.registry.byKey = w.registry.byKey := by rw [hv]
  have hids : v.registry.ids = w.registry.ids := by rw [Registry.ids, hcategories, Registry.ids]
  have hlive : w.forest.NoneRevived v.forest := fun k _ => h.planted.alive k
  refine ⟨hplanted, hmoves.tracks h.tracks, (h.sound.mono hlive).of_lists hstore hcategories hbyPath,
    (h.unique.mono hlive).of_lists hstore hcategories hbyKey, fun i hi => ?_, fun k hk => ?_,
    fun k hk hnode => ?_⟩
  · rw [hids] at hi
    obtain ⟨k, hk, hnode, hrole, hbound, hpath⟩ := h.entered i hi
    refine ⟨k, hk, hmoves.forest.isNode_iff.mpr hnode, ?_⟩
    rw [hmoves.forest.fullPath_eq h.planted hk, hmoves.forest.classify_eq h.planted hk, reference,
      hstore]
    exact ⟨hrole, hbound, hpath⟩
  · rw [hmoves.hasKey] at hk
    exact h.known k hk
  · refine (h.placed k hk (hmoves.forest.isNode_iff.mp hnode)).mono
      (hmoves.forest.name_eq h.planted hk) (hmoves.forest.classify_eq h.planted hk)
      (hmoves.forest.fullPath_eq h.planted hk) hmoves.counted.sameRule fun p hp => ?_
    rw [hasPath, hbyPath]
    exact hp

/-- No entry has the path that a new one gets. -/
lemma path_ne (h : Midway ts m w) (henters : Enters 0 m w v) {j : RefId}
    (hj : j ∈ w.registry.ids) : (w.registry.reference j).path ≠ w.forest.fullPath m := by
  obtain ⟨k, -, -, -, hbound, -⟩ := h.entered j hj
  exact ne_of_found
    (h.sound.bound j hj (Reference.isBound_iff.mpr ⟨k, hbound, h.planted.alive k⟩))
    henters.findPath?_eq_none

lemma enters (h : Midway ts m w) (hm : w.forest.IsNode m) (hrole : w.forest.classify m ≠ .unknown)
    (henters : Enters 0 m w v) : Midway ts (m + 1) v where
  planted := henters.forest ▸ h.planted
  tracks := henters.tracks h.tracks
  sound := henters.sound h.sound
  unique := henters.unique h.sound h.unique (fun _ hj => h.path_ne henters hj) h.new
  entered j hj := by
    rw [henters.forest]
    rcases henters.mem_ids.mp hj with rfl | hj
    · rw [henters.reference_self]
      exact ⟨m, Nat.lt_succ_self m, hm, hrole, rfl, rfl⟩
    · rw [henters.reference_of_stored (h.sound.stored j hj)]
      obtain ⟨k, hk, hbound⟩ := h.entered j hj
      exact ⟨k, Nat.lt_succ_of_lt hk, hbound⟩
  known k hk := by
    rcases Nat.lt_trichotomy k m with hlt | rfl | hgt
    · exact Nat.lt_succ_of_lt hlt
    · exact Nat.lt_succ_self k
    · refine absurd hk (Bool.eq_false_iff.mp (hasKey_eq_false.mpr ?_))
      rw [henters.byKey, if_neg fun heq => Nat.ne_of_gt hgt heq.1]
      exact hasKey_eq_false.mp
        (Bool.eq_false_iff.mpr fun hold => Nat.lt_asymm hgt (h.known k hold))
  placed k hk hnode := by
    rw [henters.forest] at hnode
    rcases Nat.lt_succ_iff_lt_or_eq.mp hk with hk | rfl
    · exact henters.placed (h.placed k hk hnode)
    · refine .inr (.inl (.inr (henters.hasPath_iff.mpr (.inl ?_))))
      rw [henters.forest]

/-- One turn. -/
lemma registerNode (h : Midway ts m w) (hm : w.forest.IsNode m)
    (hok : Cli.registerNode w m = (v, .ok ())) : Midway ts (m + 1) v ∧ Proceeds w v := by
  rcases registerNode_cases h.tracks (h.planted.mem_walk.mpr hm) hok with
    ⟨hpassed, hidle⟩ | ⟨hfree, u, hmoves, -, ⟨hbarred, hidle⟩ | henters⟩
  · refine ⟨((h.next ?_).moves (hidle.moves _)), (hidle.moves m).proceeds⟩
    cases hpassed with
    | unknown role => exact .inl role
    | known key => exact absurd (h.new.symm.trans key) Bool.false_ne_true
    | taken renamed path => exact .inr (.inr renamed)
    | barred kept path => exact .inr (.inl path)
  · exact ⟨((h.moves hmoves).next (.inr (.inl hbarred))).moves (hidle.moves _),
      hmoves.proceeds.trans (hidle.moves m).proceeds⟩
  · have hrole : u.forest.classify m ≠ .unknown := fun hrole =>
      hfree (.unknown ((classify_eq_unknown (hmoves.forest.shape m)).mp hrole))
    exact ⟨(h.moves hmoves).enters (hmoves.forest.isNode_iff.mpr hm) hrole henters,
      hmoves.proceeds.trans henters.proceeds⟩

/-- All turns that are left. -/
theorem registerNodes (h : Midway ts m w) (hm : 1 ≤ m) (hn : m + n = w.forest.nodes.length + 1)
    (hok : Cli.registerNodes w (List.range' m n) = (v, .ok ())) :
    Midway ts (m + n) v ∧ Proceeds w v := by
  induction n generalizing w m with
  | zero =>
    cases hok
    exact ⟨h, .refl _, .of_idle rfl rfl, rfl⟩
  | succ n ih =>
    rw [List.range'_succ, Cli.registerNodes] at hok
    split at hok
    · next u hu =>
      obtain ⟨hnext, hstep⟩ := h.registerNode (isNode_iff.mpr ⟨hm, by omega⟩) hu
      have hlength := hstep.forest.length
      obtain ⟨hlast, hsteps⟩ := ih hnext (by omega) (by omega) hok
      refine ⟨?_, hstep.trans hsteps⟩
      rwa [← Nat.add_assoc, Nat.add_right_comm]
    · cases hok

end Midway

end Workspace

end SceneBindings
