import SceneBindings.Proofs.Registry.Panels
import SceneBindings.Proofs.Registry.PathIndex

/-!
Repairing missing references, one after the other. The turn of a reference goes wrong in two ways: the
path of the node that was found belongs to another reference, and the own entry is gone by then; or the
node is a destroyed one, and the reference counts as repaired all the same.
-/

namespace SceneBindings.Workspace

open Forest Registry

variable {u v w : Workspace} {s : SceneId} {i j : RefId} {k : Key} {p : String}

/-- Of the references that were to be repaired, those that are still missing have their paths, bindings and
entries as before, and the count is that of the references that are not missing any longer. -/
structure AllOrNothing (w : Workspace) (is : List RefId) (r : Workspace × Nat) : Prop where
  untouched : ∀ i ∈ is, i ∈ r.1.missing → r.1.registry.reference i = w.registry.reference i ∧
    ∀ p, r.1.registry.findPath? p = some i ↔ w.registry.findPath? p = some i
  count : r.2 = is.countP fun i => (r.1.registry.reference i).isBound r.1.forest

/-- The turn of a reference goes wrong. A node that has no entry is found for it, but the path of that node
belongs to another reference, and the reference has an entry to lose; or the path does not, and the node
has been destroyed. -/
inductive Falters (w : Workspace) (s : SceneId) (i : RefId) : Prop where
  | strips {k : Key} {j : RefId} (found : w.nodeFor? s i = some k)
      (new : w.registry.byKey.get? k = none) (other : j ≠ i)
      (taken : w.registry.findPath? (w.pathOf k).2 = some j)
      (entered : w.registry.findPath? (w.registry.reference i).path = some i)
  | raises {k : Key} (found : w.nodeFor? s i = some k) (new : w.registry.byKey.get? k = none)
      (own : ∀ j, w.registry.findPath? (w.pathOf k).2 = some j → j = i)
      (dead : ¬ w.forest.IsAlive k)

/-- No turn goes wrong when references are repaired in order. -/
def NoneFalters (s : SceneId) : Workspace → List RefId → Prop
  | _, [] => True
  | w, i :: is => ¬ w.Falters s i ∧ NoneFalters s (w.repairOne s i).1 is

/-! ### One turn -/

lemma findPath?_unindex_ne_none_iff {f : Forest} {g : Registry} (hs : Sound f g) :
    (g.unindex i).findPath? p ≠ none ↔ ∃ j, j ≠ i ∧ g.findPath? p = some j := by
  rw [Option.ne_none_iff_exists']
  constructor
  · rintro ⟨j, hj⟩
    obtain ⟨hfound, hji⟩ := hs.ne_of_findPath?_unindex hj
    exact ⟨j, hji, hfound⟩
  · rintro ⟨j, hji, hj⟩
    exact ⟨j, Sound.findPath?_unindex_of_ne hj hji⟩

lemma sound_repairOne (hs : Sound w.forest w.registry) (hi : i ∈ w.missing) :
    Sound (w.repairOne s i).1.forest (w.repairOne s i).1.registry := by
  obtain ⟨hlisted, hlost⟩ := mem_missing.mp hi
  exact sound_move hs (.repairOne hlisted hlost s)

/-- The turn of a reference leaves the entries of the others. -/
lemma entry_repairOne (hs : Sound w.forest w.registry) (hi : i ∈ w.missing) (hji : j ≠ i) (p : String) :
    (w.repairOne s i).1.registry.findPath? p = some j ↔ w.registry.findPath? p = some j := by
  have hunindex : (w.registry.unindex i).findPath? p = some j ↔ w.registry.findPath? p = some j :=
    ⟨fun h => (hs.ne_of_findPath?_unindex h).1, fun h => Sound.findPath?_unindex_of_ne h hji⟩
  have hcases := repairs_repairOne w s i
  generalize w.repairOne s i = r at hcases ⊢
  cases hcases with
  | unmatched => rfl
  | barred => exact hunindex
  | @fixed k e found new free =>
    have hfind : ∀ q, ((w.pathOf k).1.registry.relocate w.forest i (w.pathOf k).2
        (w.registry.reference i).name k).findPath? q =
          if q = (w.pathOf k).2 then some i else (w.registry.unindex i).findPath? q :=
      findPath?_relocate _ _ k (hs.stored i (mem_missing.mp hi).1)
    refine Iff.trans (Eq.congr_left (hfind p)) ?_
    split
    · next hp =>
      refine iff_of_false (fun h => hji (Option.some.inj h).symm) fun h => ?_
      rw [← hp, hunindex.mpr h] at free
      cases free
    · exact hunindex

/-- A turn is all or nothing: the reference is bound afterwards and counts, or it does not count and is left
as it was. -/
structure Fair (w : Workspace) (i : RefId) (r : Workspace × Bool) : Prop where
  untouched : (r.1.registry.reference i).isBound w.forest = false →
    r.1.registry.reference i = w.registry.reference i ∧
      ∀ p, r.1.registry.findPath? p = some i ↔ w.registry.findPath? p = some i
  count : r.2 = (r.1.registry.reference i).isBound w.forest

lemma fair_repairOne_iff (hs : Sound w.forest w.registry) (hi : i ∈ w.missing) :
    Fair w i (w.repairOne s i) ↔ ¬ w.Falters s i := by
  obtain ⟨hlisted, hlost⟩ := mem_missing.mp hi
  have hcases := repairs_repairOne w s i
  generalize w.repairOne s i = r at hcases ⊢
  cases hcases with
  | unmatched known =>
    refine iff_of_true ⟨fun _ => ⟨rfl, fun p => .rfl⟩, hlost.symm⟩ ?_
    rintro (⟨found, new⟩ | ⟨found, new⟩) <;> exact known _ found new
  | @barred k found new taken =>
    obtain ⟨j, hji, hj⟩ := (findPath?_unindex_ne_none_iff hs).mp taken
    have hfind := findPath?_unindex w.registry i
    by_cases hentry : w.registry.findPath? (w.registry.reference i).path = some i
    · refine iff_of_false (fun hfair => ?_) fun hno => hno (.strips found new hji hj hentry)
      have hafter := ((hfair.untouched hlost).2 _).mpr hentry
      exact Option.some_ne_none i (hafter.symm.trans ((hfind _).trans (if_pos ⟨rfl, hentry⟩)))
    · refine iff_of_true ⟨fun _ => ⟨rfl, fun p => ?_⟩, hlost.symm⟩ ?_
      · have hno : ¬ (p = (w.registry.reference i).path ∧ w.registry.findPath? p = some i) := by
          rintro ⟨rfl, hp⟩
          exact hentry hp
        exact Eq.congr_left ((hfind p).trans (if_neg hno))
      · rintro (⟨-, -, -, -, entered⟩ | ⟨found', -, own⟩)
        · exact hentry entered
        · cases found.symm.trans found'
          exact hji (own j hj)
  | @fixed k e found new free =>
    have hself : ((w.pathOf k).1.registry.relocate w.forest i (w.pathOf k).2
        (w.registry.reference i).name k).reference i = _ :=
      (reference_relocate (g := (w.pathOf k).1.registry) _ _ k (hs.stored i hlisted) i).trans
        (if_pos rfl)
    have hbinding := congrArg Reference.binding hself
    have hown : ∀ j, w.registry.findPath? (w.pathOf k).2 = some j → j = i := by
      intro j hj
      by_contra hji
      exact (findPath?_unindex_ne_none_iff hs).mpr ⟨j, hji, hj⟩ free
    by_cases halive : w.forest.IsAlive k
    · have hbound := Reference.isBound_iff.mpr ⟨k, hbinding, halive⟩
      refine iff_of_true ⟨fun hno => absurd (hbound.symm.trans hno) (by decide), hbound.symm⟩ ?_
      rintro (⟨found', -, other, taken, -⟩ | ⟨found', -, -, dead⟩)
      · cases found.symm.trans found'
        exact other (hown _ taken)
      · cases found.symm.trans found'
        exact dead halive
    · refine iff_of_false (fun hfair => ?_) fun hno => hno (.raises found new hown halive)
      obtain ⟨l, hl, ha⟩ := Reference.isBound_iff.mp hfair.count.symm
      cases hbinding.symm.trans hl
      exact halive ha

/-- A reference that is bound after its turn counts. -/
lemma counts_of_bound (hi : i ∈ w.missing)
    (h : ((w.repairOne s i).1.registry.reference i).isBound w.forest = true) :
    (w.repairOne s i).2 = true := by
  have hlost := (mem_missing.mp hi).2
  have hcases := repairs_repairOne w s i
  generalize w.repairOne s i = r at hcases h ⊢
  cases hcases with
  | unmatched => exact absurd (hlost.symm.trans h) (by decide)
  | barred => exact absurd (hlost.symm.trans h) (by decide)
  | fixed => rfl

/-! ### All turns -/

section Each

variable {is : List RefId}

lemma forest_repairEach (w : Workspace) (s : SceneId) (is : List RefId) :
    (w.repairEach s is).1.forest = w.forest := by
  induction is generalizing w with
  | nil => rfl
  | cons i is ih => exact (ih _).trans (touches_repairOne w s i).forest

lemma ids_repairEach (w : Workspace) (s : SceneId) (is : List RefId) :
    (w.repairEach s is).1.registry.ids = w.registry.ids := by
  induction is generalizing w with
  | nil => rfl
  | cons i is ih => exact (ih _).trans (touches_repairOne w s i).ids

lemma reference_repairEach (w : Workspace) (s : SceneId) (hj : j ∉ is) :
    (w.repairEach s is).1.registry.reference j = w.registry.reference j := by
  induction is generalizing w with
  | nil => rfl
  | cons i is ih =>
    rw [List.mem_cons, not_or] at hj
    exact (ih _ hj.2).trans ((touches_repairOne w s i).others j hj.1)

lemma entry_repairEach (hs : Sound w.forest w.registry) (his : ∀ i ∈ is, i ∈ w.missing)
    (hn : is.Nodup) (hj : j ∉ is) (p : String) :
    (w.repairEach s is).1.registry.findPath? p = some j ↔ w.registry.findPath? p = some j := by
  induction is generalizing w with
  | nil => rfl
  | cons i is ih =>
    rw [List.nodup_cons] at hn
    rw [List.mem_cons, not_or] at hj
    have hi := his i List.mem_cons_self
    exact (ih (sound_repairOne hs hi) (missing_repairOne his hn.1) hn.2 hj.2).trans
      (entry_repairOne hs hi hj.1 p)

/-- No more references are bound than are counted. -/
lemma countP_le_repairEach (his : ∀ i ∈ is, i ∈ w.missing) (hn : is.Nodup) :
    (is.countP fun i => ((w.repairEach s is).1.registry.reference i).isBound w.forest) ≤
      (w.repairEach s is).2 := by
  induction is generalizing w with
  | nil => exact Nat.le_refl 0
  | cons i is ih =>
    rw [List.nodup_cons] at hn
    have hmore := ih (missing_repairOne (s := s) his hn.1) hn.2
    rw [(touches_repairOne w s i).forest] at hmore
    rw [repairEach, List.countP_cons]
    dsimp only
    rw [reference_repairEach _ s hn.1]
    refine Nat.add_le_add hmore ?_
    split
    · next hbound =>
      rw [if_pos (counts_of_bound (his i List.mem_cons_self) hbound)]
    · exact Nat.zero_le _

/-- Where bound references count and no more are bound than are counted, the counts agree just if each does. -/
lemma count_eq_iff {bound counted : Bool} {b c : Nat} (hone : bound = true → counted = true) (hle : b ≤ c) :
    (c + if counted then 1 else 0) = (b + if bound then 1 else 0) ↔ counted = bound ∧ c = b := by
  cases bound with
  | true => simp [hone rfl]
  | false =>
    cases counted with
    | true =>
      simp only [if_true, Bool.false_eq_true, if_false, Bool.true_eq_false, false_and, iff_false]
      omega
    | false => simp

/-- References are repaired fairly just if the first is and then the others are. -/
lemma allOrNothing_cons (hs : Sound w.forest w.registry) (his : ∀ j ∈ i :: is, j ∈ w.missing)
    (hn : (i :: is).Nodup) :
    AllOrNothing w (i :: is) (w.repairEach s (i :: is)) ↔
      Fair w i (w.repairOne s i) ∧
        AllOrNothing (w.repairOne s i).1 is ((w.repairOne s i).1.repairEach s is) := by
  rw [List.nodup_cons] at hn
  have hi := his i List.mem_cons_self
  have htouches := touches_repairOne w s i
  have hs' := sound_repairOne (s := s) hs hi
  have his' := missing_repairOne (s := s) his hn.1
  have hself := reference_repairEach (w.repairOne s i).1 s hn.1
  have hentry := entry_repairEach (s := s) hs' his' hn.2 hn.1
  have hforest := (forest_repairEach (w.repairOne s i).1 s is).trans htouches.forest
  have hmissing : i ∈ ((w.repairOne s i).1.repairEach s is).1.missing ↔
      ((w.repairOne s i).1.registry.reference i).isBound w.forest = false := by
    rw [mem_missing, ids_repairEach, hself, hforest, htouches.ids]
    exact and_iff_right (mem_missing.mp hi).1
  -- the others are as they were when their turn comes
  have hothers : ∀ j ∈ is, (w.repairOne s i).1.registry.reference j = w.registry.reference j ∧
      ∀ p, (w.repairOne s i).1.registry.findPath? p = some j ↔ w.registry.findPath? p = some j := by
    intro j hj
    have hji : j ≠ i := by
      rintro rfl
      exact hn.1 hj
    exact ⟨htouches.others j hji, entry_repairOne hs hi hji⟩
  have hle := countP_le_repairEach (s := s) his' hn.2
  have hown := counts_of_bound (s := s) hi
  rw [htouches.forest] at hle
  rw [repairEach]
  generalize (w.repairOne s i).1.repairEach s is = u at *
  constructor
  · rintro ⟨huntouched, hcount⟩
    rw [List.countP_cons, hself, hforest] at hcount
    have hboth := (count_eq_iff hown hle).mp hcount
    refine ⟨⟨fun hgone => ?_, hboth.1⟩, fun j hj hgone => ?_, by rw [hforest, hboth.2]⟩
    · obtain ⟨hsame, hentries⟩ := huntouched i List.mem_cons_self (hmissing.mpr hgone)
      exact ⟨hself.symm.trans hsame, fun p => (hentry p).symm.trans (hentries p)⟩
    · obtain ⟨hsame, hentries⟩ := huntouched j (List.mem_cons_of_mem i hj) hgone
      exact ⟨hsame.trans (hothers j hj).1.symm,
        fun p => (hentries p).trans ((hothers j hj).2 p).symm⟩
  · rintro ⟨⟨huntouched, hcount⟩, hrest, hrestcount⟩
    refine ⟨fun j hj hgone => ?_, ?_⟩
    · rcases List.mem_cons.mp hj with rfl | hj
      · obtain ⟨hsame, hentries⟩ := huntouched (hmissing.mp hgone)
        exact ⟨hself.trans hsame, fun p => (hentry p).trans (hentries p)⟩
      · obtain ⟨hsame, hentries⟩ := hrest j hj hgone
        exact ⟨hsame.trans (hothers j hj).1, fun p => (hentries p).trans ((hothers j hj).2 p)⟩
    · rw [List.countP_cons, hself, hforest, ← hcount, hrestcount, hforest]

/-- A repair is all or nothing for every reference just if no turn goes wrong. -/
lemma allOrNothing_repairEach_iff (hs : Sound w.forest w.registry)
    (his : ∀ i ∈ is, i ∈ w.missing) (hn : is.Nodup) :
    AllOrNothing w is (w.repairEach s is) ↔ NoneFalters s w is := by
  induction is generalizing w with
  | nil => exact iff_of_true ⟨nofun, rfl⟩ trivial
  | cons i is ih =>
    have hi := his i List.mem_cons_self
    rw [allOrNothing_cons hs his hn, NoneFalters, fair_repairOne_iff hs hi]
    rw [List.nodup_cons] at hn
    rw [ih (sound_repairOne hs hi) (missing_repairOne his hn.1) hn.2]

end Each

/-- **A repair is all or nothing for every missing reference exactly if no turn on the way goes wrong.** -/
theorem allOrNothing_repair_iff (hw : w.InUse) (given : Option SceneId) :
    AllOrNothing w w.missing (w.repair given) ↔
      ∀ s, (given <|> w.registry.scene) = some s → NoneFalters s w w.missing := by
  rw [repair]
  cases given <|> w.registry.scene with
  | none =>
    refine iff_of_true ⟨fun i hi hgone => ⟨rfl, fun p => .rfl⟩, ?_⟩ fun s hs => ?_
    · refine (List.countP_eq_zero.mpr fun i hi => ?_).symm
      rw [(mem_missing.mp hi).2]
      decide
    · cases hs
  | some s =>
    dsimp only
    rw [allOrNothing_repairEach_iff hw.sound (fun i hi => hi) (hw.sound.nodup.filter _)]
    exact ⟨fun h t ht => Option.some.inj ht ▸ h, fun h => h s rfl⟩

/-- The button Play of A is registered, and the one of B too if `also` says so. Both are destroyed, and B
gets a new one. -/
def replacingPlay (also : List Action) : List Action :=
  [.edit (.create "A" [] true), .edit (.addRoot 0 1),
    .edit (.create "Play" [Component.new .button] true), .edit (.setParent 2 (some 1)),
    .edit (.create "B" [] true), .edit (.addRoot 0 3),
    .edit (.create "Play" [Component.new .button] true), .edit (.setParent 4 (some 3)),
    .add (some 2) .standard none] ++ also ++
  [.edit (.destroy 2), .edit (.destroy 4),
    .edit (.create "Play" [Component.new .button] true), .edit (.setParent 5 (some 3))]

/-- A single reference moves over to the new button. -/
theorem allOrNothing_repair_of_one :
    let w := mainScene.run (replacingPlay [])
    w.InUse ∧ AllOrNothing w w.missing (w.repair none) := by
  intro w
  have hw : w.InUse := (InUse.start _ _ _).run _
  refine ⟨hw, (allOrNothing_repair_iff hw none).mpr fun s hs => ?_⟩
  obtain rfl : 0 = s := Option.some.inj ((by decide +kernel : w.registry.scene = some 0).symm.trans hs)
  have hmissing : w.missing = [0] := by decide +kernel
  have hfound : w.nodeFor? 0 0 = some 5 := by decide +kernel
  have hfree : w.registry.findPath? (w.pathOf 5).2 = none := by decide +kernel
  have halive : w.forest.IsAlive 5 := by decide +kernel
  rw [hmissing]
  refine ⟨?_, trivial⟩
  rintro (⟨found, -, -, taken, -⟩ | ⟨found, -, -, dead⟩) <;> cases hfound.symm.trans found
  · exact Option.some_ne_none _ (taken.symm.trans hfree)
  · exact dead halive

/-- Of two references only the second one is repaired. The first, which finds the same button, is as
missing as before, but its path has left the index. -/
theorem not_allOrNothing_of_two :
    let w := mainScene.run (replacingPlay [.add (some 4) .standard none])
    (w.repair none).1.missing = [0] ∧ w.registry.findPath? "A/Play" = some 0 ∧
      (w.repair none).1.registry.findPath? "A/Play" = none ∧
      ¬ AllOrNothing w w.missing (w.repair none) := by
  intro w
  have hgone : (w.repair none).1.missing = [0] := by decide +kernel
  have hbefore : w.registry.findPath? "A/Play" = some 0 := by decide +kernel
  have hafter : (w.repair none).1.registry.findPath? "A/Play" = none := by decide +kernel
  refine ⟨hgone, hbefore, hafter, fun h => ?_⟩
  obtain ⟨-, hentry⟩ := h.untouched 0 (by decide +kernel) (by rw [hgone]; exact List.mem_singleton_self 0)
  exact Option.some_ne_none 0 (((hentry _).mpr hbefore).symm.trans hafter)

/-- A button that was destroyed and made a root again is found by the repair; its reference counts as
repaired and is missing afterwards. -/
example :
    let w := mainScene.run [.edit (.create "Play" [Component.new .button] true), .edit (.addRoot 0 1),
      .add (some 1) .standard none, .edit (.destroy 1), .edit (.addRoot 0 1), .bindScene 0]
    (w.repair none).2 = 1 ∧ (w.repair none).1.missing = [0] := by
  decide +kernel

end SceneBindings.Workspace
