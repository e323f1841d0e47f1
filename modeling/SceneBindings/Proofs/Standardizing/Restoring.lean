import SceneBindings.Proofs.Scene.Resaving
import SceneBindings.Proofs.Standardizing.Steps
import SceneBindings.Validation.Lax

/-!
Giving first names back. Whatever a standardizer is asked to do, a node with a recorded name had that
name at first, and a node without one has it still. So giving back all recorded names undoes every
renaming, however often nodes were renamed and restored before.
-/

namespace SceneBindings.Renaming

open Forest

variable {f : Forest} {r r' : Renaming} {k : Key} {ks : List Key} {s : SceneId}

/-! ### Records -/

/-- Compared with an earlier forest, nodes have been renamed only, and each has its name of then, on
record if not in the forest. -/
structure Remembers (f : Forest) (r : Renaming) : Prop where
  forest : Renamed f r.forest
  first : ∀ k name, r.namer.firstName? k = some name → f.IsNode k ∧ name = (f.node k).name
  others : ∀ k, r.namer.firstName? k = none → r.name k = (f.node k).name
  distinct : r.namer.firstNames.keys.Nodup

namespace Remembers

lemma rename (h : Remembers f r) (hk : r.forest.IsNode k) (new : String) :
    Remembers f (r.rename k new).1 := by
  rw [Renaming.rename]
  dsimp only
  split
  · exact h
  · have hrecord : ∀ j, (if r.namer.firstNames.contains k then r.namer.firstNames
        else r.namer.firstNames.put k (r.name k)).get? j =
        if j = k ∧ r.namer.firstName? k = none then some (r.name k) else r.namer.firstName? j := by
      intro j
      rw [Table.contains, ← Standardizer.firstName?]
      cases hfirst : r.namer.firstName? k with
      | some name => simp [Standardizer.firstName?]
      | none => simp [Table.get?_put, Standardizer.firstName?, eq_comm]
    refine ⟨h.forest.trans (.rename hk new), fun j name hj => ?_, fun j hj => ?_, ?_⟩
    · rw [Standardizer.firstName?, hrecord] at hj
      split at hj
      · next hnew =>
        cases hj
        rw [hnew.1]
        exact ⟨h.forest.isNode_iff.mp hk, h.others k hnew.2⟩
      · exact h.first j name hj
    · rw [Standardizer.firstName?, hrecord] at hj
      split at hj
      · cases hj
      · next hold =>
        have hjk : j ≠ k := by
          rintro rfl
          exact hold ⟨rfl, hj⟩
        rw [← h.others j hj, name, node_rename hk, if_neg hjk, name]
    · dsimp only
      split
      · exact h.distinct
      · exact Table.nodup_keys_put h.distinct _ _

/-- What the renamings stopped at is of no account. -/
lemma stop (h : Remembers f r) (e : Option Failure) : Remembers f (r.stop e) :=
  ⟨h.forest, h.first, h.others, h.distinct⟩

lemma steps (h : Remembers f r) (hsteps : Steps r r') : Remembers f r' := by
  induction hsteps with
  | refl => exact h
  | tail _ hstep ih =>
    cases hstep with
    | rename hk => exact ih.rename hk _
    | stop e => exact ih.stop e

/-- A name that is given back is no longer on record. -/
lemma restore (h : Remembers f r) (k : Key) : Remembers f (r.restore k).1 ∧
    (∀ j, (r.restore k).1.namer.firstName? j = if j = k then none else r.namer.firstName? j) ∧
      (r.restore k).2 = (r.namer.firstName? k).isSome := by
  have hget : r.namer.firstNames.get? k = r.namer.firstName? k := rfl
  rw [Renaming.restore, hget]
  cases hfirst : r.namer.firstName? k with
  | none =>
    dsimp only
    refine ⟨h, fun j => ?_, rfl⟩
    split
    · next hj => rw [hj, hfirst]
    · rfl
  | some name =>
    dsimp only
    obtain ⟨hk, rfl⟩ := h.first k name hfirst
    have hnode := h.forest.isNode_iff.mpr hk
    have hrecord : ∀ j, (r.namer.firstNames.erase k).get? j =
        if j = k then none else r.namer.firstName? j := by
      intro j
      rw [Table.get?_erase, Standardizer.firstName?]
      simp only [eq_comm]
    refine ⟨⟨h.forest.trans (.rename hnode _), fun j name hj => ?_, fun j hj => ?_, ?_⟩, hrecord, rfl⟩
    · rw [Standardizer.firstName?, hrecord] at hj
      split at hj
      · cases hj
      · exact h.first j name hj
    · rw [Standardizer.firstName?, hrecord] at hj
      rw [Renaming.name, node_rename hnode]
      split
      · next hjk => rw [hjk]
      · next hjk =>
        rw [if_neg hjk] at hj
        exact h.others j hj
    · exact Table.nodup_keys_erase h.distinct k

/-- Giving back the names of living nodes, each recorded, takes all of them off the record. -/
lemma restoreEach (h : Remembers f r) (halive : ∀ k, f.IsAlive k) (hks : ks.Nodup)
    (hrecorded : ∀ k ∈ ks, (r.namer.firstName? k).isSome = true) :
    Remembers f (r.restoreEach ks).1 ∧
      (∀ j, (r.restoreEach ks).1.namer.firstName? j =
        if j ∈ ks then none else r.namer.firstName? j) ∧
      (r.restoreEach ks).2 = ks.length := by
  induction ks generalizing r with
  | nil => exact ⟨h, fun j => (if_neg List.not_mem_nil).symm, rfl⟩
  | cons k ks ih =>
    rw [List.nodup_cons] at hks
    rw [List.forall_mem_cons] at hrecorded
    have hstays : (r.forest.node k).destroyed = false := by
      rw [← halive k]
      exact (congrArg Node.destroyed (h.forest.shape k) :)
    obtain ⟨hone, hrecord, hdone⟩ := h.restore k
    obtain ⟨hall, hrecords, hcount⟩ := ih hone hks.2 fun j hj => by
      rw [hrecord, if_neg (ne_of_mem_of_not_mem hj hks.1)]
      exact hrecorded.2 j hj
    rw [Renaming.restoreEach, hstays, if_neg Bool.false_ne_true]
    refine ⟨hall, fun j => ?_, ?_⟩
    · dsimp only
      rw [hrecords, hrecord]
      grind
    · dsimp only
      rw [hcount, hdone, hrecorded.1, if_pos rfl, List.length_cons]

/-- Giving back all names on record makes the nodes what they were. -/
lemma restoreAll (h : Remembers f r) (halive : ∀ k, f.IsAlive k) :
    Renamed f r.restoreAll.1.forest ∧ (∀ k, r.restoreAll.1.forest.node k = f.node k) ∧
      r.restoreAll.2 = r.namer.firstNames.keys.length := by
  obtain ⟨hafter, hrecord, hcount⟩ := h.restoreEach halive h.distinct fun k hk =>
    (Table.mem_keys _ k).mp hk
  refine ⟨hafter.forest, fun k => ?_, hcount⟩
  refine Node.eq_of_shape (hafter.forest.shape k) (hafter.others k ?_) (hafter.forest.components k)
  rw [hrecord]
  split
  · rfl
  · next hk => rwa [Table.mem_keys, Option.not_isSome_iff_eq_none] at hk

/-- The names on record are those of so many nodes. -/
lemma length_keys (h : Remembers f r) {ks : List Key} (hks : ks.Nodup)
    (hall : ∀ k, k ∈ ks ↔ f.IsNode k) : r.namer.firstNames.keys.length =
      (ks.filter fun k => (r.namer.firstName? k).isSome).length := by
  refine ((List.perm_ext_iff_of_nodup h.distinct (hks.filter _)).mpr fun k => ?_).length_eq
  rw [Table.mem_keys, List.mem_filter, hall]
  refine (and_iff_right_of_imp fun hk => ?_).symm
  obtain ⟨name, hname⟩ := Option.isSome_iff_exists.mp hk
  exact (h.first k name hname).1

end Remembers

/-! ### Runs -/

/-- What may be asked of a standardizer. The parts of a node are named by the node's own role. -/
inductive Call where
  | standardize (k : Key) (force : Bool)
  | standardizeScene (force : Bool)
  | standardizeParts (k : Key)
  | restore (k : Key)
  deriving DecidableEq, Repr

def Call.node? : Call → Option Key
  | standardize k _ => some k
  | standardizeScene _ => none
  | standardizeParts k => some k
  | restore k => some k

/-- Each call starts anew, also after one that stopped at something. -/
def act (s : SceneId) (r : Renaming) : Call → Renaming
  | .standardize k force => ((r.stop none).standardize k force).1
  | .standardizeScene force => ((r.stop none).standardizeScene s force).1
  | .standardizeParts k => (r.stop none).standardizeParts k (r.forest.classify k)
  | .restore k => (r.restore k).1

def run (s : SceneId) (r : Renaming) (calls : List Call) : Renaming := calls.foldl (act s) r

lemma Remembers.orderly_restore (h : Remembers f r) (hf : Orderly f) (hr : Orderly r.forest)
    (k : Key) : Orderly (r.restore k).1.forest := by
  rw [Renaming.restore]
  split
  · exact hr
  · next name hname =>
    obtain ⟨hk, rfl⟩ := h.first k name hname
    exact hr.renames (.rename (h.forest.isNode_iff.mpr hk) .refl (hf.names k hk))

lemma remembers_act (hf : Orderly f) (h : Remembers f r) (hr : Orderly r.forest) {call : Call}
    (hcall : ∀ k ∈ call.node?, f.IsNode k) :
    Remembers f (r.act s call) ∧ Orderly (r.act s call).forest := by
  have hsteps : ∀ {r'}, Steps (r.stop none) r' → Remembers f r' ∧ Orderly r'.forest := fun hs =>
    ⟨(h.stop none).steps hs, (orderly_of_steps (r := r.stop none) hr hs).1⟩
  cases call with
  | standardize k force =>
    exact hsteps (steps_standardize hr (h.forest.isNode_iff.mpr (hcall k rfl)))
  | standardizeScene force => exact hsteps (steps_standardizeScene hr)
  | standardizeParts k =>
    exact hsteps (steps_standardizeParts hr (h.forest.isNode_iff.mpr (hcall k rfl)))
  | restore k => exact ⟨(h.restore k).1, h.orderly_restore hf hr k⟩

lemma remembers_run (hf : Orderly f) {calls : List Call} (h : Remembers f r) (hr : Orderly r.forest)
    (hcalls : ∀ call ∈ calls, ∀ k ∈ call.node?, f.IsNode k) : Remembers f (r.run s calls) := by
  induction calls generalizing r with
  | nil => exact h
  | cons call calls ih =>
    rw [List.forall_mem_cons] at hcalls
    obtain ⟨hone, horderly⟩ := remembers_act (s := s) hf h hr hcalls.1
    exact ih hone horderly hcalls.2

/-- A new standardizer has no names on record. -/
lemma remembers_new (f : Forest) (renamesParts respectsExisting : Bool) (events : List Event) :
    Remembers f ⟨f, .new renamesParts respectsExisting, events, none⟩ where
  forest := .refl f
  first _ _ hk := nomatch hk
  others _ _ := rfl
  distinct := List.nodup_nil

/-- **Giving back all first names undoes every renaming.** Whatever calls a new standardizer has
answered over a loaded scene, giving back the names on record leaves each node as it was loaded, and
the scene is written as it was before; no name stays on record, and the answer is the number of nodes
that had one. -/
theorem restoreAll_run [Validator] {v : Value} {events : List Event}
    (hload : Forest.empty.loadScene v = ⟨f, events, .ok s⟩) (renamesParts respectsExisting : Bool)
    (said : List Event) (calls : List Call)
    (hcalls : ∀ call ∈ calls, ∀ k ∈ call.node?, k ∈ f.walk s) :
    let r := Renaming.run s ⟨f, .new renamesParts respectsExisting, said, none⟩ calls
    let after := r.restoreAll
    (∀ k, after.1.forest.node k = f.node k) ∧ after.1.forest.writeScene s = f.writeScene s ∧
      (∀ k, after.1.namer.firstName? k = none) ∧
        after.2 = ((f.walk s).filter fun k => (r.namer.firstName? k).isSome).length := by
  obtain ⟨rfl, -, hf, ts, hplanted⟩ := orderly_of_loadScene hload
  intro r after
  have hremembers : Remembers f r := remembers_run hf (remembers_new f _ _ _) hf
    fun call hcall k hk => hplanted.mem_walk.mp (hcalls call hcall k hk)
  obtain ⟨hrenamed, hnodes, hcount⟩ := hremembers.restoreAll hplanted.alive
  have hnames : ∀ k, (after.1.forest.node k).name = (f.node k).name := fun k =>
    congrArg Node.name (hnodes k)
  have hpath : after.1.forest.relativePath = f.relativePath := hrenamed.relativePath_eq hnames
  refine ⟨hnodes, writeScene_congr ⟨hrenamed.toReshaped, hnames⟩ (fun k => ?_) 0, fun k => rfl, ?_⟩
  · rw [writeEntry_congr hpath, hnodes]
  · refine hcount.trans (hremembers.length_keys ?_ fun k => hplanted.mem_walk)
    rw [hplanted.walk]
    exact List.nodup_range'

/-- A toggle in a menu, with a mark and a caption. -/
def muteScene : Value :=
  .object [("scene", .text "S"), ("roots", .list [.object [("name", .text "menu"),
    ("components", .list [.text "Image"]),
    ("children", .list [.object [("name", .text "mute (1)"),
      ("components", .list [.object [("type", .text "Toggle"), ("graphic", .text "Mark")]]),
      ("children", .list [
        .object [("name", .text "Mark"), ("components", .list [.text "Image"])],
        .object [("name", .text "Caption"), ("components", .list [.text "Text"])]])]])]])]

/-- The toggle is named, gets its name back and is named again with all others; then its mark is
restored. -/
def muteCalls : List Call :=
  [.standardize 2 false, .restore 2, .standardizeScene true, .standardizeParts 2, .restore 3]

theorem restoreAll_run_of_mute : ∃ f events,
    Forest.empty.loadScene muteScene = ⟨f, events, .ok 0⟩ ∧
      (∀ call ∈ muteCalls, ∀ k ∈ call.node?, k ∈ f.walk 0) ∧
      let r := Renaming.run 0 ⟨f, .new true true, [], none⟩ muteCalls
      (r.name 2 = "Mute_Toggle" ∧ r.name 3 = "Mark" ∧ r.name 4 = "Mute_Toggle_Label") ∧
        (∀ k, r.restoreAll.1.forest.node k = f.node k) ∧
          r.restoreAll.1.forest.writeScene 0 = f.writeScene 0 ∧
            (∀ k, r.restoreAll.1.namer.firstName? k = none) ∧ r.restoreAll.2 = 3 := by
  obtain ⟨f, events, hload, hf⟩ : ∃ f events,
      Forest.empty.loadScene muteScene = ⟨f, events, .ok 0⟩ ∧
        f = (Forest.empty.loadScene muteScene).forest := ⟨_, _, rfl, rfl⟩
  have hcalls : ∀ call ∈ muteCalls, ∀ k ∈ call.node?, k ∈ f.walk 0 := by
    rw [hf]
    decide +kernel
  obtain ⟨hnodes, hwritten, hnone, hcount⟩ := restoreAll_run hload true true [] muteCalls hcalls
  refine ⟨f, events, hload, hcalls, ?_, hnodes, hwritten, hnone, hcount.trans ?_⟩
  · rw [hf]
    decide +kernel
  · rw [hf]
    decide +kernel

end SceneBindings.Renaming
