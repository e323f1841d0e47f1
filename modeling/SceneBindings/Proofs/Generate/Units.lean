import SceneBindings.Generate.Handlers
import SceneBindings.Proofs.Files.Writing

/-!
The two handler units of a scene: where they are, and what writing one does to all files.
-/

namespace SceneBindings

open DiskPath Files

namespace Settings

variable (s : Settings) (scene : String)

/-- The units are neighbours whose names differ in their ends. -/
lemma unitPaths : ∃ root ns base, s.machinePath scene = ⟨root, ns ++ [base ++ ".g.py"]⟩ ∧
    s.userPath scene = ⟨root, ns ++ [base ++ ".py"]⟩ := by
  obtain ⟨root, ns, base, hchild⟩ := child_append s.handlersDir (s.handlerClass scene)
  exact ⟨root, ns, base, hchild _ (by decide) (by decide), hchild _ (by decide) (by decide)⟩

lemma append_ne_dots {base ext : String} (h : 3 ≤ ext.toList.length) : base ++ ext ≠ ".." := by
  intro heq
  have hlength := congrArg (fun n => n.toList.length) heq
  have hdots : "..".toList.length = 2 := by decide
  simp only [String.toList_append, List.length_append, hdots] at hlength
  omega

lemma named_machinePath : (s.machinePath scene).Named := by
  obtain ⟨root, ns, base, hmachine, -⟩ := s.unitPaths scene
  exact ⟨ns, _, by rw [hmachine], append_ne_dots (by decide)⟩

lemma named_userPath : (s.userPath scene).Named := by
  obtain ⟨root, ns, base, -, huser⟩ := s.unitPaths scene
  exact ⟨ns, _, by rw [huser], append_ne_dots (by decide)⟩

lemma parent_userPath : (s.userPath scene).parent = (s.machinePath scene).parent := by
  obtain ⟨root, ns, base, hmachine, huser⟩ := s.unitPaths scene
  rw [hmachine, huser, parent, parent, List.dropLast_concat, List.dropLast_concat]

lemma userPath_ne_machinePath : s.userPath scene ≠ s.machinePath scene := by
  obtain ⟨root, ns, base, hmachine, huser⟩ := s.unitPaths scene
  rw [hmachine, huser]
  intro heq
  rw [DiskPath.mk.injEq] at heq
  have hname := congrArg (fun n => n.toList.length)
    (List.singleton_inj.mp (List.append_inj' heq.2 rfl).2)
  have hends : ".g.py".toList.length = 5 ∧ ".py".toList.length = 3 := by decide
  simp only [String.toList_append, List.length_append, hends] at hname
  omega

lemma land_userPath_ne (fs : Files) :
    fs.land (s.userPath scene) ≠ fs.land (s.machinePath scene) := fun h =>
  s.userPath_ne_machinePath scene ((s.named_userPath scene).eq_of_land (s.named_machinePath scene)
    (s.parent_userPath scene) h)

end Settings

namespace Desk

variable {d : Desk} {p : DiskPath}

@[simp] lemma files_print (d : Desk) (text : String) : (d.print text).files = d.files := rfl

@[simp] lemma files_reportAll (d : Desk) (ds : List Diagnostic) :
    (d.reportAll ds).files = d.files := by
  induction ds generalizing d with
  | nil => rfl
  | cons x ds ih => exact ih (d.say (.found x))

end Desk

namespace Generate

variable {d : Desk} {p : DiskPath}

lemma replaceMachine_eq_ok (hp : p.Named) (hmake : (d.files.makeDirectory p.parent).2 = .ok ())
    (hfile : d.files.shown p ≠ some .directory) (text : String) (diff : SignatureDiff) :
    ∃ d', replaceMachine d p text diff = (d', .ok ()) ∧
      Writes p (.text text) d.files d'.files := by
  obtain ⟨files, hwrites⟩ := exists_writes hp.ne_nil hmake hfile (.text text)
  rw [replaceMachine, Desk.store_eq_ok_iff.mpr ⟨files, hwrites, rfl⟩]
  dsimp only
  refine ⟨_, rfl, ?_⟩
  split <;> exact hwrites

/-- The user unit is kept if it is there, and created if not. -/
lemma createUser_eq_ok (hp : p.Named) (hparent : d.files.get? p.parent = some .directory)
    (text : String) :
    ∃ d' created, createUser d p text = (d', .ok created) ∧
      d'.files.get? p = some ((d.files.get? p).getD (.text text)) ∧
      (∀ r : DiskPath, d.files.land r ≠ d.files.land p → d'.files.get? r = d.files.get? r) ∧
      ∀ r : DiskPath, d.files.exists? r = true → d'.files.exists? r = true := by
  rw [createUser]
  split
  · next hthere =>
    obtain ⟨c, hc⟩ := Option.isSome_iff_exists.mp hthere
    refine ⟨_, _, rfl, ?_, fun _ _ => rfl, fun _ => id⟩
    rw [Desk.files_print, hc, Option.getD_some]
  · next hthere =>
    have hnone : d.files.get? p = none := Option.not_isSome_iff_eq_none.mp hthere
    have hplace := place_of_directory hp.ne_nil hparent
    have hfree : d.files.at? (d.files.land p) ≠ some .directory := by
      rw [← get?_of_place hplace, hnone]
      exact nofun
    rw [write_eq_ok_iff.mpr ⟨_, hplace, hfree, rfl⟩]
    refine ⟨_, _, rfl, ?_, fun r hr => ?_, fun r hr => exists?_put hfree rfl hr⟩
    · rw [hnone, Option.getD_none]
      exact get?_put_self hfree rfl hplace
    · exact get?_put_of_ne hfree rfl fun heq => hr (eq_land_of_place heq).symm

variable [Yaml]

/-- A machine unit that was written before, if any, tells its hooks. -/
lemma previousHooks_eq {previous : Option String}
    (h : d.files.get? p = previous.map FileContent.text) :
    previousHooks d p =
      (d, previous.map fun text => HookScan.names (FileContent.text text).lines) := by
  rw [previousHooks, Files.exists?, h]
  cases previous with
  | none => rfl
  | some text =>
    obtain ⟨x, hx, hat⟩ := get?_eq_some_iff.mp h
    rw [Files.read, hx]
    dsimp only
    rw [hat]
    rfl

end Generate

end SceneBindings
