import SceneBindings.Generate.PanelHandlers
import SceneBindings.Proofs.Emit.Groups
import SceneBindings.Proofs.Files.Footprint
import SceneBindings.Proofs.Generate.Units

/-!
The generators touch only their own files. What is refused changes nothing; the library and the
handlers of panels are replaced only after a decision that allows it; of the two handler units of a
scene only the machine unit is ever replaced.
-/

namespace SceneBindings

open DiskPath Files

namespace Settings

lemma named_libraryPath (s : Settings) (scene : String) : (s.libraryPath scene).Named := by
  obtain ⟨root, ns, base, hchild⟩ := child_append s.libraryDir
    (s.library.classPrefix ++ Name.sanitize scene)
  exact ⟨ns, base ++ ".py", by rw [libraryPath, hchild _ (by decide) (by decide)],
    append_ne_dots (by decide)⟩

end Settings

namespace Desk

variable {d d' d'' : Desk}

/-- Something is said, and nothing else done. -/
def Speaks (d d' : Desk) : Prop := ∃ es, d' = { d with events := es }

lemma Speaks.refl (d : Desk) : d.Speaks d := ⟨d.events, rfl⟩

lemma Speaks.trans (h : d.Speaks d') (h' : d'.Speaks d'') : d.Speaks d'' := by
  obtain ⟨es, rfl⟩ := h
  obtain ⟨es', rfl⟩ := h'
  exact ⟨es', rfl⟩

lemma speaks_print (d : Desk) (text : String) : d.Speaks (d.print text) := ⟨_, rfl⟩

lemma speaks_reportAll (d : Desk) (ds : List Diagnostic) : d.Speaks (d.reportAll ds) := by
  induction ds generalizing d with
  | nil => exact .refl d
  | cons x ds ih => exact Speaks.trans ⟨_, rfl⟩ (ih (d.say (.found x)))

lemma UnitFrame.of_speaks {p : DiskPath} {text : String} {decider : Option Decider}
    {r : Except Failure (Option DiskPath)} (h : UnitFrame d' p text decider d'' r)
    (hspoken : d.Speaks d') : UnitFrame d p text decider d'' r := by
  obtain ⟨es, rfl⟩ := hspoken
  exact ⟨h.now, h.answers, h.confined, h.kept, h.refused, h.undecided, h.unseen, h.cancelled,
    h.written, h.directory, h.beside⟩

end Desk

namespace Generate

open Desk

variable {f : Forest} {g : Registry} {s : Settings} {d d' : Desk} {decider : Option Decider}
  {scene : String}

/-! ### The library -/

/-- What becomes of the files when the library is written. -/
structure LibraryFrame (s : Settings) (scene : String) (d : Desk) (decider : Option Decider)
    (out : Desk × Except Failure (Option DiskPath)) : Prop where
  refused : ∀ e, out.2 = .error e → e.IsRefusal → out.1.files = d.files
  cancelled : d.choice? (s.libraryPath scene) decider = some .cancel → out.1.files = d.files
  changed : ∀ x, out.1.files.content? x ≠ d.files.content? x →
    d.Owns (s.libraryPath scene) decider out.1.files x

lemma LibraryFrame.of_unit {text : String} {r : Except Failure (Option DiskPath)}
    (h : UnitFrame d (s.libraryPath scene) text decider d' r) :
    LibraryFrame s scene d decider (d', r) :=
  ⟨fun e he hrefusal => (h.refused e he hrefusal).1, fun hc => (h.cancelled hc).1,
    fun _ hq => h.owns hq⟩

theorem library_frame (f : Forest) (g : Registry) (s : Settings) (d : Desk)
    (decider : Option Decider) :
    LibraryFrame s g.sceneName d decider (library f g s d decider) := by
  rw [library]
  dsimp only
  split
  · exact ⟨fun _ _ _ => rfl, fun _ => rfl, fun x hx => absurd rfl hx⟩
  · have hspoken := ((speaks_print d ("📚 Generating UI library for " ++ g.sceneName ++ "...")).trans
      (speaks_reportAll _ (g.duplicateNames.map ambiguous))).trans
      (speaks_reportAll _ (PanelGroup.build f g).2)
    generalize hout : Desk.writeUnit _ _ _ _ = out
    obtain ⟨d₂, r⟩ := out
    have hframe := LibraryFrame.of_unit
      ((writeUnit_frame (s.named_libraryPath g.sceneName) hout).of_speaks hspoken)
    split
    · next d₂ path heq =>
      cases heq
      exact ⟨nofun, hframe.cancelled, hframe.changed⟩
    · exact hframe

/-! ### The handlers of a scene -/

/-- What becomes of the files when the handlers of a scene are written. -/
structure HandlersFrame (s : Settings) (scene : String) (d : Desk)
    (out : Desk × Except Failure HandlersDone) : Prop where
  refused : ∀ e, out.2 = .error e → e.IsRefusal → out.1.files = d.files
  changed : ∀ x, out.1.files.content? x ≠ d.files.content? x →
    x = d.files.land (s.machinePath scene) ∨
      x = d.files.land (s.userPath scene) ∧ d.files.at? x = none

lemma requireLibrary_cases (g : Registry) (s : Settings) (d : Desk) :
    (∃ d' e, requireLibrary g s d = (d', .error e) ∧ d.Speaks d') ∨
      requireLibrary g s d = (d, .ok g.sceneName) := by
  rw [requireLibrary]
  split
  · exact .inl ⟨_, _, rfl, _, rfl⟩
  · exact .inr rfl

lemma replaceMachine_frame {p : DiskPath} {text : String} {diff : SignatureDiff}
    {r : Except Failure Unit} (h : replaceMachine d p text diff = (d', r)) :
    r = .ok () ∧ Writes p (.text text) d.files d'.files ∨
      (∃ e, r = .error e ∧ ¬ e.IsRefusal) ∧ Grows d.files d'.files := by
  rw [replaceMachine] at h
  split at h
  · next d₁ e hstore =>
    cases h
    obtain ⟨files, rfl, ⟨⟨⟩, -⟩ | ⟨⟨_, ⟨⟩, he⟩, hmade⟩⟩ := store_spec hstore
    exact .inr ⟨⟨e, rfl, he⟩, hmade ▸ grows_makeDirectory _ _⟩
  · next d₁ hstore =>
    obtain ⟨files, rfl, ⟨-, hwrites⟩ | ⟨⟨_, ⟨⟩, -⟩, -⟩⟩ := store_spec hstore
    cases h
    refine .inl ⟨rfl, ?_⟩
    split <;> exact hwrites

lemma createUser_frame {p : DiskPath} {text : String} {r : Except Failure Bool}
    (h : createUser d p text = (d', r)) :
    (∀ x, d'.files.content? x ≠ d.files.content? x →
      x = d.files.land p ∧ d.files.at? x = none) ∧ ∀ e, r = .error e → ¬ e.IsRefusal := by
  rw [createUser] at h
  split at h
  · cases h
    exact ⟨fun x hx => absurd rfl hx, fun _ h => by cases h⟩
  · next hnew =>
    split at h
    · next e he =>
      cases h
      exact ⟨fun x hx => absurd rfl hx, fun _ h => Except.error.inj h ▸ write_error he⟩
    · next files hfiles =>
      cases h
      obtain ⟨y, hy, -, rfl⟩ := write_eq_ok_iff.mp hfiles
      have hnone : d.files.at? y = none := by
        rw [← get?_of_place hy]
        exact exists?_eq_false.mp (by simpa using hnew)
      refine ⟨fun x hx => ?_, fun _ h => by cases h⟩
      obtain rfl : y = x := by
        by_contra hne
        refine hx ?_
        rw [files_print, content?_put rfl, if_neg hne]
      exact ⟨eq_land_of_place hy, hnone⟩

variable [Yaml]

lemma speaks_previousHooks (d : Desk) (p : DiskPath) : d.Speaks (previousHooks d p).1 := by
  rw [previousHooks]
  split
  · exact .refl d
  · split
    · exact .refl d
    · exact speaks_print _ _

theorem handlers_frame (f : Forest) (g : Registry) (s : Settings) (d : Desk) :
    HandlersFrame s g.sceneName d (handlers f g s d) := by
  rw [handlers]
  obtain ⟨d', e, hrequire, es, rfl⟩ | hrequire := requireLibrary_cases g s d
  · rw [hrequire]
    exact ⟨fun _ _ _ => rfl, fun x hx => absurd rfl hx⟩
  · rw [hrequire]
    dsimp only
    have hspoken := (((speaks_print d ("🔧 Generating UI handlers for " ++ g.sceneName ++ "...")).trans
      (speaks_reportAll _ (PanelGroup.build f g).2)).trans
      (speaks_reportAll _ (Signature.collect (PanelGroup.build f g).1).2)).trans
      (speaks_previousHooks _ (s.machinePath g.sceneName))
    generalize hmachine : replaceMachine _ _ _ _ = out
    obtain ⟨d₂, r⟩ := out
    have hcases := replaceMachine_frame hmachine
    obtain ⟨es, hes⟩ := hspoken
    rw [hes] at hcases
    obtain ⟨rfl, hwrites⟩ | ⟨⟨e, rfl, he⟩, hgrows⟩ := hcases
    · dsimp only
      have hconfined := hwrites.confined rfl
      have hchanged : ∀ x, d₂.files.content? x ≠ d.files.content? x →
          x = d.files.land (s.machinePath g.sceneName) :=
        fun x hx => by_contra fun hne => hx (hconfined.content x hne)
      generalize hcreate : createUser _ _ _ = out
      obtain ⟨d₃, r⟩ := out
      obtain ⟨huser, hrefusal⟩ := createUser_frame hcreate
      have hall : ∀ x, d₃.files.content? x ≠ d.files.content? x →
          x = d.files.land (s.machinePath g.sceneName) ∨
            x = d.files.land (s.userPath g.sceneName) ∧ d.files.at? x = none := by
        intro x hx
        by_cases hsame : d₃.files.content? x = d₂.files.content? x
        · exact .inl (hchanged x (hsame ▸ hx))
        · obtain ⟨rfl, hnone⟩ := huser x hsame
          exact .inr ⟨land_congr hconfined.current _, hwrites.at?_eq_none hnone⟩
      cases r with
      | error e =>
        refine ⟨?_, hall⟩
        rintro _ ⟨⟩ he
        exact absurd he (hrefusal e rfl)
      | ok _ =>
        refine ⟨?_, hall⟩
        rintro _ ⟨⟩
    · refine ⟨?_, fun x hx => absurd (hgrows.content? x) hx⟩
      rintro _ ⟨⟩ hrefusal
      exact absurd hrefusal he

end Generate

end SceneBindings
