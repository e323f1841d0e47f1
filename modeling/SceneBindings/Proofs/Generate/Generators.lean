import SceneBindings.Proofs.Generate.PanelFiles

/-!
What each generator may do to the files. The handlers of panels are neighbours, and only the first of
them can be missed: making its directory shows the others.
-/

namespace SceneBindings

open DiskPath Files

namespace Generate

open Desk

variable {f : Forest} {g : Registry} {s : Settings} {d d' d₁ : Desk} {decider : Option Decider}
  {scene : String} {p : Paneled}

/-! ### Where the handlers go -/

/-- The handlers of panels are neighbours whose names tell the classes of the groups. -/
lemma exists_handlerPath (s : Settings) : ∃ root ns base, ∀ cls : String, '/' ∉ cls.toList →
    s.panelHandlerPath cls = ⟨root, ns ++ [base ++ cls ++ "PanelHandler" ++ ".py"]⟩ := by
  obtain ⟨root, ns, base, hchild⟩ := child_append s.panelHandlersDir s.panelHandlers.classPrefix
  refine ⟨root, ns, base, fun cls hcls => ?_⟩
  have hend : '/' ∉ "PanelHandler.py".toList ∧ 2 ≤ "PanelHandler.py".toList.length := by decide
  have hlength : 2 ≤ (cls ++ "PanelHandler.py").toList.length := by
    rw [String.toList_append, List.length_append]
    omega
  have hslash : '/' ∉ (cls ++ "PanelHandler.py").toList := by
    rw [String.toList_append, List.mem_append, not_or]
    exact ⟨hcls, hend.1⟩
  have hclass : s.panelHandlerClass cls ++ ".py" =
      s.panelHandlers.classPrefix ++ (cls ++ "PanelHandler.py") := by
    rw [Settings.panelHandlerClass, String.append_assoc, String.append_assoc]
    rfl
  rw [Settings.panelHandlerPath, hclass, hchild _ hslash hlength, String.append_assoc,
    String.append_assoc]
  rfl

/-- A file that is kept never has the name of a handler. -/
lemma handler_ne_kept (x y : String) : x ++ "PanelHandler" ++ ".py" ≠ y ++ ".bak" ++ ".py" := by
  intro h
  have hlast := congrArg (fun s => s.toList.getLast?) ((String.append_left_inj _).mp h)
  simp at hlast

lemma apart_handlers (now : Timestamp) {root : Root} {ns cs : List String} {base : String}
    (hcs : cs.Nodup) :
    Apart now (cs.map fun cls => ⟨root, ns ++ [base ++ cls ++ "PanelHandler" ++ ".py"]⟩) := by
  have hne : ∀ cls : String, base ++ cls ++ "PanelHandler" ≠ "" := by
    intro cls h
    have hlength := congrArg (fun n => n.toList.length) h
    simp only [String.toList_append, List.length_append] at hlength
    have hends : "PanelHandler".toList.length = 12 ∧ "".toList.length = 0 := by decide
    omega
  have hname : ∀ cls : String,
      (DiskPath.mk root (ns ++ [base ++ cls ++ "PanelHandler" ++ ".py"])).name =
        base ++ cls ++ "PanelHandler" ++ ".py" := fun cls => by
    rw [name, List.getLast?_concat, Option.getD_some]
  have hbackup : ∀ cls : String,
      (DiskPath.mk root (ns ++ [base ++ cls ++ "PanelHandler" ++ ".py"])).backupAt now =
        ⟨root, ns ++ [base ++ cls ++ "PanelHandler" ++ "_" ++ now.compact ++ ".bak" ++ ".py"]⟩ := by
    intro cls
    obtain ⟨hstem, hsuffix⟩ := stem_suffix_of_name (hne cls) (hname cls)
    rw [backupAt, hstem, hsuffix, List.dropLast_concat]
  have hapart : ∀ c c' : String, c ≠ c' →
      List.Disjoint (places now ⟨root, ns ++ [base ++ c ++ "PanelHandler" ++ ".py"]⟩)
        (places now ⟨root, ns ++ [base ++ c' ++ "PanelHandler" ++ ".py"]⟩) := by
    intro c c' hcc x hx hy
    rw [places, hbackup, List.mem_pair] at hx hy
    obtain rfl | rfl := hx <;> obtain hy | hy := hy
    · exact hcc (by simpa [String.append_assoc] using hy)
    · exact handler_ne_kept _ _ (by simpa using hy)
    · exact handler_ne_kept _ _ (by simpa using hy.symm)
    · exact hcc (by simpa [String.append_assoc] using hy)
  refine ⟨?_, ?_, ?_⟩
  · intro p hp
    obtain ⟨cls, -, rfl⟩ := List.mem_map.mp hp
    exact ⟨ns, _, rfl, Settings.append_ne_dots (by decide)⟩
  · intro p hp q hq
    obtain ⟨cls, -, rfl⟩ := List.mem_map.mp hp
    obtain ⟨cls', -, rfl⟩ := List.mem_map.mp hq
    rw [parent, parent, List.dropLast_concat, List.dropLast_concat]
  · rw [List.flatMap_map, List.nodup_flatMap]
    refine ⟨fun cls _ => ?_, hcs.imp fun {c c'} hcc => hapart c c' hcc⟩
    simpa [places] using (backupAt_ne _ now).symm

lemma slash_not_mem_className (group : PanelGroup) : '/' ∉ group.className.toList := by
  intro hmem
  have hchar := LineReading.isIdentifier_escapeKeyword group.key '/' hmem
  exact absurd hchar (by decide)

/-- The groups that a run writes handlers for. -/
def selected (f : Forest) (g : Registry) : Option (List String) → List Paneled
  | none => paneled (PanelGroup.build f g).1
  | some names => (paneled (PanelGroup.build f g).1).filter (isSelected names)

lemma fst_paneled_sublist (groups : List PanelGroup) :
    ((paneled groups).map Prod.fst).Sublist groups := by
  induction groups with
  | nil => exact .slnil
  | cons group groups ih =>
    rw [paneled, List.filterMap_cons]
    cases group.panel with
    | none => exact ih.cons group
    | some panel => exact ih.cons_cons group

lemma apart_selected (f : Forest) (g : Registry) (s : Settings) (now : Timestamp)
    (wanted : Option (List String)) : Apart now ((selected f g wanted).map (handlerPath s)) := by
  obtain ⟨root, ns, base, hpath⟩ := exists_handlerPath s
  have hsublist : (selected f g wanted).Sublist (paneled (PanelGroup.build f g).1) := by
    cases wanted with
    | none => exact .refl _
    | some names => exact List.filter_sublist
  have hclasses : ((selected f g wanted).map fun p => p.1.className).Nodup := by
    refine List.Nodup.sublist ?_ (PanelGroup.build_classNames (f := f) (g := g))
    have hgroups := ((hsublist.map Prod.fst).trans (fst_paneled_sublist _)).map PanelGroup.className
    rwa [List.map_map] at hgroups
  have hpaths : (selected f g wanted).map (handlerPath s) =
      ((selected f g wanted).map fun p => p.1.className).map fun cls =>
        ⟨root, ns ++ [base ++ cls ++ "PanelHandler" ++ ".py"]⟩ := by
    rw [List.map_map]
    exact List.map_congr_left fun p _ => hpath _ (slash_not_mem_className p.1)
  rw [hpaths]
  exact apart_handlers now hclasses

/-! ### All generators -/

/-- What becomes of the files when the handlers of the chosen panels are written. -/
structure PanelHandlersFrame (s : Settings) (scene : String) (d : Desk) (decider : Option Decider)
    (chosen : List Paneled) (out : Desk × Except Failure PanelHandlersDone) : Prop where
  refused : ∀ e, out.2 = .error e → e.IsRefusal → out.1.files = d.files
  /-- No two panels share a handler. -/
  distinct : (chosen.map fun p => d.files.land (handlerPath s p)).Nodup
  each : EachFrame d decider (chosen.map (handlerPath s)) out.1 out.2
  /-- Without a decider every file stays as it is, but for the first handler if it is missed. -/
  undecided : decider = none → ∀ x c, d.files.content? x = some c →
    out.1.files.content? x = some c ∨ Misses d (chosen.map (handlerPath s)) x
  /-- A handler that is missed is written, whatever it held, and nobody is asked. -/
  missed : ∀ p ∈ chosen.head?, d.files.Hides (handlerPath s p) → ∀ done, out.2 = .ok done →
    handlerPath s p ∈ done.written ∧ out.1.files.content? (d.files.land (handlerPath s p)) =
      some (.text (handlerText scene s d p))

lemma EachFrame.of_speaks {paths : List DiskPath} {r : Except Failure PanelHandlersDone}
    (h : EachFrame d₁ decider paths d' r) (hspoken : d.Speaks d₁) : EachFrame d decider paths d' r := by
  obtain ⟨es, rfl⟩ := hspoken
  exact ⟨h.changed, h.listed, h.skipped, h.kept⟩

lemma EachFrame.undecided {paths : List DiskPath} {r : Except Failure PanelHandlersDone}
    (h : EachFrame d none paths d' r) {x : Place} {c : FileContent}
    (hx : d.files.content? x = some c) :
    d'.files.content? x = some c ∨ Misses d paths x := by
  refine or_iff_not_imp_left.mpr fun hne => ?_
  obtain hmissed | ⟨p, -, ⟨-, hold | hdecided⟩ | ⟨hbackup, -⟩⟩ :=
    h.changed x fun hsame => hne (hsame.trans hx)
  · exact hmissed
  · rw [hx] at hold
    cases hold
  · rcases hdecided with h | h <;> cases h
  · cases hbackup

namespace PanelHandlersFrame

variable {chosen : List Paneled} {r : Except Failure PanelHandlersDone}

lemma of_each (hapart : Apart d.now (chosen.map (handlerPath s)))
    (heach : EachFrame d decider (chosen.map (handlerPath s)) d' r)
    (hrefused : ∀ e, r = .error e → e.IsRefusal → d'.files = d.files)
    (hmissed : ∀ p ∈ chosen.head?, d.files.Hides (handlerPath s p) → ∀ done, r = .ok done →
      handlerPath s p ∈ done.written ∧ d'.files.content? (d.files.land (handlerPath s p)) =
        some (.text (handlerText scene s d p))) :
    PanelHandlersFrame s scene d decider chosen (d', r) := by
  refine ⟨hrefused, ?_, heach, fun hnone x c hx => ?_, hmissed⟩
  · have hnodup := hapart.nodup_land d.files
    rwa [List.map_map] at hnodup
  · subst hnone
    exact heach.undecided hx

/-- The panels are handled after something was said. -/
lemma of_run (hapart : Apart d.now (chosen.map (handlerPath s))) (hspoken : d.Speaks d₁)
    (h : panelHandlerEach scene s decider d₁ chosen = (d', r)) :
    PanelHandlersFrame s scene d decider chosen (d', r) := by
  have hstamp := stampOf_of_speaks (s := s) hspoken
  have hsame : d₁.now = d.now ∧ d₁.files = d.files := by
    obtain ⟨es, rfl⟩ := hspoken
    exact ⟨rfl, rfl⟩
  have hapart₁ : Apart d₁.now (chosen.map (handlerPath s)) := hsame.1 ▸ hapart
  refine of_each hapart ((panelHandlerEach_frame hapart₁ h).of_speaks hspoken)
    (fun e he hrefusal => ?_) fun p hp hides done hdone => ?_
  · subst he
    exact absurd hrefusal (panelHandlerEach_error hapart₁ h)
  · subst hdone
    obtain ⟨ps, rfl⟩ := List.head?_eq_some_iff.mp hp
    have hwritten := panelHandlerEach_missing hapart₁ (hsame.2 ▸ hides.1) h
    rwa [handlerText, hstamp, hsame.2] at hwritten

lemma printed (h : PanelHandlersFrame s scene d decider chosen (d', r)) (silent : Bool)
    (text : String) :
    PanelHandlersFrame s scene d decider chosen (if silent then d'.print text else d', r) := by
  split
  · have heach := h.each
    exact ⟨h.refused, h.distinct, ⟨heach.changed, heach.listed, heach.skipped, heach.kept⟩,
      h.undecided, h.missed⟩
  · exact h

end PanelHandlersFrame

theorem panelHandlers_frame (f : Forest) (g : Registry) (s : Settings) (d : Desk)
    (decider : Option Decider) (wanted : Option (List String)) :
    PanelHandlersFrame s g.sceneName d decider (selected f g wanted)
      (panelHandlers f g s d decider wanted) := by
  have hapart := apart_selected f g s d.now wanted
  rw [panelHandlers]
  obtain ⟨d', e, hrequire, es, rfl⟩ | hrequire := requireLibrary_cases g s d
  · rw [hrequire]
    exact .of_each hapart (.stopped fun x hx => absurd rfl hx) (fun _ _ _ => rfl)
      fun _ _ _ _ => nofun
  · have hspoken := (speaks_print d ("🔧 Generating panel handlers for " ++ g.sceneName ++ "...")).trans
      (speaks_reportAll _ (PanelGroup.build f g).2)
    rw [hrequire]
    cases wanted with
    | none =>
      dsimp only
      split
      · next heach => exact .of_run hapart hspoken heach
      · next heach => exact (PanelHandlersFrame.of_run hapart hspoken heach).printed _ _
    | some names =>
      dsimp only
      have hunknown := fun ds => hspoken.trans (speaks_reportAll _ ds)
      split
      · next heach => exact .of_run hapart (hunknown _) heach
      · next heach => exact (PanelHandlersFrame.of_run hapart (hunknown _) heach).printed _ _

/-- **The generators touch only their own files**, whatever files there are and whatever is decided.
What is refused, or decided against, changes nothing. The library and the handlers of panels are
replaced only after a decision that allows it, and where a file is to be kept, what it held is kept;
only a handler that comes first is replaced without one, if it is not found before its directory is
made. Of the handlers of a scene only the machine unit is replaced; the user unit is only created.
Each chosen panel is listed once, and unchanged if it is listed as skipped. -/
theorem generators_touch_own_files [Yaml] (f : Forest) (g : Registry) (s : Settings) (d : Desk) :
    (∀ decider, LibraryFrame s g.sceneName d decider (library f g s d decider)) ∧
    HandlersFrame s g.sceneName d (handlers f g s d) ∧
    ∀ decider wanted, PanelHandlersFrame s g.sceneName d decider (selected f g wanted)
      (panelHandlers f g s d decider wanted) :=
  ⟨library_frame f g s d, handlers_frame f g s d, panelHandlers_frame f g s d⟩

/-- The handlers of panels go behind a directory that is not there. -/
def roundabout : Settings :=
  { Settings.default ⟨.single, []⟩ with panelHandlers := ⟨"missing/../gen", ""⟩ }

/-- A registry with a panel in a scene called Main. -/
def onePanel : Registry :=
  { Registry.blank .empty with
    sceneName := "Main"
    store := [⟨"Menu_Panel", "Menu_Panel", .panel, .never⟩]
    categories := [⟨"Panel", [0]⟩] }

/-- A desk with the library of the scene and what someone wrote in place of a handler. -/
def handledDesk : Desk :=
  ⟨((((Files.bare ["generated", "ui"]).put ["generated", "ui", "UI_Library_Main.py"] (.text "")).put
      ["gen"] .directory).put ["gen", "MenuPanelHandler.py"] (.text "mine")),
    [], ⟨2024, 1, 1, 12, 0, 0⟩, []⟩

lemma handlerText_ne_mine (scene : String) (s : Settings) (d : Desk) (p : Paneled) :
    handlerText scene s d p ≠ "mine" := by
  intro h
  obtain ⟨l, ls, htext⟩ : ∃ l ls, handlerText scene s d p = Emit.unlines (l :: ls) := ⟨_, _, rfl⟩
  have hbreak : '\n' ∈ "mine".toList := by
    rw [← h, htext, HookScan.toList_unlines_cons, List.mem_append, List.mem_cons]
    exact .inr (.inl rfl)
  exact absurd hbreak (by decide)

/-- What someone wrote is lost without a question. -/
theorem missed_handler_replaced :
    let out := panelHandlers .empty onePanel roundabout handledDesk none none
    (∃ done, out.2 = .ok done) ∧
      ¬ ∀ x c, handledDesk.files.content? x = some c → out.1.files.content? x = some c := by
  intro out
  obtain ⟨done, hdone⟩ : ∃ done, out.2 = .ok done := by
    have hok : out.2.toOption.isSome = true := by decide +kernel
    cases hout : out.2 with
    | ok done => exact ⟨done, rfl⟩
    | error e =>
      rw [hout] at hok
      cases hok
  refine ⟨⟨done, hdone⟩, fun hkept => ?_⟩
  have hpaths : (selected .empty onePanel none).head?.map (handlerPath roundabout) =
      some ⟨.single, ["missing", "..", "gen", "MenuPanelHandler.py"]⟩ := by decide +kernel
  obtain ⟨p, hp, hpath⟩ := Option.map_eq_some_iff.mp hpaths
  have hides : handledDesk.files.Hides (handlerPath roundabout p) := by
    rw [hpath]
    decide +kernel
  obtain ⟨-, hnow⟩ := (panelHandlers_frame .empty onePanel roundabout handledDesk none none).missed
    p hp hides done hdone
  have hmine : handledDesk.files.content? (handledDesk.files.land (handlerPath roundabout p)) =
      some (.text "mine") := by
    rw [hpath]
    rfl
  exact handlerText_ne_mine _ _ _ _
    (FileContent.text.inj (Option.some.inj (hnow.symm.trans (hkept _ _ hmine))))

end Generate

end SceneBindings
