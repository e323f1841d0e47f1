import SceneBindings.Proofs.Registry.Documents

/-!
Which registries can be stored. What comes in is checked, by an add and by reading a document; a repair
takes over the path of a node and a refresh its path and name as they are, and nodes may have any names.
So all can be stored exactly as long as no reference takes over a malformed path or an empty name.
-/

namespace SceneBindings

open Forest

lemma Capability.label_ne_empty (c : Capability) : c.label ≠ "" := by
  cases c <;> decide

/-- What a stored reference must have. -/
structure Reference.Valid (r : Reference) : Prop where
  name : r.name ≠ ""
  path : isCanonicalPath r.path = true

namespace Registry

variable {f : Forest} {g g' : Registry}

/-- Categories have names, and listed references what stored ones must have. -/
structure Valid (g : Registry) : Prop where
  categories : ∀ c ∈ g.categories, c.name ≠ ""
  references : ∀ i ∈ g.ids, (g.reference i).Valid

lemma stored_valid_iff : g.stored.Valid ↔ g.Valid := by
  constructor
  · intro h
    refine ⟨fun c hc => (h _ (List.mem_map_of_mem hc)).name, fun i hi => ?_⟩
    obtain ⟨c, hc, hi⟩ := List.mem_flatMap.mp hi
    have hr := (h _ (List.mem_map_of_mem hc)).references _ (List.mem_map_of_mem hi)
    exact ⟨hr.name, hr.path⟩
  · intro h stored hstored
    obtain ⟨c, hc, rfl⟩ := List.mem_map.mp hstored
    refine ⟨h.categories c hc, fun r hr => ?_⟩
    obtain ⟨i, hi, rfl⟩ := List.mem_map.mp hr
    obtain ⟨hname, hpath⟩ := h.references i (List.mem_flatMap.mpr ⟨c, hc, hi⟩)
    exact ⟨hname, hpath⟩

/-- All references in the lists are valid, and the registry has a document. -/
structure Storable (g : Registry) : Prop where
  references : ∀ r ∈ g.references, r.Valid
  document : ∃ d, g.toDocument = .ok d

lemma storable_iff : g.Storable ↔ g.Valid := by
  constructor
  · rintro ⟨-, d, hd⟩
    exact stored_valid_iff.mp (toDocument_eq_ok.mp hd).1
  · intro h
    exact ⟨List.forall_mem_map.mpr h.references, g.stored,
      toDocument_eq_ok.mpr ⟨stored_valid_iff.mpr h, rfl⟩⟩

/-! ### Lists -/

lemma name_of_mem_addMember {i : RefId} {name : String} {cs : List Category} {c : Category}
    (hc : c ∈ addMember i name cs) : c.name = name ∨ ∃ c' ∈ cs, c.name = c'.name := by
  induction cs with
  | nil => exact .inl (by rw [List.mem_singleton.mp hc])
  | cons d ds ih =>
    rw [addMember] at hc
    split at hc
    · next hname =>
      rcases List.mem_cons.mp hc with rfl | hc
      · exact .inl hname
      · exact .inr ⟨c, List.mem_cons_of_mem d hc, rfl⟩
    · rcases List.mem_cons.mp hc with rfl | hc
      · exact .inr ⟨c, List.mem_cons_self, rfl⟩
      · obtain hname | ⟨c', hc', hname⟩ := ih hc
        · exact .inl hname
        · exact .inr ⟨c', List.mem_cons_of_mem d hc', hname⟩

lemma name_of_mem_removeMember {i : RefId} {name : String} {cs : List Category} {c : Category}
    (hc : c ∈ removeMember i name cs) : ∃ c' ∈ cs, c.name = c'.name := by
  induction cs with
  | nil => cases hc
  | cons d ds ih =>
    rw [removeMember] at hc
    split at hc
    · rcases List.mem_cons.mp hc with rfl | hc
      · exact ⟨d, List.mem_cons_self, rfl⟩
      · exact ⟨c, List.mem_cons_of_mem d hc, rfl⟩
    · rcases List.mem_cons.mp hc with rfl | hc
      · exact ⟨c, List.mem_cons_self, rfl⟩
      · obtain ⟨c', hc', hname⟩ := ih hc
        exact ⟨c', List.mem_cons_of_mem d hc', hname⟩

namespace Valid

lemma of_lists (h : g.Valid) (hs : g'.store = g.store) (hc : g'.categories = g.categories) :
    g'.Valid := by
  refine ⟨hc ▸ h.categories, ?_⟩
  simpa [ids, reference, hs, hc] using h.references

lemma insert (h : g.Valid) (hs : Sound f g) {r : Reference} (hr : r.Valid) :
    (g.insert f r).1.Valid := by
  refine ⟨fun c hc => ?_, fun i hi => ?_⟩
  · obtain hname | ⟨c', hc', hname⟩ := name_of_mem_addMember hc
    · rw [hname]
      exact Capability.label_ne_empty _
    · rw [hname]
      exact h.categories c' hc'
  · rcases (mem_addMember g.categories).mp hi with rfl | hi
    · have hself : (g.insert f r).1.reference g.store.length = r := reference_append_self g r
      rwa [hself]
    · have hold : (g.insert f r).1.reference i = g.reference i :=
        reference_append g r i (hs.stored i hi)
      rw [hold]
      exact h.references i hi

lemma drop (h : g.Valid) (i : RefId) : (g.drop f i).1.Valid := by
  obtain ⟨active, last, hdrop⟩ := drop_eq g f i
  refine ⟨fun c hc => ?_, fun j hj => ?_⟩
  · rw [hdrop] at hc
    obtain ⟨c', hc', hname⟩ := name_of_mem_removeMember hc
    rw [hname]
    exact h.categories c' hc'
  · rw [ids_drop] at hj
    have hold := h.references j ((removeMember_sublist i _ _).subset hj)
    rw [reference_drop]
    split
    · next hji =>
      rw [hji] at hold
      exact ⟨hold.name, hold.path⟩
    · exact hold

lemma of_rebuilt (h : g.Valid) {all : List RefId} (hr : Rebuilt f g all g') : g'.Valid := by
  have hids : g'.ids = g.ids := by rw [ids, hr.categories, ids]
  refine ⟨hr.categories ▸ h.categories, fun i hi => ?_⟩
  obtain ⟨b, hb⟩ := hr.same i
  obtain ⟨hname, hpath⟩ := h.references i (hids ▸ hi)
  rw [hb]
  exact ⟨hname, hpath⟩

end Valid

/-- A document that a registry is read from must be valid; the other origins hold no references. -/
def Origin.Valid : Origin → Prop
  | .document d => d.Valid
  | _ => True

lemma valid_origin_iff (o : Origin) (f : Forest) : (o.registry f).Valid ↔ o.Valid := by
  cases o with
  | blank => exact iff_of_true ⟨List.forall_mem_nil _, List.forall_mem_nil _⟩ trivial
  | scene s => exact iff_of_true ⟨List.forall_mem_nil _, List.forall_mem_nil _⟩ trivial
  | document d =>
    rw [← stored_valid_iff]
    exact iff_of_eq (congrArg RegistryDocument.Valid (ofDocument_fields f d).1)

end Registry

namespace Workspace

open Registry

variable {v w : Workspace} {i : RefId} {k : Key}

/-! ### What a node may give to a reference -/

/-- A reference comes to be bound to a node under the path of that node; it keeps its name or takes the
name of the node. -/
structure TakesOver (w v : Workspace) (i : RefId) (k : Key) : Prop where
  binding : (v.registry.reference i).binding = .bound k
  path : (v.registry.reference i).path = (w.pathOf k).2
  name : (v.registry.reference i).name = (w.registry.reference i).name ∨
    (v.registry.reference i).name = w.name k

/-- A listed reference takes over the path of a node, which is malformed, or comes to have no name. -/
def Spoils (w v : Workspace) : Prop :=
  ∃ i ∈ w.registry.ids, i ∈ v.registry.ids ∧ ∃ k, TakesOver w v i k ∧
    (isCanonicalPath (w.pathOf k).2 = false ∨ (v.registry.reference i).name = "")

/-- A repair leaves a reference as it is, or the reference takes over the path of a node. -/
lemma repairOne_takesOver (w : Workspace) (s : SceneId) (i : RefId) :
    (w.repairOne s i).1.registry.reference i = w.registry.reference i ∨
      ∃ k, TakesOver w (w.repairOne s i).1 i k := by
  have hcases := repairs_repairOne w s i
  generalize w.repairOne s i = r at hcases ⊢
  cases hcases with
  | unmatched => exact .inl rfl
  | barred => exact .inl rfl
  | @fixed k =>
    have hself := reference_modify ((w.pathOf k).1.registry.unindex i) i i fun r =>
      { r with
        path := (w.pathOf k).2, name := (w.registry.reference i).name, binding := .bound k }
    split at hself
    · have hname := congrArg Reference.name hself
      exact .inr ⟨k, congrArg Reference.binding hself, congrArg Reference.path hself, .inl hname⟩
    · exact .inl hself

/-- So does a refresh, and the reference takes over the name as well. -/
lemma refreshOne_takesOver (w : Workspace) (i : RefId) :
    (w.refreshOne i).1.registry.reference i = w.registry.reference i ∨
      ∃ k, TakesOver w (w.refreshOne i).1 i k := by
  have hcases := refreshes_refreshOne w i
  generalize w.refreshOne i = r at hcases ⊢
  cases hcases with
  | unbound => exact .inl rfl
  | kept => exact .inl rfl
  | refused => exact .inl rfl
  | @moved k binding =>
    have hself := reference_modify w.registry i i fun r =>
      { r with path := (w.pathOf k).2, name := w.name k }
    split at hself
    · have hname := congrArg Reference.name hself
      exact .inr ⟨k, (congrArg Reference.binding hself).trans binding,
        congrArg Reference.path hself, .inr hname⟩
    · exact .inl hself

/-! ### What a step keeps -/

/-- A step on one reference keeps all valid unless that reference takes over what is not. -/
lemma valid_of_touches (h : w.registry.Valid) (htouches : Touches i w v) (hi : i ∈ w.registry.ids)
    (hself : v.registry.reference i = w.registry.reference i ∨ ∃ k, TakesOver w v i k)
    (hno : ¬ w.Spoils v) : v.registry.Valid := by
  refine ⟨htouches.categories ▸ h.categories, fun j hj => ?_⟩
  rw [htouches.ids] at hj
  by_cases hji : j = i
  · obtain hsame | ⟨k, hk⟩ := hself
    · rw [hji, hsame]
      exact h.references i hi
    · have hproper : isCanonicalPath (w.pathOf k).2 ≠ false ∧ (v.registry.reference i).name ≠ "" :=
        not_or.mp fun hbad => hno ⟨i, hi, htouches.ids ▸ hi, k, hk, hbad⟩
      rw [hji]
      refine ⟨hproper.2, ?_⟩
      rw [hk.path]
      exact eq_true_of_ne_false hproper.1
  · rw [htouches.others j hji]
    exact h.references j hj

lemma valid_quiet (h : w.registry.Valid) (hq : w.Quiet v) : v.registry.Valid :=
  h.of_lists hq.store hq.categories

/-- What is registered has been checked. -/
lemma valid_add (hs : Sound w.forest w.registry) (h : w.registry.Valid) (k : Option Key)
    (probe : Probe) (standardize : Option Bool) :
    (w.add k probe standardize).1.registry.Valid := by
  cases Admits.add w k probe standardize with
  | quiet hq => exact valid_quiet h hq
  | entered quiet binding alive free new checked eq =>
    obtain ⟨hname, hpath⟩ := StoredReference.validate_eq_ok.mp checked
    rw [eq]
    exact (valid_quiet h quiet).insert (sound_quiet hs quiet) ⟨hname, hpath⟩

lemma valid_remove (h : w.registry.Valid) (key : ElementKey) :
    (w.remove key).1.registry.Valid := by
  obtain ⟨i, -, -, heq⟩ | ⟨d, heq⟩ := remove_cases w key
  · rw [heq]
    exact h.drop i
  · rw [heq]
    exact h

/-- The actions in which references take over what nodes have. -/
def Action.Follows : Action → Prop
  | .repair _ => True
  | .refreshPaths => True
  | _ => False

/-- Every step keeps all valid, but for a repair or refresh that spoils a reference. -/
lemma valid_stage {a : Action} (hs : Sound w.forest w.registry) (h : w.registry.Valid)
    (hno : a.Follows → ¬ w.Spoils v) (hstage : Stage w a v) : v.registry.Valid := by
  cases hstage with
  | edit e => exact h
  | add k probe standardize => exact valid_add hs h k probe standardize
  | addEach k probe ks => exact valid_add hs h k probe none
  | remove key => exact valid_remove h key
  | bindScene s =>
    obtain ⟨-, all, -, hr⟩ := rebuilt_bindScene s hs.nodup hs.stored
    exact h.of_rebuilt hr
  | repairEach s gone =>
    exact valid_of_touches h (touches_repairOne w s _) (mem_missing.mp gone).1
      (repairOne_takesOver w s _) (hno trivial)
  | dropEach listed => exact h.drop _
  | refreshEach listed =>
    exact valid_of_touches h (touches_refreshOne w _).1 listed (refreshOne_takesOver w _)
      (hno trivial)
  | setPanelActive key isActive others keepLast =>
    exact valid_quiet h (.setPanelActive w key isActive others keepLast)
  | togglePanel key => exact valid_quiet h (.togglePanel w key)
  | isPanelVisible key => exact valid_quiet h (.isPanelVisible w key)
  | activate k exclusive keepLast => exact valid_quiet h (.activate w k exclusive keepLast)
  | deactivate k => exact valid_quiet h (.deactivate w k)

/-- Where all is valid, nothing has been spoilt. -/
lemma not_spoils_of_valid (h : v.registry.Valid) : ¬ w.Spoils v := by
  rintro ⟨i, -, hi, k, htakes, hpath | hname⟩
  · have hvalid := (h.references i hi).path
    rw [htakes.path, hpath] at hvalid
    cases hvalid
  · exact (h.references i hi).name hname

/-! ### Runs -/

/-- A run that starts valid stays valid if no repair or refresh on the way spoils a reference. -/
lemma valid_passed {f : Forest} {o : Origin} {namer : Option Standardizer} {as : List Action}
    (ho : o.Valid) (hno : ((start f o namer).passed as).IsChain fun w v =>
      (∃ a ∈ as, a.Follows) → ¬ w.Spoils v) :
    ∀ w ∈ (start f o namer).passed as, w.registry.Valid := by
  have hs := sound_start f o namer
  have hboth : ((start f o namer).passed as).IsChain fun w v =>
      StageOf as w v ∧ ((∃ a ∈ as, a.Follows) → ¬ w.Spoils v) :=
    List.isChain_iff_getElem.mpr fun n hn => ⟨(isChain_stageOf hs as).getElem n hn, hno.getElem n hn⟩
  -- along with `Sound`, by which a new reference is none of those that are listed
  have hkept := forall_of_isChain (P := fun w => Sound w.forest w.registry ∧ w.registry.Valid)
    (fun {u v} hu hstep => ?_) ⟨hs, (valid_origin_iff o f).mpr ho⟩ hboth
  · exact fun w hw => (hkept w hw).2
  · obtain ⟨⟨a, ha, hstage⟩, hspoils⟩ := hstep
    exact ⟨sound_move hu.1 (hstage.move hu.1),
      valid_stage hu.1 hu.2 (fun hfollows => hspoils ⟨a, ha, hfollows⟩) hstage⟩

/-- **A run passes only through registries that can be stored exactly if it starts with a valid document
or none, and no reference takes over a malformed path or an empty name.** -/
theorem storable_passed_iff (f : Forest) (o : Origin) (namer : Option Standardizer)
    (as : List Action) :
    (∀ w ∈ (start f o namer).passed as, w.registry.Storable) ↔
      o.Valid ∧ ((start f o namer).passed as).IsChain fun w v => ¬ w.Spoils v := by
  constructor
  · intro h
    have hvalid : ∀ w ∈ (start f o namer).passed as, w.registry.Valid :=
      fun w hw => storable_iff.mp (h w hw)
    refine ⟨(valid_origin_iff o f).mp (hvalid _ List.mem_cons_self), ?_⟩
    exact List.isChain_iff_getElem.mpr fun n hn => not_spoils_of_valid (hvalid _ (List.getElem_mem _))
  · rintro ⟨ho, hno⟩ w hw
    exact storable_iff.mpr (valid_passed ho (hno.imp fun u v h _ => h) w hw)

/-- Without repairs and refreshes nothing is spoilt. -/
theorem storable_passed_of_not_follows (f : Forest) {o : Origin} (ho : o.Valid)
    (namer : Option Standardizer) {as : List Action} (has : ∀ a ∈ as, ¬ a.Follows) :
    ∀ w ∈ (start f o namer).passed as, w.registry.Storable := by
  have hnone : ¬ ∃ a ∈ as, a.Follows := fun ⟨a, ha, hfollows⟩ => has a ha hfollows
  refine fun w hw => storable_iff.mpr (valid_passed ho ?_ w hw)
  exact (isChain_stageOf (sound_start f o namer) as).imp fun u v _ h => absurd h hnone

/-- A button is registered and loses its name, and its reference follows it. -/
def unnaming : List Action :=
  [.edit (.create "Play" [Component.new .button] true), .edit (.addRoot 0 1),
    .add (some 1) .standard none, .edit (.rename 1 ""), .refreshPaths]

/-- The reference is listed under an empty path and without a name, and there is no document. -/
theorem not_storable_of_unnaming :
    let w := (start (Forest.empty.edit (.addScene "Main")) (.scene 0) none).run unnaming
    w.registry.references = [⟨"", "", .button, .bound 1⟩] ∧ ∀ d, w.registry.toDocument ≠ .ok d := by
  intro w
  have hrefs : w.registry.references = [⟨"", "", .button, .bound 1⟩] := by decide +kernel
  refine ⟨hrefs, fun d hd => ?_⟩
  have hvalid := stored_valid_iff.mp (toDocument_eq_ok.mp hd).1
  refine ((storable_iff.mpr hvalid).references ⟨"", "", .button, .bound 1⟩ ?_).name rfl
  rw [hrefs]
  exact List.mem_singleton_self _

end Workspace

end SceneBindings
