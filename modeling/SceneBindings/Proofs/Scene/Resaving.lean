import SceneBindings.Proofs.Scene.Reloading
import SceneBindings.Validation.Lax

/-!
What was saved is saved as it is. A description that was written by saving a scene loads without a
finding, since each part stands at the path that was written for it, and the loaded scene is written
as the same description: the values that saving leaves out or spells out differently are settled
after one pass.
-/

namespace SceneBindings

open NodeSpec

/-! ### Values -/

namespace Component

variable {c d : Component} {e : Value} {name : String}

/-- Where only given values are saved, a new component has none; where lists are, it has one. -/
lemma savings_new (kind : ComponentKind) : ∀ a ∈ kind.saved,
    (a.2 = .ifGiven → ((new kind).valueOf a.1).isTruthy = false) ∧
      (a.2 = .asList → (elements? ((new kind).valueOf a.1)).isSome = true) := by
  cases kind <;> decide +kernel

/-- A value that comes back from its saved form is saved in that form. -/
lemma written_getD_written {saving : ComponentKind.Saving} {v default : Value}
    (hgiven : saving = .ifGiven → default.isTruthy = false)
    (hlist : saving = .asList → (elements? v).isSome = true) :
    saving.written ((saving.written v).getD default) = saving.written v := by
  cases saving with
  | always => rfl
  | ifGiven =>
    have hnone : ComponentKind.Saving.ifGiven.written default = none := by
      rw [ComponentKind.Saving.written, hgiven rfl]
      rfl
    cases hv : v.isTruthy with
    | false =>
      have hwritten : ComponentKind.Saving.ifGiven.written v = none := by
        rw [ComponentKind.Saving.written, hv]
        rfl
      rw [hwritten, Option.getD_none, hnone]
    | true =>
      have hwritten : ComponentKind.Saving.ifGiven.written v = some v := by
        rw [ComponentKind.Saving.written, hv]
        rfl
      rw [hwritten, Option.getD_some, hwritten]
  | asList =>
    obtain ⟨xs, hxs⟩ := Option.isSome_iff_exists.mp (hlist rfl)
    have hwritten : ComponentKind.Saving.asList.written v = some (.list xs) := by
      rw [ComponentKind.Saving.written, hxs]
      rfl
    rw [hwritten]
    rfl

lemma mem_saved_of_lookup {saving : ComponentKind.Saving}
    (h : Table.lookup name c.kind.saved = some saving) : (name, saving) ∈ c.kind.saved := by
  have hname : name ∈ c.kind.savedNames := by
    by_contra hnot
    rw [ComponentKind.lookup_not_saved hnot] at h
    cases h
  obtain ⟨a, ha, rfl⟩ := List.mem_map.mp hname
  rw [c.kind.lookup_saved a ha] at h
  cases h
  exact ha

/-- What was saved of a component is saved of the component that was loaded from it. -/
lemma Kept.written?_eq (h : Kept c d) (hlistable : c.Listable) (name : String) :
    d.written? name = c.written? name := by
  have hwritten : c.written? name =
      (Table.lookup name c.kind.saved).bind fun saving => saving.written (c.valueOf name) := rfl
  rw [written?, h.kind, hwritten]
  cases hsaving : Table.lookup name c.kind.saved with
  | none => rfl
  | some saving =>
    have hmem := mem_saved_of_lookup hsaving
    have hdeclared := c.kind.savedNames_subset name (List.mem_map_of_mem hmem)
    rw [hsaving, Option.bind_some] at hwritten
    rw [Option.bind_some, Option.bind_some, h.values name hdeclared, kept, hwritten]
    exact written_getD_written (savings_new c.kind _ hmem).1 (hlistable _ hmem)

lemma Kept.listable (h : Kept c d) (hlistable : c.Listable) : d.Listable := by
  rintro ⟨name, saving⟩ ha rfl
  rw [h.kind] at ha
  have hdeclared := c.kind.savedNames_subset name (List.mem_map_of_mem ha)
  obtain ⟨xs, hxs⟩ := Option.isSome_iff_exists.mp (hlistable _ ha rfl)
  have hwritten : c.written? name = some (.list xs) := by
    rw [written?, c.kind.lookup_saved _ ha, Option.bind_some, ComponentKind.Saving.written, hxs]
    rfl
  rw [h.values name hdeclared, kept, hwritten]
  rfl

lemma Kept.attributeFields_eq (h : Kept c d) (hlistable : c.Listable) :
    d.attributeFields d.kind.saved = c.attributeFields c.kind.saved := by
  rw [attributeFields_saved, attributeFields_saved, h.kind]
  exact List.filterMap_congr fun name _ => by rw [h.written?_eq hlistable]

/-! ### Lists of options -/

/-- An entry that gives lists for the values that are saved as lists: the options of a dropdown. -/
def ListEntry (e : Value) : Prop :=
  ∀ fields c, e = .object fields → ofDescription e = .ok c → ∀ x ∈ fields,
    (x.1, .asList) ∈ c.kind.saved → ∃ xs, x.2 = .list xs

lemma listable_of_listEntry (he : ListEntry e) (hplain : PlainEntry e)
    (h : ofDescription e = .ok c) : c.Listable := by
  obtain ⟨fields, hfields, hentry⟩ := ofDescription_eq_ok h
  have hlists : ∀ x ∈ fields, (x.1, .asList) ∈ c.kind.saved → ∃ xs, x.2 = .list xs := by
    rcases hentry with ⟨-, rfl⟩ | ⟨rfl, -⟩
    · exact List.forall_mem_nil _
    · exact he fields c rfl h
  have hknown : ∀ x ∈ fields, PlainName x.1 := by
    rcases hentry with ⟨-, rfl⟩ | ⟨rfl, -⟩
    · exact List.forall_mem_nil _
    · exact fun x hx => (known_of_plain (hplain fields c rfl h x hx)).plainName
  rintro ⟨name, saving⟩ ha rfl
  obtain ⟨hne, hpart⟩ :=
    c.kind.attribute_ne name (c.kind.savedNames_subset name (List.mem_map_of_mem ha))
  have htype : name ≠ "type" := (ne_of_mem_of_not_mem List.mem_cons_self hne).symm
  rw [valueOf, get?_takeFields hfields hknown htype hpart]
  cases hfield : Value.field? name fields with
  | none => exact (savings_new c.kind _ ha).2 rfl
  | some v =>
    obtain ⟨x, hx, rfl⟩ := Option.map_eq_some_iff.mp hfield
    obtain rfl : x.1 = name := by simpa using List.find?_some hx
    obtain ⟨xs, hxs⟩ := hlists x (List.mem_reverse.mp (List.mem_of_find?_eq_some hx)) ha
    rw [Option.some_or, Option.getD_some, hxs]
    rfl

end Component

/-- A scene in whose description all options are given as lists. -/
def ListScene [Validator] (v : Value) : Prop :=
  ∀ fields spec, Forest.documentFields v = .ok fields → SceneSpec.read fields = .ok spec →
    ∀ entries ∈ entriesAll spec.roots, ∀ e ∈ entries, Component.ListEntry e

namespace Forest

variable {f g : Forest} {k : Key} {c d : Component} {e : Value} {ts : List NodeSpec}

lemma Holds.listable (h : f.Holds ts)
    (hplain : ∀ entries ∈ entriesAll ts, ∀ e ∈ entries, Component.PlainEntry e)
    (hlist : ∀ entries ∈ entriesAll ts, ∀ e ∈ entries, Component.ListEntry e)
    (hc : c ∈ (f.node k).components) : c.Listable := by
  obtain ⟨entries, hentries, e, he, rfl⟩ := h.exists_entry hc
  obtain ⟨hmem, hmake⟩ := mem_described he
  have hlistable := Component.listable_of_listEntry (hlist entries hentries e.2 hmem)
    (hplain entries hentries e.2 hmem) (Component.ofEntry_eq_ok.mp hmake).1
  -- looking the parts up leaves the values as they are
  have hattributes : (f.equipped k e).attributes = e.1.attributes := attributes_equip f k e.1 _
  rw [Component.Listable, kind_equipped]
  intro a ha
  rw [Component.valueOf, hattributes]
  exact hlistable a ha

/-! ### Findings -/

section Findings

variable {events events' : List Event}

/-- Where every part of a component is found, nothing is reported. -/
lemma events_resolveParts {owner : Key} {ps : List (String × Value)} (hc : c.part? "node" = none)
    (hfound : ∀ p ∈ ps, p.1 ≠ "node" ∧ (f.lead? owner p.2).isSome = true)
    (h : f.resolveParts owner c events ps = (d, events', .ok ())) : events' = events := by
  induction ps generalizing c events with
  | nil =>
    cases h
    rfl
  | cons p ps ih =>
    rw [List.forall_mem_cons] at hfound
    obtain ⟨⟨hnode, hlead⟩, hrest⟩ := hfound
    obtain ⟨r, hr⟩ := Option.isSome_iff_exists.mp hlead
    obtain ⟨path, hpath, hfind⟩ := Option.bind_eq_some_iff.mp hr
    have htext : p.2 = .text path := by
      cases hv : p.2 with
      | text s =>
        rw [hv] at hpath
        cases hpath
        rfl
      | _ =>
        rw [hv] at hpath
        cases hpath
    have hbase : c.base owner = owner := by
      rw [Component.base, hc]
      rfl
    have hone : f.resolvePart owner c p = .ok (c.setPart p.1 r, []) := by
      rw [resolvePart, htext, hbase]
      dsimp only
      rw [hfind]
    have hnone : (c.setPart p.1 r).part? "node" = none := by
      rw [Component.part?, Component.setPart, Table.get?_put, if_neg hnode]
      exact hc
    rw [resolveParts, hone] at h
    rw [ih hnone hrest h, List.append_nil]

lemma events_resolve {ps : List Pending}
    (hfound : ∀ p ∈ ps, p.component.part? "node" = none ∧
      ∀ q ∈ p.parts, q.1 ≠ "node" ∧ (f.lead? p.owner q.2).isSome = true)
    (h : f.resolve events ps = (g, events', .ok ())) : events' = events := by
  induction ps generalizing f events with
  | nil =>
    cases h
    rfl
  | cons p ps ih =>
    obtain ⟨⟨hnode, hparts⟩, hrest⟩ := List.forall_mem_cons.mp hfound
    rw [resolve] at h
    rcases hone : f.resolveParts p.owner p.component events p.parts with ⟨d, es, r⟩
    rw [hone] at h
    dsimp only at h
    cases r with
    | error e => cases h
    | ok u =>
      have hquiet := events_resolveParts hnode hparts hone
      -- nodes are found where they were, whatever component was put into its place
      have hfind : (if p.superseded then f
          else f.modifyComponent p.owner p.component.label fun _ => d).find? = f.find? := by
        split
        · rfl
        · exact find?_modifyComponent f _ _ _
      rw [← hquiet]
      exact ih (by simpa only [lead?, hfind] using hrest) h

end Findings

/-- A part that a written entry names is found if all written paths lead somewhere. -/
lemma found_of_recorded {css : List (List Value)} (hf : f.Ordinary)
    (hrecorded : ∀ i, f.Recorded (1 + i) (css.getD i []))
    (hleads : ∀ k, ∀ c ∈ (f.node k).components, ∀ part path,
      f.partPath? k c part = some path → (f.find? k path).isSome = true)
    {p : Pending} (hp : p ∈ pendingFrom 1 (css.map described)) :
    p.component.part? "node" = none ∧
      ∀ q ∈ p.parts, q.1 ≠ "node" ∧ (f.lead? p.owner q.2).isSome = true := by
  obtain ⟨i, hi⟩ := mem_pendingFrom.mp hp
  obtain ⟨howner, e, he, hcomponent, hparts⟩ := mem_pendingOf hi
  rw [getD_described] at he
  obtain ⟨es, hes, hrecalls⟩ := described_of_writeEntries (hf.genuine (1 + i)) (hrecorded i)
  have he : e ∈ es := by rwa [described, hes] at he
  obtain ⟨n, hn, rfl⟩ := List.mem_iff_getElem.mp he
  have hn' : n < (f.node (1 + i)).components.length := hrecalls.length_eq.symm ▸ hn
  have hrecall : f.Recalls (1 + i) ((f.node (1 + i)).components[n]) es[n].1 es[n].2 :=
    hrecalls.get hn' hn
  refine ⟨by rw [hcomponent, Component.part?, hrecall.empty]; rfl, fun q hq => ?_⟩
  rw [hparts, hrecall.parts] at hq
  obtain ⟨part, hpart, hq⟩ := List.mem_filterMap.mp hq
  obtain ⟨path, hpath, rfl⟩ := Option.map_eq_some_iff.mp hq
  refine ⟨ne_of_mem_of_not_mem hpart fun h => ComponentKind.part_ne _ _ h List.mem_cons_self, ?_⟩
  rw [howner]
  exact hleads (1 + i) _ (List.getElem_mem hn') part path (Option.filter_eq_some_iff.mp hpath).1

/-- In a loaded forest every written path leads to the part. -/
lemma Holds.find?_isSome (h : f.Holds ts)
    (hgenuine : ∀ entries ∈ entriesAll ts, ∀ e ∈ described entries, e.1.Genuine)
    (hf : f.WellFormed) (hc : c ∈ (f.node k).components) {part path : String}
    (hpath : f.partPath? k c part = some path) : (f.find? k path).isSome = true := by
  obtain ⟨d, hd, -⟩ := Option.bind_eq_some_iff.mp hpath
  obtain ⟨-, path', hpath', -, hfind⟩ := h.partPath? hgenuine hf hc hd
  obtain rfl : path = path' := Option.some.inj (hpath.symm.trans hpath')
  exact Option.isSome_of_eq_some hfind

/-! ### Writing again -/

/-- A component that came back is written as it was before. -/
lemma writeEntry_of_kept (hc : c.Genuine) (h : f.writeEntry k c = .ok e)
    (hkept : Component.Kept c d) (hd : d.Genuine)
    (henabled : d.isDisabled "to_dict" = false ∧ d.isDisabled "state" = false)
    (hpath : g.relativePath = f.relativePath) : g.writeEntry k d = .ok e := by
  obtain ⟨fields, hfields⟩ : ∃ fields, f.writeComponent k c = .ok fields := by
    cases hfields : f.writeComponent k c with
    | ok fields => exact ⟨fields, rfl⟩
    | error e =>
      rw [writeEntry, hfields] at h
      cases h
  obtain ⟨hwritable, rfl⟩ := (writeComponent_eq_ok hc).mp hfields
  have hpartFields : g.partFields k d d.kind.parts = f.partFields k c c.kind.parts := by
    rw [partFields, partFields, hkept.kind]
    refine List.filterMap_congr fun part _ => ?_
    rw [partPath?, partPath?, hkept.parts, hpath]
  have hsame : g.fieldsOf k d = f.fieldsOf k c := by
    rw [fieldsOf, fieldsOf, hpartFields, hkept.attributeFields_eq hwritable.listable, hkept.kind]
  have hagain : g.writeComponent k d = .ok (f.fieldsOf k c) := by
    refine (writeComponent_eq_ok hd).mpr
      ⟨⟨?_, hkept.listable hwritable.listable, henabled⟩, hsame.symm⟩
    intro part hpart r hr
    rw [hkept.kind] at hpart
    rw [hkept.parts] at hr
    rw [hpath]
    exact hwritable.reachable part hpart r hr
  rw [writeEntry, hagain, ← hfields]
  exact h

lemma Reshaped.relativePath_eq (h : Reshaped f g) (hname : ∀ k, (g.node k).name = (f.node k).name) :
    g.relativePath = f.relativePath := by
  funext k d
  simp only [relativePath, h.chain_eq, hname]

lemma writeEntry_congr (h : g.relativePath = f.relativePath) : g.writeEntry = f.writeEntry := by
  have hparts : ∀ k c parts, g.writeParts k c parts = f.writeParts k c parts := by
    intro k c parts
    induction parts with
    | nil => rfl
    | cons part parts ih =>
      cases part with
      | text part => rw [writeParts_cons, writeParts_cons, ih, h]
      | _ => rfl
  funext k c
  rw [writeEntry, writeEntry, writeComponent, writeComponent]
  simp only [hparts]

/-- Trees of one shape with the same names are written alike if their components are. -/
lemma writeScene_congr (h : Alike f g) (hentries : ∀ k, (g.node k).components.mapM (g.writeEntry k) =
      (f.node k).components.mapM (f.writeEntry k)) (s : SceneId) :
    g.writeScene s = f.writeScene s := by
  have hnode : ∀ (n : Nat) (k : Key), g.writeNodeTo n k = f.writeNodeTo n k := by
    intro n
    induction n with
    | zero => exact fun _ => rfl
    | succ n ih =>
      intro k
      have hactive : (g.node k).active = (f.node k).active := (congrArg Node.active (h.shape k) :)
      have hchildren : (g.node k).children = (f.node k).children :=
        (congrArg Node.children (h.shape k) :)
      rw [writeNodeTo, writeNodeTo, hentries, hchildren, hactive, h.name, funext ih]
  have hscene : g.scene s = f.scene s := by rw [scene, scene, scene?, scene?, h.scenes]
  rw [writeScene, writeScene, roots_of_scenes h.scenes, h.length, funext (hnode _), hscene]

/-- Whatever was written of a loaded scene is loaded without a finding, and written again. -/
lemma rewritten_of_writeScene [Validator] {spec : SceneSpec} {fields : List (String × Value)} {v : Value}
    (hcarries : f.Carries spec) (hspec : SceneSpec.read fields = .ok spec)
    (hholds : f.Holds spec.roots)
    (hgenuine : ∀ entries ∈ entriesAll spec.roots, ∀ e ∈ described entries, e.1.Genuine)
    (hv : f.writeScene 0 = .ok v) :
    ∃ g, Forest.empty.loadScene v = ⟨g, [], .ok 0⟩ ∧ g.writeScene 0 = .ok v := by
  have hf := hcarries.planted
  have hordinary := hholds.ordinary hgenuine
  obtain ⟨hscene, hnames⟩ := hcarries.names_readable hspec
  obtain ⟨fields', spec', hfields', hspec', -, -, -, -, -, hentries⟩ :=
    readScene_of_writeScene hf hordinary hscene hnames hv
  obtain ⟨g, events', hload', halike⟩ := alike_of_writeScene hf hordinary hscene hnames hv
  have hrecorded := recorded_getD hentries
  have hholds' := holds_loadScene hload' hfields' hspec'
  refine ⟨g, ?_, ?_⟩
  · obtain ⟨-, fields'', spec'', hfields'', hspec'', b, -, hresolve⟩ := raises_loadScene hload'
    obtain rfl : fields' = fields'' := Except.ok.inj (hfields'.symm.trans hfields'')
    obtain rfl : spec' = spec'' := Checked.ok.inj (hspec'.symm.trans hspec'')
    have hfind : b.find? = f.find? := (components_resolve hresolve).1.symm.trans halike.find?_eq
    have hquiet : events' = [] := by
      refine events_resolve (fun p hp => ?_) hresolve
      simp only [lead?, hfind]
      exact found_of_recorded hordinary hrecorded
        (fun k c hc part path hpath => hholds.find?_isSome hgenuine hf.wellFormed hc hpath) hp
    rw [hload', hquiet]
  · rw [writeScene_congr halike fun k => ?_, hv]
    rcases Nat.eq_zero_or_pos k with rfl | hk
    · rfl
    · obtain ⟨i, rfl⟩ := Nat.exists_eq_add_of_le hk
      have hknown : ∀ c ∈ (f.node (1 + i)).components, f.Known (1 + i) c := fun c hc =>
        hholds.known hgenuine hf.wellFormed hc
      have hreread := reread_of_recorded hordinary hknown hholds' halike.find?_eq (hrecorded i)
      have hagain : List.Forall₂ (fun d e => g.writeEntry (1 + i) d = .ok e)
          (g.node (1 + i)).components ((entriesAll spec'.roots).getD i []) := by
        refine List.forall₂_iff_get.mpr
          ⟨hreread.length_eq.symm.trans (hrecorded i).length_eq, fun n hn hn' => ?_⟩
        have hold : n < (f.node (1 + i)).components.length := hreread.length_eq ▸ hn
        have hd := hreread.get hold hn
        have hc := List.get_mem (f.node (1 + i)).components ⟨n, hold⟩
        exact writeEntry_of_kept (hordinary.genuine _ _ hc) ((hrecorded i).get hold hn')
          (hd.kept hholds hgenuine hf.wellFormed hc) hd.genuine hd.enabled
          (halike.relativePath_eq halike.name)
      rw [mapM_eq_ok.mpr hagain, mapM_eq_ok.mpr (hrecorded i)]

end Forest

/-- **Saving settles a scene.** A scene whose options are lists can be saved; its saved form is loaded
without a finding, and what was loaded has the same saved form. -/
theorem resave [Validator] {v : Value} {f : Forest} {events : List Event} {s : SceneId}
    (hload : Forest.empty.loadScene v = ⟨f, events, .ok s⟩) (hplain : PlainScene v)
    (hlist : ListScene v) :
    ∃ w g, f.writeScene s = .ok w ∧ Forest.empty.loadScene w = ⟨g, [], .ok s⟩ ∧
      g.writeScene s = .ok w := by
  obtain ⟨rfl, fields, spec, hfields, hspec, hcarries⟩ := Forest.carries_loadScene hload
  have hholds := Forest.holds_loadScene hload hfields hspec
  have hentries := hplain fields spec hfields hspec
  have hgenuine := Forest.genuine_of_plainScene hentries
  obtain ⟨w, hw⟩ : ∃ w, f.writeScene 0 = .ok w := by
    refine Forest.exists_writeScene (hholds.ordinary hgenuine) (fun k c hc => ?_) 0
    exact hholds.writable hentries hcarries.planted.wellFormed hc
      (hholds.listable hentries (hlist fields spec hfields hspec) hc)
  obtain ⟨g, hg, hagain⟩ := Forest.rewritten_of_writeScene hcarries hspec hholds hgenuine hw
  exact ⟨w, g, hw, hg, hagain⟩

/-- A choice that stands where two areas have one name; its toggle is described twice, the second time
with a mark that is in the second area only, and so not found. -/
def choiceEntries : List Value :=
  [.object [("type", .text "Toggle"), ("graphic", .text "Area/Mark"), ("is_on", .bool true)],
    .object [("type", .text "Dropdown"), ("options", .list [.text "Low", .int 2]),
      ("value", .int 1)],
    .object [("type", .text "Toggle"), ("graphic", .text "Area/Cross")]]

def choiceScene : Value :=
  .object [("scene", .text "S"), ("roots", .list [.object [("name", .text "Choice"),
    ("active", .text "off"), ("components", .list choiceEntries),
    ("children", .list [
      .object [("name", .text "Area"), ("children", .list [.object [("name", .text "Mark")]])],
      .object [("name", .text "Area"), ("children", .list [.object [("name", .text "Cross")]])]])]])]

lemma entriesAll_choiceScene {fields : List (String × Value)} {spec : SceneSpec}
    (hfields : Forest.documentFields choiceScene = .ok fields)
    (hspec : SceneSpec.read fields = .ok spec) :
    entriesAll spec.roots = [choiceEntries, [], [], [], []] := by
  cases hfields
  cases hspec
  rfl

lemma plain_choiceScene : PlainScene choiceScene := by
  intro fields spec hfields hspec
  rw [entriesAll_choiceScene hfields hspec]
  simp only [choiceEntries, List.forall_mem_cons, List.not_mem_nil, false_imp_iff, implies_true,
    and_true]
  refine ⟨?_, ?_, ?_⟩
  · rintro fields c ⟨⟩ ⟨⟩
    simp only [List.forall_mem_cons, List.not_mem_nil, false_imp_iff, implies_true, and_true]
    exact ⟨.inl trivial, .inr (.inl ⟨by decide +kernel, _, rfl⟩), .inr (.inr (by decide +kernel))⟩
  · rintro fields c ⟨⟩ ⟨⟩
    simp only [List.forall_mem_cons, List.not_mem_nil, false_imp_iff, implies_true, and_true]
    exact ⟨.inl trivial, .inr (.inr (by decide +kernel)), .inr (.inr (by decide +kernel))⟩
  · rintro fields c ⟨⟩ ⟨⟩
    simp only [List.forall_mem_cons, List.not_mem_nil, false_imp_iff, implies_true, and_true]
    exact ⟨.inl trivial, .inr (.inl ⟨by decide +kernel, _, rfl⟩)⟩

lemma list_choiceScene : ListScene choiceScene := by
  intro fields spec hfields hspec
  rw [entriesAll_choiceScene hfields hspec]
  have htoggle : ∀ name, (name, ComponentKind.Saving.asList) ∉ ComponentKind.toggle.saved := by
    intro name hname
    cases List.mem_singleton.mp hname
  simp only [choiceEntries, List.forall_mem_cons, List.not_mem_nil, false_imp_iff, implies_true,
    and_true]
  refine ⟨?_, ?_, ?_⟩
  · rintro fields c ⟨⟩ ⟨⟩ x - hx
    exact absurd hx (htoggle x.1)
  · rintro fields c ⟨⟩ ⟨⟩
    simp only [List.forall_mem_cons, List.not_mem_nil, false_imp_iff, implies_true, and_true]
    exact ⟨fun h => absurd h (by decide +kernel), fun _ => ⟨_, rfl⟩,
      fun h => absurd h (by decide +kernel)⟩
  · rintro fields c ⟨⟩ ⟨⟩ x - hx
    exact absurd hx (htoggle x.1)

/-- The second mark of the toggle is reported by the first loading only. -/
theorem resave_of_choice : ∃ f events w g, events ≠ [] ∧
    Forest.empty.loadScene choiceScene = ⟨f, events, .ok 0⟩ ∧ PlainScene choiceScene ∧
      ListScene choiceScene ∧ f.writeScene 0 = .ok w ∧
        Forest.empty.loadScene w = ⟨g, [], .ok 0⟩ ∧ g.writeScene 0 = .ok w := by
  obtain ⟨f, events, hload, hfound⟩ : ∃ f events,
      Forest.empty.loadScene choiceScene = ⟨f, events, .ok 0⟩ ∧ events ≠ [] :=
    ⟨_, _, rfl, List.cons_ne_nil _ _⟩
  obtain ⟨w, g, hw, hg, hagain⟩ := resave hload plain_choiceScene list_choiceScene
  exact ⟨f, events, w, g, hfound, hload, plain_choiceScene, list_choiceScene, hw, hg, hagain⟩

end SceneBindings
