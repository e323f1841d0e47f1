import SceneBindings.Proofs.Forest.Paths
import SceneBindings.Proofs.Scene.Rewriting
import SceneBindings.Validation.Lax

/-!
A scene that is loaded, written down and loaded again. As long as its components are what their kinds
say, the tree comes back as it was, with all parts at their places; of the values only those come back
that their components save.
-/

namespace SceneBindings

open NodeSpec

/-! ### Components made again -/

namespace Component

/-- What a component is like after its scene was written down and loaded again. -/
structure Kept (c d : Component) : Prop where
  kind : d.kind = c.kind
  parts : ∀ part, d.part? part = c.part? part
  values : ∀ name ∈ c.kind.attributes.map (·.1), d.valueOf name = c.kept name

end Component

namespace Forest

variable {f g : Forest} {k d : Key} {c : Component} {entries : List Value} {ts : List NodeSpec}

/-- In a loaded forest a part is the node at the path that is written for it. -/
lemma Holds.partPath? (h : f.Holds ts)
    (hgenuine : ∀ entries ∈ entriesAll ts, ∀ e ∈ described entries, e.1.Genuine)
    (hf : f.WellFormed) (hc : c ∈ (f.node k).components) {part : String}
    (hd : c.part? part = some d) : part ∈ c.kind.parts ∧
      ∃ path, f.partPath? k c part = some path ∧ path ≠ "" ∧ f.find? k path = some d := by
  obtain ⟨hpart, path, hne, hfind⟩ := h.found hgenuine hc hd
  refine ⟨hpart, path, ?_, hne, hfind⟩
  rw [Forest.partPath?, hd, Option.bind_some,
    relativePath_of_find? hf (isNode_of_mem_components hc) hfind]
  rfl

/-- What is made of a component when what it was written as is read: its parts are the nodes that the
written paths lead to. -/
structure Reread (f : Forest) (k : Key) (c d : Component) : Prop where
  kind : d.kind = c.kind
  genuine : d.Genuine
  enabled : d.isDisabled "to_dict" = false ∧ d.isDisabled "state" = false
  parts : ∀ part, d.part? part = (f.partPath? k c part).bind (f.find? k)
  values : ∀ name ∈ c.kind.attributes.map (·.1), d.valueOf name = c.kept name

/-- The parts of a component are among those that its kind knows, and no path to one is empty. -/
def Known (f : Forest) (k : Key) (c : Component) : Prop :=
  ∀ part d, c.part? part = some d → part ∈ c.kind.parts ∧ f.partPath? k c part ≠ some ""

/-- What is made from an entry gets the parts that its paths lead to. -/
lemma reread_of_recalls (hfind : g.find? = f.find?) {e : Component × Value} (hknown : f.Known k c)
    (h : f.Recalls k c e.1 e.2) : f.Reread k c (g.equipped k e) := by
  have hgenuine : (g.equipped k e).Genuine := genuine_equipped h.genuine h.empty
  have hkind : (g.equipped k e).kind = c.kind := (kind_equipped g k e).trans h.kind
  have hattributes : (g.equipped k e).attributes = e.1.attributes := attributes_equip g k e.1 _
  have henabled : ∀ n ∈ ["pending_refs", "to_dict", "state"],
      (g.equipped k e).isDisabled n = false := by
    intro n hn
    have hpart := (c.kind.operation_not_mem n hn).2.1
    rw [hgenuine.isDisabled_eq (hkind ▸ hpart), hattributes,
      ← h.genuine.isDisabled_eq (h.kind ▸ hpart)]
    exact h.enabled n hn
  refine ⟨hkind, hgenuine, ⟨henabled _ (by decide), henabled _ (by decide)⟩, fun part => ?_,
    fun name hname => ?_⟩
  · have hparts : e.1.pendingParts e.2 = e.1.kind.parts.filterMap fun p =>
        (((f.partPath? k c p).filter (· ≠ "")).map Value.text).map fun w => (p, w) := by
      rw [h.parts, pathsOf, h.kind]
      exact List.filterMap_congr fun p _ => by rw [Option.map_map]; rfl
    rw [equipped, hparts, part?_equip_of_kind h.empty, h.kind]
    cases hpath : f.partPath? k c part with
    | none => split <;> rfl
    | some path =>
      obtain ⟨d, hd, -⟩ := Option.bind_eq_some_iff.mp hpath
      obtain ⟨hpart, hne⟩ := hknown part d hd
      have hne : path ≠ "" := fun hempty => hne (hempty ▸ hpath)
      rw [if_pos hpart]
      simp [Option.filter, hne, lead?, Value.text?, hfind]
  · rw [Component.valueOf, hattributes]
    exact h.values name hname

/-- The components of a node are made again from what they were written as. -/
lemma described_of_writeEntries {cs : List Component} (hcs : ∀ c ∈ cs, c.Genuine)
    (h : List.Forall₂ (fun c e => f.writeEntry k c = .ok e) cs entries) :
    ∃ es, describedComponents entries = .ok es ∧
      List.Forall₂ (fun c e => f.Recalls k c e.1 e.2) cs es := by
  induction h with
  | nil => exact ⟨[], rfl, .nil⟩
  | @cons c v cs entries hv _ ih =>
    rw [List.forall_mem_cons] at hcs
    obtain ⟨es, hes, hforall⟩ := ih hcs.2
    obtain ⟨d, hd, -⟩ := (describes_writeEntry hcs.1 hv).component
    have hmade := (Component.ofEntry_eq_ok.mp hd).1
    refine ⟨(d, v) :: es, ?_, .cons (recalls_writeEntry hcs.1 hv hmade) hforall⟩
    rw [describedComponents, hd, hes]

/-- What a second forest holds that was made from what the first was written as. -/
lemma reread_of_recorded (hf : f.Ordinary) {i : Nat}
    (hknown : ∀ c ∈ (f.node (1 + i)).components, f.Known (1 + i) c) {ts' : List NodeSpec}
    (hg : g.Holds ts') (hfind : g.find? = f.find?)
    (h : f.Recorded (1 + i) ((entriesAll ts').getD i [])) :
    List.Forall₂ (f.Reread (1 + i)) (f.node (1 + i)).components (g.node (1 + i)).components := by
  obtain ⟨es, hes, hrecalls⟩ := described_of_writeEntries (hf.genuine (1 + i)) h
  have hdescribed : described ((entriesAll ts').getD i []) = es := by rw [described, hes]
  have hsame : es.map (·.1.kind) = (f.node (1 + i)).components.map (·.kind) := by
    refine List.forall₂_eq_eq_eq ▸ ?_
    rw [List.forall₂_map_left_iff, List.forall₂_map_right_iff]
    exact hrecalls.flip.imp fun e c hc => hc.kind
  have hgenuine : ∀ e ∈ es, e.1.Genuine :=
    ((List.forall₂_and_left _ _).mp (hrecalls.flip.imp fun e c hc => ⟨hc.genuine, hc⟩)).1
  rw [hg i, hdescribed, installed_of_nodup hgenuine (hsame ▸ hf.nodup (1 + i)),
    List.forall₂_map_right_iff]
  have hboth := (List.forall₂_and_left _ _).mpr ⟨hknown, hrecalls⟩
  exact hboth.imp fun c e ⟨hc, he⟩ => reread_of_recalls hfind hc he

/-- In a loaded forest the written paths lead to the old parts. -/
lemma Reread.kept (hf : f.Holds ts)
    (hgenuine : ∀ entries ∈ entriesAll ts, ∀ e ∈ described entries, e.1.Genuine)
    (hwell : f.WellFormed) (hc : c ∈ (f.node k).components) {d : Component} (h : f.Reread k c d) :
    Component.Kept c d := by
  refine ⟨h.kind, fun part => ?_, h.values⟩
  rw [h.parts]
  cases hgiven : c.part? part with
  | none =>
    rw [Forest.partPath?, hgiven]
    rfl
  | some d' =>
    obtain ⟨-, path, hpath, -, hd'⟩ := hf.partPath? hgenuine hwell hc hgiven
    rw [hpath]
    exact hd'

lemma Holds.known (h : f.Holds ts)
    (hgenuine : ∀ entries ∈ entriesAll ts, ∀ e ∈ described entries, e.1.Genuine)
    (hf : f.WellFormed) (hc : c ∈ (f.node k).components) : f.Known k c := by
  intro part d hd
  obtain ⟨hpart, path, hpath, hne, -⟩ := h.partPath? hgenuine hf hc hd
  rw [hpath]
  exact ⟨hpart, fun hempty => hne (Option.some.inj hempty)⟩

/-! ### Writing -/

lemma exists_mapM {α β : Type} {u : α → Except Failure β} {xs : List α}
    (h : ∀ x ∈ xs, ∃ y, u x = .ok y) : ∃ ys, xs.mapM u = .ok ys := by
  simp only [mapM_eq_ok]
  induction xs with
  | nil => exact ⟨[], .nil⟩
  | cons x xs ih =>
    rw [List.forall_mem_cons] at h
    obtain ⟨y, hy⟩ := h.1
    obtain ⟨ys, hys⟩ := ih h.2
    exact ⟨y :: ys, .cons hy hys⟩

/-- Whatever was written down could be. -/
lemma Recorded.writable (h : f.Recorded k entries) (hf : f.Ordinary) :
    ∀ c ∈ (f.node k).components, f.Writable k c := by
  have hboth := (List.forall₂_and_left _ _).mpr ⟨hf.genuine k, h⟩
  have hwritable : List.Forall₂ (fun c e => f.Writable k c ∧ f.writeEntry k c = .ok e)
      (f.node k).components entries :=
    hboth.imp fun c e ⟨hc, he⟩ => ⟨(exists_writeEntry hc).mp ⟨e, he⟩, he⟩
  exact ((List.forall₂_and_left _ _).mp hwritable).1

/-- A node has the entries at its place, and a key that no node has stands for one without any. -/
lemma recorded_getD {all : List (List Value)}
    (h : List.Forall₂ f.Recorded (List.range' 1 f.nodes.length) all) (i : Nat) :
    f.Recorded (1 + i) (all.getD i []) := by
  have hlength : f.nodes.length = all.length := by
    rw [← h.length_eq, List.length_range']
  rcases Nat.lt_or_ge i all.length with hi | hi
  · have hget := h.get (i := i) (by rw [List.length_range']; omega) hi
    rw [List.get_eq_getElem, List.getElem_range', Nat.one_mul] at hget
    rwa [List.getD_eq_getElem _ _ hi]
  · rw [List.getD_eq_default _ _ hi, Recorded,
      node_of_not_isNode (by rw [isNode_iff]; omega)]
    exact .nil

/-- A tree can be written down if all components can. -/
lemma exists_writeNodeTo (hf : f.Ordinary) (h : ∀ k, ∀ c ∈ (f.node k).components, f.Writable k c)
    (n : Nat) (k : Key) : ∃ v, f.writeNodeTo n k = .ok v := by
  induction n generalizing k with
  | zero => exact ⟨_, rfl⟩
  | succ n ih =>
    obtain ⟨components, hcomponents⟩ :=
      exists_mapM fun c hc => (exists_writeEntry (hf.genuine k c hc)).mpr (h k c hc)
    obtain ⟨children, hchildren⟩ := exists_mapM fun c (_ : c ∈ (f.node k).children) => ih c
    rw [writeNodeTo, hcomponents, hchildren]
    exact ⟨_, rfl⟩

lemma exists_writeScene (hf : f.Ordinary) (h : ∀ k, ∀ c ∈ (f.node k).components, f.Writable k c)
    (s : SceneId) : ∃ v, f.writeScene s = .ok v := by
  obtain ⟨vs, hvs⟩ :=
    exists_mapM fun r (_ : r ∈ f.roots s) => exists_writeNodeTo hf h f.nodes.length r
  rw [writeScene, hvs]
  exact ⟨_, rfl⟩

/-- A scene can be written down just if all components can. -/
lemma exists_writeScene_iff (hf : f.Planted ts) (hordinary : f.Ordinary)
    (hscene : (f.scene 0).name ≠ "") (hnames : ∀ k, f.IsNode k → IsNodeName (f.node k).name) :
    (∃ w, f.writeScene 0 = .ok w) ↔ ∀ k, ∀ c ∈ (f.node k).components, f.Writable k c := by
  refine ⟨fun ⟨w, hw⟩ k c hc => ?_, fun h => exists_writeScene hordinary h 0⟩
  obtain ⟨-, spec, -, -, -, -, -, -, -, hentries⟩ :=
    readScene_of_writeScene hf hordinary hscene hnames hw
  obtain ⟨i, rfl⟩ := Nat.exists_eq_add_of_le (isNode_iff.mp (isNode_of_mem_components hc)).1
  exact (recorded_getD hentries i).writable hordinary c hc

end Forest

/-! ### Plain descriptions -/

namespace Component

/-- An entry that gives values to attributes and paths of parts, and nothing else. -/
def PlainEntry (e : Value) : Prop :=
  ∀ fields c, e = .object fields → ofDescription e = .ok c → ∀ x ∈ fields,
    x.1 = "type" ∨ (x.1 ∈ c.kind.parts ∧ ∃ path, x.2 = .text path) ∨
      x.1 ∈ c.kind.attributes.map (·.1)

lemma known_of_plain {kind : ComponentKind} {x : String × Value}
    (h : x.1 = "type" ∨ (x.1 ∈ kind.parts ∧ ∃ path, x.2 = .text path) ∨
      x.1 ∈ kind.attributes.map (·.1)) : Known kind x.1 :=
  h.imp_right (Or.imp_left And.left)

/-- A plain entry makes a component that is what its kind says and can be written down. -/
lemma genuine_of_plain {e : Value} {c : Component} (hplain : PlainEntry e)
    (h : ofDescription e = .ok c) : c.Genuine ∧
      ∀ n ∈ ["pending_refs", "to_dict", "state"], c.isDisabled n = false := by
  obtain ⟨fields, hfields, ⟨-, rfl⟩ | ⟨rfl, -⟩⟩ := ofDescription_eq_ok h
  · obtain ⟨hgenuine, -, henabled⟩ := genuine_of_known hfields (List.forall_mem_nil _)
    exact ⟨hgenuine, henabled⟩
  · obtain ⟨hgenuine, -, henabled⟩ := genuine_of_known hfields fun x hx =>
      known_of_plain (hplain fields c rfl h x hx)
    exact ⟨hgenuine, henabled⟩

end Component

/-- A scene whose components are described by values and paths of parts only. -/
def PlainScene [Validator] (v : Value) : Prop :=
  ∀ fields spec, Forest.documentFields v = .ok fields → SceneSpec.read fields = .ok spec →
    ∀ entries ∈ entriesAll spec.roots, ∀ e ∈ entries, Component.PlainEntry e

namespace Forest

variable {f : Forest} {k : Key} {c : Component} {ts : List NodeSpec}

lemma genuine_of_plainScene
    (hplain : ∀ entries ∈ entriesAll ts, ∀ e ∈ entries, Component.PlainEntry e) :
    ∀ entries ∈ entriesAll ts, ∀ e ∈ described entries, e.1.Genuine := by
  intro entries hentries e he
  obtain ⟨hmem, hmake⟩ := mem_described he
  exact (Component.genuine_of_plain (hplain entries hentries e.2 hmem)
    (Component.ofEntry_eq_ok.mp hmake).1).1

lemma Holds.enabled (h : f.Holds ts)
    (hplain : ∀ entries ∈ entriesAll ts, ∀ e ∈ entries, Component.PlainEntry e)
    (hc : c ∈ (f.node k).components) : ∀ n ∈ ["pending_refs", "to_dict", "state"],
      c.isDisabled n = false := by
  intro n hn
  obtain ⟨entries, hentries, e, he, rfl⟩ := h.exists_entry hc
  obtain ⟨hmem, hmake⟩ := mem_described he
  obtain ⟨hgenuine, henabled⟩ := Component.genuine_of_plain (hplain entries hentries e.2 hmem)
    (Component.ofEntry_eq_ok.mp hmake).1
  rw [isDisabled_equipped hgenuine (parts_of_mem_described he)
    (e.1.kind.operation_not_mem n hn).2.1]
  exact henabled n hn

/-- A component of a loaded scene can be written down if its values can. -/
lemma Holds.writable (h : f.Holds ts)
    (hplain : ∀ entries ∈ entriesAll ts, ∀ e ∈ entries, Component.PlainEntry e)
    (hf : f.WellFormed) (hc : c ∈ (f.node k).components) (hlistable : c.Listable) :
    f.Writable k c where
  reachable part _ d hd := by
    obtain ⟨-, path, hpath, -⟩ := h.partPath? (genuine_of_plainScene hplain) hf hc hd
    rw [Forest.partPath?, hd, Option.bind_some] at hpath
    cases hrelative : f.relativePath k d with
    | ok path => exact ⟨path, rfl⟩
    | error e =>
      rw [hrelative] at hpath
      cases hpath
  listable := hlistable
  enabled := ⟨h.enabled hplain hc _ (by decide), h.enabled hplain hc _ (by decide)⟩

end Forest

open Forest

/-- The second forest is the first one, saved and loaded again. -/
structure Reloaded (f g : Forest) : Prop extends Alike f g where
  components : ∀ k, List.Forall₂ Component.Kept (f.node k).components (g.node k).components

lemma Forest.Alike.find?_eq {f g : Forest} (h : Alike f g) : g.find? = f.find? :=
  find?_congr (fun k => (congrArg Node.children (h.shape k) :)) h.name

/-- **What is left of a scene that is saved and loaded again.** It can be saved unless a list of
options is no list. The scene that is loaded then has the same tree with the same names, activity,
kinds of components and parts, and its components have the values that they keep. -/
theorem reload [Validator] {v : Value} {f : Forest} {events : List Event} {s : SceneId}
    (hload : Forest.empty.loadScene v = ⟨f, events, .ok s⟩) (hplain : PlainScene v) :
    ((∃ w, f.writeScene s = .ok w) ↔ ∀ k, ∀ c ∈ (f.node k).components, c.Listable) ∧
      ∀ w, f.writeScene s = .ok w →
        ∃ g events', Forest.empty.loadScene w = ⟨g, events', .ok s⟩ ∧ Reloaded f g := by
  obtain ⟨rfl, fields, spec, hfields, hspec, hcarries⟩ := carries_loadScene hload
  have hf := hcarries.planted
  have hholds := holds_loadScene hload hfields hspec
  have hentries := hplain fields spec hfields hspec
  have hgenuine := genuine_of_plainScene hentries
  have hordinary := hholds.ordinary hgenuine
  obtain ⟨hscene, hnames⟩ := hcarries.names_readable hspec
  refine ⟨⟨?_, fun hlistable => ?_⟩, fun w hw => ?_⟩
  · intro hw k c hc
    exact ((exists_writeScene_iff hf hordinary hscene hnames).mp hw k c hc).listable
  · refine exists_writeScene hordinary (fun k c hc => ?_) 0
    exact hholds.writable hentries hf.wellFormed hc (hlistable k c hc)
  · obtain ⟨fields', spec', hfields', hspec', -, -, -, -, -, hrecorded⟩ :=
      readScene_of_writeScene hf hordinary hscene hnames hw
    obtain ⟨g, events', hload', halike⟩ := alike_of_writeScene hf hordinary hscene hnames hw
    have hholds' := holds_loadScene hload' hfields' hspec'
    refine ⟨g, events', hload', halike, fun k => ?_⟩
    cases k with
    | zero => exact .nil
    | succ i =>
      have hkey : i.succ = 1 + i := Nat.add_comm i 1
      rw [hkey]
      have hknown : ∀ c ∈ (f.node (1 + i)).components, f.Known (1 + i) c := fun c hc =>
        hholds.known hgenuine hf.wellFormed hc
      have hreread := reread_of_recorded hordinary hknown hholds' halike.find?_eq
        (recorded_getD hrecorded i)
      have hkept : ∀ c ∈ (f.node (1 + i)).components, ∀ d, f.Reread (1 + i) c d →
          Component.Kept c d := fun c hc d hd => hd.kept hholds hgenuine hf.wellFormed hc
      exact ((List.forall₂_and_left _ _).mpr ⟨hkept, hreread⟩).imp fun c d ⟨hc, hd⟩ => hc d hd

/-- A field whose text stands in the first of two areas of one name. -/
def fieldEntry : Value :=
  .object [("type", .text "InputField"), ("text", .text "Ann"),
    ("text_component", .text "Area/Text")]

def fieldScene : Value :=
  .object [("scene", .text "S"), ("roots", .list [.object [("name", .text "Field"),
    ("components", .list [fieldEntry]),
    ("children", .list [
      .object [("name", .text "Area"), ("children", .list [.object [("name", .text "Text")]])],
      .object [("name", .text "Area")]])]])]

lemma plain_fieldScene : PlainScene fieldScene := by
  intro fields spec hfields hspec
  cases hfields
  cases hspec
  have hfield : Component.PlainEntry fieldEntry := by
    intro fields c he hc
    cases he
    cases hc
    rw [List.forall_mem_cons, List.forall_mem_cons, List.forall_mem_singleton]
    exact ⟨.inl rfl, .inr (.inr (by decide +kernel)), .inr (.inl ⟨by decide +kernel, _, rfl⟩)⟩
  simpa [entriesAll, NodeSpec.entries, fieldEntry] using hfield

theorem reload_of_field : ∃ f events w g events',
    Forest.empty.loadScene fieldScene = ⟨f, events, .ok 0⟩ ∧ PlainScene fieldScene ∧
      f.writeScene 0 = .ok w ∧ Forest.empty.loadScene w = ⟨g, events', .ok 0⟩ ∧ Reloaded f g := by
  obtain ⟨f, events, hload⟩ : ∃ f events,
      Forest.empty.loadScene fieldScene = ⟨f, events, .ok 0⟩ := ⟨_, _, rfl⟩
  obtain ⟨w, hw⟩ : ∃ w, f.writeScene 0 = .ok w := by
    cases hload
    exact ⟨_, rfl⟩
  obtain ⟨g, events', hg, hreloaded⟩ := (reload hload plain_fieldScene).2 w hw
  exact ⟨f, events, w, g, events', hload, plain_fieldScene, hw, hg, hreloaded⟩

/-- A bar that stands in the middle. -/
def barEntry : Value :=
  .object [("type", .text "Scrollbar"), ("value", .float (.ofFraction false 1 2))]

def barScene : Value :=
  .object [("scene", .text "S"),
    ("roots", .list [.object [("name", .text "Bar"), ("components", .list [barEntry])]])]

lemma plain_barScene : PlainScene barScene := by
  intro fields spec hfields hspec
  cases hfields
  cases hspec
  have hbar : Component.PlainEntry barEntry := by
    intro fields c he hc
    cases he
    cases hc
    rw [List.forall_mem_cons, List.forall_mem_singleton]
    exact ⟨.inl rfl, .inr (.inr (by decide +kernel))⟩
  simpa [entriesAll, NodeSpec.entries, barEntry] using hbar

/-- Saving a scene and loading it again loses values: a bar goes back to its start. -/
theorem not_lossless : ¬ ∀ (v : Value) (f : Forest) (events : List Event),
    Forest.empty.loadScene v = ⟨f, events, .ok 0⟩ → PlainScene v →
      ∃ w g events', f.writeScene 0 = .ok w ∧ Forest.empty.loadScene w = ⟨g, events', .ok 0⟩ ∧
        ∀ k, List.Forall₂
          (fun c d => ∀ name ∈ c.kind.attributes.map (·.1),
            (d.valueOf name).same (c.valueOf name) = true)
          (f.node k).components (g.node k).components := by
  intro h
  obtain ⟨w, g, events, hw, hg, hsame⟩ :=
    h barScene _ (Forest.empty.loadScene barScene).events rfl plain_barScene
  cases hw
  cases hg
  have hbar := (List.forall₂_cons.mp (hsame 1)).1 "value" (by decide +kernel)
  revert hbar
  decide +kernel

end SceneBindings
