import Mathlib.Data.List.Nodup
import SceneBindings.Proofs.Scene.Contents

/-!
Components that are what their kinds say. A description may give a component another type, other parts
or other attributes altogether; one that does neither leaves a component that a node keeps under the
name of its kind and that has the attributes and parts of this kind. A node then has one component of a
kind at most, and each part stands at the path by which it was described.
-/

namespace SceneBindings

open NodeSpec

namespace Value

variable {name : String} {xs ys : List (String × Value)}

lemma field?_append : field? name (xs ++ ys) = (field? name ys <|> field? name xs) := by
  simp only [field?, List.reverse_append, List.find?_append]
  cases ys.reverse.find? fun x => x.1 == name <;> rfl

lemma field?_singleton (key : String) (v : Value) :
    field? name [(key, v)] = if key = name then some v else none := by
  by_cases h : key = name <;> simp [field?, h]

lemma field?_cons (name key : String) (v : Value) (fields : List (String × Value)) :
    field? name ((key, v) :: fields) =
      (field? name fields).or (if key = name then some v else none) := by
  rw [← List.singleton_append, field?_append, field?_singleton]
  cases field? name fields <;> rfl

lemma field?_eq_none (h : ∀ x ∈ xs, x.1 ≠ name) : field? name xs = none := by
  rw [field?, Option.map_eq_none_iff, List.find?_eq_none]
  intro x hx hname
  exact h x (List.mem_reverse.mp hx) (beq_iff_eq.mp hname)

/-- Fields that are given by their names. -/
lemma field?_filterMap (keys : List String) (value : String → Option Value) (name : String) :
    field? name (keys.filterMap fun key => (value key).map fun v => (key, v)) =
      if name ∈ keys then value name else none := by
  induction keys with
  | nil => rfl
  | cons key keys ih =>
    rw [List.filterMap_cons]
    cases hv : value key with
    | none =>
      rw [Option.map_none]
      dsimp only
      rw [ih]
      grind
    | some v =>
      rw [Option.map_some]
      dsimp only
      rw [field?_cons, ih]
      grind

lemma lookup_filterMap (keys : List String) (value : String → Option Value) (name : String) :
    Table.lookup name (keys.filterMap fun key => (value key).map fun v => (key, v)) =
      if name ∈ keys then value name else none := by
  induction keys with
  | nil => rfl
  | cons key keys ih =>
    rw [List.filterMap_cons]
    cases hv : value key with
    | none =>
      rw [Option.map_none]
      dsimp only
      rw [ih]
      grind
    | some v =>
      rw [Option.map_some]
      dsimp only
      rw [Table.lookup, ih]
      grind

lemma map_filterMap_sublist (keys : List String) (value : String → Option Value) :
    ((keys.filterMap fun key => (value key).map fun v => (key, v)).map (·.1)).Sublist keys := by
  induction keys with
  | nil => exact .slnil
  | cons key keys ih =>
    rw [List.filterMap_cons]
    cases value key with
    | none => exact ih.cons key
    | some v => exact ih.cons_cons key

lemma mem_of_mem_filterMap {keys : List String} {value : String → Option Value}
    {x : String × Value}
    (h : x ∈ keys.filterMap fun key => (value key).map fun v => (key, v)) : x.1 ∈ keys := by
  obtain ⟨key, hkey, hx⟩ := List.mem_filterMap.mp h
  obtain ⟨v, -, rfl⟩ := Option.map_eq_some_iff.mp hx
  exact hkey

end Value

namespace ComponentKind

def savedNames (kind : ComponentKind) : List String := kind.saved.map (·.1)

lemma type_not_mem (kind : ComponentKind) : "type" ∉ kind.parts ∧ "type" ∉ kind.savedNames := by
  cases kind <;> decide

lemma part_not_mem_savedNames (kind : ComponentKind) : ∀ p ∈ kind.parts, p ∉ kind.savedNames := by
  cases kind <;> decide

lemma nodup_written (kind : ComponentKind) :
    ("type" :: (kind.parts ++ kind.savedNames)).Nodup := by
  cases kind <;> decide

/-- No part stands where the owner of a component does, or in the place of all its attributes. -/
lemma part_ne (kind : ComponentKind) :
    ∀ p ∈ kind.parts, p ∉ ["node", "type_name", "node_refs", "__dict__", "__class__", "__weakref__"] := by
  cases kind <;> decide

lemma eraseDups_parts (kind : ComponentKind) :
    ((kind.parts.map Value.text).filterMap Value.text?).eraseDups = kind.parts := by
  cases kind <;> rfl

lemma lookup_saved (kind : ComponentKind) :
    ∀ a ∈ kind.saved, Table.lookup a.1 kind.saved = some a.2 := by
  cases kind <;> decide

lemma lookup_not_saved {kind : ComponentKind} {name : String} (h : name ∉ kind.savedNames) :
    Table.lookup name kind.saved = none := by
  rw [savedNames] at h
  generalize kind.saved = saved at h
  induction saved with
  | nil => rfl
  | cons a saved ih =>
    rw [List.map_cons, List.mem_cons, not_or] at h
    rw [Table.lookup, if_neg fun he => h.1 he.symm, ih h.2]

lemma attribute_ne (kind : ComponentKind) : ∀ name ∈ kind.attributes.map (·.1),
    name ∉ ["type", "type_name", "node_refs", "__dict__", "__class__", "__weakref__"] ∧
      name ∉ kind.parts := by
  cases kind <;> decide

lemma savedNames_subset (kind : ComponentKind) :
    ∀ n ∈ kind.savedNames, n ∈ kind.attributes.map (·.1) := by
  cases kind <;> decide

/-- No field that is written disables the operations by which a node asks a component for its parts and
has it written down. -/
lemma operation_not_mem (kind : ComponentKind) : ∀ n ∈ ["pending_refs", "to_dict", "state"],
    n ≠ "type" ∧ n ∉ kind.parts ∧ n ∉ kind.attributes.map (·.1) ∧
      (Component.new kind).attributes.get? n = none := by
  cases kind <;> decide +kernel

/-- A new component has the attributes of its kind, and null for its parts. -/
lemma attributes_new (kind : ComponentKind) :
    (∀ name ∈ kind.attributes.map (·.1), ((Component.new kind).attributes.get? name).isSome = true) ∧
      (∀ part ∈ kind.parts, (Component.new kind).attributes.get? part = some .null) ∧
        (Component.new kind).attributes.get? "type_name" = none ∧
          (Component.new kind).attributes.get? "node_refs" = none := by
  cases kind <;> decide +kernel

end ComponentKind

/-! ### Genuine components -/

namespace Component

variable {c d : Component} {name : String} {fields : List (String × Value)}

/-- A component that is what its kind says: a node keeps it under the name of the kind, it asks for
the parts of the kind and has no other, and it has all attributes of the kind. -/
structure Genuine (c : Component) : Prop where
  untyped : c.attributes.get? "type_name" = none
  unnamed : c.attributes.get? "node_refs" = none
  declared : ∀ name ∈ c.kind.attributes.map (·.1), (c.attributes.get? name).isSome = true
  unset : ∀ part ∈ c.kind.parts, c.attributes.get? part = some .null
  parts : ∀ name k, c.part? name = some k → name ∈ c.kind.parts

namespace Genuine

lemma new (kind : ComponentKind) : (Component.new kind).Genuine where
  untyped := kind.attributes_new.2.2.1
  unnamed := kind.attributes_new.2.2.2
  declared := kind.attributes_new.1
  unset := kind.attributes_new.2.1
  parts name k h := by cases h

variable (h : c.Genuine)
include h

lemma label_eq : c.label = .text c.kind.label := by
  rw [label, h.untyped]
  rfl

lemma partNames?_eq : c.partNames? = some (c.kind.parts.map .text) := by
  rw [partNames?, h.unnamed]

lemma part?_eq_none {name : String} (hname : name ∉ c.kind.parts) : c.part? name = none := by
  cases hpart : c.part? name with
  | none => rfl
  | some k => exact absurd (h.parts name k hpart) hname

lemma base_eq (owner : Key) : c.base owner = owner := by
  rw [base, h.part?_eq_none fun hnode => c.kind.part_ne _ hnode (by decide)]
  rfl

/-- An attribute of the kind holds a value. -/
lemma held?_attribute (hname : name ∈ c.kind.attributes.map (·.1)) :
    c.held? name = some (.value (c.valueOf name)) := by
  obtain ⟨v, hv⟩ := Option.isSome_iff_exists.mp (h.declared name hname)
  have hpart : c.parts.get? name = none := h.part?_eq_none (c.kind.attribute_ne name hname).2
  rw [held?, hpart, valueOf, hv]
  rfl

lemma isDisabled_eq (hname : name ∉ c.kind.parts) :
    c.isDisabled name = (c.attributes.get? name).isSome := by
  have hpart : c.parts.get? name = none := h.part?_eq_none hname
  rw [isDisabled, held?, hpart, Option.isSome_map]

/-- What a component gives for a part is the part. -/
lemma target?_eq (owner : Key) (hname : name ∈ c.kind.parts) :
    c.target? owner name = .ok (c.part? name) := by
  have hne := c.kind.part_ne name hname
  simp only [List.mem_cons, not_or, List.not_mem_nil, not_false_eq_true, and_true] at hne
  obtain ⟨hnode, -, -, hdict, hclass, href⟩ := hne
  rw [target?, if_neg hnode, if_neg href, if_neg (not_or.mpr ⟨hdict, hclass⟩), held?, part?]
  cases hpart : c.parts.get? name with
  | some k => rfl
  | none =>
    rw [h.unset name hname]
    rfl

end Genuine

/-! ### Taking fields over -/

/-- Fields that leave a component what its kind says. -/
def PlainName (name : String) : Prop := name ∉ ["type_name", "node_refs", "__dict__"]

instance (name : String) : Decidable (PlainName name) :=
  inferInstanceAs (Decidable (name ∉ _))

/-- A field that is taken over stands for a value, unless it is the type or a part. -/
lemma takeField_cases {v : Value} (h : c.takeField name v = .ok d) (hname : name ≠ "__dict__") :
    (name = "type" ∨ name ∈ c.kind.parts) ∧ d = c ∨
      name ≠ "type" ∧ name ∉ c.kind.parts ∧ d = c.setAttribute name v := by
  rw [takeField] at h
  by_cases hskip : name = "type" ∨ c.kind.parts.contains name = true
  · rw [if_pos hskip] at h
    rw [List.contains_iff_mem] at hskip
    exact .inl ⟨hskip, (Except.ok.inj h).symm⟩
  · rw [if_neg hskip] at h
    rw [List.contains_iff_mem, not_or] at hskip
    split at h
    · rcases (setField_eq_ok h).2 with ⟨-, hset⟩ | ⟨hdict, -⟩
      · exact .inr ⟨hskip.1, hskip.2, hset⟩
      · exact absurd hdict hname
    · cases h

lemma Genuine.takeField {v : Value} (hc : c.Genuine) (h : c.takeField name v = .ok d)
    (hname : PlainName name) : d.Genuine ∧ d.kind = c.kind := by
  simp only [PlainName, List.mem_cons, not_or, List.not_mem_nil, not_false_eq_true, and_true] at hname
  obtain ⟨htype, hrefs, hdict⟩ := hname
  rcases takeField_cases h hdict with ⟨-, rfl⟩ | ⟨-, hpart, rfl⟩
  · exact ⟨hc, rfl⟩
  · refine ⟨⟨?_, ?_, fun n hn => ?_, fun part hmem => ?_, fun n k hn => ?_⟩, rfl⟩
    · rw [setAttribute, Table.get?_put, if_neg htype]
      exact hc.untyped
    · rw [setAttribute, Table.get?_put, if_neg hrefs]
      exact hc.unnamed
    · rw [setAttribute, Table.get?_put]
      split
      · rfl
      · exact hc.declared n hn
    · rw [setAttribute, Table.get?_put, if_neg (ne_of_mem_of_not_mem hmem hpart).symm]
      exact hc.unset part hmem
    · rw [part?, setAttribute, Table.get?_erase] at hn
      split at hn
      · cases hn
      · exact hc.parts n k hn

lemma Genuine.takeFields (hc : c.Genuine) (h : c.takeFields fields = .ok d)
    (hfields : ∀ x ∈ fields, PlainName x.1) : d.Genuine ∧ d.kind = c.kind := by
  induction fields generalizing c with
  | nil =>
    cases h
    exact ⟨hc, rfl⟩
  | cons field fields ih =>
    obtain ⟨name, v⟩ := field
    rw [List.forall_mem_cons] at hfields
    rw [Component.takeFields] at h
    split at h
    · next c' hc' =>
      obtain ⟨hgenuine, hkind⟩ := hc.takeField hc' hfields.1
      obtain ⟨hd, hkind'⟩ := ih hgenuine h hfields.2
      exact ⟨hd, hkind'.trans hkind⟩
    · cases h

/-- The last value that is given for an attribute is taken over. -/
lemma get?_takeFields (h : c.takeFields fields = .ok d) (hfields : ∀ x ∈ fields, PlainName x.1)
    (htype : name ≠ "type") (hpart : name ∉ c.kind.parts) :
    d.attributes.get? name = (Value.field? name fields).or (c.attributes.get? name) := by
  induction fields generalizing c with
  | nil =>
    cases h
    rfl
  | cons field fields ih =>
    obtain ⟨key, v⟩ := field
    rw [List.forall_mem_cons] at hfields
    rw [takeFields] at h
    split at h
    · next c' hc' =>
      have hdict : key ≠ "__dict__" := fun he => hfields.1 (by simp [he])
      have hstep : c'.kind = c.kind ∧ c'.attributes.get? name =
          (if key = name then some v else none).or (c.attributes.get? name) := by
        rcases takeField_cases hc' hdict with ⟨hskip, rfl⟩ | ⟨-, -, rfl⟩
        · have hne : key ≠ name := by
            rintro rfl
            exact hskip.elim htype hpart
          rw [if_neg hne]
          exact ⟨rfl, rfl⟩
        · refine ⟨rfl, ?_⟩
          rw [setAttribute, Table.get?_put]
          split <;> rfl
      rw [ih h hfields.2 (hstep.1 ▸ hpart), hstep.2, Value.field?_cons, Option.or_assoc]
    · cases h

/-- What a kind knows as a field is the type, one of its parts or one of its attributes. -/
def Known (kind : ComponentKind) (name : String) : Prop :=
  name = "type" ∨ name ∈ kind.parts ∨ name ∈ kind.attributes.map (·.1)

lemma Known.plainName {kind : ComponentKind} (h : Known kind name) : PlainName name := by
  rcases h with rfl | hpart | hattribute
  · exact (by decide : "type" ∉ ["type_name", "node_refs", "__dict__"])
  · have hne := kind.part_ne name hpart
    simp_all [PlainName]
  · have hne := (kind.attribute_ne name hattribute).1
    simp_all [PlainName]

/-- Fields that the kind knows leave a component what it says, and disable nothing. -/
lemma genuine_of_known {kind : ComponentKind} (h : (new kind).takeFields fields = .ok d)
    (hfields : ∀ x ∈ fields, Known kind x.1) : d.Genuine ∧ d.kind = kind ∧
      ∀ n ∈ ["pending_refs", "to_dict", "state"], d.isDisabled n = false := by
  have hplain : ∀ x ∈ fields, PlainName x.1 := fun x hx => (hfields x hx).plainName
  obtain ⟨hgenuine, hkind⟩ := (Genuine.new kind).takeFields h hplain
  refine ⟨hgenuine, hkind, fun n hn => ?_⟩
  obtain ⟨htype, hpart, hattribute, hnew⟩ := kind.operation_not_mem n hn
  have hnone : Value.field? n fields = none := Value.field?_eq_none fun x hx hname => by
    rcases hname ▸ hfields x hx with h | h | h
    · exact htype h
    · exact hpart h
    · exact hattribute h
  rw [hgenuine.isDisabled_eq (hkind ▸ hpart), get?_takeFields h hplain htype hpart, hnone, hnew]
  rfl

/-- Fields that the kind knows are taken over. -/
lemma takeFields_eq_ok (hc : c.Genuine)
    (hfields : ∀ x ∈ fields, Known c.kind x.1) :
    ∃ d, c.takeFields fields = .ok d := by
  induction fields generalizing c with
  | nil => exact ⟨c, rfl⟩
  | cons x fields ih =>
    obtain ⟨name, v⟩ := x
    rw [List.forall_mem_cons] at hfields
    obtain ⟨hx, hrest⟩ := hfields
    rw [takeFields]
    by_cases hskip : name = "type" ∨ c.kind.parts.contains name
    · rw [Component.takeField, if_pos hskip]
      exact ih hc hrest
    · have hskip' := hskip
      rw [not_or, List.contains_iff_mem] at hskip'
      have hdeclared := (hx.resolve_left hskip'.1).resolve_left hskip'.2
      have hne := (c.kind.attribute_ne name hdeclared).1
      simp only [List.mem_cons, not_or, List.not_mem_nil, not_false_eq_true, and_true] at hne
      obtain ⟨-, htype, hrefs, hdict, hclass, href⟩ := hne
      have hhas : c.has name = true := by
        rw [Component.has, hc.held?_attribute hdeclared]
        rfl
      have htake : c.takeField name v = .ok (c.setAttribute name v) := by
        rw [Component.takeField, if_neg hskip, if_pos hhas]
        unfold setField
        rw [if_neg hclass, if_neg href, if_neg hdict]
      rw [htake]
      exact ih (hc.takeField htake hx.plainName).1 hrest

/-- An entry that gives its component no type of its own, no other parts and no other attributes. -/
def GenuineEntry (e : Value) : Prop :=
  ∀ fields, e = .object fields → ∀ x ∈ fields, PlainName x.1

@[simp] lemma genuineEntry_text (s : String) : GenuineEntry (.text s) := by
  rintro fields ⟨⟩

@[simp] lemma genuineEntry_object : GenuineEntry (.object fields) ↔ ∀ x ∈ fields, PlainName x.1 := by
  refine ⟨fun h => h fields rfl, ?_⟩
  rintro h _ ⟨⟩
  exact h

lemma genuine_of_entry {e : Value} (he : GenuineEntry e) (h : ofDescription e = .ok c) :
    c.Genuine := by
  obtain ⟨fields, hfields, ⟨-, rfl⟩ | ⟨rfl, -⟩⟩ := ofDescription_eq_ok h
  · exact ((Genuine.new c.kind).takeFields hfields (List.forall_mem_nil _)).1
  · exact ((Genuine.new c.kind).takeFields hfields (he fields rfl)).1

end Component

/-- A scene in whose description components are what their kinds say. -/
def GenuineScene [Validator] (v : Value) : Prop :=
  ∀ fields spec, Forest.documentFields v = .ok fields → SceneSpec.read fields = .ok spec →
    ∀ entries ∈ entriesAll spec.roots, ∀ e ∈ entries, Component.GenuineEntry e

namespace Forest

variable {f : Forest} {k d : Key} {c : Component} {ts : List NodeSpec}

lemma genuine_of_mem_described
    (hgenuine : ∀ entries ∈ entriesAll ts, ∀ e ∈ entries, Component.GenuineEntry e) :
    ∀ entries ∈ entriesAll ts, ∀ e ∈ described entries, e.1.Genuine := by
  intro entries hentries e he
  obtain ⟨hmem, hmake⟩ := mem_described he
  exact Component.genuine_of_entry (hgenuine entries hentries e.2 hmem)
    (Component.ofEntry_eq_ok.mp hmake).1

/-! ### Components of different kinds -/

lemma sameKey_label (hc : c.Genuine) {d : Component} (hd : d.Genuine) :
    c.label.sameKey d.label = true ↔ c.kind = d.kind := by
  rw [hc.label_eq, hd.label_eq, Value.sameKey_text, beq_iff_eq, Value.text.injEq]
  exact ⟨ComponentKind.label_injective, fun h => congrArg _ h⟩

/-- Components of different kinds are all kept. -/
lemma installed_of_nodup {es : List (Component × Value)} (hgenuine : ∀ e ∈ es, e.1.Genuine)
    (hnodup : (es.map (·.1.kind)).Nodup) : installed es = es := by
  have hfold : ∀ es ds : List (Component × Value), (∀ e ∈ ds ++ es, e.1.Genuine) →
      ((ds ++ es).map (·.1.kind)).Nodup → es.foldl putEntry ds = ds ++ es := by
    intro es
    induction es with
    | nil => exact fun ds _ _ => (List.append_nil ds).symm
    | cons e es ih =>
      intro ds hgenuine hnodup
      have hfresh : (ds.any fun d => d.1.label.sameKey e.1.label) = false := by
        rw [List.any_eq_false]
        intro d hd hsame
        rw [sameKey_label (hgenuine d (List.mem_append_left _ hd)) (hgenuine e (by simp))] at hsame
        rw [List.map_append, List.nodup_append] at hnodup
        exact hnodup.2.2 _ (List.mem_map_of_mem hd) _ List.mem_cons_self hsame
      have hput : putEntry ds e = ds ++ [e] := by
        rw [putEntry, hfresh]
        rfl
      rw [List.append_cons] at hgenuine hnodup
      rw [List.foldl_cons, hput, ih _ hgenuine hnodup, List.append_assoc, List.singleton_append]
  exact hfold es [] hgenuine hnodup

lemma nodup_putEntry {es : List (Component × Value)} {e : Component × Value}
    (hgenuine : ∀ d ∈ e :: es, d.1.Genuine) (h : (es.map (·.1.kind)).Nodup) :
    ((putEntry es e).map (·.1.kind)).Nodup := by
  obtain ⟨he, hes⟩ := List.forall_mem_cons.mp hgenuine
  rw [putEntry]
  split
  · have hkinds : (es.map fun d => if d.1.label.sameKey e.1.label then e else d).map (·.1.kind) =
        es.map (·.1.kind) := by
      rw [List.map_map]
      refine List.map_congr_left fun d hd => ?_
      rw [Function.comp_apply]
      split
      · next hsame => exact ((sameKey_label (hes d hd) he).mp hsame).symm
      · rfl
    rwa [hkinds]
  · next hfresh =>
    rw [List.map_append, List.nodup_append]
    refine ⟨h, List.nodup_singleton _, fun kind hkind kind' hkind' hsame => ?_⟩
    obtain ⟨d, hd, rfl⟩ := List.mem_map.mp hkind
    rw [List.map_singleton, List.mem_singleton] at hkind'
    exact hfresh (List.any_eq_true.mpr ⟨d, hd, (sameKey_label (hes d hd) he).mpr (hsame.trans hkind')⟩)

/-- A node has one component of a kind at most. -/
lemma nodup_installed {es : List (Component × Value)} (hgenuine : ∀ e ∈ es, e.1.Genuine) :
    ((installed es).map (·.1.kind)).Nodup := by
  have hfold : ∀ es ds : List (Component × Value), (∀ e ∈ es, e.1.Genuine) →
      (∀ d ∈ ds, d.1.Genuine) → (ds.map (·.1.kind)).Nodup →
        ((es.foldl putEntry ds).map (·.1.kind)).Nodup := by
    intro es
    induction es with
    | nil => exact fun ds _ _ hds => hds
    | cons e es ih =>
      intro ds hes hgenuine hds
      rw [List.forall_mem_cons] at hes
      refine ih _ hes.2 (fun d hd => ?_)
        (nodup_putEntry (List.forall_mem_cons.mpr ⟨hes.1, hgenuine⟩) hds)
      rcases mem_putEntry hd with rfl | ⟨hd, -⟩
      · exact hes.1
      · exact hgenuine d hd
  exact hfold es [] hgenuine (List.forall_mem_nil _) List.nodup_nil

/-- All components are what their kinds say, and a node has one of a kind at most. -/
structure Ordinary (f : Forest) : Prop where
  genuine : ∀ k, ∀ c ∈ (f.node k).components, c.Genuine
  nodup : ∀ k, ((f.node k).components.map (·.kind)).Nodup

lemma bare_of_genuine (hc : c.Genuine) : c.bare = (Component.new c.kind).bare := by
  rw [Component.bare, Component.bare, hc.label_eq, (Component.Genuine.new c.kind).label_eq]
  rfl

/-- The parts of a component that is what its kind says, as a description names them. -/
lemma pendingParts_eq (hc : c.Genuine) (fields : List (String × Value)) :
    c.pendingParts (.object fields) = c.kind.parts.filterMap fun p =>
      ((Value.field? p fields).filter Value.isTruthy).map fun v => (p, v) := by
  rw [Component.pendingParts, hc.partNames?_eq, Option.getD_some, ComponentKind.eraseDups_parts]
  refine List.filterMap_congr fun p hp => ?_
  have hdict : p ≠ "__dict__" := ne_of_mem_of_not_mem hp fun h => c.kind.part_ne _ h (by decide)
  cases Value.field? p fields with
  | none => rfl
  | some v =>
    dsimp only
    rw [Component.isGiven, beq_eq_false_iff_ne.mpr hdict, Bool.or_false, Option.filter]
    split <;> rfl

/-! ### Parts of genuine components -/

/-- The parts that are looked up for a component are parts of its kind, and given. -/
lemma exists_pendingParts_eq (hc : c.Genuine) (v : Value) : ∃ value : String → Option Value,
    (c.pendingParts v = c.kind.parts.filterMap fun p => (value p).map fun w => (p, w)) ∧
      ∀ p w, value p = some w → w.isTruthy = true := by
  cases v with
  | object fields =>
    refine ⟨fun p => (Value.field? p fields).filter Value.isTruthy, pendingParts_eq hc fields, ?_⟩
    exact fun p w hw => (Option.filter_eq_some_iff.mp hw).2
  | _ =>
    refine ⟨fun _ => none, ?_, fun p w hw => by cases hw⟩
    exact (List.filterMap_eq_nil_iff.mpr fun p _ => rfl).symm

section Equip

variable {value : String → Option Value} (hempty : c.parts = .empty)

include hempty

lemma part?_equip_of_kind (part : String) :
    (f.equip k c (c.kind.parts.filterMap fun p => (value p).map fun w => (p, w))).part? part =
      if part ∈ c.kind.parts then (value part).bind (f.lead? k) else none := by
  have hnone : ∀ name, c.part? name = none := fun name => by
    rw [Component.part?, hempty]
    rfl
  have hne : ∀ p ∈ c.kind.parts.filterMap fun p => (value p).map fun w => (p, w),
      p.1 ≠ "node" := fun p hp =>
    ne_of_mem_of_not_mem (Value.mem_of_mem_filterMap hp)
      fun h => c.kind.part_ne _ h List.mem_cons_self
  have hnodup : ((c.kind.parts.filterMap fun p => (value p).map fun w => (p, w)).map (·.1)).Nodup :=
    List.Nodup.sublist (Value.map_filterMap_sublist _ _)
      (List.nodup_append.mp (List.nodup_cons.mp c.kind.nodup_written).2).1
  rw [part?_equip (hnone _) hne hnodup, hnone, Option.or_none, Value.lookup_filterMap]
  split <;> rfl

/-- Finding its parts leaves a component what its kind says. -/
lemma genuine_equip (hc : c.Genuine) :
    (f.equip k c (c.kind.parts.filterMap fun p => (value p).map fun w => (p, w))).Genuine := by
  refine ⟨?_, ?_, ?_, ?_, fun name d hd => ?_⟩
  · rw [attributes_equip]
    exact hc.untyped
  · rw [attributes_equip]
    exact hc.unnamed
  · rw [attributes_equip, kind_equip]
    exact hc.declared
  · rw [attributes_equip, kind_equip]
    exact hc.unset
  · rw [part?_equip_of_kind hempty] at hd
    rw [kind_equip]
    split at hd
    · assumption
    · cases hd

end Equip

section Equipped

variable {e : Component × Value} (he : e.1.Genuine) (hempty : e.1.parts = .empty)

include he hempty

lemma genuine_equipped : (f.equipped k e).Genuine := by
  obtain ⟨value, hvalue, -⟩ := exists_pendingParts_eq he e.2
  rw [equipped, hvalue]
  exact genuine_equip hempty he

lemma isDisabled_equipped {name : String} (hname : name ∉ e.1.kind.parts) :
    (f.equipped k e).isDisabled name = e.1.isDisabled name := by
  have hkind : (f.equipped k e).kind = e.1.kind := kind_equip f k e.1 _
  have hattributes : (f.equipped k e).attributes = e.1.attributes := attributes_equip f k e.1 _
  rw [(genuine_equipped he hempty).isDisabled_eq (hkind ▸ hname), hattributes, he.isDisabled_eq hname]

/-- A part stands at a path below the node, and the kind of the component knows it. -/
lemma found_of_equipped {part : String} (hd : (f.equipped k e).part? part = some d) :
    part ∈ e.1.kind.parts ∧ ∃ path, path ≠ "" ∧ f.find? k path = some d := by
  obtain ⟨value, hvalue, htruthy⟩ := exists_pendingParts_eq he e.2
  rw [equipped, hvalue, part?_equip_of_kind hempty] at hd
  split at hd
  · next hpart =>
    obtain ⟨w, hw, hlead⟩ := Option.bind_eq_some_iff.mp hd
    obtain ⟨path, hpath, hfind⟩ := Option.bind_eq_some_iff.mp hlead
    refine ⟨hpart, path, ?_, hfind⟩
    rintro rfl
    cases w with
    | text s =>
      cases hpath
      cases htruthy part _ hw
    | _ => cases hpath
  · cases hd

end Equipped

lemma kind_equipped (f : Forest) (k : Key) (e : Component × Value) :
    (f.equipped k e).kind = e.1.kind :=
  kind_equip f k e.1 _

namespace Holds

variable (h : f.Holds ts)
  (hgenuine : ∀ entries ∈ entriesAll ts, ∀ e ∈ described entries, e.1.Genuine)

include h hgenuine

lemma ordinary : f.Ordinary where
  genuine k c hc := by
    obtain ⟨entries, hmem, e, he, rfl⟩ := h.exists_entry hc
    exact genuine_equipped (hgenuine entries hmem e he) (parts_of_mem_described he)
  nodup k := by
    by_cases hk : f.IsNode k
    · obtain ⟨i, rfl⟩ := Nat.exists_eq_add_of_le (isNode_iff.mp hk).1
      rw [h i, List.map_map]
      simp only [Function.comp_def, kind_equipped]
      exact nodup_installed fun e he => hgenuine _ (mem_entriesAll_of_described he) e he
    · rw [node_of_not_isNode hk]
      exact List.nodup_nil

lemma found (hc : c ∈ (f.node k).components) {part : String} (hd : c.part? part = some d) :
    part ∈ c.kind.parts ∧ ∃ path, path ≠ "" ∧ f.find? k path = some d := by
  obtain ⟨entries, hmem, e, he, rfl⟩ := h.exists_entry hc
  rw [kind_equipped]
  exact found_of_equipped (hgenuine entries hmem e he) (parts_of_mem_described he) hd

end Holds

/-- What is loaded from a description that gives components no types and parts of their own. -/
lemma ordinary_of_loadScene [Validator] {v : Value} {events : List Event} {s : SceneId}
    (hload : Forest.empty.loadScene v = ⟨f, events, .ok s⟩) (hgenuine : GenuineScene v) :
    f.Ordinary := by
  obtain ⟨-, fields, spec, hfields, hspec, -⟩ := raises_loadScene hload
  exact (holds_loadScene hload hfields hspec).ordinary
    (genuine_of_mem_described (hgenuine fields spec hfields hspec))

end Forest

end SceneBindings
