import SceneBindings.Proofs.Scene.Genuine

/-!
What a component is written as, field by field, and what is left of it when it is made again: its
parts, as far as they can be reached by paths, and those of its values that its kind saves. This is
about components that are what their kinds say, under the names of these and with their parts.
-/

namespace SceneBindings

/-- What is written down of a value, if anything. -/
def ComponentKind.Saving.written : Saving → Value → Option Value
  | always, v => some v
  | ifGiven, v => if v.isTruthy then some v else none
  | asList, v => (Component.elements? v).map .list

namespace Component

def written? (c : Component) (name : String) : Option Value :=
  (Table.lookup name c.kind.saved).bind fun saving => saving.written (c.valueOf name)

/-- The value of an attribute once the component was written down and made again. What was not
written down is as in a new component. -/
def kept (c : Component) (name : String) : Value :=
  (c.written? name).getD ((new c.kind).valueOf name)

/-- All values that are written down as lists have elements. -/
def Listable (c : Component) : Prop :=
  ∀ a ∈ c.kind.saved, a.2 = .asList → (elements? (c.valueOf a.1)).isSome = true

end Component

namespace Table

variable {α β : Type} [DecidableEq α]

lemma insert_of_not_mem {k : α} {v : β} {es : List (α × β)} (h : k ∉ es.map (·.1)) :
    insert k v es = es ++ [(k, v)] := by
  induction es with
  | nil => rfl
  | cons e es ih =>
    rw [List.map_cons, List.mem_cons, not_or] at h
    rw [insert, if_neg fun he => h.1 he.symm, ih h.2, List.cons_append]

/-- Pairs with keys of their own are all kept. -/
lemma entries_ofList {es : List (α × β)} (h : (es.map (·.1)).Nodup) : (ofList es).entries = es := by
  have hfold : ∀ (es : List (α × β)) (t : Table α β), ((t.entries ++ es).map (·.1)).Nodup →
      (es.foldl (fun t e => t.put e.1 e.2) t).entries = t.entries ++ es := by
    intro es
    induction es with
    | nil => exact fun t _ => (List.append_nil _).symm
    | cons e es ih =>
      intro t hnodup
      have hput : (t.put e.1 e.2).entries = t.entries ++ [e] := by
        refine insert_of_not_mem fun hmem => ?_
        rw [List.map_append, List.nodup_append] at hnodup
        exact hnodup.2.2 _ hmem _ List.mem_cons_self rfl
      rw [List.foldl_cons, ih _ (by rwa [hput, List.append_assoc, List.singleton_append]), hput,
        List.append_assoc, List.singleton_append]
  exact hfold es empty h

end Table

/-! ### Values -/

namespace Component

variable {c d : Component} {name : String} {fields : List (String × Value)}

lemma writeAttribute_eq_ok {saving : ComponentKind.Saving}
    (h : c.held? name = some (.value (c.valueOf name))) :
    c.writeAttribute name saving = .ok fields ↔
      (saving = .asList → (elements? (c.valueOf name)).isSome = true) ∧
        fields = ((saving.written (c.valueOf name)).map fun v => (name, v)).toList := by
  unfold writeAttribute
  rw [h]
  cases saving with
  | always =>
    rw [ComponentKind.Saving.written, Except.ok.injEq, eq_comm]
    exact ⟨fun h => ⟨fun hlist => (nomatch hlist), h⟩, fun h => h.2⟩
  | ifGiven =>
    rw [ComponentKind.Saving.written, Except.ok.injEq, eq_comm]
    split
    · exact ⟨fun h => ⟨fun hlist => (nomatch hlist), h⟩, fun h => h.2⟩
    · exact ⟨fun h => ⟨fun hlist => (nomatch hlist), h⟩, fun h => h.2⟩
  | asList =>
    rw [ComponentKind.Saving.written]
    dsimp only
    cases elements? (c.valueOf name) with
    | none => exact ⟨fun h => (nomatch h), fun h => absurd (h.1 rfl) Bool.false_ne_true⟩
    | some xs =>
      dsimp only
      rw [Except.ok.injEq, eq_comm]
      exact ⟨fun h => ⟨fun _ => rfl, h⟩, fun h => h.2⟩

/-- What a component writes of some attributes. -/
def attributeFields (c : Component) (saved : List (String × ComponentKind.Saving)) :
    List (String × Value) :=
  saved.filterMap fun a => (a.2.written (c.valueOf a.1)).map fun v => (a.1, v)

lemma attributeFields_cons (a : String × ComponentKind.Saving)
    (saved : List (String × ComponentKind.Saving)) : c.attributeFields (a :: saved) =
      ((a.2.written (c.valueOf a.1)).map fun v => (a.1, v)).toList ++ c.attributeFields saved := by
  rw [attributeFields, List.filterMap_cons]
  cases a.2.written (c.valueOf a.1) <;> rfl

lemma writeAttributes_eq_ok {saved : List (String × ComponentKind.Saving)}
    (h : ∀ a ∈ saved, c.held? a.1 = some (.value (c.valueOf a.1))) :
    c.writeAttributes saved = .ok fields ↔
      (∀ a ∈ saved, a.2 = .asList → (elements? (c.valueOf a.1)).isSome = true) ∧
        fields = c.attributeFields saved := by
  induction saved generalizing fields with
  | nil =>
    rw [writeAttributes, Except.ok.injEq]
    exact ⟨fun h => ⟨List.forall_mem_nil _, h.symm⟩, fun h => h.2.symm⟩
  | cons a saved ih =>
    obtain ⟨name, saving⟩ := a
    obtain ⟨hhead, htail⟩ := List.forall_mem_cons.mp h
    rw [writeAttributes, List.forall_mem_cons, attributeFields_cons]
    constructor
    · intro h
      split at h
      · next one rest hone hrest =>
        cases h
        obtain ⟨hlist, rfl⟩ := (writeAttribute_eq_ok hhead).mp hone
        obtain ⟨hlists, rfl⟩ := (ih htail).mp hrest
        exact ⟨⟨hlist, hlists⟩, rfl⟩
      · cases h
      · cases h
    · rintro ⟨⟨hlist, hlists⟩, rfl⟩
      rw [(writeAttribute_eq_ok hhead).mpr ⟨hlist, rfl⟩, (ih htail).mpr ⟨hlists, rfl⟩]

lemma attributeFields_saved (c : Component) : c.attributeFields c.kind.saved =
    c.kind.savedNames.filterMap fun name => (c.written? name).map fun v => (name, v) := by
  rw [ComponentKind.savedNames, List.filterMap_map, attributeFields]
  refine List.filterMap_congr fun a ha => ?_
  rw [Function.comp_apply, written?, c.kind.lookup_saved a ha, Option.bind_some]

lemma field?_attributeFields (c : Component) (name : String) :
    Value.field? name (c.attributeFields c.kind.saved) = c.written? name := by
  rw [attributeFields_saved, Value.field?_filterMap]
  split
  · rfl
  · next hname => rw [written?, ComponentKind.lookup_not_saved hname, Option.bind_none]

end Component

/-! ### Parts -/

namespace Forest

variable {f : Forest} {k : Key} {c d : Component} {e : Value} {fields : List (String × Value)}

/-- The path from a node to a part of a component of it. -/
def partPath? (f : Forest) (k : Key) (c : Component) (part : String) : Option String :=
  (c.part? part).bind fun d => (f.relativePath k d).toOption

/-- All parts of a component can be reached from the node. -/
def Reachable (f : Forest) (k : Key) (c : Component) (parts : List String) : Prop :=
  ∀ part ∈ parts, ∀ d, c.part? part = some d → ∃ path, f.relativePath k d = .ok path

def partFields (f : Forest) (k : Key) (c : Component) (parts : List String) :
    List (String × Value) :=
  parts.filterMap fun part => ((f.partPath? k c part).map .text).map fun v => (part, v)

lemma partFields_cons (part : String) (parts : List String) : f.partFields k c (part :: parts) =
    (((f.partPath? k c part).map .text).map fun v => (part, v)).toList ++
      f.partFields k c parts := by
  rw [partFields, List.filterMap_cons]
  cases f.partPath? k c part <;> rfl

lemma writeParts_cons (f : Forest) (k : Key) (c : Component) (part : String) (names : List Value) :
    f.writeParts k c (.text part :: names) =
      match c.target? k part with
      | .error e => .error e
      | .ok none => f.writeParts k c names
      | .ok (some target) =>
        match f.relativePath (c.base k) target, f.writeParts k c names with
        | .ok path, .ok fields => .ok ((part, .text path) :: fields)
        | .error e, _ => .error e
        | _, .error e => .error e := by
  rewrite [writeParts.eq_def]
  rfl

lemma writeParts_eq_ok (hc : c.Genuine) {parts : List String} (hparts : parts ⊆ c.kind.parts) :
    f.writeParts k c (parts.map .text) = .ok fields ↔
      f.Reachable k c parts ∧ fields = f.partFields k c parts := by
  induction parts generalizing fields with
  | nil =>
    rw [List.map_nil, writeParts.eq_def, Except.ok.injEq]
    exact ⟨fun h => ⟨List.forall_mem_nil _, h.symm⟩, fun h => h.2.symm⟩
  | cons part parts ih =>
    rw [List.cons_subset] at hparts
    rw [List.map_cons, writeParts_cons, hc.target?_eq k hparts.1, hc.base_eq, Reachable,
      List.forall_mem_cons, partFields_cons, partPath?]
    replace ih : ∀ fields, f.writeParts k c (parts.map .text) = .ok fields ↔
        f.Reachable k c parts ∧ fields = f.partFields k c parts := fun _ => ih hparts.2
    cases hpart : c.part? part with
    | none =>
      dsimp only
      rw [ih]
      exact ⟨fun h => ⟨⟨fun d hd => (by cases hd), h.1⟩, h.2⟩, fun h => ⟨h.1.2, h.2⟩⟩
    | some d =>
      constructor
      · intro h
        dsimp only at h
        split at h
        · next path rest hpath hrest =>
          cases h
          obtain ⟨hreachable, rfl⟩ := (ih _).mp hrest
          refine ⟨⟨fun e he => ?_, hreachable⟩, ?_⟩
          · cases he
            exact ⟨path, hpath⟩
          · rw [Option.bind_some, hpath]
            rfl
        · cases h
        · cases h
      · rintro ⟨⟨hfirst, hreachable⟩, rfl⟩
        obtain ⟨path, hpath⟩ := hfirst d rfl
        rw [(ih _).mpr ⟨hreachable, rfl⟩, Option.bind_some]
        dsimp only
        rw [hpath]
        rfl

/-! ### Components -/

/-- The fields of the description of a component. -/
def fieldsOf (f : Forest) (k : Key) (c : Component) : List (String × Value) :=
  ("type", .text c.kind.label) :: f.partFields k c c.kind.parts ++ c.attributeFields c.kind.saved

/-- The fields of a description have names of their own. -/
lemma nodup_fieldsOf (f : Forest) (k : Key) (c : Component) : ((f.fieldsOf k c).map (·.1)).Nodup := by
  refine List.Nodup.sublist ?_ c.kind.nodup_written
  rw [fieldsOf, Component.attributeFields_saved, List.cons_append, List.map_cons, List.map_append]
  exact ((Value.map_filterMap_sublist _ _).append (Value.map_filterMap_sublist _ _)).cons_cons _

/-- What is needed to write down a component. -/
structure Writable (f : Forest) (k : Key) (c : Component) : Prop where
  reachable : f.Reachable k c c.kind.parts
  listable : c.Listable
  enabled : c.isDisabled "to_dict" = false ∧ c.isDisabled "state" = false

lemma writeComponent_eq_ok (hc : c.Genuine) : f.writeComponent k c = .ok fields ↔
    f.Writable k c ∧ fields = f.fieldsOf k c := by
  have hheld : ∀ a ∈ c.kind.saved, c.held? a.1 = some (.value (c.valueOf a.1)) := fun a ha =>
    hc.held?_attribute (c.kind.savedNames_subset _ (List.mem_map_of_mem ha))
  have hnone : ∀ name ∈ ["type_name", "node_refs"], c.part? name = none := fun name hname =>
    hc.part?_eq_none fun hpart => c.kind.part_ne name hpart (by
      simp only [List.mem_cons, List.not_mem_nil, or_false] at hname ⊢
      grind)
  have hfields := Table.entries_ofList (f.nodup_fieldsOf k c)
  rw [fieldsOf] at hfields
  unfold writeComponent
  rw [hnone "node_refs" (by decide), hnone "type_name" (by decide), hc.partNames?_eq, hc.label_eq,
    Option.isSome_none, Bool.or_false]
  dsimp only
  constructor
  · intro h
    split at h
    · cases h
    · next hdict =>
      split at h
      · cases h
      · next parts hparts =>
        split at h
        · cases h
        · next hstate =>
          obtain ⟨hreachable, rfl⟩ := (writeParts_eq_ok hc (List.Subset.refl _)).mp hparts
          cases hattributes : c.writeAttributes c.kind.saved with
          | error e =>
            rw [hattributes] at h
            cases h
          | ok attributes =>
            obtain ⟨hlistable, rfl⟩ := (Component.writeAttributes_eq_ok hheld).mp hattributes
            rw [hattributes, Except.map, hfields] at h
            cases h
            exact ⟨⟨hreachable, hlistable, Bool.eq_false_iff.mpr hdict, Bool.eq_false_iff.mpr hstate⟩,
              rfl⟩
  · rintro ⟨⟨hreachable, hlistable, hdict, hstate⟩, rfl⟩
    rw [hdict, (writeParts_eq_ok hc (List.Subset.refl _)).mpr ⟨hreachable, rfl⟩]
    dsimp only
    rw [hstate, (Component.writeAttributes_eq_ok hheld).mpr ⟨hlistable, rfl⟩, Except.map, hfields]
    rfl

lemma exists_writeEntry (hc : c.Genuine) : (∃ e, f.writeEntry k c = .ok e) ↔ f.Writable k c := by
  constructor
  · rintro ⟨e, he⟩
    rw [writeEntry] at he
    cases hfields : f.writeComponent k c with
    | error e =>
      rw [hfields] at he
      cases he
    | ok fields => exact ((writeComponent_eq_ok hc).mp hfields).1
  · intro h
    rw [writeEntry, (writeComponent_eq_ok hc).mpr ⟨h, rfl⟩]
    exact ⟨_, rfl⟩

/-- An entry is an object with all fields, or a name if there is no field but the type. -/
lemma entry_of_writeEntry (hc : c.Genuine) (h : f.writeEntry k c = .ok e) :
    e = .object (f.fieldsOf k c) ∨
      e = .text c.kind.label ∧ f.fieldsOf k c = [("type", .text c.kind.label)] := by
  rw [writeEntry] at h
  cases hfields : f.writeComponent k c with
  | error e =>
    rw [hfields] at h
    cases h
  | ok fields =>
    rw [hfields] at h
    obtain ⟨-, rfl⟩ := (writeComponent_eq_ok hc).mp hfields
    rw [Except.map, Except.ok.injEq] at h
    split at h
    · next x hx =>
      obtain ⟨rfl, hrest⟩ : x = ("type", .text c.kind.label) ∧
          f.partFields k c c.kind.parts ++ c.attributeFields c.kind.saved = [] :=
        ⟨(List.cons.inj hx).1.symm, (List.cons.inj hx).2⟩
      refine .inr ⟨h.symm, ?_⟩
      rw [fieldsOf, List.cons_append, hrest]
    · exact .inl h.symm

/-- All fields of an entry are fields of the kind. -/
lemma known_of_mem_fieldsOf {x : String × Value} (h : x ∈ f.fieldsOf k c) :
    Component.Known c.kind x.1 := by
  rw [fieldsOf, Component.attributeFields_saved, List.cons_append, List.mem_cons,
    List.mem_append] at h
  rcases h with rfl | hpart | hsaved
  · exact .inl rfl
  · exact .inr (.inl (Value.mem_of_mem_filterMap hpart))
  · exact .inr (.inr (c.kind.savedNames_subset _ (Value.mem_of_mem_filterMap hsaved)))

lemma field?_fieldsOf (f : Forest) (k : Key) (c : Component) (name : String) :
    Value.field? name (f.fieldsOf k c) = ((c.written? name).or
      (if name ∈ c.kind.parts then (f.partPath? k c name).map .text else none)).or
        (if "type" = name then some (.text c.kind.label) else none) := by
  rw [fieldsOf, Value.field?_append, Component.field?_attributeFields, Value.field?_cons, partFields,
    Value.field?_filterMap c.kind.parts fun part => (f.partPath? k c part).map .text]
  cases c.written? name <;> rfl

lemma written?_eq_none {name : String} (h : name ∉ c.kind.savedNames) : c.written? name = none := by
  rw [Component.written?, ComponentKind.lookup_not_saved h, Option.bind_none]

lemma field?_fieldsOf_type (f : Forest) (k : Key) (c : Component) :
    Value.field? "type" (f.fieldsOf k c) = some (.text c.kind.label) := by
  rw [field?_fieldsOf, written?_eq_none c.kind.type_not_mem.2, if_neg c.kind.type_not_mem.1,
    if_pos rfl]
  rfl

lemma field?_fieldsOf_part {part : String} (h : part ∈ c.kind.parts) :
    Value.field? part (f.fieldsOf k c) = (f.partPath? k c part).map .text := by
  have htype : "type" ≠ part := fun ht => c.kind.type_not_mem.1 (ht ▸ h)
  rw [field?_fieldsOf, written?_eq_none (c.kind.part_not_mem_savedNames part h), if_pos h,
    if_neg htype, Option.or_none]
  rfl

lemma field?_fieldsOf_attribute {name : String} (h : name ∈ c.kind.attributes.map (·.1)) :
    Value.field? name (f.fieldsOf k c) = c.written? name := by
  obtain ⟨hne, hpart⟩ := c.kind.attribute_ne name h
  rw [field?_fieldsOf, if_neg hpart, if_neg (ne_of_mem_of_not_mem List.mem_cons_self hne),
    Option.or_none, Option.or_none]

/-! ### Components made again -/

/-- The parts that a component is written with, as far as there is a path to them. -/
def pathsOf (f : Forest) (k : Key) (c : Component) : List (String × Value) :=
  c.kind.parts.filterMap fun p =>
    ((f.partPath? k c p).filter (· ≠ "")).map fun path => (p, .text path)

/-- What is made from an entry is made from the fields that were written. -/
lemma ofDescription_writeEntry (hc : c.Genuine) (h : f.writeEntry k c = .ok e) :
    Component.ofDescription e = (Component.new c.kind).takeFields (f.fieldsOf k c) := by
  obtain rfl | ⟨rfl, honly⟩ := entry_of_writeEntry hc h
  · rw [Component.ofDescription, field?_fieldsOf_type, Option.getD_some, Component.kindOf_label]
  · rw [honly, Component.ofDescription, Component.kindOf_label, Component.takeFields,
      Component.takeField, if_pos (.inl rfl)]
    rfl

/-- A component that is made from what another one was written as. -/
structure Recalls (f : Forest) (k : Key) (c d : Component) (e : Value) : Prop where
  kind : d.kind = c.kind
  genuine : d.Genuine
  empty : d.parts = .empty
  enabled : ∀ n ∈ ["pending_refs", "to_dict", "state"], d.isDisabled n = false
  values : ∀ name ∈ c.kind.attributes.map (·.1), d.valueOf name = c.kept name
  parts : d.pendingParts e = f.pathsOf k c

lemma recalls_writeEntry (hc : c.Genuine) (h : f.writeEntry k c = .ok e)
    (hd : Component.ofDescription e = .ok d) : f.Recalls k c d e := by
  have hempty := Component.parts_ofDescription hd
  rw [ofDescription_writeEntry hc h] at hd
  obtain ⟨hgenuine, hkind, henabled⟩ := Component.genuine_of_known hd fun x => known_of_mem_fieldsOf
  refine ⟨hkind, hgenuine, hempty, henabled, fun name hname => ?_, ?_⟩
  · obtain ⟨hne, hpart⟩ := c.kind.attribute_ne name hname
    have hget := Component.get?_takeFields hd (fun x hx => (known_of_mem_fieldsOf hx).plainName)
      (ne_of_mem_of_not_mem List.mem_cons_self hne).symm hpart
    rw [field?_fieldsOf_attribute hname] at hget
    rw [Component.valueOf, hget, Component.kept, Component.valueOf]
    cases c.written? name <;> rfl
  · have hfields : d.pendingParts (.object (f.fieldsOf k c)) = f.pathsOf k c := by
      rw [pendingParts_eq hgenuine, hkind, pathsOf]
      refine List.filterMap_congr fun p hp => ?_
      rw [field?_fieldsOf_part hp]
      cases f.partPath? k c p with
      | none => rfl
      | some path =>
        by_cases hpath : path = "" <;> simp [Option.filter, Value.isTruthy, hpath]
    obtain rfl | ⟨rfl, honly⟩ := entry_of_writeEntry hc h
    · exact hfields
    · rw [honly, pendingParts_eq hgenuine] at hfields
      have hnone : d.pendingParts (.text c.kind.label) = [] := rfl
      rw [hnone, ← hfields]
      refine (List.filterMap_eq_nil_iff.mpr fun p hp => ?_).symm
      have htype : "type" ≠ p := fun he => d.kind.type_not_mem.1 (he ▸ hp)
      rw [Value.field?_singleton, if_neg htype]
      rfl

end Forest

end SceneBindings
