import SceneBindings.Proofs.Scene.Genuine

/-!
The entries of a node that make no component, and why. The type is looked up first, the fields are
taken over one after the other, and last the node takes over the component that came out of this. An
entry that makes a component may still give one of its parts by something that is no path.
-/

namespace SceneBindings

/-- What an attempt fails with. -/
def Failure.of? {α : Type} : Except Failure α → Option Failure
  | .ok _ => none
  | .error e => some e

lemma Failure.of?_eq_some {α : Type} {r : Except Failure α} {e : Failure} :
    of? r = some e ↔ r = .error e := by
  cases r <;> simp [of?]

lemma Failure.of?_eq_none {α : Type} {r : Except Failure α} : of? r = none ↔ ∃ a, r = .ok a := by
  cases r <;> simp [of?]

lemma Failure.of?_map {α β : Type} (g : α → β) (r : Except Failure α) : of? (r.map g) = of? r := by
  cases r <;> rfl

/-- What a node asks a component for is neither its type nor a part nor an attribute of a kind. -/
lemma ComponentKind.told_not_mem (kind : ComponentKind) :
    ∀ n ∈ ["type_name", "node_refs", "pending_refs"],
      n ≠ "type" ∧ n ∉ kind.parts ∧ (Component.new kind).attributes.get? n = none := by
  cases kind <;> decide +kernel

namespace Value

/-- What is made of fields holds the last value of a name. -/
lemma get?_ofList (name : String) (fields : List (String × Value)) :
    (Table.ofList fields).get? name = field? name fields := by
  have hfold : ∀ (fields : List (String × Value)) (t : Table String Value),
      (fields.foldl (fun t e => t.put e.1 e.2) t).get? name =
        (field? name fields).or (t.get? name) := by
    intro fields
    induction fields with
    | nil => exact fun _ => rfl
    | cons field fields ih =>
      obtain ⟨key, v⟩ := field
      intro t
      rw [List.foldl_cons, ih, Table.get?_put, field?_cons, Option.or_assoc]
      split <;> rfl
  rw [Table.ofList, hfold, Table.get?_empty, Option.or_none]

lemma field?_isSome (name : String) (fields : List (String × Value)) :
    (field? name fields).isSome = true ↔ name ∈ fields.map (·.1) := by
  rw [field?, Option.isSome_map, List.find?_isSome]
  simp

end Value

namespace Component

variable {c d : Component} {kind : ComponentKind} {before fields : List (String × Value)} {v : Value}
  {x : String × Value} {name : String} {e : Failure}

/-! ### Fields -/

/-- The names under which a component has something once it took fields over: its own attributes, which
a field can replace all at once, and what it shares with its kind. -/
def namesAfter (kind : ComponentKind) (fields : List (String × Value)) : List String :=
  (match Value.field? "__dict__" fields with
    | some (.object values) => values.map (·.1)
    | _ => "node" :: kind.attributes.map (·.1) ++ kind.parts ++ kind.event?.toList) ++ kind.shared

/-- The fields that count in the end. One that replaces all attributes stands for fields of its own and
makes those before it void. -/
def counted (fields : List (String × Value)) : List (String × Value) :=
  fields.foldl (fun done x =>
    match x.2 with
    | .object values => if x.1 = "__dict__" then values else done ++ [x]
    | _ => done ++ [x]) []

/-- What no component lets be set: what it is, who refers to it weakly, and all its attributes at once
by anything but an object. -/
inductive Fixed (x : String × Value) : Failure → Prop
  | itself (h : x.1 = "__class__") : Fixed x .wrongKind
  | references (h : x.1 = "__weakref__") : Fixed x .noAttribute
  | attributes (h : x.1 = "__dict__") (hv : ∀ fields, x.2 ≠ .object fields) : Fixed x .wrongKind

/-- Why a field cannot be taken over after others. -/
inductive Refuses (kind : ComponentKind) (before : List (String × Value)) (x : String × Value) :
    Failure → Prop
  | unknown (htype : x.1 ≠ "type") (hpart : x.1 ∉ kind.parts) (h : x.1 ∉ namesAfter kind before) :
    Refuses kind before x (.value (.unknownField kind.label x.1))
  | fixed {e : Failure} (h : Fixed x e) : Refuses kind before x e

/-- Why the first field that is refused cannot be taken over. -/
inductive RefusesFirst (kind : ComponentKind) :
    List (String × Value) → List (String × Value) → Failure → Prop
  | here {before fields : List (String × Value)} {x : String × Value} {e : Failure}
      (h : Refuses kind before x e) : RefusesFirst kind before (x :: fields) e
  | later {before fields : List (String × Value)} {x : String × Value} {e : Failure}
      (hx : ∀ e, ¬ Refuses kind before x e) (h : RefusesFirst kind (before ++ [x]) fields e) :
    RefusesFirst kind before (x :: fields) e

/-- What a component is like that took fields over. -/
structure Took (kind : ComponentKind) (fields : List (String × Value)) (c : Component) : Prop where
  kind_eq : c.kind = kind
  parts : c.parts = .empty
  names : ∀ name, c.has name = true ↔ name ∈ namesAfter kind fields
  values : ∀ name ∈ ["type_name", "node_refs", "pending_refs"],
    c.attributes.get? name = Value.field? name (counted fields)

lemma has_iff (hparts : c.parts = .empty) : c.has name = true ↔
    (c.attributes.get? name).isSome = true ∨
      (c.listeners.isSome = true ∧ c.kind.event? = some name) ∨ name ∈ c.kind.shared := by
  have hheld : c.held? name = (c.attributes.get? name).map .value := by
    rw [held?, hparts]
    rfl
  rw [has, hheld, Option.isSome_map, Bool.or_eq_true, Bool.or_eq_true, Bool.and_eq_true, beq_iff_eq,
    List.contains_iff_mem, or_assoc]

lemma took_new (kind : ComponentKind) : Took kind [] (new kind) where
  kind_eq := rfl
  parts := rfl
  names name := by
    have hattributes : ((new kind).attributes.get? name).isSome = true ↔
        name ∈ "node" :: kind.attributes.map (·.1) ++ kind.parts := by
      rw [new, Table.get?, Table.lookup_isSome]
      simp
    have hevent : (new kind).listeners.isSome = true ∧ (new kind).kind.event? = some name ↔
        name ∈ kind.event?.toList := by
      rw [Option.mem_toList, new, Option.isSome_map]
      exact ⟨And.right, fun h => ⟨Option.isSome_of_eq_some h, h⟩⟩
    rw [has_iff rfl, hattributes, hevent, namesAfter]
    simp only [Value.field?, List.reverse_nil, List.find?_nil, Option.map_none, List.mem_append]
    exact or_assoc.symm
  values name hname := (kind.told_not_mem name hname).2.2

lemma field?_dict_append (hx : x.1 ≠ "__dict__") :
    Value.field? "__dict__" (before ++ [x]) = Value.field? "__dict__" before := by
  rw [Value.field?_append, Value.field?_singleton, if_neg hx]
  rfl

lemma counted_append (fields : List (String × Value)) (x : String × Value) :
    counted (fields ++ [x]) = match x.2 with
      | .object values => if x.1 = "__dict__" then values else counted fields ++ [x]
      | _ => counted fields ++ [x] := by
  rw [counted, List.foldl_append]
  rfl

lemma counted_append_of_ne (hx : x.1 ≠ "__dict__") : counted (before ++ [x]) = counted before ++ [x] := by
  rw [counted_append]
  split
  · rw [if_neg hx]
  · rfl

lemma setField_eq_error : c.setField x.1 x.2 = .error e ↔ Fixed x e := by
  unfold setField
  split_ifs with hclass href hdict
  · refine ⟨fun he => ?_, fun hx => ?_⟩
    · cases he
      exact .itself hclass
    · cases hx with
      | itself => rfl
      | references h => exact absurd (hclass.symm.trans h) (by decide)
      | attributes h => exact absurd (hclass.symm.trans h) (by decide)
  · refine ⟨fun he => ?_, fun hx => ?_⟩
    · cases he
      exact .references href
    · cases hx with
      | itself h => exact absurd h hclass
      | references => rfl
      | attributes h => exact absurd (href.symm.trans h) (by decide)
  · refine ⟨fun he => ?_, fun hx => ?_⟩
    · split at he
      · cases he
      · next hv =>
        cases he
        exact .attributes hdict hv
    · cases hx with
      | itself h => exact absurd h hclass
      | references h => exact absurd h href
      | attributes _ hv =>
        split
        · next fields hfields => exact absurd hfields (hv fields)
        · rfl
  · refine ⟨fun he => (by cases he), fun hx => ?_⟩
    cases hx with
    | itself h => exact absurd h hclass
    | references h => exact absurd h href
    | attributes h => exact absurd h hdict

/-- Every component has what cannot be set, and has it neither as its type nor as a part. -/
lemma Fixed.shared (h : Fixed x e) (kind : ComponentKind) (before : List (String × Value)) :
    x.1 ≠ "type" ∧ x.1 ∉ kind.parts ∧ x.1 ∈ namesAfter kind before := by
  have hshared : ∀ n ∈ ["__class__", "__weakref__", "__dict__"],
      n ≠ "type" ∧ n ∉ kind.parts ∧ n ∈ kind.shared := by
    cases kind <;> decide
  have hname : x.1 ∈ ["__class__", "__weakref__", "__dict__"] := by
    cases h with
    | itself h => rw [h]; decide
    | references h => rw [h]; decide
    | attributes h => rw [h]; decide
  obtain ⟨htype, hpart, hmem⟩ := hshared _ hname
  exact ⟨htype, hpart, List.mem_append_right _ hmem⟩

lemma has_setAttribute (hparts : c.parts = .empty) (hname : c.has name = true) (v : Value)
    (n : String) : (c.setAttribute name v).has n = true ↔ c.has n = true := by
  have hparts' : (c.setAttribute name v).parts = .empty := by
    rw [setAttribute, hparts]
    rfl
  rw [has_iff hparts', has_iff hparts, setAttribute, Table.get?_put]
  by_cases hn : name = n
  · subst hn
    rw [if_pos rfl]
    exact iff_of_true (.inl rfl) ((has_iff hparts).mp hname)
  · rw [if_neg hn]
    dsimp only
    split
    · next hevent =>
      have hother : c.kind.event? ≠ some n := fun h => hn (Option.some.inj (hevent.symm.trans h))
      simp [hother]
    · rfl

namespace Took

variable (h : Took kind before c)
include h

/-- A field is refused for one reason. -/
lemma takeField_eq_error : c.takeField x.1 x.2 = .error e ↔ Refuses kind before x e := by
  rw [takeField, h.kind_eq]
  by_cases hskip : x.1 = "type" ∨ kind.parts.contains x.1 = true
  · rw [if_pos hskip]
    rw [List.contains_iff_mem] at hskip
    refine ⟨fun h => (by cases h), fun hx => ?_⟩
    cases hx with
    | unknown htype hpart => exact absurd hskip (not_or.mpr ⟨htype, hpart⟩)
    | fixed hx =>
      obtain ⟨htype, hpart, -⟩ := hx.shared kind before
      exact absurd hskip (not_or.mpr ⟨htype, hpart⟩)
  · rw [if_neg hskip]
    rw [List.contains_iff_mem, not_or] at hskip
    by_cases hhas : c.has x.1 = true
    · rw [if_pos hhas, setField_eq_error]
      refine ⟨.fixed, fun hx => ?_⟩
      cases hx with
      | unknown _ _ hno => exact absurd ((h.names _).mp hhas) hno
      | fixed hx => exact hx
    · rw [if_neg hhas]
      rw [h.names] at hhas
      refine ⟨fun he => ?_, fun hx => ?_⟩
      · cases he
        exact .unknown hskip.1 hskip.2 hhas
      · cases hx with
        | unknown => rfl
        | fixed hx => exact absurd (hx.shared kind before).2.2 hhas

/-- One more field is taken over. -/
lemma takeField (hd : c.takeField x.1 x.2 = .ok d) : Took kind (before ++ [x]) d := by
  rw [Component.takeField, h.kind_eq] at hd
  by_cases hskip : x.1 = "type" ∨ kind.parts.contains x.1 = true
  · rw [if_pos hskip] at hd
    cases hd
    rw [List.contains_iff_mem] at hskip
    have hother : ∀ n, n ≠ "type" → n ∉ kind.parts → x.1 ≠ n := fun n htype hpart hname =>
      (hname ▸ hskip).elim htype hpart
    have hdict : x.1 ≠ "__dict__" :=
      hother _ (by decide) fun hpart => kind.part_ne _ hpart (by decide)
    refine ⟨h.kind_eq, h.parts, fun name => ?_, fun name hname => ?_⟩
    · rw [h.names, namesAfter, namesAfter, field?_dict_append hdict]
    · obtain ⟨htype, hpart, -⟩ := kind.told_not_mem name hname
      rw [h.values name hname, counted_append_of_ne hdict, Value.field?_append,
        Value.field?_singleton, if_neg (hother name htype hpart)]
      rfl
  · rw [if_neg hskip] at hd
    split at hd
    · next hhas =>
      obtain ⟨hkind, ⟨hdict, rfl⟩ | ⟨hdict, values, hvalues, rfl⟩⟩ := setField_eq_ok hd
      · refine ⟨h.kind_eq, by rw [setAttribute, h.parts]; rfl, fun name => ?_, fun name hname => ?_⟩
        · rw [has_setAttribute h.parts hhas, h.names, namesAfter, namesAfter, field?_dict_append hdict]
        · rw [setAttribute, Table.get?_put, h.values name hname, counted_append_of_ne hdict,
            Value.field?_append, Value.field?_singleton]
          split <;> rfl
      · have hfield : Value.field? "__dict__" (before ++ [x]) = some (.object values) := by
          rw [Value.field?_append, Value.field?_singleton, if_pos hdict, hvalues]
          rfl
        refine ⟨h.kind_eq, h.parts, fun name => ?_, fun name _ => ?_⟩
        · have hparts : Component.parts ⟨c.kind, .ofList values, c.parts, none⟩ = .empty := h.parts
          rw [has_iff hparts, Value.get?_ofList, Value.field?_isSome, namesAfter, hfield,
            List.mem_append, h.kind_eq]
          simp
        · rw [Value.get?_ofList, counted_append, hvalues]
          dsimp only
          rw [if_pos hdict]
    · cases hd

end Took

/-! ### All fields -/

namespace Took

/-- Taking fields over fails at the first one that is refused. -/
lemma takeFields_eq_error (h : Took kind before c) :
    c.takeFields fields = .error e ↔ RefusesFirst kind before fields e := by
  induction fields generalizing before c with
  | nil => exact ⟨fun h => (by cases h), fun h => (by cases h)⟩
  | cons x fields ih =>
    rw [Component.takeFields]
    cases hx : c.takeField x.1 x.2 with
    | ok d =>
      have hnone : ∀ e, ¬ Refuses kind before x e := fun e he => by
        rw [h.takeField_eq_error.mpr he] at hx
        cases hx
      dsimp only
      rw [ih (h.takeField hx)]
      refine ⟨.later hnone, fun hfirst => ?_⟩
      cases hfirst with
      | here hx => exact absurd hx (hnone e)
      | later _ hfirst => exact hfirst
    | error e' =>
      have hrefuses := h.takeField_eq_error.mp hx
      refine ⟨fun he => ?_, fun hfirst => ?_⟩
      · cases he
        exact .here hrefuses
      · cases hfirst with
        | here h' => rw [← hx, h.takeField_eq_error.mpr h']
        | later hnone => exact absurd hrefuses (hnone e')

lemma takeFields (h : Took kind before c) (hd : c.takeFields fields = .ok d) :
    Took kind (before ++ fields) d := by
  induction fields generalizing before c with
  | nil =>
    cases hd
    rwa [List.append_nil]
  | cons x fields ih =>
    rw [Component.takeFields] at hd
    split at hd
    · next c' hc' =>
      rw [List.append_cons]
      exact ih (h.takeField hc') hd
    · cases hd

end Took

lemma took_of_takeFields (h : (new kind).takeFields fields = .ok c) : Took kind fields c :=
  (took_new kind).takeFields h

/-! ### Entries -/

lemma kindOf_eq_error (h : ∀ kind : ComponentKind, v ≠ .text kind.label) : kindOf v =
    .error (if v.isKey then .value (.unknownComponent v.shown) else .wrongKind) := by
  cases v with
  | text s =>
    rw [kindOf]
    split
    · next k hk => exact absurd (congrArg Value.text (ComponentKind.label_of_ofLabel? hk).symm) (h k)
    · rfl
  | _ => rfl

/-- The type that an entry gives; anything but a name and an object is no entry. -/
def typeOf? : Value → Option Value
  | .text s => some (.text s)
  | .object fields => some ((Value.field? "type" fields).getD .null)
  | _ => none

/-- The description puts other values in the place of what a node needs of a component: a name of its
type that can be a key, the operation that tells its parts, and the list of their names. -/
inductive Overwrites (fields : List (String × Value)) : Prop
  | typeName (v : Value) (h : Value.field? "type_name" (counted fields) = some v)
      (hv : v.isKey = false)
  | pendingParts (v : Value) (h : Value.field? "pending_refs" (counted fields) = some v)
  | partNames (v : Value) (h : Value.field? "node_refs" (counted fields) = some v)
      (hv : ∀ xs, elements? v = some xs → ∃ x ∈ xs, x.isKey = false)

/-- The names of the parts of a component that took fields over. -/
def partsNamed (kind : ComponentKind) (fields : List (String × Value)) : List Value :=
  match Value.field? "node_refs" (counted fields) with
  | none => kind.parts.map .text
  | some names => (elements? names).getD []

namespace Took

variable (h : Took kind fields c)
include h

lemma isKey_label : c.label.isKey = false ↔
    ∃ v, Value.field? "type_name" (counted fields) = some v ∧ v.isKey = false := by
  rw [label, h.values _ (by decide)]
  cases Value.field? "type_name" (counted fields) with
  | none => simp [Value.isKey]
  | some v => simp

lemma isDisabled_pending : c.isDisabled "pending_refs" = true ↔
    ∃ v, Value.field? "pending_refs" (counted fields) = some v := by
  have hheld : c.held? "pending_refs" = (c.attributes.get? "pending_refs").map .value := by
    rw [held?, h.parts]
    rfl
  rw [isDisabled, hheld, Option.isSome_map, h.values _ (by decide), Option.isSome_iff_exists]

lemma all_partNames : (c.partNames?.any fun names => names.all Value.isKey) = false ↔
    ∃ v, Value.field? "node_refs" (counted fields) = some v ∧
      ∀ xs, elements? v = some xs → ∃ x ∈ xs, x.isKey = false := by
  rw [partNames?, h.values _ (by decide)]
  cases Value.field? "node_refs" (counted fields) with
  | none => simp [Value.isKey]
  | some v =>
    cases hxs : elements? v <;> simp [hxs]

lemma overwrites_iff : (c.label.isKey && c.tellsParts) = false ↔ Overwrites fields := by
  rw [Bool.and_eq_false_iff, tellsParts, Bool.and_eq_false_iff, Bool.not_eq_false', h.isKey_label,
    h.isDisabled_pending, h.all_partNames]
  constructor
  · rintro (⟨v, hv, hkey⟩ | ⟨v, hv⟩ | ⟨v, hv, hnames⟩)
    · exact .typeName v hv hkey
    · exact .pendingParts v hv
    · exact .partNames v hv hnames
  · rintro (⟨v, hv, hkey⟩ | ⟨v, hv⟩ | ⟨v, hv, hnames⟩)
    · exact .inl ⟨v, hv, hkey⟩
    · exact .inr (.inl ⟨v, hv⟩)
    · exact .inr (.inr ⟨v, hv, hnames⟩)

lemma partNames?_getD : c.partNames?.getD [] = partsNamed kind fields := by
  rw [partNames?, partsNamed, h.values _ (by decide), h.kind_eq]
  cases Value.field? "node_refs" (counted fields) <;> rfl

end Took

/-- Why no component is made for a node from an entry. -/
inductive Rejects : Value → Failure → Prop
  | noEntry {v : Value} (h : typeOf? v = none) : Rejects v .noAttribute
  | unknownType {v t : Value} (ht : typeOf? v = some t) (hkey : t.isKey = true)
      (h : ∀ kind : ComponentKind, t ≠ .text kind.label) :
    Rejects v (.value (.unknownComponent t.shown))
  | wrongType {v t : Value} (ht : typeOf? v = some t) (hkey : t.isKey = false) : Rejects v .wrongKind
  | field {kind : ComponentKind} {fields : List (String × Value)} {e : Failure}
      (ht : typeOf? (.object fields) = some (.text kind.label))
      (hfields : RefusesFirst kind [] fields e) : Rejects (.object fields) e
  | unfit {kind : ComponentKind} {fields : List (String × Value)}
      (ht : typeOf? (.object fields) = some (.text kind.label))
      (hfields : ∀ e, ¬ RefusesFirst kind [] fields e) (h : Overwrites fields) :
    Rejects (.object fields) .wrongKind

lemma RefusesFirst.not_config (h : RefusesFirst kind before fields e) (fault : ConfigFault) :
    e ≠ .config fault := by
  induction h with
  | here hx =>
    cases hx with
    | unknown => exact fun h => (by cases h)
    | fixed hx => cases hx <;> exact fun h => (by cases h)
  | later _ _ ih => exact ih

/-- What is wrong with an entry is not reported for the description yet. -/
lemma Rejects.not_config (h : Rejects v e) (fault : ConfigFault) : e ≠ .config fault := by
  cases h with
  | field _ hfields => exact hfields.not_config fault
  | _ => exact fun h => (by cases h)

lemma ofEntry_of_no_kind {t : Value} (ht : typeOf? v = some t)
    (h : ∀ kind : ComponentKind, t ≠ .text kind.label) :
    ofEntry v = .error (if t.isKey then .value (.unknownComponent t.shown) else .wrongKind) := by
  have hkind := kindOf_eq_error h
  cases v with
  | text s =>
    cases ht
    rw [ofEntry, ofDescription, hkind]
    rfl
  | object fields =>
    cases ht
    rw [ofEntry, ofDescription, hkind]
  | _ => cases ht

lemma ofEntry_object (ht : typeOf? (.object fields) = some (.text kind.label)) :
    ofEntry (.object fields) =
      match (new kind).takeFields fields with
      | .ok c => if c.label.isKey && c.tellsParts then .ok c else .error .wrongKind
      | .error e => .error e := by
  rewrite [ofEntry, ofDescription, Option.some.inj ht, kindOf_label]
  rfl

/-- A name alone makes a component that a node takes over. -/
lemma ofEntry_label (kind : ComponentKind) : ofEntry (.text kind.label) = .ok (new kind) := by
  have hfit : ((new kind).label.isKey && (new kind).tellsParts) = true := by
    rw [← Bool.not_eq_false, (took_new kind).overwrites_iff]
    rintro (⟨v, hv⟩ | ⟨v, hv⟩ | ⟨v, hv⟩) <;> cases hv
  rw [ofEntry, ofDescription, kindOf_label]
  exact if_pos hfit

/-- An object that gives a kind is rejected for one of its fields, or for what it overwrites. -/
lemma ofEntry_object_eq_error (ht : typeOf? (.object fields) = some (.text kind.label)) :
    ofEntry (.object fields) = .error e ↔ RefusesFirst kind [] fields e ∨
      (∀ e, ¬ RefusesFirst kind [] fields e) ∧ Overwrites fields ∧ e = .wrongKind := by
  have hfirst : ∀ e, (new kind).takeFields fields = .error e ↔ RefusesFirst kind [] fields e :=
    fun _ => (took_new kind).takeFields_eq_error
  rw [ofEntry_object ht]
  simp only [← hfirst]
  cases hc : (new kind).takeFields fields with
  | error e' => simp
  | ok c =>
    rw [← (took_of_takeFields hc).overwrites_iff]
    dsimp only
    cases c.label.isKey && c.tellsParts
    · simpa using eq_comm
    · simp

lemma rejects_of_ofEntry (h : ofEntry v = .error e) : Rejects v e := by
  cases ht : typeOf? v with
  | none =>
    cases v with
    | text s => cases ht
    | object fields => cases ht
    | _ =>
      cases h
      exact .noEntry rfl
  | some t =>
    by_cases hkind : ∃ kind : ComponentKind, t = .text kind.label
    · obtain ⟨kind, rfl⟩ := hkind
      cases v with
      | text s =>
        cases ht
        rw [ofEntry_label] at h
        cases h
      | object fields =>
        rcases (ofEntry_object_eq_error ht).mp h with hfields | ⟨hfields, hover, rfl⟩
        · exact .field ht hfields
        · exact .unfit ht hfields hover
      | _ => cases ht
    · rw [not_exists] at hkind
      rw [ofEntry_of_no_kind ht hkind] at h
      cases h
      split
      · next hkey => exact .unknownType ht hkey hkind
      · next hkey => exact .wrongType ht (Bool.eq_false_iff.mpr hkey)

/-- An entry that makes no component is rejected for one reason. -/
lemma ofEntry_eq_error : ofEntry v = .error e ↔ Rejects v e := by
  refine ⟨rejects_of_ofEntry, fun h => ?_⟩
  cases h with
  | noEntry h =>
    cases v with
    | text s => cases h
    | object fields => cases h
    | _ => rfl
  | unknownType ht hkey h => rw [ofEntry_of_no_kind ht h, if_pos hkey]
  | wrongType ht hkey =>
    rw [ofEntry_of_no_kind ht (by rintro kind rfl; cases hkey), if_neg (by rw [hkey]; decide)]
  | field ht hfields => exact (ofEntry_object_eq_error ht).mpr (.inl hfields)
  | unfit ht hfields hover => exact (ofEntry_object_eq_error ht).mpr (.inr ⟨hfields, hover, rfl⟩)

/-! ### Parts -/

/-- A part of the component that the entry describes is given by something that is no path. What took the
place of all attributes is given even if it is empty. -/
inductive Misleads : Value → Prop
  | part {kind : ComponentKind} {fields : List (String × Value)} {name : String} {w : Value}
      (ht : typeOf? (.object fields) = some (.text kind.label))
      (hname : .text name ∈ partsNamed kind fields) (hw : Value.field? name fields = some w)
      (hgiven : w.isTruthy = true ∨ name = "__dict__") (hpath : ∀ path, w ≠ .text path) :
    Misleads (.object fields)

lemma mem_pendingParts {p : String × Value} : p ∈ c.pendingParts (.object fields) ↔
    .text p.1 ∈ c.partNames?.getD [] ∧ Value.field? p.1 fields = some p.2 ∧
      (p.2.isTruthy = true ∨ p.1 = "__dict__") := by
  have hgiven : ∀ name v, isGiven name v = true ↔ v.isTruthy = true ∨ name = "__dict__" := by
    intro name v
    rw [isGiven, Bool.or_eq_true, beq_iff_eq]
  have hnames : ∀ name, name ∈ ((c.partNames?.getD []).filterMap Value.text?).eraseDups ↔
      .text name ∈ c.partNames?.getD [] := by
    intro name
    rw [List.mem_eraseDups, List.mem_filterMap]
    constructor
    · rintro ⟨v, hv, hname⟩
      cases v with
      | text s =>
        cases hname
        exact hv
      | _ => cases hname
    · exact fun h => ⟨_, h, rfl⟩
  rw [pendingParts, List.mem_filterMap]
  simp only [hnames]
  constructor
  · rintro ⟨name, hname, h⟩
    split at h
    · next w hw =>
      split at h
      · next hw' =>
        cases h
        exact ⟨hname, hw, (hgiven _ _).mp hw'⟩
      · cases h
    · cases h
  · rintro ⟨hname, hw, hw'⟩
    refine ⟨p.1, hname, ?_⟩
    rw [hw]
    dsimp only
    rw [if_pos ((hgiven _ _).mpr hw')]

lemma misleads_iff (h : ofEntry v = .ok c) :
    Misleads v ↔ ∃ p ∈ c.pendingParts v, ∀ path, p.2 ≠ .text path := by
  obtain ⟨fields, hfields, ⟨rfl, rfl⟩ | ⟨rfl, htype⟩⟩ := ofDescription_eq_ok (ofEntry_eq_ok.mp h).1
  · refine ⟨fun h => (by cases h), ?_⟩
    rintro ⟨p, hp, -⟩
    cases hp
  · have hnamed := (took_of_takeFields hfields).partNames?_getD
    have htype' : typeOf? (.object fields) = some (.text c.kind.label) := by
      rw [typeOf?, htype]
      rfl
    constructor
    · rintro ⟨ht, hname, hw, hgiven, hpath⟩
      rw [htype'] at ht
      obtain rfl := ComponentKind.label_injective (Value.text.inj (Option.some.inj ht))
      exact ⟨(_, _), mem_pendingParts.mpr ⟨hnamed ▸ hname, hw, hgiven⟩, hpath⟩
    · rintro ⟨p, hp, hpath⟩
      obtain ⟨hname, hw, hgiven⟩ := mem_pendingParts.mp hp
      exact .part htype' (hnamed ▸ hname) hw hgiven hpath

end Component

end SceneBindings
