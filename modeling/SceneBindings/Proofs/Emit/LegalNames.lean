import SceneBindings.Proofs.Emit.Agreement

/-!
The names of the classes, properties and hooks that are made from a registry. Each can stand in a
unit as an identifier, and no two names of one kind that share a scope are equal.
-/

namespace SceneBindings

namespace Naming

open Text

/-- What can be used as a name in a unit. -/
structure IsLegal (s : List Char) : Prop where
  chars : ∀ c ∈ s, isIdentifierChar c = true
  head : ∃ c r, s = c :: r ∧ c.isDigit = false
  free : s ∉ keywords

lemma head_sanitize (s : List Char) : ∃ c r, sanitize s = c :: r ∧ c.isDigit = false := by
  rw [sanitize]
  split
  · exact ⟨'U', _, rfl, rfl⟩
  · next c r _ =>
    split
    · exact ⟨'_', _, rfl, rfl⟩
    · next hdigit => exact ⟨c, r, rfl, eq_false_of_ne_true hdigit⟩

lemma head_escapeKeyword {s : List Char} (hs : ∃ c r, s = c :: r ∧ c.isDigit = false) :
    ∃ c r, escapeKeyword s = c :: r ∧ c.isDigit = false := by
  obtain ⟨c, r, rfl, hc⟩ := hs
  rw [escapeKeyword]
  split
  · exact ⟨c, r ++ ['_'], rfl, hc⟩
  · exact ⟨c, r, rfl, hc⟩

/-- An escaped keyword is no keyword, since none of them ends in an underscore. -/
lemma escapeKeyword_not_mem (s : List Char) : escapeKeyword s ∉ keywords := by
  have hlast : ∀ k ∈ keywords, k.getLast? ≠ some '_' := by decide +kernel
  rw [escapeKeyword]
  split
  · exact fun hmem => hlast _ hmem List.getLast?_concat
  · next hnot => exact fun hmem => hnot (List.contains_iff_mem.mpr hmem)

lemma isLegal_escapeKeyword_sanitize (s : List Char) : IsLegal (escapeKeyword (sanitize s)) where
  chars _ hc := isIdentifierChar_escapeKeyword (fun _ => isIdentifierChar_sanitize) hc
  head := head_escapeKeyword (head_sanitize s)
  free := escapeKeyword_not_mem _

/-- No keyword begins like a hook. -/
lemma isLegal_on {tail : List Char} (htail : ∀ c ∈ tail, isIdentifierChar c = true) :
    IsLegal ("on_".toList ++ tail) where
  chars c hc := by
    have hon : ∀ c ∈ "on_".toList, isIdentifierChar c = true := List.all_eq_true.mp (by decide)
    exact (List.mem_append.mp hc).elim (hon c) (htail c)
  head := ⟨'o', _, rfl, rfl⟩
  free hmem := by
    have hbegin : ∀ k ∈ keywords, ¬ "on_".toList <+: k := by decide +kernel
    exact hbegin _ hmem (List.prefix_append _ _)

end Naming

open Naming

/-- Names that one scope can bind, each once. -/
structure Bindable (names : List String) : Prop where
  distinct : names.Nodup
  legal : ∀ name ∈ names, IsLegal name.toList

lemma isLegal_name (s : String) : IsLegal (Name.escapeKeyword (Name.sanitize s)).toList := by
  rw [Name.escapeKeyword, Name.sanitize, Name.ofChars, Name.ofChars, String.toList_ofList,
    String.toList_ofList]
  exact isLegal_escapeKeyword_sanitize s.toList

variable (f : Forest) (g : Registry)

lemma bindable_classNames : Bindable ((PanelGroup.build f g).1.map (·.className)) where
  distinct := PanelGroup.build_classNames
  legal name h := by
    obtain ⟨group, -, rfl⟩ := List.mem_map.mp h
    exact isLegal_name group.key

lemma bindable_properties {group : PanelGroup} (h : group ∈ (PanelGroup.build f g).1) :
    Bindable (group.elements.map (·.property)) where
  distinct := (PanelGroup.build_madeOf h).distinct
  legal name hname := by
    obtain ⟨e, he, rfl⟩ := List.mem_map.mp hname
    obtain ⟨r, -, hr⟩ := (PanelGroup.build_madeOf h).elements e he
    exact hr.property ▸ isLegal_name _

lemma bindable_hooks : Bindable ((Signature.collect (PanelGroup.build f g).1).1.map (·.name)) where
  distinct := Signature.collect_names _
  legal name h := by
    obtain ⟨s, hs, rfl⟩ := List.mem_map.mp h
    obtain ⟨tail, -, htail, hname⟩ := (Signature.wired_collect hs).name
    rw [hname, String.toList_ofList]
    exact isLegal_on htail

/-- **The names of the units.** Sanitizing twice is sanitizing once, and the names that the groups
of a registry give to classes, to properties and to hooks are legal and distinct. -/
theorem generated_names :
    (∀ s, Name.sanitize (Name.sanitize s) = Name.sanitize s) ∧
      Bindable ((PanelGroup.build f g).1.map (·.className)) ∧
      (∀ group ∈ (PanelGroup.build f g).1, Bindable (group.elements.map (·.property))) ∧
      Bindable ((Signature.collect (PanelGroup.build f g).1).1.map (·.name)) :=
  ⟨Name.sanitize_sanitize, bindable_classNames f g, fun _ => bindable_properties f g,
    bindable_hooks f g⟩

/-- A registry of one button. Its class and its property would be called like keywords. -/
def importRegistry : Registry :=
  { Registry.blank .empty with
    store := [⟨"class_Panel_import", "class_Panel_import", .button, .never⟩]
    categories := [⟨"Button", [0]⟩] }

def importGroup : PanelGroup :=
  ⟨"class", none, [⟨"import_", ⟨"class_Panel_import", "class_Panel_import", .button, .never⟩,
    "Button"⟩]⟩

/-- Both names are escaped. -/
theorem generated_names_of_import :
    importGroup ∈ (PanelGroup.build .empty importRegistry).1 ∧ importGroup.className = "class_" ∧
      Bindable (importGroup.elements.map (·.property)) := by
  have hmem : importGroup ∈ (PanelGroup.build .empty importRegistry).1 := by decide +kernel
  exact ⟨hmem, by decide +kernel, (generated_names .empty importRegistry).2.2.1 importGroup hmem⟩

end SceneBindings
