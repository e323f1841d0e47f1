import SceneBindings.Proofs.Emit.Agreement

/-!
The names that the lines of a class of the library bind and read. A line is meant to read the names
of the module; it reads another thing if a line before it in the class binds that name.
-/

namespace SceneBindings.LineReading

open Emit HookScan Naming Text

/-! ### What is read -/

/-- Where a character stands: in code, in a literal, or after a backslash in a literal. -/
inductive Place where
  | code
  | literal (quote : Char)
  | escaped (quote : Char)
  deriving DecidableEq, Repr

def Place.next : Place → Char → Place
  | code, c => if c = '\'' ∨ c = '"' then literal c else code
  | literal q, c => if c = '\\' then escaped q else if c = q then code else literal q
  | escaped q, _ => literal q

/-- The characters of a text that stand outside of literals. -/
def codeFrom (p : Place) : List Char → List Char
  | [] => []
  | c :: s => (if p = .code ∧ p.next c = .code then [c] else []) ++ codeFrom (p.next c) s

def identifiers (s : List Char) : List String :=
  ((s.splitOnP fun c => !isIdentifierChar c).filter (· != [])).map String.ofList

/-- The name by which the lines of a class refer to the path of its panel. -/
def ownName : String := "PANEL_PATH"

/-- A statement of a class: the name that it binds, and the names that it reads from the module. -/
structure Statement where
  binds : String
  reads : List String
  deriving DecidableEq, Repr

/-- The statement that a line of a class makes. A method reads no name before it is called. -/
def statement? (line : String) : Option Statement :=
  match indented? " = " line with
  | some (name, value) =>
    some ⟨String.ofList name, (identifiers (codeFrom .code value)).filter (· != ownName)⟩
  | none => (nameAfter? "        def " line).map fun name => ⟨name, []⟩

/-- No line reads a name of the module that a line before it binds in the class. -/
def Uncaptured (ls : List String) : Prop :=
  (ls.filterMap statement?).Pairwise fun s t => s.binds ∉ t.reads

/-! ### Literals -/

lemma codeFrom_append (p : Place) (s t : List Char) :
    codeFrom p (s ++ t) = codeFrom p s ++ codeFrom (s.foldl Place.next p) t := by
  induction s generalizing p with
  | nil => rfl
  | cons c s ih => rw [List.cons_append, codeFrom, codeFrom, ih, List.append_assoc, List.foldl_cons]

/-- A text that shows no code and leads from one place to another. -/
structure Hidden (p : Place) (s : List Char) (p' : Place) : Prop where
  code : codeFrom p s = []
  ends : s.foldl Place.next p = p'

namespace Hidden

lemma append {p p' p'' : Place} {s t : List Char} (hs : Hidden p s p') (ht : Hidden p' t p'') :
    Hidden p (s ++ t) p'' where
  code := by rw [codeFrom_append, hs.code, hs.ends, ht.code, List.append_nil]
  ends := by rw [List.foldl_append, hs.ends, ht.ends]

lemma cons {p p' p'' : Place} {c : Char} {s : List Char} (hp : p ≠ .code) (hc : p.next c = p')
    (hs : Hidden p' s p'') : Hidden p (c :: s) p'' where
  code := by rw [codeFrom, if_neg fun h => hp h.1, hc, hs.code, List.append_nil]
  ends := by rw [List.foldl_cons, hc, hs.ends]

lemma nil (p : Place) : Hidden p [] p := ⟨rfl, rfl⟩

variable {q : Char}

lemma escape (c : Char) : Hidden (.literal q) ['\\', c] (.literal q) := by
  have hback : (Place.literal q).next '\\' = .escaped q := by rw [Place.next, if_pos rfl]
  exact cons nofun hback (cons nofun rfl (nil _))

/-- Characters of a literal that neither end it nor begin an escape. -/
lemma ordinary {s : List Char} (hs : ∀ c ∈ s, c ≠ '\\' ∧ c ≠ q) :
    Hidden (.literal q) s (.literal q) := by
  induction s with
  | nil => exact .nil _
  | cons c s ih =>
    rw [List.forall_mem_cons] at hs
    refine .cons nofun ?_ (ih hs.2)
    rw [Place.next, if_neg hs.1.1, if_neg hs.1.2]

/-- The two quotes that enclose literals. -/
def IsQuote (q : Char) : Prop := q = '\'' ∨ q = '"'

lemma hex (hq : IsQuote q) (width n : Nat) :
    ∀ c ∈ Quoted.hex width n, c ≠ '\\' ∧ c ≠ q := by
  have hdigit : ∀ n < 16, Quoted.hexDigit n ≠ '\\' ∧ Quoted.hexDigit n ≠ '\'' ∧
      Quoted.hexDigit n ≠ '"' := by decide
  induction width generalizing n with
  | zero => exact List.forall_mem_nil _
  | succ width ih =>
    rw [Quoted.hex, List.forall_mem_append, List.forall_mem_singleton]
    obtain ⟨hback, hsingle, hdouble⟩ := hdigit (n % 16) (Nat.mod_lt _ (by decide))
    refine ⟨ih _, hback, ?_⟩
    rcases hq with rfl | rfl
    · exact hsingle
    · exact hdouble

lemma encodeChar (hq : IsQuote q) (c : Char) :
    Hidden (.literal q) (Quoted.encodeChar q c) (.literal q) := by
  have hcode : ∀ x width n, Hidden (.literal q) ('\\' :: x :: Quoted.hex width n) (.literal q) :=
    fun x width n => (escape x).append (.ordinary (hex hq width n))
  rw [Quoted.encodeChar]
  split
  · exact escape c
  · next hc =>
    rw [not_or] at hc
    split_ifs
    · exact escape 'n'
    · exact escape 'r'
    · exact escape 't'
    · exact .ordinary (List.forall_mem_singleton.mpr ⟨hc.2, hc.1⟩)
    · rw [Quoted.escapeCode]
      split_ifs
      · exact hcode _ _ _
      · exact hcode _ _ _
      · exact hcode _ _ _

lemma isQuote_quoteOf (s : List Char) : IsQuote (Quoted.quoteOf s) := by
  rw [Quoted.quoteOf]
  split
  · exact .inr rfl
  · exact .inl rfl

/-- A literal shows no code, whatever it denotes. -/
lemma encode (s : List Char) : Hidden .code (Quoted.encode s) .code := by
  have hq := isQuote_quoteOf s
  have hbody : Hidden (.literal (Quoted.quoteOf s))
      (s.flatMap (Quoted.encodeChar (Quoted.quoteOf s))) (.literal (Quoted.quoteOf s)) := by
    generalize Quoted.quoteOf s = q at hq
    induction s with
    | nil => exact .nil _
    | cons c s ih => exact (encodeChar hq c).append ih
  have hopen : Hidden .code [Quoted.quoteOf s] (.literal (Quoted.quoteOf s)) := by
    rcases hq with h | h <;> rw [h] <;> exact ⟨rfl, rfl⟩
  have hclose : Hidden (.literal (Quoted.quoteOf s)) [Quoted.quoteOf s] .code := by
    rcases hq with h | h <;> rw [h] <;> exact ⟨rfl, rfl⟩
  exact (hopen.append hbody).append hclose

end Hidden

/-! ### The statements of a group -/

/-- The types that accessors fetch. -/
def elementTypes : List String :=
  Capability.all.map Capability.accessorType ++ [ComponentKind.scrollbar.label]

lemma accessorTypeOf_mem (f : Forest) (c : Capability) (k : Option Key) :
    f.accessorTypeOf c k ∈ elementTypes := by
  have htypes : c.accessorType ∈ elementTypes := by cases c <;> decide
  rw [Forest.accessorTypeOf.eq_def]
  split
  · split
    · decide
    · exact htypes
  · exact htypes

/-- The properties of a group are identifiers, and its types are known. -/
def Named (g : PanelGroup) : Prop :=
  ∀ e ∈ g.elements, IsIdentifier e.property ∧ e.accessor ∈ elementTypes

lemma named_build {f : Forest} {g : Registry} {group : PanelGroup}
    (h : group ∈ (PanelGroup.build f g).1) : Named group := by
  intro e he
  obtain ⟨r, -, hr⟩ := (PanelGroup.build_madeOf h).elements e he
  obtain ⟨k, hk⟩ := hr.accessor
  exact ⟨hr.property ▸ isIdentifier_escapeKeyword _, hk ▸ accessorTypeOf_mem f _ k⟩

/-- The names of the module that the line of an element reads. -/
def readsOf (e : GroupElement) : List String := ["ElementAccessor", "_binding", e.accessor]

/-- The statements by which a class shows and hides its panel. -/
def panelStatements : List Statement :=
  [⟨ownName, []⟩, ⟨"panel", ["ElementAccessor", "_binding", Capability.nodeType]⟩,
    ⟨"is_visible", ["PanelVisibility", "_binding"]⟩, ⟨"show", []⟩, ⟨"hide", []⟩, ⟨"toggle", []⟩]

def statementsOf (g : PanelGroup) : List Statement :=
  (if g.panel.isSome then panelStatements else []) ++ g.elements.map fun e => ⟨e.property, readsOf e⟩

/-- A line that begins like this makes no statement. -/
def beginsIdle (cs : List Char) : Bool :=
  cannotBegin " = " cs &&
    (!cs.isPrefixOf "        def ".toList && (expect? "        def ".toList cs).isNone)

lemma statement?_of_idle (cs : List Char) (h : beginsIdle cs = true) (m : String) :
    statement? (String.ofList cs ++ m) = none := by
  rw [beginsIdle, Bool.and_eq_true, Bool.and_eq_true, Bool.not_eq_true',
    Option.isNone_iff_eq_none] at h
  obtain ⟨hindent, hprefix, hexpect⟩ := h
  have hline : (String.ofList cs ++ m).toList = cs ++ m.toList := by
    rw [String.toList_append, String.toList_ofList]
  have hdef : nameAfter? "        def " (String.ofList cs ++ m) = none := by
    rw [nameAfter?, hline, expect?_append_eq_none hexpect hprefix, Option.map_none]
  rw [statement?, indented?_ofList_append hindent, hdef, Option.map_none]

lemma statement?_attribute {name : String} (hname : IsIdentifier name) (value : String) :
    statement? ("        " ++ name ++ " = " ++ value) =
      some ⟨name, (identifiers (codeFrom .code value.toList)).filter (· != ownName)⟩ := by
  have hread := indented?_self hname (p := " = ") rfl (by decide) value
  simp only [statement?, hread, String.ofList_toList]

/-- A literal between two pieces of code reads nothing. -/
lemma codeFrom_around {before after : String}
    (h : before.toList.foldl Place.next .code = .code) (path : String) :
    codeFrom .code (before ++ quoted path ++ after).toList =
      codeFrom .code before.toList ++ codeFrom .code after.toList := by
  have hpath := Hidden.encode path.toList
  have hquoted : (quoted path).toList = Quoted.encode path.toList := by
    rw [quoted, String.toList_ofList]
  rw [String.toList_append, String.toList_append, hquoted, codeFrom_append, codeFrom_append,
    List.foldl_append, h, hpath.code, hpath.ends, List.append_nil]

lemma statement?_accessorLine {e : GroupElement} (hproperty : IsIdentifier e.property)
    (haccessor : e.accessor ∈ elementTypes) :
    statement? (accessorLine e) = some ⟨e.property, readsOf e⟩ := by
  have hline : accessorLine e = "        " ++ e.property ++ " = " ++
      ("ElementAccessor(_binding, " ++ quoted e.reference.path ++ (", " ++ e.accessor ++ ")")) := by
    have hcall : " = ElementAccessor(_binding, " = " = " ++ "ElementAccessor(_binding, " := rfl
    simp only [accessorLine, hcall, String.append_assoc]
  have hreads : ∀ t ∈ elementTypes, (identifiers (codeFrom .code "ElementAccessor(_binding, ".toList ++
      codeFrom .code (", " ++ t ++ ")").toList)).filter (· != ownName) =
        ["ElementAccessor", "_binding", t] := by
    decide +kernel
  rw [hline, statement?_attribute hproperty, codeFrom_around (by decide),
    hreads _ haccessor, readsOf]

lemma statement?_panelPath (path : String) :
    statement? ("        PANEL_PATH = " ++ quoted path) = some ⟨ownName, []⟩ := by
  have hline : "        PANEL_PATH = " ++ quoted path =
      "        " ++ ownName ++ " = " ++ ("" ++ quoted path ++ "") := by
    rw [String.empty_append, String.append_empty]
    rfl
  have hname : IsIdentifier ownName := List.all_eq_true.mp (by decide)
  rw [hline, statement?_attribute hname, codeFrom_around rfl]
  rfl

lemma statements_panelLines (p : Reference) :
    (panelLines p).filterMap statement? = panelStatements := by
  have hidle : ∀ cs m, beginsIdle cs = true → statement? (String.ofList cs ++ m) = none :=
    fun cs m h => statement?_of_idle cs h m
  have hshow := hidle "            \"\"\"Show ".toList
    (p.name ++ ", hiding other panels unless hide_others is False.\"\"\"") (by decide)
  have hactivate := hidle "            _binding.set_panel_active(".toList
    (quoted p.path ++ ", True, hide_others, keep_last_panel)") (by decide)
  have hdeactivate := hidle "            _binding.set_panel_active(".toList
    (quoted p.path ++ ", False)") (by decide)
  have htoggle := hidle "            _binding.toggle_panel(".toList
    (quoted p.path ++ ")") (by decide)
  simp only [String.ofList_toList] at hshow hactivate hdeactivate htoggle
  have hpanel : statement? "        panel = ElementAccessor(_binding, PANEL_PATH, SceneNode)" =
    some ⟨"panel", ["ElementAccessor", "_binding", Capability.nodeType]⟩ := by decide +kernel
  have hvisible : statement? "        is_visible = PanelVisibility(_binding, PANEL_PATH)" =
    some ⟨"is_visible", ["PanelVisibility", "_binding"]⟩ := by decide +kernel
  have hblank : statement? "" = none := by decide
  have hstatic : statement? "        @staticmethod" = none := by decide
  have hdefs : statement? "        def show(hide_others: bool = True, keep_last_panel: bool = False):" =
      some ⟨"show", []⟩ ∧ statement? "        def hide():" = some ⟨"hide", []⟩ ∧
        statement? "        def toggle():" = some ⟨"toggle", []⟩ := by decide +kernel
  simp only [panelLines, String.append_assoc, List.filterMap_cons, statement?_panelPath, hpanel,
    hvisible, hblank, hstatic, hdefs, hshow, hactivate, hdeactivate, htoggle, List.filterMap_nil]
  rfl

lemma statements_elementLines {es : List GroupElement}
    (hes : ∀ e ∈ es, IsIdentifier e.property ∧ e.accessor ∈ elementTypes) (gap : Bool)
    (role : Option Capability) : (elementLines gap role es).filterMap statement? =
      es.map fun e => ⟨e.property, readsOf e⟩ := by
  induction es generalizing gap role with
  | nil => rfl
  | cons e es ih =>
    rw [List.forall_mem_cons] at hes
    have hblank : statement? "" = none := by decide
    have hheading : (if role = some e.reference.capability then []
        else linesIf gap [""] ++ ["        # " ++ e.reference.capability.label]).filterMap
          statement? = [] := by
      rw [List.filterMap_eq_nil_iff]
      split
      · exact List.forall_mem_nil _
      · rw [List.forall_mem_append, List.forall_mem_singleton]
        refine ⟨fun l hl => ?_, statement?_of_idle _ (by decide) _⟩
        rw [List.mem_singleton.mp (mem_of_mem_linesIf hl), hblank]
    rw [elementLines, List.filterMap_append, hheading, List.nil_append, List.filterMap_cons,
      statement?_accessorLine hes.1.1 hes.1.2, ih hes.2, List.map_cons]

lemma statements_groupBody {g : PanelGroup} (hg : Named g) :
    (groupBody g).filterMap statement? = statementsOf g := by
  rw [groupBody, statementsOf]
  cases g.panel with
  | none => exact statements_elementLines hg false none
  | some p =>
    rw [List.filterMap_append, statements_panelLines, statements_elementLines hg]
    rfl

/-- The lines of a group make the statements of its panel and then one for each element. -/
lemma statements_groupLines {g : PanelGroup} (hg : Named g) :
    (groupLines g).filterMap statement? = statementsOf g := by
  have hbody : (if (groupBody g).isEmpty then ["        pass"] else groupBody g).filterMap
      statement? = statementsOf g := by
    split
    · next hempty =>
      have hpass : ["        pass"].filterMap statement? = [] := by decide
      rw [hpass, ← statements_groupBody hg, List.isEmpty_iff.mp hempty, List.filterMap_nil]
    · exact statements_groupBody hg
  have hregion : statement? ("    # region " ++ g.key) = none :=
    statement?_of_idle "    # region ".toList (by decide) g.key
  have hclass : statement? ("    class " ++ (g.className ++ ":")) = none :=
    statement?_of_idle "    class ".toList (by decide) _
  have hdoc : statement? ("        \"\"\"" ++ (g.key ++ " panel and its UI elements\"\"\"")) = none :=
    statement?_of_idle "        \"\"\"".toList (by decide) _
  have hclosing : ["    # endregion", ""].filterMap statement? = [] := by decide
  have hblank : statement? "" = none := by decide
  rw [groupLines_eq, groupRest]
  simp only [String.append_assoc, List.filterMap_append, List.filterMap_cons, List.filterMap_nil,
    hregion, hclass, hdoc, hblank, hbody, hclosing, List.nil_append, List.append_nil]

/-- The names by which a class shows and hides its panel capture nothing. -/
lemma panelStatements_uncaptured : panelStatements.Pairwise (fun s t => s.binds ∉ t.reads) ∧
    ∀ s ∈ panelStatements, ∀ t ∈ elementTypes,
      s.binds ∉ ["ElementAccessor", "_binding", t] := by
  decide

/-- **What captures a name of the module in a class of the library.** Names of panels never do; an
element does if its property is called like the type that a later element fetches, or like one of the
two names that all accessors are made with. -/
theorem uncaptured_iff {f : Forest} {g : Registry} {group : PanelGroup}
    (h : group ∈ (PanelGroup.build f g).1) : Uncaptured (groupLines group) ↔
      group.elements.Pairwise fun e d => e.property ∉ readsOf d := by
  have hnamed := named_build h
  obtain ⟨hpanel, hcross⟩ := panelStatements_uncaptured
  have hbefore : ∀ s ∈ (if group.panel.isSome then panelStatements else []),
      ∀ t ∈ group.elements.map fun e => (⟨e.property, readsOf e⟩ : Statement), s.binds ∉ t.reads := by
    intro s hs t ht
    obtain ⟨e, he, rfl⟩ := List.mem_map.mp ht
    split at hs
    · exact hcross s hs e.accessor (hnamed e he).2
    · cases hs
  have hfirst : (if group.panel.isSome then panelStatements else []).Pairwise
      fun s t => s.binds ∉ t.reads := by
    split
    · exact hpanel
    · exact List.Pairwise.nil
  rw [Uncaptured, statements_groupLines hnamed, statementsOf, List.pairwise_append,
    List.pairwise_map]
  exact ⟨fun h => h.2.1, fun h => ⟨hfirst, h, hbefore⟩⟩

def menuReferences : List Reference :=
  [⟨"Menu_Button", "Menu_Button", .button, .never⟩, ⟨"Menu_Play", "Menu_Play", .button, .never⟩]

/-- Two buttons of one class. What is left of the name of the first is the name of its type. -/
def menuRegistry : Registry :=
  { Registry.blank .empty with store := menuReferences, categories := [⟨"Button", [0, 1]⟩] }

def menuGroup : PanelGroup :=
  ⟨"Menu", none, menuReferences.map fun r => ⟨PanelGroup.propertyName r.name, r, "Button"⟩⟩

lemma build_menuRegistry : (PanelGroup.build .empty menuRegistry).1 = [menuGroup] := by
  let numbered : List PanelGroup.Numbered := menuReferences.zipIdx.map .swap
  have hall : (menuRegistry.ids.map fun i => (i, menuRegistry.reference i)) = numbered := by
    decide
  have hgood : (numbered.filter fun r => isCanonicalPath r.2.path) = numbered := by decide
  have hkeys : ((numbered.map fun r => PanelGroup.keyOf r.2).eraseDups.mergeSort
    fun a b => decide (a ≤ b)) = ["Menu"] := by decide +kernel
  have hbucket : (numbered.filter fun r => PanelGroup.keyOf r.2 == "Menu") = numbered := by
    decide
  have hsorted : PanelGroup.sortBy PanelGroup.emissionKey numbered = numbered :=
    List.mergeSort_of_pairwise (by decide)
  simp only [PanelGroup.build, hall, hgood, hkeys, List.map_cons, List.map_nil, hbucket,
    PanelGroup.ofBucket, hsorted]
  decide +kernel

lemma menuGroup_mem : menuGroup ∈ (PanelGroup.build .empty menuRegistry).1 := by
  rw [build_menuRegistry]
  exact List.mem_singleton_self _

/-- The accessor of the second button is made with the accessor of the first for a type. -/
theorem uncaptured_iff_of_menu :
    menuGroup ∈ (PanelGroup.build .empty menuRegistry).1 ∧ ¬ Uncaptured (groupLines menuGroup) := by
  refine ⟨menuGroup_mem, fun h => ?_⟩
  have hfree := (uncaptured_iff menuGroup_mem).mp h
  revert hfree
  decide

/-- Not every library is free of captured names. -/
theorem not_uncaptured : ¬ ∀ (f : Forest) (g : Registry), ∀ group ∈ (PanelGroup.build f g).1,
    Uncaptured (groupLines group) := by
  intro h
  have hmenu := h .empty menuRegistry menuGroup menuGroup_mem
  rw [Uncaptured, statements_groupLines (named_build menuGroup_mem)] at hmenu
  revert hmenu
  decide

end SceneBindings.LineReading
