import Mathlib.Data.List.TakeWhile
import SceneBindings.Emit.Library
import SceneBindings.Proofs.Emit.Groups
import SceneBindings.Proofs.Emit.LineReading
import SceneBindings.Proofs.Emit.MachineUnit

/-!
The library read back: which classes stand in the class `UI` and which elements each of them gives
access to. Both are those of the groups that the library was made from, in their order.
-/

namespace SceneBindings.LineReading

open Emit HookScan Naming Text

/-! ### What is read -/

/-- A line that does not end a block: it is empty or indented. -/
def isInside (line : String) : Bool := line.toList.headD ' ' == ' '

/-- The lines of a block that a line opens. -/
def blockOf (head : String) (ls : List String) : List String :=
  (ls.dropWhile (· != head)).tail.takeWhile isInside

def uiLines (text : String) : List String := blockOf "class UI:" (linesOf text)

/-- The classes in the class `UI`. -/
def classes (text : String) : List String := (uiLines text).filterMap classHead?

/-- The accesses in the class `UI`, each under the class it stands in. -/
def accesses (text : String) : List (Option String × Access) :=
  readUnder classHead? access? none (uiLines text)

/-! ### Lines of the class -/

/-- A line in the class `UI` that opens no class. -/
structure Inner (l : String) : Prop where
  unbroken : Unbroken l
  inside : isInside l = true
  head : classHead? l = none

/-- A line in the class `UI` that neither opens a class nor gives access. -/
structure Plain (l : String) : Prop extends Inner l where
  access : access? l = none

lemma access?_of_indented {l : String} (h : indented? " = ElementAccessor(_binding, " l = none) :
    access? l = none := by
  rw [access?, h]
  rfl

lemma isInside_append {cs : List Char} (h : (!cs.isEmpty && cs.headD ' ' == ' ') = true)
    (m : String) : isInside (String.ofList cs ++ m) = true := by
  cases cs with
  | nil => cases h
  | cons c cs =>
    rw [isInside, String.toList_append, String.toList_ofList]
    exact h

lemma classHead?_append {cs : List Char}
    (h : (!cs.isPrefixOf "    class ".toList && (expect? "    class ".toList cs).isNone) = true)
    (m : String) : classHead? (String.ofList cs ++ m) = none := by
  rw [Bool.and_eq_true, Bool.not_eq_true', Option.isNone_iff_eq_none] at h
  have hline : (String.ofList cs ++ m).toList = cs ++ m.toList := by
    rw [String.toList_append, String.toList_ofList]
  rw [classHead?, nameAfter?, hline, expect?_append_eq_none h.2 h.1, Option.map_none]

/-- A line that begins like this is plain, as far as it is not broken. -/
def beginsPlain (cs : List Char) : Bool :=
  cs.all (fun c => !isBreak c) && ((!cs.isEmpty && cs.headD ' ' == ' ') &&
    ((!cs.isPrefixOf "    class ".toList && (expect? "    class ".toList cs).isNone) &&
      cannotBegin " = ElementAccessor(_binding, " cs))

namespace Plain

lemma append (cs : List Char) {m : String} (hm : Unbroken m) (h : beginsPlain cs = true) :
    Plain (String.ofList cs ++ m) := by
  obtain ⟨hbreak, h⟩ := Bool.and_eq_true_iff.mp h
  obtain ⟨hinside, h⟩ := Bool.and_eq_true_iff.mp h
  obtain ⟨hhead, haccess⟩ := Bool.and_eq_true_iff.mp h
  exact ⟨⟨(Unbroken.literal cs hbreak).append hm, isInside_append hinside m,
    classHead?_append hhead m⟩, access?_of_indented (indented?_ofList_append haccess m)⟩

lemma literal (cs : List Char)
    (h : (cs.all (fun c => !isBreak c) && (cs.headD ' ' == ' ' &&
      ((expect? "    class ".toList cs).isNone &&
        ((expect? indent cs).bind (identifierThen? " = ElementAccessor(_binding, ")).isNone))) =
          true) : Plain (String.ofList cs) := by
  obtain ⟨hbreak, h⟩ := Bool.and_eq_true_iff.mp h
  obtain ⟨hinside, h⟩ := Bool.and_eq_true_iff.mp h
  obtain ⟨hhead, haccess⟩ := Bool.and_eq_true_iff.mp h
  rw [Option.isNone_iff_eq_none] at hhead haccess
  refine ⟨⟨.literal cs hbreak, ?_, ?_⟩, access?_of_indented (indented?_ofList haccess)⟩
  · rw [isInside, String.toList_ofList, hinside]
  · have hline : (String.ofList cs).toList = cs := String.toList_ofList
    rw [classHead?, nameAfter?, hline, hhead, Option.map_none]

lemma empty : Plain "" := literal [] rfl

end Plain

/-! ### A group -/

/-- What the library relies on in a group: it is written on lines of its own. -/
structure Written (g : PanelGroup) : Prop where
  key : IsIdentifier g.key
  panel : ∀ p, g.panel = some p → Unbroken p.name
  elements : ∀ e ∈ g.elements, IsIdentifier e.property ∧ IsIdentifier e.accessor

def accessOf (e : GroupElement) : Access := ⟨e.property, quoted e.reference.path, e.accessor⟩

/-- The access to the panel of a group. -/
def panelAccess : Access := ⟨"panel", "PANEL_PATH", Capability.nodeType⟩

def accessesOf (g : PanelGroup) : List Access :=
  (g.panel.map fun _ => panelAccess).toList ++ g.elements.map accessOf

lemma isIdentifier_escapeKeyword (name : String) :
    IsIdentifier (Name.escapeKeyword (Name.sanitize name)) := by
  intro c hc
  rw [Name.escapeKeyword, Name.ofChars, String.toList_ofList] at hc
  refine isIdentifierChar_escapeKeyword (fun d hd => ?_) hc
  rw [Name.sanitize, Name.ofChars, String.toList_ofList] at hd
  exact isIdentifierChar_sanitize hd

lemma isIdentifier_label (c : Capability) : IsIdentifier c.label := by
  refine List.all_eq_true.mp ?_
  cases c <;> decide

lemma access?_accessorLine {e : GroupElement} (hproperty : IsIdentifier e.property)
    (haccessor : IsIdentifier e.accessor) : access? (accessorLine e) = some (accessOf e) := by
  have hline : accessorLine e = "        " ++ e.property ++ " = ElementAccessor(_binding, " ++
      (quoted e.reference.path ++ ", " ++ e.accessor ++ ")") := by
    simp only [accessorLine, String.append_assoc]
  have hback : (quoted e.reference.path ++ ", " ++ e.accessor ++ ")").toList.reverse =
      [')'] ++ (e.accessor.toList.reverse ++
        (" ,".toList ++ (quoted e.reference.path).toList.reverse)) := by
    simp only [String.toList_append, List.reverse_append, List.append_assoc]
    rfl
  have htype : IsIdentifier (String.ofList e.accessor.toList.reverse) := by
    intro c hc
    rw [String.toList_ofList, List.mem_reverse] at hc
    exact haccessor c hc
  have hread := htype.then? (c := ' ') (by decide) (p := " ,") rfl
    (quoted e.reference.path).toList.reverse
  rw [String.toList_ofList] at hread
  rw [access?, hline, indented?_self hproperty rfl (by decide)]
  simp only [Option.bind_eq_bind, Option.bind_some, hback, expect?_append, hread,
    List.reverse_reverse, String.ofList_toList]
  rfl

lemma inner_accessorLine {e : GroupElement} (hproperty : IsIdentifier e.property)
    (haccessor : IsIdentifier e.accessor) : Inner (accessorLine e) := by
  have hindent : Unbroken "        " := .literal _ rfl
  have hcall : Unbroken " = ElementAccessor(_binding, " := .literal _ rfl
  have hcomma : Unbroken ", " := .literal _ rfl
  have hclose : Unbroken ")" := .literal _ rfl
  have hpath := (((Unbroken.of_identifier hproperty).append hcall).append
    (.quoted e.reference.path)).append hcomma
  have hline : accessorLine e = "        " ++ (e.property ++ " = ElementAccessor(_binding, " ++
      quoted e.reference.path ++ ", " ++ e.accessor ++ ")") := by
    simp only [accessorLine, String.append_assoc]
  rw [hline]
  exact ⟨hindent.append ((hpath.append (.of_identifier haccessor)).append hclose),
    isInside_append (by decide) _, classHead?_append (by decide) _⟩

lemma plain_of_not_access {ls : List String} (h : ∀ l ∈ ls, Plain l) :
    (∀ l ∈ ls, Inner l) ∧ ls.filterMap access? = [] :=
  ⟨fun l hl => (h l hl).toInner, List.filterMap_eq_nil_iff.mpr fun l hl => (h l hl).access⟩

/-- A literal begins with one of the two quotes. -/
lemma plain_panelPath (path : String) : Plain ("        PANEL_PATH = " ++ quoted path) := by
  have hcons : quoted path = String.ofList [Quoted.quoteOf path.toList] ++
      String.ofList (quoted path).toList.tail := by
    rw [← String.ofList_append, quoted, String.toList_ofList]
    rfl
  have hmore : Unbroken (String.ofList (quoted path).toList.tail) := by
    intro c hc
    rw [String.toList_ofList] at hc
    exact Unbroken.quoted path c (List.mem_of_mem_tail hc)
  rw [hcons, ← String.append_assoc, ← String.ofList_append, Quoted.quoteOf]
  split
  · exact .append _ hmore rfl
  · exact .append _ hmore rfl

lemma panelLines_inner {p : Reference} (hname : Unbroken p.name) :
    (∀ l ∈ panelLines p, Inner l) ∧ (panelLines p).filterMap access? = [panelAccess] := by
  have hpath := Unbroken.quoted p.path
  have hpanel : Inner "        panel = ElementAccessor(_binding, PANEL_PATH, SceneNode)" :=
    ⟨.literal _ rfl, by decide, by decide⟩
  have hrest : ∀ l ∈ (panelLines p).drop 2, Plain l := by
    simp only [panelLines, List.drop_succ_cons, List.drop_zero, List.forall_mem_cons,
      String.append_assoc]
    and_intros
    · exact .literal _ rfl
    · exact .empty
    · exact .literal _ rfl
    · exact .literal _ rfl
    · exact .append _ (hname.append (.literal _ rfl)) rfl
    · exact .append _ (hpath.append (.literal _ rfl)) rfl
    · exact .empty
    · exact .literal _ rfl
    · exact .literal _ rfl
    · exact .append _ (hpath.append (.literal _ rfl)) rfl
    · exact .empty
    · exact .literal _ rfl
    · exact .literal _ rfl
    · exact .append _ (hpath.append (.literal _ rfl)) rfl
    · exact List.forall_mem_nil _
  obtain ⟨hinner, hread⟩ := plain_of_not_access hrest
  have hlines : panelLines p = ("        PANEL_PATH = " ++ quoted p.path) ::
      "        panel = ElementAccessor(_binding, PANEL_PATH, SceneNode)" ::
        (panelLines p).drop 2 := rfl
  have haccess : access? "        panel = ElementAccessor(_binding, PANEL_PATH, SceneNode)" =
      some panelAccess := by decide +kernel
  rw [hlines]
  constructor
  · rw [List.forall_mem_cons, List.forall_mem_cons]
    exact ⟨(plain_panelPath p.path).toInner, hpanel, hinner⟩
  · rw [List.filterMap_cons, (plain_panelPath p.path).access, List.filterMap_cons, haccess, hread]

lemma elementLines_inner {es : List GroupElement} 
    (hes : ∀ e ∈ es, IsIdentifier e.property ∧ IsIdentifier e.accessor) (gap : Bool)
    (role : Option Capability) : (∀ l ∈ elementLines gap role es, Inner l) ∧
      (elementLines gap role es).filterMap access? = es.map accessOf := by
  induction es generalizing gap role with
  | nil => exact ⟨List.forall_mem_nil _, rfl⟩
  | cons e es ih =>
    rw [List.forall_mem_cons] at hes
    obtain ⟨hinner, hread⟩ := ih hes.2 true (some e.reference.capability)
    have hheading : ∀ l ∈ if role = some e.reference.capability then []
        else linesIf gap [""] ++ ["        # " ++ e.reference.capability.label], Plain l := by
      split
      · exact List.forall_mem_nil _
      · rw [List.forall_mem_append]
        refine ⟨fun l hl => ?_, List.forall_mem_singleton.mpr (.append _ ?_ rfl)⟩
        · rw [List.mem_singleton.mp (mem_of_mem_linesIf hl)]
          exact .empty
        · exact .of_identifier (isIdentifier_label _)
    obtain ⟨hinner', hread'⟩ := plain_of_not_access hheading
    rw [elementLines]
    constructor
    · rw [List.forall_mem_append, List.forall_mem_cons]
      exact ⟨hinner', inner_accessorLine hes.1.1 hes.1.2, hinner⟩
    · rw [List.filterMap_append, hread', List.filterMap_cons,
        access?_accessorLine hes.1.1 hes.1.2, hread]
      rfl

lemma groupBody_inner {g : PanelGroup} (hg : Written g) :
    (∀ l ∈ groupBody g, Inner l) ∧ (groupBody g).filterMap access? = accessesOf g := by
  rw [groupBody, accessesOf]
  cases hp : g.panel with
  | none => exact elementLines_inner hg.elements false none
  | some p =>
    obtain ⟨hpanel, hread⟩ := panelLines_inner (hg.panel p hp)
    obtain ⟨helements, hread'⟩ := elementLines_inner hg.elements true none
    exact ⟨List.forall_mem_append.mpr ⟨hpanel, helements⟩, by
      rw [List.filterMap_append, hread, hread']
      rfl⟩

/-- The lines of a group after the head of its class. -/
def groupRest (g : PanelGroup) : List String :=
  ["        \"\"\"" ++ g.key ++ " panel and its UI elements\"\"\"", ""] ++
    (if (groupBody g).isEmpty then ["        pass"] else groupBody g) ++ ["    # endregion", ""]

lemma groupLines_eq (g : PanelGroup) : groupLines g =
    ["    # region " ++ g.key] ++ ("    class " ++ g.className ++ ":") :: groupRest g := rfl

lemma groupRest_inner {g : PanelGroup} (hg : Written g) :
    (∀ l ∈ groupRest g, Inner l) ∧ (groupRest g).filterMap access? = accessesOf g := by
  have hopening : ∀ l ∈ ["        \"\"\"" ++ g.key ++ " panel and its UI elements\"\"\"", ""],
      Plain l := by
    simp only [List.forall_mem_cons, String.append_assoc]
    exact ⟨.append _ ((Unbroken.of_identifier hg.key).append (.literal _ rfl)) rfl, .empty,
      List.forall_mem_nil _⟩
  have hclosing : ∀ l ∈ ["    # endregion", ""], Plain l := by
    simp only [List.forall_mem_cons]
    exact ⟨.literal _ rfl, .empty, List.forall_mem_nil _⟩
  have hbody : (∀ l ∈ if (groupBody g).isEmpty then ["        pass"] else groupBody g, Inner l) ∧
      (if (groupBody g).isEmpty then ["        pass"] else groupBody g).filterMap access? =
        accessesOf g := by
    obtain ⟨hinner, hread⟩ := groupBody_inner hg
    split
    · next hempty =>
      have hpass : ∀ l ∈ ["        pass"], Plain l :=
        List.forall_mem_singleton.mpr (.literal _ rfl)
      obtain ⟨hinner', hread'⟩ := plain_of_not_access hpass
      rw [List.isEmpty_iff.mp hempty] at hread
      exact ⟨hinner', hread'.trans hread⟩
    · exact ⟨hinner, hread⟩
  obtain ⟨hopen, hreadOpen⟩ := plain_of_not_access hopening
  obtain ⟨hclose, hreadClose⟩ := plain_of_not_access hclosing
  rw [groupRest, List.filterMap_append, List.filterMap_append, hreadOpen, hbody.2, hreadClose,
    List.append_nil, List.nil_append, List.forall_mem_append, List.forall_mem_append]
  exact ⟨⟨⟨hopen, hbody.1⟩, hclose⟩, rfl⟩

lemma classHead?_group (g : PanelGroup) :
    classHead? ("    class " ++ g.className ++ ":") = some g.className := by
  have hname : IsIdentifier g.className := isIdentifier_escapeKeyword g.key
  have hend : ":" = String.ofList [':'] ++ "" := rfl
  rw [classHead?, hend, ← String.append_assoc, nameAfter?_append _ hname (by decide)]

/-- The lines of a group open one class and declare its accesses in it. -/
lemma read_groupLines {g : PanelGroup} (hg : Written g) :
    (groupLines g).filterMap classHead? = [g.className] ∧
      ∀ head, readUnder classHead? access? head (groupLines g) =
        (accessesOf g).map fun a => (some g.className, a) := by
  have hregion : Plain ("    # region " ++ g.key) := .append _ (.of_identifier hg.key) rfl
  obtain ⟨hinner, hread⟩ := groupRest_inner hg
  have hrest : (groupRest g).filterMap classHead? = [] :=
    List.filterMap_eq_nil_iff.mpr fun l hl => (hinner l hl).head
  rw [groupLines_eq, List.singleton_append]
  constructor
  · rw [List.filterMap_cons, hregion.head, List.filterMap_cons, classHead?_group, hrest]
  · intro head
    rw [readUnder, hregion.head, hregion.access]
    dsimp only
    rw [readUnder_of_head (classHead?_group g), readUnder_of_no_head fun l hl => (hinner l hl).head,
      hread]

lemma inside_groupLines {g : PanelGroup} (hg : Written g) :
    ∀ l ∈ groupLines g, Unbroken l ∧ isInside l = true := by
  have hregion : Plain ("    # region " ++ g.key) := .append _ (.of_identifier hg.key) rfl
  have hclass : Unbroken ("    class " ++ g.className ++ ":") := by
    have hindent : Unbroken "    class " := .literal _ rfl
    have hcolon : Unbroken ":" := .literal _ rfl
    exact (hindent.append (.of_identifier (isIdentifier_escapeKeyword g.key))).append hcolon
  have hinside : isInside ("    class " ++ g.className ++ ":") = true := by
    rw [String.append_assoc]
    exact isInside_append (by decide) _
  rw [groupLines_eq, List.singleton_append, List.forall_mem_cons, List.forall_mem_cons]
  exact ⟨⟨hregion.unbroken, hregion.inside⟩, ⟨hclass, hinside⟩, fun l hl =>
    ⟨((groupRest_inner hg).1 l hl).unbroken, ((groupRest_inner hg).1 l hl).inside⟩⟩

/-! ### The unit -/

/-- What stands in a library before the class `UI`. -/
def beforeClass (scene : String) (groups : List PanelGroup) (stamp : Option String) : List String :=
  libraryHeader scene stamp ++ libraryImports groups ++
    ["", "SCENE_NAME = " ++ quoted scene, "", "_binding = LibraryBinding(SCENE_NAME)", "", ""]

/-- What stands at the head of the class `UI`. -/
def classOpening (scene : String) : List String :=
  ["    \"\"\"Dot-path access to every registered UI element of " ++ scene ++ "\"\"\"",
    "",
    "    @staticmethod",
    "    def initialize(registry):",
    "        _binding.initialize(registry)",
    "",
    "    @staticmethod",
    "    def is_initialized() -> bool:",
    "        return _binding.is_initialized",
    ""]

lemma libraryText_eq (scene : String) (groups : List PanelGroup) (stamp : Option String) :
    libraryText scene groups stamp = unlines (dropBlankEnd (beforeClass scene groups stamp ++
      "class UI:" :: (classOpening scene ++ groups.flatMap groupLines))) := by
  have hopening : libraryOpening scene =
      ["", "SCENE_NAME = " ++ quoted scene, "", "_binding = LibraryBinding(SCENE_NAME)", "", ""] ++
        "class UI:" :: classOpening scene := rfl
  rw [libraryText, beforeClass, hopening]
  simp only [List.append_assoc, List.cons_append]

lemma dropBlankEnd_append_cons (ls ms : List String) {l : String} (hl : l.isEmpty = false) :
    dropBlankEnd (ls ++ l :: ms) = ls ++ l :: dropBlankEnd ms := by
  have hreverse : (ls ++ l :: ms).reverse = ms.reverse ++ l :: ls.reverse := by
    rw [List.reverse_append, List.reverse_cons, List.append_assoc, List.singleton_append]
  have hstop : (l :: ls.reverse).dropWhile (·.isEmpty) = l :: ls.reverse :=
    List.dropWhile_cons_of_neg (by rw [hl]; decide)
  rw [dropBlankEnd, dropBlankEnd, hreverse, List.dropWhile_append, hstop]
  split
  · next hempty =>
    rw [List.isEmpty_iff.mp hempty, List.reverse_cons, List.reverse_reverse]
    rfl
  · rw [List.reverse_append, List.reverse_cons, List.reverse_reverse, List.append_assoc,
      List.singleton_append]

/-- The lines that are dropped at the end are empty. -/
lemma exists_blankEnd (ls : List String) :
    ∃ blanks, (∀ l ∈ blanks, l = "") ∧ ls = dropBlankEnd ls ++ blanks := by
  refine ⟨(ls.reverse.takeWhile (·.isEmpty)).reverse, fun l hl => ?_, ?_⟩
  · exact String.isEmpty_iff.mp (List.mem_takeWhile_imp (List.mem_reverse.mp hl))
  · rw [dropBlankEnd, ← List.reverse_append, List.takeWhile_append_dropWhile, List.reverse_reverse]

lemma filterMap_blankEnd {α : Type} {read? : String → Option α} (hread : read? "" = none)
    (ls : List String) : (dropBlankEnd ls ++ [""]).filterMap read? = ls.filterMap read? := by
  obtain ⟨blanks, hblanks, hls⟩ := exists_blankEnd ls
  have hnone : blanks.filterMap read? = [] :=
    List.filterMap_eq_nil_iff.mpr fun l hl => hblanks l hl ▸ hread
  conv_rhs => rw [hls]
  rw [List.filterMap_append, List.filterMap_append, hnone, List.filterMap_cons, hread]
  rfl

lemma readUnder_blankEnd {α : Type} {head? : String → Option String} {read? : String → Option α}
    (hread : read? "" = none) (head : Option String) (ls : List String) :
    readUnder head? read? head (dropBlankEnd ls ++ [""]) = readUnder head? read? head ls := by
  obtain ⟨blanks, hblanks, hls⟩ := exists_blankEnd ls
  have hnone : ∀ l ∈ blanks, read? l = none := fun l hl => hblanks l hl ▸ hread
  conv_rhs => rw [hls]
  rw [readUnder_append, readUnder_append, readUnder_of_silent hnone,
    readUnder_of_silent (List.forall_mem_singleton.mpr hread)]

/-- A line before the class `UI`. -/
structure Outer (l : String) : Prop where
  unbroken : Unbroken l
  ne_class : l ≠ "class UI:"

namespace Outer

lemma append (cs : List Char) {m : String} (hm : Unbroken m)
    (h : (cs.all (fun c => !isBreak c) && cs.headD 'c' != 'c') = true) :
    Outer (String.ofList cs ++ m) := by
  obtain ⟨hbreak, hhead⟩ := Bool.and_eq_true_iff.mp h
  refine ⟨(Unbroken.literal cs hbreak).append hm, fun heq => ?_⟩
  have hchars := congrArg String.toList heq
  rw [String.toList_append, String.toList_ofList] at hchars
  cases cs with
  | nil => cases hhead
  | cons c cs =>
    rw [show "class UI:".toList = 'c' :: "lass UI:".toList by decide, List.cons_append,
      List.cons.injEq] at hchars
    rw [List.headD_cons, hchars.1] at hhead
    cases hhead

lemma literal (cs : List Char)
    (h : (cs.all (fun c => !isBreak c) && cs != "class UI:".toList) = true) :
    Outer (String.ofList cs) := by
  obtain ⟨hbreak, hne⟩ := Bool.and_eq_true_iff.mp h
  refine ⟨.literal cs hbreak, fun heq => ?_⟩
  have hchars := congrArg String.toList heq
  rw [String.toList_ofList] at hchars
  exact bne_iff_ne.mp hne hchars

end Outer

lemma unbroken_intercalate {sep : String} (hsep : Unbroken sep) {ws : List String}
    (hws : ∀ w ∈ ws, Unbroken w) : Unbroken (sep.intercalate ws) := by
  rw [Unbroken, String.toList_intercalate]
  induction ws with
  | nil => exact List.forall_mem_nil _
  | cons w ws ih =>
    rw [List.forall_mem_cons] at hws
    cases ws with
    | nil =>
      rw [List.map_cons, List.map_nil, List.intercalate_singleton]
      exact hws.1
    | cons v vs =>
      rw [List.map_cons, List.map_cons, List.intercalate_cons_cons]
      exact List.forall_mem_append.mpr ⟨List.forall_mem_append.mpr ⟨hws.1, hsep⟩, ih hws.2⟩

lemma outer_beforeClass {scene : String} {groups : List PanelGroup} {stamp : Option String}
    (hscene : Unbroken scene) (hgroups : ∀ g ∈ groups, Written g)
    (ht : ∀ t, stamp = some t → Unbroken t) : ∀ l ∈ beforeClass scene groups stamp, Outer l := by
  have hstamp : ∀ l ∈ stampLine stamp, Outer l := by
    cases stamp with
    | none => exact List.forall_mem_nil _
    | some t => exact List.forall_mem_singleton.mpr (.append _ (ht t rfl) rfl)
  have htypes : ∀ w ∈ fetchedTypes groups, Unbroken w := by
    intro w hw
    simp only [fetchedTypes, List.mem_mergeSort, List.mem_filter, List.mem_eraseDups,
      List.mem_flatMap, List.mem_map] at hw
    obtain ⟨⟨g, hg, e, he, rfl⟩, -⟩ := hw
    exact .of_identifier ((hgroups g hg).elements e he).2
  have himports : ∀ l ∈ libraryImports groups, Outer l := by
    simp only [libraryImports, List.forall_mem_append, List.forall_mem_singleton]
    refine ⟨⟨fun l hl => ?_, .literal _ rfl⟩, fun l hl => ?_⟩
    · rw [List.mem_singleton.mp (mem_of_mem_linesIf hl)]
      exact .append _ (unbroken_intercalate (.literal _ rfl) htypes) rfl
    · rw [List.mem_singleton.mp (mem_of_mem_linesIf hl)]
      exact .literal _ rfl
  simp only [beforeClass, libraryHeader, List.forall_mem_append, List.forall_mem_cons]
  refine ⟨⟨⟨⟨?_, hstamp⟩, ?_⟩, himports⟩, ?_⟩
  · exact ⟨.literal _ rfl, .literal _ rfl, .literal _ rfl, .append _ (.sanitize scene) rfl,
      List.forall_mem_nil _⟩
  · rw [String.append_assoc]
    exact ⟨.literal _ rfl, .literal _ rfl, .append _ (hscene.append (.literal _ rfl)) rfl,
      .literal [] rfl, .literal _ rfl, .literal _ rfl, .literal [] rfl, List.forall_mem_nil _⟩
  · exact ⟨.literal [] rfl, .append _ (.quoted scene) rfl, .literal [] rfl, .literal _ rfl,
      .literal [] rfl, .literal [] rfl, List.forall_mem_nil _⟩

lemma plain_classOpening {scene : String} (hscene : Unbroken scene) :
    ∀ l ∈ classOpening scene, Plain l := by
  simp only [classOpening, List.forall_mem_cons, String.append_assoc]
  exact ⟨.append _ (hscene.append (.literal _ rfl)) rfl, .empty, .literal _ rfl, .literal _ rfl,
    .literal _ rfl, .empty, .literal _ rfl, .literal _ rfl, .literal _ rfl, .empty,
    List.forall_mem_nil _⟩

section Library

variable {scene : String} {groups : List PanelGroup} {stamp : Option String}
  (hscene : Unbroken scene) (hgroups : ∀ g ∈ groups, Written g)
  (ht : ∀ t, stamp = some t → Unbroken t)
include hscene hgroups ht

lemma uiLines_libraryText : uiLines (libraryText scene groups stamp) =
    dropBlankEnd (classOpening scene ++ groups.flatMap groupLines) ++ [""] := by
  have hbefore := outer_beforeClass hscene hgroups ht
  have hafter : ∀ l ∈ classOpening scene ++ groups.flatMap groupLines,
      Unbroken l ∧ isInside l = true := by
    rw [List.forall_mem_append]
    refine ⟨fun l hl => ?_, fun l hl => ?_⟩
    · exact ⟨(plain_classOpening hscene l hl).unbroken, (plain_classOpening hscene l hl).inside⟩
    · obtain ⟨g, hg, hl⟩ := List.mem_flatMap.mp hl
      exact inside_groupLines (hgroups g hg) l hl
  obtain ⟨blanks, -, hblanks⟩ := exists_blankEnd (classOpening scene ++ groups.flatMap groupLines)
  have hkept : ∀ l ∈ dropBlankEnd (classOpening scene ++ groups.flatMap groupLines),
      Unbroken l ∧ isInside l = true := fun l hl =>
    hafter l (hblanks ▸ List.mem_append_left _ hl)
  have hlines : linesOf (libraryText scene groups stamp) = beforeClass scene groups stamp ++
      "class UI:" :: (dropBlankEnd (classOpening scene ++ groups.flatMap groupLines) ++ [""]) := by
    rw [libraryText_eq, dropBlankEnd_append_cons _ _ (by decide), linesOf_unlines,
      List.append_assoc, List.cons_append]
    rw [List.forall_mem_append, List.forall_mem_cons]
    exact ⟨fun l hl => (hbefore l hl).unbroken, .literal _ rfl, fun l hl => (hkept l hl).1⟩
  have hskip : ∀ l ∈ beforeClass scene groups stamp, (l != "class UI:") = true :=
    fun l hl => bne_iff_ne.mpr (hbefore l hl).ne_class
  have hstop : ∀ ls, ("class UI:" :: ls).dropWhile (· != "class UI:") = "class UI:" :: ls :=
    fun ls => List.dropWhile_cons_of_neg (by decide)
  rw [uiLines, blockOf, hlines, List.dropWhile_append_of_pos hskip, hstop, List.tail_cons,
    List.takeWhile_eq_self_iff, List.forall_mem_append, List.forall_mem_singleton]
  exact ⟨fun l hl => (hkept l hl).2, rfl⟩

/-- **The classes of the library** are those of the groups. -/
theorem classes_libraryText :
    classes (libraryText scene groups stamp) = groups.map PanelGroup.className := by
  have hopening : (classOpening scene).filterMap classHead? = [] :=
    List.filterMap_eq_nil_iff.mpr fun l hl => (plain_classOpening hscene l hl).head
  have hgroupClasses : (groups.flatMap groupLines).filterMap classHead? =
      groups.map PanelGroup.className := by
    clear ht
    induction groups with
    | nil => rfl
    | cons g groups ih =>
      rw [List.forall_mem_cons] at hgroups
      rw [List.flatMap_cons, List.filterMap_append, (read_groupLines hgroups.1).1, ih hgroups.2]
      rfl
  rw [classes, uiLines_libraryText hscene hgroups ht, filterMap_blankEnd Plain.empty.head,
    List.filterMap_append, hopening, hgroupClasses, List.nil_append]

/-- **The accesses of the library** are those of the groups, each under the class of its group. -/
theorem accesses_libraryText : accesses (libraryText scene groups stamp) =
    groups.flatMap fun g => (accessesOf g).map fun a => (some g.className, a) := by
  have hopening : ∀ head, readUnder classHead? access? head (classOpening scene) = [] :=
    readUnder_of_silent fun l hl => (plain_classOpening hscene l hl).access
  have hgroupAccesses : ∀ head, readUnder classHead? access? head (groups.flatMap groupLines) =
      groups.flatMap fun g => (accessesOf g).map fun a => (some g.className, a) := by
    clear ht
    induction groups with
    | nil => exact fun _ => rfl
    | cons g groups ih =>
      intro head
      rw [List.forall_mem_cons] at hgroups
      rw [List.flatMap_cons, List.flatMap_cons, readUnder_append, (read_groupLines hgroups.1).2,
        ih hgroups.2]
  rw [accesses, uiLines_libraryText hscene hgroups ht, readUnder_blankEnd Plain.empty.access,
    readUnder_append, hopening, hgroupAccesses, List.nil_append]

end Library

end SceneBindings.LineReading
