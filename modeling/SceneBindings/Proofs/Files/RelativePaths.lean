import SceneBindings.Proofs.Files.Paths
import SceneBindings.Proofs.Naming.Identifiers
import SceneBindings.Settings

/-!
Ways from one directory to another. Following from a directory the way that leads from it to a path
ends at this path, however the two are written; so a handler unit that knows the way to its library
finds it.
-/

namespace SceneBindings

namespace DiskPath

open Text

variable {absolute : Bool} {ns ms up down : List String} {p q start : DiskPath} {n : String}

/-! ### Names -/

/-- What can stand between two slashes of a path that has been read. -/
def IsSegment (n : String) : Prop := n ≠ "" ∧ n ≠ "." ∧ '/' ∉ n.toList

/-- All names of a path are segments. -/
def Segmented (p : DiskPath) : Prop := ∀ n ∈ p.names, IsSegment n

lemma segmented_ofString (s : String) : (ofString s).Segmented := by
  intro n hn
  obtain ⟨hmem, hkept⟩ := List.mem_filter.mp hn
  obtain ⟨w, hw, rfl⟩ := List.mem_map.mp hmem
  rw [Bool.and_eq_true, Bool.not_eq_true', bne_iff_ne] at hkept
  refine ⟨fun hempty => ?_, hkept.2, ?_⟩
  · rw [hempty] at hkept
    exact absurd hkept.1 (by decide)
  · rw [String.toList_ofList]
    exact sep_not_mem_splitAt hw

lemma Segmented.child (hp : p.Segmented) (s : String) : (p.child s).Segmented := by
  rw [DiskPath.child, join]
  split
  · exact List.forall_mem_append.mpr ⟨hp, segmented_ofString s⟩
  · exact segmented_ofString s

/-! ### Normalizing -/

/-- Names in reverse that no double dot can be taken from: all double dots stand at the root, and at
an absolute root there are none. -/
def Collapsed (absolute : Bool) : List String → Prop
  | [] => True
  | n :: ns => if n = ".." then absolute = false ∧ ∀ m ∈ ns, m = ".." else Collapsed absolute ns

lemma collapsed_collapse {absolute : Bool} {done : List String} (ns : List String)
    (h : Collapsed absolute done) : Collapsed absolute (collapse absolute done ns).reverse := by
  fun_induction collapse absolute done ns with
  | case1 done => rwa [List.reverse_reverse]
  | case2 _ ds ih =>
    simp only [Collapsed, if_true] at h ih
    exact ih ⟨h.1, List.forall_mem_cons.mpr ⟨rfl, h.2⟩⟩
  | case3 _ _ _ hd ih => exact ih (by simpa [Collapsed, hd] using h)
  | case4 _ _ ih => exact ih trivial
  | case5 _ _ ih => exact ih (by simp_all [Collapsed])
  | case6 _ _ _ hn ih => exact ih (by simpa [Collapsed, hn] using h)

lemma collapse_append_names (absolute : Bool) (done ns ms : List String) :
    collapse absolute done (ns ++ ms) = collapse absolute (collapse absolute done ns).reverse ms := by
  fun_induction collapse absolute done ns with
  | case1 done => rw [List.nil_append, List.reverse_reverse]
  | _ => simp_all [collapse]

lemma mem_of_mem_collapse {done : List String} (h : n ∈ collapse absolute done ns) :
    n ∈ done ∨ n ∈ ns := by
  fun_induction collapse absolute done ns with
  | case1 done => exact .inl (List.mem_reverse.mp h)
  | _ => grind

lemma dots_not_mem_of_collapsed (h : Collapsed true ns) : ".." ∉ ns := by
  induction ns with
  | nil => exact List.not_mem_nil
  | cons n ns ih =>
    rw [Collapsed] at h
    split at h
    · cases h.1
    · next hn => exact fun hmem => (List.mem_cons.mp hmem).elim (fun heq => hn heq.symm) (ih h)

/-- Names without double dots are kept. -/
lemma collapse_of_plain {done : List String} (h : ".." ∉ ns) :
    collapse absolute done ns = done.reverse ++ ns := by
  induction ns generalizing done with
  | nil => simp [collapse]
  | cons n ns ih =>
    rw [List.mem_cons, not_or] at h
    have hstep : collapse absolute done (n :: ns) = collapse absolute (n :: done) ns := by
      simp [collapse, Ne.symm h.1]
    rw [hstep, ih h.2, List.reverse_cons, List.append_assoc, List.singleton_append]

/-- As many double dots as there are names take all of these away. -/
lemma collapse_climb (absolute : Bool) (done : List String) (h : ".." ∉ up) :
    collapse absolute (up ++ done) (List.replicate up.length "..") = done.reverse := by
  induction up with
  | nil => rfl
  | cons n up ih =>
    rw [List.mem_cons, not_or] at h
    rw [List.length_cons, List.replicate_succ, List.cons_append, collapse, if_pos rfl,
      if_neg (Ne.symm h.1), ih h.2]

lemma dropCommon_spec (as bs : List String) :
    ∃ common, as = common ++ (dropCommon as bs).1 ∧ bs = common ++ (dropCommon as bs).2 := by
  fun_induction dropCommon as bs with
  | case1 as a bs ih =>
    obtain ⟨common, has, hbs⟩ := ih
    exact ⟨a :: common, congrArg (a :: ·) has, congrArg (a :: ·) hbs⟩
  | case2 => exact ⟨[], rfl, rfl⟩
  | case3 => exact ⟨[], rfl, rfl⟩

/-- The way from a directory to a path climbs to where the two part, and descends from there. -/
lemma exists_relativeTo (p start : DiskPath) : ∃ common up down,
    start.normalize.names = common ++ up ∧ p.normalize.names = common ++ down ∧
      p.relativeTo start = ⟨.relative, List.replicate up.length ".." ++ down⟩ := by
  obtain ⟨common, hstart, hp⟩ := dropCommon_spec start.normalize.names p.normalize.names
  refine ⟨common, _, _, hstart, hp, ?_⟩
  rw [← List.map_const']
  rfl

lemma dots_not_mem_normalize (h : p.root ≠ .relative) : ".." ∉ p.normalize.names := by
  have hcollapsed : Collapsed (p.root ≠ .relative) p.normalize.names.reverse :=
    collapsed_collapse p.names trivial
  rw [decide_eq_true h] at hcollapsed
  exact fun hmem => dots_not_mem_of_collapsed hcollapsed (List.mem_reverse.mpr hmem)

/-- Following the way from a directory to a path leads to the path. -/
lemma normalize_join_relativeTo (hp : p.root ≠ .relative) (hstart : start.root ≠ .relative) :
    (start.join (p.relativeTo start)).normalize = ⟨start.root, p.normalize.names⟩ := by
  obtain ⟨common, up, down, hfrom, hto, hway⟩ := exists_relativeTo p start
  have hup : ".." ∉ up.reverse := by
    intro hmem
    refine dots_not_mem_normalize hstart ?_
    rw [hfrom]
    exact List.mem_append_right _ (List.mem_reverse.mp hmem)
  have hdown : ".." ∉ down := by
    intro hmem
    refine dots_not_mem_normalize hp ?_
    rw [hto]
    exact List.mem_append_right _ hmem
  have hclimb : collapse (start.root ≠ .relative) (up.reverse ++ common.reverse)
      (List.replicate up.length "..") = common := by
    have hclimb := collapse_climb (start.root ≠ .relative) common.reverse hup
    rwa [List.length_reverse, List.reverse_reverse] at hclimb
  rw [hway, join, if_pos rfl, hto]
  refine congrArg (DiskPath.mk start.root) ?_
  calc collapse (start.root ≠ .relative) [] (start.names ++ (List.replicate up.length ".." ++ down))
      = collapse (start.root ≠ .relative) (up.reverse ++ common.reverse)
          (List.replicate up.length ".." ++ down) := by
        have hnames : collapse (start.root ≠ .relative) [] start.names = common ++ up := hfrom
        rw [collapse_append_names, hnames, List.reverse_append]
    _ = collapse (start.root ≠ .relative) common.reverse down := by
        rw [collapse_append_names, hclimb]
    _ = common ++ down := by rw [collapse_of_plain hdown, List.reverse_reverse]

/-! ### Ways as texts -/

lemma rootOf_of_head? {s : List Char} (h : '/' ∉ s.head?) : rootOf s = .relative := by
  fun_cases rootOf s with
  | case4 => rfl
  | _ => exact absurd rfl h

lemma head?_intercalate (sep w : List Char) (hw : w ≠ []) (ws : List (List Char)) :
    (sep.intercalate (w :: ws)).head? = w.head? := by
  obtain ⟨c, r, rfl⟩ := List.exists_cons_of_ne_nil hw
  cases ws with
  | nil => rw [List.intercalate_singleton]
  | cons v vs =>
    rw [List.intercalate_cons_cons]
    rfl

/-- A relative path is read back from its text. -/
lemma ofString_text (hroot : p.root = .relative) (hp : p.Segmented) : ofString p.text = p := by
  obtain ⟨root, names⟩ := p
  obtain rfl : root = .relative := hroot
  cases names with
  | nil => decide
  | cons n ns =>
    obtain ⟨hn, -, hslash⟩ := hp n List.mem_cons_self
    have htext : (DiskPath.mk .relative (n :: ns)).text.toList =
        ['/'].intercalate ((n :: ns).map String.toList) := by
      rw [text, if_neg (by simp), String.toList_append, String.toList_intercalate]
      rfl
    have hroot : rootOf (DiskPath.mk .relative (n :: ns)).text.toList = .relative := by
      refine rootOf_of_head? fun hhead => hslash ?_
      rw [htext, List.map_cons, head?_intercalate _ _ (by simpa using hn)] at hhead
      exact List.mem_of_mem_head? hhead
    have hparts : splitAt '/' (DiskPath.mk .relative (n :: ns)).text.toList =
        (n :: ns).map String.toList := by
      rw [htext]
      refine splitAt_intercalate (by simp) fun w hw => ?_
      obtain ⟨m, hm, rfl⟩ := List.mem_map.mp hw
      exact (hp m hm).2.2
    have hkept : ((n :: ns).filter fun m => !m.isEmpty && m != ".") = n :: ns := by
      refine List.filter_eq_self.mpr fun m hm => ?_
      obtain ⟨hempty, hdot, -⟩ := hp m hm
      simp [hempty, hdot]
    rw [ofString, hparts, hroot, List.map_map]
    simpa [Function.comp_def] using hkept

/-- The way to a path, written as a text and read again, leads to the path. -/
lemma normalize_child_relativeTo (hroot : p.root ≠ .relative) (hp : p.Segmented)
    (hstart : start.root ≠ .relative) :
    (start.child (p.relativeTo start).text).normalize = ⟨start.root, p.normalize.names⟩ := by
  have hway : (p.relativeTo start).root = .relative ∧ (p.relativeTo start).Segmented := by
    obtain ⟨common, up, down, -, hto, hway⟩ := exists_relativeTo p start
    rw [hway]
    refine ⟨rfl, fun n hn => ?_⟩
    rcases List.mem_append.mp hn with hn | hn
    · rw [List.eq_of_mem_replicate hn]
      exact ⟨by decide, by decide, by decide⟩
    · have hmem : n ∈ p.normalize.names := by
        rw [hto]
        exact List.mem_append_right _ hn
      exact hp n ((mem_of_mem_collapse hmem).resolve_left List.not_mem_nil)
  rw [child, ofString_text hway.1 hway.2, normalize_join_relativeTo hroot hstart]

/-! ### Roots -/

lemma root_child (p : DiskPath) (s : String) :
    (p.child s).root = if rootOf s.toList = .relative then p.root else rootOf s.toList := by
  rw [child, join]
  exact apply_ite DiskPath.root _ _ _

/-- Seen from an absolute directory, a text leads to an absolute path. -/
lemma root_child_of_single {s : String} (hp : p.root = .single) (hs : rootOf s.toList ≠ .double) :
    (p.child s).root = .single := by
  rw [root_child]
  split
  · exact hp
  · next hroot =>
    cases hform : rootOf s.toList with
    | relative => exact absurd hform hroot
    | single => rfl
    | double => exact absurd hform hs

end DiskPath

namespace Settings

open DiskPath

variable {s : Settings} {start : DiskPath}

/-- The way to the library from a directory with its root. -/
lemma normalize_child_libraryRelative (hbase : s.base.Segmented) (hroot : s.libraryDir.root = .single)
    (hclass : '/' ∉ s.library.classPrefix.toList) (scene : String) (hstart : start.root = .single) :
    (start.child (s.libraryRelative scene start)).normalize = (s.libraryPath scene).normalize := by
  have hfile : '/' ∉ (s.library.classPrefix ++ Name.sanitize scene ++ ".py").toList := by
    have hscene : '/' ∉ (Name.sanitize scene).toList := by
      rw [Name.sanitize, Name.ofChars, String.toList_ofList]
      exact fun hmem => absurd (Naming.isIdentifierChar_sanitize hmem) (by decide)
    simp only [String.toList_append, List.mem_append, not_or]
    exact ⟨⟨hclass, hscene⟩, by decide⟩
  have hrelative := rootOf_of_head? fun hhead => hfile (List.mem_of_mem_head? hhead)
  have hlibrary : (s.libraryPath scene).root = .single := by
    rw [libraryPath, root_child, if_pos hrelative, hroot]
  have hsegmented : (s.libraryPath scene).Segmented := (hbase.child _).child _
  rw [libraryRelative, normalize_child_relativeTo (by rw [hlibrary]; decide) hsegmented
    (by rw [hstart]; decide), hstart, ← hlibrary]
  rfl

/-- **Units find their library.** However the directories are written, as long as no root has two
slashes: the way that a handler unit is given, followed from its directory, leads to the library, and
so does the way that the handler of a panel is given. -/
theorem libraryRelative_leads {base : String} (hbase : s.base = ofString base)
    (habsolute : rootOf base.toList = .single)
    (houtputs : ∀ u ∈ [s.library, s.handlers, s.panelHandlers], rootOf u.output.toList ≠ .double)
    (hclass : '/' ∉ s.library.classPrefix.toList) (scene : String) :
    (s.handlersDir.child (s.libraryRelative scene s.handlersDir)).normalize =
        (s.libraryPath scene).normalize ∧
      (s.panelHandlersDir.child (s.libraryRelative scene s.panelHandlersDir)).normalize =
        (s.libraryPath scene).normalize := by
  have hsegmented : s.base.Segmented := hbase ▸ segmented_ofString base
  have hroot : s.base.root = .single := by
    rw [hbase]
    exact habsolute
  have hdir : ∀ u ∈ [s.library, s.handlers, s.panelHandlers], (s.resolve u.output).root = .single :=
    fun u hu => root_child_of_single hroot (houtputs u hu)
  have hlibrary := hdir s.library (by simp)
  exact ⟨normalize_child_libraryRelative hsegmented hlibrary hclass scene (hdir _ (by simp)),
    normalize_child_libraryRelative hsegmented hlibrary hclass scene (hdir _ (by simp))⟩

/-- Directories that are written with dots, one of them above the root, and one that is absolute. -/
def scattered : Settings :=
  { Settings.default (ofString "/srv/./app/../project") with
    library := ⟨"../lib//ui/", "UI_"⟩
    handlers := ⟨"../../../../gen/./handlers", "My"⟩
    panelHandlers := ⟨"/srv/lib/panels", ""⟩ }

theorem libraryRelative_leads_of_scattered :
    (scattered.base = ofString "/srv/./app/../project" ∧
      rootOf "/srv/./app/../project".toList = .single ∧
      (∀ u ∈ [scattered.library, scattered.handlers, scattered.panelHandlers],
        rootOf u.output.toList ≠ .double) ∧
      '/' ∉ scattered.library.classPrefix.toList) ∧
    scattered.libraryRelative "Main Menu" scattered.handlersDir =
      "../../srv/lib/ui/UI_Main_Menu.py" ∧
    scattered.libraryRelative "Main Menu" scattered.panelHandlersDir = "../ui/UI_Main_Menu.py" ∧
    (scattered.handlersDir.child
        (scattered.libraryRelative "Main Menu" scattered.handlersDir)).normalize =
      (scattered.libraryPath "Main Menu").normalize ∧
    (scattered.panelHandlersDir.child
        (scattered.libraryRelative "Main Menu" scattered.panelHandlersDir)).normalize =
      (scattered.libraryPath "Main Menu").normalize := by
  have houtputs : ∀ u ∈ [scattered.library, scattered.handlers, scattered.panelHandlers],
      rootOf u.output.toList ≠ .double := by decide
  have hclass : '/' ∉ scattered.library.classPrefix.toList := by decide
  exact ⟨⟨rfl, rfl, houtputs, hclass⟩, by decide +kernel, by decide +kernel,
    libraryRelative_leads rfl rfl houtputs hclass "Main Menu"⟩

end Settings

end SceneBindings
