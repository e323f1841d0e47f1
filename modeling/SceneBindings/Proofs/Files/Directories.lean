import SceneBindings.Files.Store
import SceneBindings.Proofs.Files.Paths

/-!
Following paths, and what making a directory and writing a file do to the paths that lead past them.
-/

namespace SceneBindings

/-- Where names lead from a place, if there are directories all the way. -/
def Place.walk (here : Place) (ns : List String) : Place := ns.foldl Place.step here

lemma Place.walk_concat (here : Place) (ns : List String) {n : String} (hn : n ≠ "..") :
    here.walk (ns ++ [n]) = here.walk ns ++ [n] := by
  rw [walk, List.foldl_append, List.foldl_cons, List.foldl_nil, step, if_neg hn, walk]

namespace Files

open DiskPath

/-- Where a path leads once all directories on its way are there. -/
def land (fs : Files) (p : DiskPath) : Place := (fs.start p).walk p.names

variable {fs fs' : Files} {p q : DiskPath} {x here : Place} {c : FileContent} {n : String}
  {ns ms : List String}

lemma exists?_eq_false : fs.exists? p = false ↔ fs.get? p = none := Option.isSome_eq_false_iff.trans
  Option.isNone_iff_eq_none

lemma at?_put (fs : Files) (x y : Place) (c : FileContent) :
    (fs.put x c).at? y = if x = y then some c else fs.at? y :=
  Table.get?_put _ _ _ _

lemma start_congr (h : fs'.current = fs.current) (p : DiskPath) : fs'.start p = fs.start p := by
  rw [start, start, h]

lemma land_congr (h : fs'.current = fs.current) (p : DiskPath) : fs'.land p = fs.land p := by
  rw [land, land, start_congr h]

/-! ### Following -/

lemma follow_append (fs : Files) (here : Place) (ns ms : List String) :
    fs.follow here (ns ++ ms) = match fs.follow here ns with
      | .ok x => fs.follow x ms
      | .error e => .error e := by
  induction ns generalizing here with
  | nil => rfl
  | cons n ns ih =>
    rw [List.cons_append, follow, follow]
    rcases fs.at? here with _ | _ | _ | _ | _
    case some.directory => exact ih _
    all_goals rfl

lemma follow_singleton_eq_ok : fs.follow here [n] = .ok x ↔
    fs.at? here = some .directory ∧ x = here.step n := by
  rw [follow]
  rcases fs.at? here with _ | _ | _ | _ | _ <;> simp [follow, eq_comm]

lemma eq_walk_of_follow (h : fs.follow here ns = .ok x) : x = here.walk ns := by
  induction ns generalizing here with
  | nil => exact (Except.ok.inj h).symm
  | cons n ns ih =>
    rw [← List.singleton_append, follow_append] at h
    split at h
    · next y hy =>
      rw [(follow_singleton_eq_ok.mp hy).2] at h
      exact ih h
    · cases h

lemma eq_land_of_place (h : fs.place p = .ok x) : x = fs.land p := eq_walk_of_follow h

/-- Only directories matter for where a path leads. -/
lemma follow_mono (h : ∀ y, fs.at? y = some .directory → fs'.at? y = some .directory)
    (hx : fs.follow here ns = .ok x) : fs'.follow here ns = .ok x := by
  induction ns generalizing here with
  | nil => exact hx
  | cons n ns ih =>
    rw [← List.singleton_append, follow_append] at hx ⊢
    split at hx
    · next y hy =>
      obtain ⟨hdir, rfl⟩ := follow_singleton_eq_ok.mp hy
      rw [follow_singleton_eq_ok.mpr ⟨h here hdir, rfl⟩]
      exact ih hx
    · cases hx

lemma place_mono (hcurrent : fs'.current = fs.current)
    (h : ∀ y, fs.at? y = some .directory → fs'.at? y = some .directory) (hx : fs.place p = .ok x) :
    fs'.place p = .ok x := by
  rw [place, start_congr hcurrent]
  exact follow_mono h hx

lemma get?_of_place (h : fs.place p = .ok x) : fs.get? p = fs.at? x := by rw [get?, h]

lemma get?_eq_some_iff : fs.get? p = some c ↔ ∃ x, fs.place p = .ok x ∧ fs.at? x = some c := by
  rw [get?]
  split
  · next x hx =>
    rw [hx]
    exact ⟨fun h => ⟨x, rfl, h⟩, fun ⟨_, hy, h⟩ => Except.ok.inj hy ▸ h⟩
  · next e he =>
    rw [he]
    exact ⟨nofun, fun ⟨_, hy, _⟩ => nomatch hy⟩

lemma exists_eq_append_getLast (h : p.names ≠ []) : ∃ n, p.names = p.parent.names ++ [n] :=
  ⟨_, (List.dropLast_concat_getLast h).symm⟩

/-- What a path leads to is in the directory that it names. -/
lemma directory_of_place (hp : p.names ≠ []) (h : fs.place p = .ok x) :
    fs.get? p.parent = some .directory := by
  obtain ⟨n, hn⟩ := exists_eq_append_getLast hp
  rw [place, hn, follow_append] at h
  split at h
  · next y hy => exact get?_eq_some_iff.mpr ⟨y, hy, (follow_singleton_eq_ok.mp h).1⟩
  · cases h

lemma directory_of_exists (hp : p.Named) (h : fs.exists? p = true) :
    fs.get? p.parent = some .directory := by
  obtain ⟨c, hc⟩ := Option.isSome_iff_exists.mp h
  obtain ⟨x, hx, -⟩ := get?_eq_some_iff.mp hc
  exact directory_of_place hp.ne_nil hx

lemma place_of_directory (hp : p.names ≠ []) (h : fs.get? p.parent = some .directory) :
    fs.place p = .ok (fs.land p) := by
  obtain ⟨n, hn⟩ := exists_eq_append_getLast hp
  obtain ⟨y, hy, hdir⟩ := get?_eq_some_iff.mp h
  have hplace : fs.place p = .ok (y.step n) := by
    rw [place, hn, follow_append]
    have hy : fs.follow (fs.start p) p.parent.names = .ok y := hy
    rw [hy]
    exact follow_singleton_eq_ok.mpr ⟨hdir, rfl⟩
  rwa [← eq_land_of_place hplace]

/-! ### Making directories -/

/-- All that was there is there, and all that is new is a directory. -/
structure Grows (fs fs' : Files) : Prop where
  current : fs'.current = fs.current
  kept : ∀ x c, fs.at? x = some c → fs'.at? x = some c
  fresh : ∀ x, fs.at? x = none → fs'.at? x = none ∨ fs'.at? x = some .directory

namespace Grows

lemma refl (fs : Files) : Grows fs fs := ⟨rfl, fun _ _ h => h, fun _ h => .inl h⟩

lemma trans {after : Files} (h : Grows fs fs') (h' : Grows fs' after) : Grows fs after where
  current := h'.current.trans h.current
  kept x c hc := h'.kept x c (h.kept x c hc)
  fresh x hx := by
    rcases h.fresh x hx with hnone | hdir
    · exact h'.fresh x hnone
    · exact .inr (h'.kept x _ hdir)

lemma place (h : Grows fs fs') (hx : fs.place p = .ok x) : fs'.place p = .ok x :=
  place_mono h.current (fun y => h.kept y .directory) hx

lemma get? (h : Grows fs fs') (hc : fs.get? p = some c) : fs'.get? p = some c := by
  obtain ⟨x, hx, hat⟩ := get?_eq_some_iff.mp hc
  exact get?_eq_some_iff.mpr ⟨x, h.place hx, h.kept x c hat⟩

lemma exists? (h : Grows fs fs') (hp : fs.exists? p = true) : fs'.exists? p = true := by
  obtain ⟨c, hc⟩ := Option.isSome_iff_exists.mp hp
  exact Option.isSome_iff_exists.mpr ⟨c, h.get? hc⟩

end Grows

lemma grows_makeOne (fs : Files) (p : DiskPath) : Grows fs (fs.makeOne p).1 := by
  rw [makeOne]
  split
  · exact .refl fs
  · next x _ =>
    split
    · next hnone =>
      refine ⟨rfl, fun y c hc => ?_, fun y hy => ?_⟩
      · rw [at?_put, if_neg, hc]
        rintro rfl
        rw [hnone] at hc
        cases hc
      · rw [at?_put]
        split
        · exact .inr rfl
        · exact .inl hy
    · exact .refl fs
    · exact .refl fs

/-- Why a directory cannot be made. -/
def Bars (e : Failure) : Prop := e = .fileInTheWay ∨ ∃ fault, e = .openFile fault

/-- What making one directory comes to. -/
lemma makeOne_cases (fs : Files) (p : DiskPath) :
    (∃ made x, fs.makeOne p = (made, .ok ()) ∧ made.get? p = some .directory ∧
        fs.place p = .ok x) ∨
      ∃ e, fs.makeOne p = (fs, .error e) ∧ fs.get? p ≠ some .directory ∧ Bars e := by
  have hgrows := grows_makeOne fs p
  rw [makeOne] at hgrows ⊢
  rw [get?]
  rcases hplace : fs.place p with e | x
  · exact .inr ⟨_, rfl, nofun, .inr ⟨e, rfl⟩⟩
  · rw [hplace] at hgrows
    dsimp only at hgrows ⊢
    rcases hat : fs.at? x with _ | _ | _ | _ | _
    case none =>
      rw [hat] at hgrows
      refine .inl ⟨_, x, rfl, get?_eq_some_iff.mpr ⟨x, hgrows.place hplace, ?_⟩, rfl⟩
      rw [at?_put, if_pos rfl]
    case some.directory => exact .inl ⟨fs, x, rfl, get?_eq_some_iff.mpr ⟨x, hplace, hat⟩, rfl⟩
    all_goals exact .inr ⟨_, rfl, nofun, .inl rfl⟩

lemma eq_of_makeOne_eq_error {e : Failure} (h : fs.makeOne p = (fs', .error e)) : fs' = fs := by
  obtain ⟨_, _, hok, -⟩ | ⟨_, he, -⟩ := makeOne_cases fs p
  · cases hok.symm.trans h
  · cases he.symm.trans h
    rfl

lemma makeOne_of_directory (h : fs.get? p = some .directory) : fs.makeOne p = (fs, .ok ()) := by
  obtain ⟨x, hx, hat⟩ := get?_eq_some_iff.mp h
  rw [makeOne, hx]
  dsimp only
  rw [hat]

/-- What making directories comes to: the last one is made where the others are, or one of the others
cannot be made. -/
lemma makeEach_cons (fs : Files) (root : DiskPath.Root) (n : String) (ns : List String) :
    fs.makeEach root (n :: ns) = fs.makeOne ⟨root, (n :: ns).reverse⟩ ∨
      (∃ made, fs.makeEach root ns = (made, .ok ()) ∧
        fs.makeEach root (n :: ns) = made.makeOne ⟨root, (n :: ns).reverse⟩) ∨
      ∃ e, (fs.makeEach root ns).2 = .error e ∧
        fs.makeEach root (n :: ns) = fs.makeEach root ns := by
  rw [makeEach]
  split
  · refine .inr ?_
    rcases fs.makeEach root ns with ⟨made, e | _⟩
    · exact .inr ⟨e, rfl, rfl⟩
    · exact .inl ⟨made, rfl, rfl⟩
  · exact .inl rfl

lemma grows_makeEach (fs : Files) (root : DiskPath.Root) (ns : List String) :
    Grows fs (fs.makeEach root ns).1 := by
  induction ns with
  | nil => exact grows_makeOne fs _
  | cons n ns ih =>
    obtain hone | ⟨made, hup, hlast⟩ | ⟨_, -, hfailed⟩ := makeEach_cons fs root n ns
    · rw [hone]
      exact grows_makeOne fs _
    · rw [hup] at ih
      rw [hlast]
      exact ih.trans (grows_makeOne _ _)
    · rw [hfailed]
      exact ih

lemma parent_reverse_cons (root : DiskPath.Root) (n : String) (ns : List String) :
    (DiskPath.mk root (n :: ns).reverse).parent = ⟨root, ns.reverse⟩ := by
  rw [parent, List.reverse_cons, List.dropLast_concat]

lemma directory_above {root : DiskPath.Root} (h : fs.place ⟨root, (n :: ns).reverse⟩ = .ok x) :
    fs.get? ⟨root, ns.reverse⟩ = some .directory := by
  rw [← parent_reverse_cons root n ns]
  exact directory_of_place (by simp) h

/-- The directory is there in the end just if it could be made. -/
lemma makeEach_cases (fs : Files) (root : DiskPath.Root) (ns : List String) :
    (∃ made, fs.makeEach root ns = (made, .ok ()) ∧
        made.get? ⟨root, ns.reverse⟩ = some .directory) ∨
      ∃ made e, fs.makeEach root ns = (made, .error e) ∧
        made.get? ⟨root, ns.reverse⟩ ≠ some .directory ∧ Bars e := by
  have hone : ∀ (fs : Files) p, (∃ made, fs.makeOne p = (made, .ok ()) ∧
      made.get? p = some .directory) ∨ ∃ made e, fs.makeOne p = (made, .error e) ∧
        made.get? p ≠ some .directory ∧ Bars e := fun fs p =>
    (makeOne_cases fs p).imp (fun ⟨made, _, hmade, hdir, _⟩ => ⟨made, hmade, hdir⟩)
      fun ⟨e, he⟩ => ⟨fs, e, he⟩
  induction ns with
  | nil => exact hone fs _
  | cons n ns ih =>
    obtain hfirst | ⟨made, -, hlast⟩ | ⟨e, he, hfailed⟩ := makeEach_cons fs root n ns
    · rw [hfirst]
      exact hone fs _
    · rw [hlast]
      exact hone made _
    · obtain ⟨made, hok, -⟩ | ⟨made, e', herror, hno, hbars⟩ := ih
      · rw [hok] at he
        cases he
      · refine .inr ⟨made, e', hfailed.trans herror, fun hdir => hno ?_, hbars⟩
        obtain ⟨x, hx, -⟩ := get?_eq_some_iff.mp hdir
        exact directory_above hx

lemma makeEach_of_directory {root : DiskPath.Root} (h : fs.get? ⟨root, ns.reverse⟩ = some .directory) :
    fs.makeEach root ns = (fs, .ok ()) := by
  cases ns with
  | nil => exact makeOne_of_directory h
  | cons n ns => rw [makeEach, makeOne_of_directory h]

lemma makeEach_same {root : DiskPath.Root}
    (hone : (fs.makeOne ⟨root, (n :: ns).reverse⟩).1 = fs) (hup : (fs.makeEach root ns).1 = fs) :
    (fs.makeEach root (n :: ns)).1 = fs := by
  obtain hfirst | ⟨made, hmade, hlast⟩ | ⟨_, -, hfailed⟩ := makeEach_cons fs root n ns
  · rwa [hfirst]
  · obtain rfl : made = fs := by rwa [hmade] at hup
    rwa [hlast]
  · rwa [hfailed]

/-- Directories that could not be made cannot be made in what is left of the attempt. -/
lemma makeEach_stuck {root : DiskPath.Root} {made : Files} {e : Failure}
    (h : fs.makeEach root ns = (made, .error e)) : (made.makeEach root ns).1 = made := by
  induction ns with
  | nil =>
    obtain rfl := eq_of_makeOne_eq_error h
    exact congrArg Prod.fst h
  | cons n ns ih =>
    obtain hfirst | ⟨mid, hmid, hlast⟩ | ⟨_, -, hfailed⟩ := makeEach_cons fs root n ns
    · obtain rfl := eq_of_makeOne_eq_error (hfirst.symm.trans h)
      exact congrArg Prod.fst h
    · rw [hlast] at h
      obtain rfl := eq_of_makeOne_eq_error h
      obtain ⟨_, hup, hdir⟩ | ⟨_, _, herror, -⟩ := makeEach_cases fs root ns
      · cases hup.symm.trans hmid
        exact makeEach_same (congrArg Prod.fst h) (by rw [makeEach_of_directory hdir])
      · cases herror.symm.trans hmid
    · rw [hfailed] at h
      refine makeEach_same ?_ (ih h)
      obtain ⟨_, _, -, -, hplace⟩ | ⟨_, he, -⟩ := makeOne_cases made ⟨root, (n :: ns).reverse⟩
      · obtain ⟨_, hok, -⟩ | ⟨_, _, herror, hno, -⟩ := makeEach_cases fs root ns
        · cases hok.symm.trans h
        · cases herror.symm.trans h
          exact absurd (directory_above hplace) hno
      · exact congrArg Prod.fst he

/-! What making the directory of a path comes to. -/

lemma grows_makeDirectory (fs : Files) (p : DiskPath) : Grows fs (fs.makeDirectory p).1 :=
  grows_makeEach fs p.root p.names.reverse

lemma makeDirectory_cases (fs : Files) (p : DiskPath) :
    (∃ made, fs.makeDirectory p = (made, .ok ()) ∧ made.get? p = some .directory) ∨
      ∃ made e, fs.makeDirectory p = (made, .error e) ∧ made.get? p ≠ some .directory ∧ Bars e := by
  have hcases := makeEach_cases fs p.root p.names.reverse
  rwa [List.reverse_reverse] at hcases

lemma makeDirectory_of_directory (h : fs.get? p = some .directory) :
    fs.makeDirectory p = (fs, .ok ()) :=
  makeEach_of_directory (by rwa [List.reverse_reverse])

/-- Making a directory again changes nothing, whether it could be made or not. -/
lemma makeDirectory_makeDirectory (fs : Files) (p : DiskPath) :
    ((fs.makeDirectory p).1.makeDirectory p).1 = (fs.makeDirectory p).1 := by
  obtain ⟨made, hmade, hdir⟩ | ⟨made, e, hmade, -⟩ := makeDirectory_cases fs p
  · rw [hmade, makeDirectory_of_directory hdir]
  · rw [hmade]
    exact makeEach_stuck hmade

/-! ### Writing -/

/-- Files and directories are not put in each other's place. -/
lemma directory_put_iff (hx : fs.at? x ≠ some .directory) (hc : c.isDirectory = false) (y : Place) :
    (fs.put x c).at? y = some .directory ↔ fs.at? y = some .directory := by
  rw [at?_put]
  split
  · next h =>
    subst h
    refine ⟨fun h => ?_, fun h => absurd h hx⟩
    cases Option.some.inj h
    cases hc
  · rfl

lemma place_put_iff (hx : fs.at? x ≠ some .directory) (hc : c.isDirectory = false) {y : Place} :
    (fs.put x c).place q = .ok y ↔ fs.place q = .ok y := by
  have hcurrent : (fs.put x c).current = fs.current := rfl
  exact ⟨place_mono hcurrent.symm fun y => (directory_put_iff hx hc y).mp,
    place_mono hcurrent fun y => (directory_put_iff hx hc y).mpr⟩

lemma get?_put_self (hx : fs.at? x ≠ some .directory) (hc : c.isDirectory = false)
    (hq : fs.place q = .ok x) : (fs.put x c).get? q = some c := by
  rw [get?_of_place ((place_put_iff hx hc).mpr hq), at?_put, if_pos rfl]

lemma get?_put_of_ne (hx : fs.at? x ≠ some .directory) (hc : c.isDirectory = false)
    (hq : fs.place q ≠ .ok x) : (fs.put x c).get? q = fs.get? q := by
  cases hplace : fs.place q with
  | ok y =>
    rw [get?_of_place ((place_put_iff hx hc).mpr hplace), get?_of_place hplace, at?_put, if_neg]
    rintro rfl
    exact hq hplace
  | error e =>
    have hnone : ∀ {fs' : Files}, (∀ y, fs'.place q ≠ .ok y) → fs'.get? q = none := by
      intro fs' hno
      rw [get?]
      split
      · next y hy => exact absurd hy (hno y)
      · rfl
    rw [hnone fun y hy => ?_, hnone fun y hy => ?_]
    · rw [hplace] at hy
      cases hy
    · rw [place_put_iff hx hc, hplace] at hy
      cases hy

lemma exists?_put (hx : fs.at? x ≠ some .directory) (hc : c.isDirectory = false)
    (hq : fs.exists? q = true) : (fs.put x c).exists? q = true := by
  by_cases hplace : fs.place q = .ok x
  · rw [exists?, get?_put_self hx hc hplace]
    rfl
  · rwa [exists?, get?_put_of_ne hx hc hplace]

lemma directory_put (hx : fs.at? x ≠ some .directory) (hc : c.isDirectory = false)
    (hq : fs.get? q = some .directory) : (fs.put x c).get? q = some .directory := by
  obtain ⟨y, hy, hat⟩ := get?_eq_some_iff.mp hq
  exact get?_eq_some_iff.mpr ⟨y, (place_put_iff hx hc).mpr hy, (directory_put_iff hx hc y).mpr hat⟩

lemma write_eq_ok_iff : fs.write p c = .ok fs' ↔
    ∃ x, fs.place p = .ok x ∧ fs.at? x ≠ some .directory ∧ fs' = fs.put x c := by
  rw [write]
  split
  · next e he =>
    rw [he]
    exact ⟨nofun, fun ⟨_, hx, _⟩ => nomatch hx⟩
  · next x hx =>
    rw [hx]
    split
    · next hdir => exact ⟨nofun, fun ⟨_, hy, hno, _⟩ => absurd (Except.ok.inj hy ▸ hdir) hno⟩
    · next hno =>
      refine ⟨fun h => ⟨x, rfl, hno, (Except.ok.inj h).symm⟩, ?_⟩
      rintro ⟨_, hy, -, rfl⟩
      rw [Except.ok.inj hy]

lemma read_eq_ok_iff : fs.read p = .ok c ↔ fs.get? p = some c ∧ c.isDirectory = false := by
  rw [read, get?]
  cases fs.place p with
  | error e => exact ⟨nofun, fun h => nomatch h.1⟩
  | ok x =>
    dsimp only
    constructor
    · intro h
      split at h
      · cases h
      · cases h
      · next hno hc =>
        cases h
        refine ⟨hc, ?_⟩
        cases c with
        | directory => exact absurd rfl hno
        | _ => rfl
    · rintro ⟨h, hfile⟩
      rw [h]
      cases c with
      | directory => cases hfile
      | _ => rfl

/-- What is the same agrees. -/
lemma agreeAt_of_at?_eq [Yaml] (h : fs'.at? x = fs.at? x) : fs.agreeAt fs' x = true := by
  rw [agreeAt, h]
  rcases fs.at? x with _ | _ | _ | _ | _ <;> simp [FileContent.same]

/-! ### Behind directories that are not there -/

/-- What is at a path once its directory is made. -/
def shown (fs : Files) (p : DiskPath) : Option FileContent := (fs.makeDirectory p.parent).1.get? p

/-- Something is at a path, but it is not found before the directory of the path is made. -/
def Hides (fs : Files) (p : DiskPath) : Prop := fs.exists? p = false ∧ (fs.shown p).isSome = true

instance (fs : Files) (p : DiskPath) : Decidable (fs.Hides p) :=
  inferInstanceAs (Decidable (_ ∧ _))

lemma shown_of_directory (h : fs.get? p.parent = some .directory) : fs.shown p = fs.get? p := by
  rw [shown, makeDirectory_of_directory h]

lemma shown_of_get? (h : fs.get? p = some c) : fs.shown p = some c :=
  (grows_makeDirectory fs p.parent).get? h

lemma get?_of_shown_eq_none (h : fs.shown p = none) : fs.get? p = none := by
  cases hp : fs.get? p with
  | none => rfl
  | some c => exact absurd (h.symm.trans (shown_of_get? hp)) nofun

lemma not_hides_of_directory (h : fs.get? p.parent = some .directory) : ¬ fs.Hides p := by
  rintro ⟨hno, hshown⟩
  rw [shown_of_directory h, exists?_eq_false.mp hno] at hshown
  cases hshown

lemma not_hides_makeDirectory (fs : Files) (p : DiskPath) :
    ¬ (fs.makeDirectory p.parent).1.Hides p := by
  rintro ⟨hno, hshown⟩
  rw [shown, makeDirectory_makeDirectory, exists?_eq_false.mp hno] at hshown
  cases hshown

end Files

namespace DiskPath

variable {p q : DiskPath}

/-- Neighbours at one place are one path. -/
lemma Named.eq_of_land (hp : p.Named) (hq : q.Named) (hparent : p.parent = q.parent) {fs : Files}
    (h : fs.land p = fs.land q) : p = q := by
  obtain ⟨ns, n, hpn, hn⟩ := hp
  obtain ⟨ms, m, hqm, hm⟩ := hq
  obtain ⟨root, names⟩ := p
  obtain ⟨root', names'⟩ := q
  subst hpn hqm
  rw [parent, parent, List.dropLast_concat, List.dropLast_concat, mk.injEq] at hparent
  obtain ⟨rfl, rfl⟩ := hparent
  rw [Files.land, Files.land, Place.walk_concat _ _ hn, Place.walk_concat _ _ hm] at h
  rw [(List.append_inj' h rfl).2]

end DiskPath

end SceneBindings
