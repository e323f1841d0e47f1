import SceneBindings.Files.Documents
import SceneBindings.Proofs.Files.Directories

/-!
Writing a file in a directory that is made for it, and writing the same file again.
-/

namespace SceneBindings

namespace Files

variable {fs fs' : Files} {p q r : DiskPath} {c c' : FileContent} {x : Place}

/-- A file is written in a directory that is made if it is not there. -/
def Writes (p : DiskPath) (c : FileContent) (fs fs' : Files) : Prop :=
  ∃ made, fs.makeDirectory p.parent = (made, .ok ()) ∧ made.write p c = .ok fs'

/-- A file is there, and so is its directory. -/
structure Seated (p : DiskPath) (c : FileContent) (fs : Files) : Prop where
  here : fs.get? p = some c
  above : fs.get? p.parent = some .directory

lemma Seated.place (h : Seated p c fs) : fs.place p = .ok (fs.land p) ∧ fs.at? (fs.land p) = some c := by
  obtain ⟨x, hx, hat⟩ := get?_eq_some_iff.mp h.here
  obtain rfl := eq_land_of_place hx
  exact ⟨hx, hat⟩

namespace Writes

/-- Writing a file, taken apart: directories are made, and then the file is put at its place. -/
lemma spec (h : Writes p c fs fs') : ∃ made, (fs.makeDirectory p.parent).1 = made ∧ Grows fs made ∧
    made.get? p.parent = some .directory ∧ made.place p = .ok (fs.land p) ∧
      made.at? (fs.land p) ≠ some .directory ∧ fs' = made.put (fs.land p) c := by
  obtain ⟨made, hmade, hwrite⟩ := h
  have hgrows := grows_makeDirectory fs p.parent
  rw [hmade] at hgrows
  obtain ⟨x, hx, hno, rfl⟩ := write_eq_ok_iff.mp hwrite
  obtain rfl : x = fs.land p := (eq_land_of_place hx).trans (land_congr hgrows.current p)
  obtain ⟨_, hok, hdir⟩ | ⟨_, _, herror, -⟩ := makeDirectory_cases fs p.parent
  · cases hok.symm.trans hmade
    exact ⟨made, by rw [hmade], hgrows, hdir, hx, hno, rfl⟩
  · cases herror.symm.trans hmade

lemma current (h : Writes p c fs fs') : fs'.current = fs.current := by
  obtain ⟨made, -, hgrows, -, -, -, rfl⟩ := h.spec
  exact hgrows.current

lemma seated (h : Writes p c fs fs') (hc : c.isDirectory = false) : Seated p c fs' := by
  obtain ⟨made, -, -, hdir, hplace, hno, rfl⟩ := h.spec
  exact ⟨get?_put_self hno hc hplace, directory_put hno hc hdir⟩

/-- The neighbours are as they are shown. -/
lemma beside (h : Writes p c fs fs') (hc : c.isDirectory = false) (hparent : q.parent = p.parent)
    (hne : fs.land q ≠ fs.land p) : fs'.get? q = fs.shown q := by
  obtain ⟨made, hmade, hgrows, -, -, hno, rfl⟩ := h.spec
  rw [shown, hparent, hmade]
  refine get?_put_of_ne hno hc fun heq => hne ?_
  exact (land_congr hgrows.current q).symm.trans (eq_land_of_place heq).symm

/-- What was at other paths is still there. -/
lemma kept (h : Writes p c fs fs') (hc : c.isDirectory = false) (hr : fs.get? r = some c')
    (hne : fs.land r ≠ fs.land p) : fs'.get? r = some c' := by
  obtain ⟨made, -, hgrows, -, -, hno, rfl⟩ := h.spec
  rw [get?_put_of_ne hno hc, hgrows.get? hr]
  intro heq
  exact hne ((land_congr hgrows.current r).symm.trans (eq_land_of_place heq).symm)

/-- No file is written in the place of a directory. -/
lemma directory (h : Writes p c fs fs') (hc : c.isDirectory = false)
    (hq : fs.get? q = some .directory) : fs'.get? q = some .directory := by
  obtain ⟨made, -, hgrows, -, -, hno, rfl⟩ := h.spec
  exact directory_put hno hc (hgrows.get? hq)

lemma keeps_seated (h : Writes p c fs fs') (hc : c.isDirectory = false) (hr : Seated r c' fs)
    (hne : fs.land r ≠ fs.land p) : Seated r c' fs' :=
  ⟨h.kept hc hr.here hne, h.directory hc hr.above⟩

lemma at?_eq_none (h : Writes p c fs fs') (hx : fs'.at? x = none) : fs.at? x = none := by
  obtain ⟨made, -, hgrows, -, -, -, rfl⟩ := h.spec
  rw [at?_put] at hx
  split at hx
  · cases hx
  · cases hold : fs.at? x with
    | none => rfl
    | some c' =>
      rw [hgrows.kept x c' hold] at hx
      cases hx

/-- A path is not lost. -/
lemma exists? (h : Writes p c fs fs') (hc : c.isDirectory = false) (hr : fs.exists? r = true) :
    fs'.exists? r = true := by
  obtain ⟨made, -, hgrows, -, -, hno, rfl⟩ := h.spec
  exact exists?_put hno hc (hgrows.exists? hr)

end Writes

/-- A file can be written if its directory can be made and no directory is in its place. -/
lemma exists_writes (hp : p.names ≠ []) (hmake : (fs.makeDirectory p.parent).2 = .ok ())
    (hfile : fs.shown p ≠ some .directory) (c : FileContent) : ∃ fs', Writes p c fs fs' := by
  obtain ⟨made, hmade, hdir⟩ | ⟨_, _, herror, -⟩ := makeDirectory_cases fs p.parent
  · have hplace := place_of_directory hp hdir
    rw [shown, hmade, get?_of_place hplace] at hfile
    exact ⟨_, made, hmade, write_eq_ok_iff.mpr ⟨_, hplace, hfile, rfl⟩⟩
  · rw [herror] at hmake
    cases hmake

/-- Writing what is there changes nothing. -/
lemma Seated.rewrites (h : Seated p c fs) (hc : c.isDirectory = false) :
    ∃ fs', Writes p c fs fs' ∧ fs'.current = fs.current ∧ ∀ y, fs'.at? y = fs.at? y := by
  obtain ⟨hplace, hat⟩ := h.place
  have hno : fs.at? (fs.land p) ≠ some .directory := by
    rw [hat]
    rintro ⟨⟩
    cases hc
  refine ⟨fs.put (fs.land p) c, ⟨fs, makeDirectory_of_directory h.above,
    write_eq_ok_iff.mpr ⟨_, hplace, hno, rfl⟩⟩, rfl, fun y => ?_⟩
  rw [at?_put]
  split
  · next heq => rw [← heq, hat]
  · rfl

end Files

namespace Desk

open Files

variable {d d' : Desk} {p : DiskPath} {c : FileContent}

lemma store_eq_ok_iff : d.store p c = (d', .ok ()) ↔
    ∃ files, Writes p c d.files files ∧ { d with files } = d' := by
  rw [store]
  constructor
  · intro h
    split at h
    · cases h
    · next made hmade =>
      split at h
      · cases h
      · next files hfiles =>
        cases h
        exact ⟨files, ⟨made, hmade, hfiles⟩, rfl⟩
  · rintro ⟨files, ⟨made, hmade, hfiles⟩, rfl⟩
    rw [hmade]
    dsimp only
    rw [hfiles]

lemma storeRegistry_eq_ok_iff {g : Registry} : d.storeRegistry p g = (d', .ok ()) ↔
    ∃ v files, g.document = .ok v ∧ Writes p (.document v) d.files files ∧
      { d with files } = d' := by
  rw [storeRegistry]
  constructor
  · intro h
    split at h
    · cases h
    · cases h
    · next v _ hv =>
      obtain ⟨files, hfiles, hd⟩ := store_eq_ok_iff.mp h
      exact ⟨v, files, hv, hfiles, hd⟩
  · rintro ⟨v, files, hv, hfiles, rfl⟩
    have ⟨made, hmade, _⟩ := hfiles
    rw [hmade, hv]
    exact store_eq_ok_iff.mpr ⟨files, hfiles, rfl⟩

/-- Storing a document writes its place twice, first with nothing. -/
lemma writes_of_storeDocument {content : Except Failure Value}
    (h : d.storeDocument p content = (d', .ok ())) : ∃ v files files',
      content = .ok v ∧ Writes p (.text "") d.files files ∧ Writes p (.document v) files files' ∧
        d'.files = files' := by
  rw [storeDocument] at h
  split at h
  · cases h
  · next d₀ hstore =>
    obtain ⟨files, hfiles, rfl⟩ := store_eq_ok_iff.mp hstore
    split at h
    · cases h
    · next v =>
      obtain ⟨files', hfiles', rfl⟩ := store_eq_ok_iff.mp h
      exact ⟨v, files, files', rfl, hfiles, hfiles', rfl⟩

end Desk

end SceneBindings
