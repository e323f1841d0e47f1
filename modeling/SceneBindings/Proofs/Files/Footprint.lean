import Mathlib.Data.List.Basic
import SceneBindings.Proofs.Files.Writing

/-!
Which files an operation touches. Making directories changes no file; a unit that is written changes
its own file and, if this was to be kept, the file beside it that keeps it.
-/

namespace SceneBindings

namespace Files

/-- What a file holds. A directory is no file. -/
def content? (fs : Files) (x : Place) : Option FileContent :=
  (fs.at? x).filter fun c => !c.isDirectory

/-- Files differ at most at some places. Directories may be new. -/
structure Confined (touched : Place → Prop) (before after : Files) : Prop where
  current : after.current = before.current
  content : ∀ x, ¬ touched x → after.content? x = before.content? x

variable {fs fs' : Files} {p q : DiskPath} {x y : Place} {c : FileContent}
  {touched wider : Place → Prop}

lemma content?_eq_some_iff :
    fs.content? x = some c ↔ fs.at? x = some c ∧ c.isDirectory = false := by
  rw [content?, Option.filter_eq_some_iff, Bool.not_eq_true']

lemma content?_put (hc : c.isDirectory = false) (fs : Files) (x y : Place) :
    (fs.put x c).content? y = if x = y then some c else fs.content? y := by
  rw [content?, at?_put]
  split
  · rw [Option.filter_some, hc]
    rfl
  · rfl

lemma Grows.content? (h : Grows fs fs') (x : Place) : fs'.content? x = fs.content? x := by
  rw [Files.content?, Files.content?]
  cases hx : fs.at? x with
  | some c => rw [h.kept x c hx]
  | none =>
    rcases h.fresh x hx with hnone | hdir
    · rw [hnone]
    · rw [hdir]
      rfl

namespace Confined

lemma refl (touched : Place → Prop) (fs : Files) : Confined touched fs fs := ⟨rfl, fun _ _ => rfl⟩

lemma trans {after : Files} (h : Confined touched fs fs') (h' : Confined touched fs' after) :
    Confined touched fs after where
  current := h'.current.trans h.current
  content x hx := (h'.content x hx).trans (h.content x hx)

lemma mono (h : Confined touched fs fs') (hwider : ∀ x, touched x → wider x) :
    Confined wider fs fs' where
  current := h.current
  content x hx := h.content x fun ht => hx (hwider x ht)

lemma of_grows (h : Grows fs fs') : Confined touched fs fs' :=
  ⟨h.current, fun x _ => h.content? x⟩

lemma of_put (hc : c.isDirectory = false) (ht : touched x) : Confined touched fs (fs.put x c) where
  current := rfl
  content y hy := by
    rw [content?_put hc, if_neg]
    rintro rfl
    exact hy ht

end Confined

namespace Writes

lemma confined (h : Writes p c fs fs') (hc : c.isDirectory = false) :
    Confined (· = fs.land p) fs fs' := by
  obtain ⟨made, -, hgrows, -, -, -, rfl⟩ := h.spec
  exact (Confined.of_grows hgrows).trans (.of_put hc rfl)

lemma content (h : Writes p c fs fs') (hc : c.isDirectory = false) :
    fs'.content? (fs.land p) = some c := by
  obtain ⟨made, -, -, -, -, -, rfl⟩ := h.spec
  rw [content?_put hc, if_pos rfl]

/-- A file that is written over and was not found before was hidden. -/
lemma hides (h : Writes p c fs fs') (hnew : fs.exists? p = false)
    (hold : fs.content? (fs.land p) ≠ none) : fs.Hides p := by
  obtain ⟨made, hmade, hgrows, -, hplace, -⟩ := h.spec
  obtain ⟨c', hc'⟩ := Option.ne_none_iff_exists'.mp hold
  refine ⟨hnew, ?_⟩
  rw [shown, hmade, get?_of_place hplace, hgrows.kept _ _ (content?_eq_some_iff.mp hc').1]
  rfl

end Writes

end Files

/-- What is refused before anything is written: something is missing that has to be there first, or
there is a file that nobody decides about. -/
def Failure.IsRefusal : Failure → Prop
  | unboundRegistry | libraryMissing _ | unitMissing _ | conflict _ => True
  | _ => False

namespace Desk

open Files

variable {d d' : Desk} {p : DiskPath} {c : FileContent}

/-! ### Storing -/

lemma not_isRefusal_of_bars {e : Failure} (h : Bars e) : ¬ e.IsRefusal := by
  obtain rfl | ⟨fault, rfl⟩ := h <;> exact id

lemma write_error {fs : Files} {e : Failure} (h : fs.write p c = .error e) : ¬ e.IsRefusal := by
  rw [write] at h
  split at h
  · cases h
    exact id
  · split at h <;> cases h
    exact id

lemma store_spec {r : Except Failure Unit} (h : d.store p c = (d', r)) :
    ∃ files, d' = { d with files } ∧ (r = .ok () ∧ Writes p c d.files files ∨
      (∃ e, r = .error e ∧ ¬ e.IsRefusal) ∧
        (files = (d.files.makeDirectory p.parent).1)) := by
  rw [store] at h
  obtain ⟨made, hmade, -⟩ | ⟨made, e, hmade, -, hbars⟩ := makeDirectory_cases d.files p.parent
  · rw [hmade] at h
    dsimp only at h
    split at h
    · next e he =>
      cases h
      exact ⟨made, rfl, .inr ⟨⟨e, rfl, write_error he⟩, by rw [hmade]⟩⟩
    · next files hfiles =>
      cases h
      exact ⟨files, rfl, .inl ⟨rfl, made, hmade, hfiles⟩⟩
  · rw [hmade] at h
    cases h
    exact ⟨made, rfl, .inr ⟨⟨e, rfl, not_isRefusal_of_bars hbars⟩, by rw [hmade]⟩⟩

lemma finish_spec {text : String} {r : Except Failure (Option DiskPath)}
    (h : d.finish p text = (d', r)) : d'.answers = d.answers ∧ d'.now = d.now ∧
      (r = .ok (some p) ∧ Writes p (.text text) d.files d'.files ∨
        (∃ e, r = .error e ∧ ¬ e.IsRefusal) ∧
          d'.files = (d.files.makeDirectory p.parent).1) := by
  rw [finish] at h
  split at h
  · next d₁ e hstore =>
    cases h
    obtain ⟨files, rfl, ⟨⟨⟩, -⟩ | ⟨⟨_, ⟨⟩, he⟩, hfiles⟩⟩ := store_spec hstore
    exact ⟨rfl, rfl, .inr ⟨⟨e, rfl, he⟩, hfiles⟩⟩
  · next d₁ hstore =>
    cases h
    obtain ⟨files, rfl, ⟨-, hwrites⟩ | ⟨⟨_, ⟨⟩, -⟩, -⟩⟩ := store_spec hstore
    exact ⟨rfl, rfl, .inl ⟨rfl, hwrites⟩⟩

end Desk

/-! ### Where a file is kept -/

namespace DiskPath

variable {p q : DiskPath} {now : Timestamp}

/-- The file beside a path that keeps what was there. -/
def backupAt (p : DiskPath) (now : Timestamp) : DiskPath :=
  { p with names := p.names.dropLast ++ [p.stem ++ "_" ++ now.compact ++ ".bak" ++ p.suffix] }

lemma backup_eq_ok_iff {b : DiskPath} :
    p.backup now = .ok b ↔ p.names ≠ [] ∧ b = p.backupAt now := by
  rw [backup, withName]
  split
  · next h => exact ⟨nofun, fun hb => absurd h hb.1⟩
  · next h => rw [Except.ok.injEq, and_iff_right h, eq_comm, backupAt]

lemma stem_append_suffix (p : DiskPath) : p.stem ++ p.suffix = p.name := by
  rw [stem, suffix]
  split
  · rw [← String.ofList_append, List.take_append_drop, String.ofList_toList]
  · exact String.append_empty

lemma parent_backupAt (p : DiskPath) (now : Timestamp) : (p.backupAt now).parent = p.parent := by
  rw [backupAt, parent, List.dropLast_concat, parent]

lemma named_backupAt (p : DiskPath) (now : Timestamp) : (p.backupAt now).Named := by
  refine ⟨_, _, rfl, fun h => ?_⟩
  have hlength := congrArg (fun n => n.toList.length) h
  simp only [String.toList_append, List.length_append] at hlength
  have hends : "_".toList.length = 1 ∧ ".bak".toList.length = 4 ∧ "..".toList.length = 2 := by decide
  omega

lemma backupAt_ne (p : DiskPath) (now : Timestamp) : p.backupAt now ≠ p := by
  intro heq
  have hlast := congrArg (fun q => q.names.getLast?.getD "") heq
  simp only [backupAt, List.getLast?_concat, Option.getD_some] at hlast
  rw [← name, ← stem_append_suffix] at hlast
  have hlength := congrArg (fun n => n.toList.length) hlast
  simp only [String.toList_append, List.length_append] at hlength
  have hends : "_".toList.length = 1 ∧ ".bak".toList.length = 4 := by decide
  omega

lemma Named.land_backupAt_ne (hp : p.Named) (now : Timestamp) (fs : Files) :
    fs.land (p.backupAt now) ≠ fs.land p := fun h =>
  backupAt_ne p now ((named_backupAt p now).eq_of_land hp (parent_backupAt p now) h)

end DiskPath

namespace Desk

open Files

variable {d d' : Desk} {p : DiskPath}

/-! ### Units -/

/-- What is decided about a file, if it is there and there is an answer. -/
def choice? (d : Desk) (p : DiskPath) (decider : Option Decider) : Option WriteDecision :=
  if d.files.exists? p then
    match decider with
    | none => none
    | some (.always w) => some w
    | some .ask => d.answers.head?.map readAnswer
  else none

/-- The answers that are left once a path has been decided about. -/
def answersAfter (d : Desk) (p : DiskPath) (decider : Option Decider) : List String :=
  if d.files.exists? p = true ∧ decider = some .ask then d.answers.tail else d.answers

/-- Where the unit at a path is kept, if it is decided that it is to be. -/
def KeptAt (d : Desk) (p : DiskPath) (decider : Option Decider) (b : DiskPath) : Prop :=
  d.choice? p decider = some .backup ∧ p.backup d.now = .ok b

/-- The places that writing a unit may change: its own and that of its backup. -/
def Touches (d : Desk) (p : DiskPath) (decider : Option Decider) (x : Place) : Prop :=
  x = d.files.land p ∨ ∃ b, d.KeptAt p decider b ∧ x = d.files.land b

/-- What writing a unit does to the files, whatever comes of it. -/
structure UnitFrame (d : Desk) (p : DiskPath) (text : String) (decider : Option Decider)
    (d' : Desk) (r : Except Failure (Option DiskPath)) : Prop where
  now : d'.now = d.now
  answers : d'.answers = d.answersAfter p decider
  confined : Confined (d.Touches p decider) d.files d'.files
  kept : ∀ b, d.KeptAt p decider b →
    d'.files.content? (d.files.land b) = d.files.content? (d.files.land p) ∨
      d'.files = d.files ∧ ∃ e, r = .error e
  /-- Refused is only a file that nobody decides about. -/
  refused : ∀ e, r = .error e → e.IsRefusal →
    d'.files = d.files ∧ d.files.exists? p = true ∧ decider = none
  /-- A file that is there is only replaced after a decision that allows it. -/
  undecided : d.files.exists? p = true → d.choice? p decider = none → d'.files = d.files
  /-- A file that is found after its directory was made is replaced without a decision. -/
  unseen : d.files.exists? p = false → d'.files.content? (d.files.land p) =
    d.files.content? (d.files.land p) ∨ d.files.content? (d.files.land p) = none ∨ d.files.Hides p
  cancelled : d.choice? p decider = some .cancel → d'.files = d.files ∧ r = .ok none
  written : ∀ w, r = .ok w → (w = none ∧ d.choice? p decider = some .cancel) ∨
    (w = some p ∧ d'.files.content? (d.files.land p) = some (.text text))
  directory : ∀ w, r = .ok w → d'.files.get? p.parent = some .directory
  beside : ∀ w, r = .ok w → ∀ q : DiskPath, q.parent = p.parent →
    ¬ d.Touches p decider (d.files.land q) → d'.files.get? q = d.files.shown q

lemma backUp_spec {r : Except Failure Unit} (h : d.backUp p = (d', r)) :
    d'.answers = d.answers ∧ d'.now = d.now ∧
    ((∃ e, r = .error e ∧ ¬ e.IsRefusal ∧ d'.files = d.files) ∨
      ∃ b c, r = .ok () ∧ p.backup d.now = .ok b ∧ d.files.get? p = some c ∧
        c.isDirectory = false ∧ d.files.write b c = .ok d'.files) := by
  rw [backUp] at h
  split at h
  · next e he =>
    cases h
    refine ⟨rfl, rfl, .inl ⟨e, rfl, ?_, rfl⟩⟩
    rw [DiskPath.backup, DiskPath.withName] at he
    split at he <;> cases he
    exact id
  · next b hb =>
    split at h
    · cases h
      exact ⟨rfl, rfl, .inl ⟨_, rfl, id, rfl⟩⟩
    · next c hc =>
      have hfile := read_eq_ok_iff.mp hc
      split at h
      · next e he =>
        cases h
        exact ⟨rfl, rfl, .inl ⟨e, rfl, write_error he, rfl⟩⟩
      · next files hfiles =>
        cases h
        exact ⟨rfl, rfl, .inr ⟨b, c, rfl, hb, hfile.1, hfile.2, hfiles⟩⟩

lemma choice?_missing (hp : d.files.exists? p = false) (decider : Option Decider) :
    d.choice? p decider = none := if_neg (by rw [hp]; exact Bool.false_ne_true)

lemma choice?_always (hp : d.files.exists? p = true) (w : WriteDecision) :
    d.choice? p (some (.always w)) = some w := if_pos hp

lemma choice?_ask (hp : d.files.exists? p = true) :
    d.choice? p (some .ask) = d.answers.head?.map readAnswer := if_pos hp

lemma decide_spec {decider : Decider} {r : Except Failure WriteDecision}
    (hp : d.files.exists? p = true) (h : d.decide p decider = (d', r)) :
    d'.files = d.files ∧ d'.now = d.now ∧ d'.answers = d.answersAfter p (some decider) ∧
      (d.choice? p (some decider) = none ∧ r = .error .noAnswer ∨
        ∃ w, d.choice? p (some decider) = some w ∧ r = .ok w) := by
  rw [answersAfter]
  cases decider with
  | always w =>
    cases h
    exact ⟨rfl, rfl, (if_neg (by simp)).symm, .inr ⟨w, choice?_always hp w, rfl⟩⟩
  | ask =>
    rw [choice?_ask hp, if_pos ⟨hp, rfl⟩]
    rw [decide] at h
    split at h
    · next hnone =>
      cases h
      have hnone : d.answers = [] := hnone
      rw [hnone]
      exact ⟨rfl, rfl, hnone, .inl ⟨rfl, rfl⟩⟩
    · next a answers hsome =>
      cases h
      have hsome : d.answers = a :: answers := hsome
      rw [hsome]
      exact ⟨rfl, rfl, rfl, .inr ⟨_, rfl, rfl⟩⟩

section WriteUnit

variable {text : String} {decider : Option Decider} {r : Except Failure (Option DiskPath)}

lemma exists?_of_choice? {w : WriteDecision} (h : d.choice? p decider = some w) :
    d.files.exists? p = true := by
  cases hp : d.files.exists? p with
  | true => rfl
  | false =>
    rw [choice?_missing hp] at h
    cases h

/-- Nothing is written, and nothing was to be kept that could be. -/
lemma UnitFrame.of_unchanged (hp : p.Named) (hnow : d'.now = d.now)
    (hanswers : d'.answers = d.answersAfter p decider) (hfiles : d'.files = d.files)
    (hkept : d.choice? p decider = some .backup → ∃ e, r = .error e)
    (hrefused : ∀ e, r = .error e → e.IsRefusal → d.files.exists? p = true ∧ decider = none)
    (hcancelled : d.choice? p decider = some .cancel → r = .ok none)
    (hwritten : ∀ w, r = .ok w → w = none ∧ d.choice? p decider = some .cancel) :
    UnitFrame d p text decider d' r := by
  have hdir : ∀ w, r = .ok w → d.files.get? p.parent = some .directory := fun w hw =>
    directory_of_exists hp (exists?_of_choice? (hwritten w hw).2)
  constructor
  case now => exact hnow
  case answers => exact hanswers
  case confined => exact hfiles ▸ .refl _ _
  case kept => exact fun _ hb => .inr ⟨hfiles, hkept hb.1⟩
  case refused => exact fun e he hrefusal => ⟨hfiles, hrefused e he hrefusal⟩
  case undecided => exact fun _ _ => hfiles
  case unseen => exact fun _ => .inl (by rw [hfiles])
  case cancelled => exact fun h => ⟨hfiles, hcancelled h⟩
  case written => exact fun w hw => .inl (hwritten w hw)
  case directory => exact fun w hw => by rw [hfiles, hdir w hw]
  case beside => exact fun w hw q hq _ => by rw [hfiles, shown_of_directory (hq ▸ hdir w hw)]

/-- What finishing a unit does to the files, whatever comes of it. -/
structure FinishFrame (d : Desk) (p : DiskPath) (text : String) (d' : Desk)
    (r : Except Failure (Option DiskPath)) : Prop where
  now : d'.now = d.now
  answers : d'.answers = d.answers
  confined : Confined (· = d.files.land p) d.files d'.files
  failed : ∀ e, r = .error e → ¬ e.IsRefusal
  unseen : d.files.exists? p = false → d'.files.content? (d.files.land p) =
    d.files.content? (d.files.land p) ∨ d.files.content? (d.files.land p) = none ∨ d.files.Hides p
  seen : ¬ d'.files.Hides p
  written : ∀ w, r = .ok w → w = some p ∧ d'.files.content? (d.files.land p) = some (.text text)
  directory : ∀ w, r = .ok w → d'.files.get? p.parent = some .directory
  beside : ∀ w, r = .ok w → ∀ q : DiskPath, q.parent = p.parent →
    d.files.land q ≠ d.files.land p → d'.files.get? q = d.files.shown q

lemma finish_frame (h : d.finish p text = (d', r)) : FinishFrame d p text d' r := by
  obtain ⟨hanswers, hnow, ⟨rfl, hwrites⟩ | ⟨⟨e, rfl, he⟩, hmade⟩⟩ := finish_spec h
  · constructor
    case now => exact hnow
    case answers => exact hanswers
    case confined => exact hwrites.confined rfl
    case failed => exact nofun
    case unseen =>
      exact fun hnew => .inr (or_iff_not_imp_left.mpr fun hold => hwrites.hides hnew hold)
    case seen => exact not_hides_of_directory (hwrites.seated rfl).above
    case written => exact fun w hw => ⟨(Except.ok.inj hw).symm, hwrites.content rfl⟩
    case directory => exact fun _ _ => (hwrites.seated rfl).above
    case beside => exact fun _ _ q hq hne => hwrites.beside rfl hq hne
  · have hgrows := grows_makeDirectory d.files p.parent
    rw [← hmade] at hgrows
    constructor
    case now => exact hnow
    case answers => exact hanswers
    case confined => exact .of_grows hgrows
    case failed => exact fun _ he' => Except.error.inj he' ▸ he
    case unseen => exact fun _ => .inl (hgrows.content? _)
    case seen => exact hmade ▸ not_hides_makeDirectory d.files p
    all_goals exact nofun

lemma UnitFrame.of_finish {d₁ : Desk} (hnow : d₁.now = d.now)
    (hanswers : d₁.answers = d.answersAfter p decider) (hfiles : d₁.files = d.files)
    (hthere : d.files.exists? p = true → d.choice? p decider = some .overwrite)
    (h : d₁.finish p text = (d', r)) : UnitFrame d p text decider d' r := by
  have hdone := finish_frame h
  have hchoice : ∀ w, d.choice? p decider = some w → w = .overwrite := fun w hw =>
    (Option.some.inj ((hthere (exists?_of_choice? hw)).symm.trans hw)).symm
  constructor
  case now => exact hdone.now.trans hnow
  case answers => exact hdone.answers.trans hanswers
  case confined =>
    have hconfined := hdone.confined
    rw [hfiles] at hconfined
    exact hconfined.mono fun _ => .inl
  case kept =>
    intro b hb
    cases hchoice _ hb.1
  case refused => exact fun e he hrefusal => absurd hrefusal (hdone.failed e he)
  case undecided =>
    intro hp hnone
    rw [hthere hp] at hnone
    cases hnone
  case unseen => exact hfiles ▸ hdone.unseen
  case cancelled =>
    intro hcancel
    cases hchoice _ hcancel
  case written => exact fun w hw => .inr (hfiles ▸ hdone.written w hw)
  case directory => exact hdone.directory
  case beside =>
    intro w hw q hq hno
    rw [hdone.beside w hw q hq (hfiles ▸ fun heq => hno (.inl heq)), hfiles]

/-- A backup stands beside the unit, in a directory that is there. It changes nothing else there. -/
structure BackUpFrame (d : Desk) (p : DiskPath) (d' : Desk) : Prop where
  now : d'.now = d.now
  answers : d'.answers = d.answers
  named : p.backup d.now = .ok (p.backupAt d.now)
  confined : Confined (· = d.files.land (p.backupAt d.now)) d.files d'.files
  kept : d'.files.content? (d.files.land (p.backupAt d.now)) = d.files.content? (d.files.land p)
  directory : d'.files.get? p.parent = some .directory
  beside : ∀ q : DiskPath, q.parent = p.parent →
    d.files.land q ≠ d.files.land (p.backupAt d.now) → d'.files.shown q = d.files.shown q

lemma backUp_frame (hp : p.Named) (h : d.backUp p = (d', .ok ())) : BackUpFrame d p d' := by
  obtain ⟨hanswers, hnow, ⟨_, ⟨⟩, -⟩ | ⟨b, c, -, hb, hc, hfile, hwrite⟩⟩ := backUp_spec h
  obtain ⟨hne, rfl⟩ := DiskPath.backup_eq_ok_iff.mp hb
  obtain ⟨x, hx, hno, hput⟩ := write_eq_ok_iff.mp hwrite
  obtain rfl := eq_land_of_place hx
  obtain ⟨y, hy, hat⟩ := get?_eq_some_iff.mp hc
  have hcontent : d.files.content? (d.files.land p) = some c := by
    rw [← eq_land_of_place hy]
    exact content?_eq_some_iff.mpr ⟨hat, hfile⟩
  have hdir : d.files.get? p.parent = some .directory := directory_of_exists hp (by rw [exists?, hc]; rfl)
  have hdir' : d'.files.get? p.parent = some .directory := hput ▸ directory_put hno hfile hdir
  constructor
  case now => exact hnow
  case answers => exact hanswers
  case named => exact hb
  case confined => exact hput ▸ .of_put hfile rfl
  case kept => rw [hput, content?_put hfile, if_pos rfl, hcontent]
  case directory => exact hdir'
  case beside =>
    intro q hq hfree
    rw [shown_of_directory (hq ▸ hdir'), shown_of_directory (hq ▸ hdir), hput,
      get?_put_of_ne hno hfile fun heq => hfree (eq_land_of_place heq).symm]

lemma UnitFrame.of_backUp {d₁ : Desk} (hp : p.Named) (hnow : d₁.now = d.now)
    (hanswers : d₁.answers = d.answersAfter p decider) (hfiles : d₁.files = d.files)
    (hchoice : d.choice? p decider = some .backup)
    (h : (match d₁.backUp p with
      | (d, .error e) => (d, .error e)
      | (d, .ok ()) => d.finish p text) = (d', r)) : UnitFrame d p text decider d' r := by
  split at h
  · next d₂ e hbackup =>
    cases h
    obtain ⟨hanswers', hnow', ⟨e', he', hno, hfiles'⟩ | ⟨_, _, ⟨⟩, -⟩⟩ := backUp_spec hbackup
    cases he'
    refine .of_unchanged hp (hnow'.trans hnow) (hanswers'.trans hanswers) (hfiles'.trans hfiles)
      (fun _ => ⟨_, rfl⟩) (fun _ he hrefusal => absurd (Except.error.inj he ▸ hrefusal) hno)
      (fun hc => ?_) nofun
    rw [hchoice] at hc
    cases hc
  · next d₂ hbackup =>
    obtain ⟨hnow', hanswers', hnamed, hbackedUp, hkept, hdir, hbeside⟩ := backUp_frame hp hbackup
    have hdone := finish_frame h
    rw [hnow] at hnamed hbackedUp hkept hbeside
    rw [hfiles] at hbackedUp hkept hbeside
    have hkeeps : d.KeptAt p decider (p.backupAt d.now) := ⟨hchoice, hnamed⟩
    have hland := fun q => land_congr hbackedUp.current q
    have hconfined := hdone.confined
    rw [hland] at hconfined
    constructor
    case now => exact hdone.now.trans (hnow'.trans hnow)
    case answers => exact hdone.answers.trans (hanswers'.trans hanswers)
    case confined =>
      exact (hbackedUp.mono fun _ hx => .inr ⟨_, hkeeps, hx⟩).trans (hconfined.mono fun _ => .inl)
    case kept =>
      intro b hb
      obtain rfl := (DiskPath.backup_eq_ok_iff.mp hb.2).2
      exact .inl ((hconfined.content _ (hp.land_backupAt_ne _ _)).trans hkept)
    case refused => exact fun e he hrefusal => absurd hrefusal (hdone.failed e he)
    case undecided =>
      intro _ hnone
      rw [hchoice] at hnone
      cases hnone
    case unseen =>
      intro hnew
      rw [exists?_of_choice? hchoice] at hnew
      cases hnew
    case cancelled =>
      intro hcancel
      rw [hchoice] at hcancel
      cases hcancel
    case written => exact fun w hw => .inr (hland p ▸ hdone.written w hw)
    case directory => exact hdone.directory
    case beside =>
      intro w hw q hq hfree
      rw [hdone.beside w hw q hq, hbeside q hq fun heq => hfree (.inr ⟨_, hkeeps, heq⟩)]
      rw [hland, hland]
      exact fun heq => hfree (.inl heq)

theorem writeUnit_frame (hp : p.Named) (h : d.writeUnit p text decider = (d', r)) :
    UnitFrame d p text decider d' r := by
  rw [writeUnit.eq_def] at h
  split at h
  · next hnew =>
    have hnew : d.files.exists? p = false := by simpa using hnew
    exact .of_finish rfl (by rw [answersAfter, hnew, if_neg nofun]) rfl
      (fun hp => by rw [hnew] at hp; cases hp) h
  · next hthere =>
    have hthere : d.files.exists? p = true := by simpa using hthere
    split at h
    · cases h
      have hnone : d.choice? p none = none := if_pos hthere
      refine .of_unchanged hp rfl ?_ rfl (fun _ => ⟨_, rfl⟩) (fun _ _ _ => ⟨hthere, rfl⟩)
        (fun hc => ?_) nofun
      · rw [answersAfter, if_neg nofun]
      · rw [hnone] at hc
        cases hc
    · next decider =>
      split at h
      · next d₁ e hdecide =>
        cases h
        obtain ⟨hfiles, hnow, hanswers, ⟨hnone, he⟩ | ⟨w, -, ⟨⟩⟩⟩ := decide_spec hthere hdecide
        cases he
        refine .of_unchanged hp hnow hanswers hfiles (fun _ => ⟨_, rfl⟩)
          (fun _ he hrefusal => absurd hrefusal (Except.error.inj he ▸ id)) (fun hc => ?_) nofun
        rw [hnone] at hc
        cases hc
      · next d₁ hdecide =>
        cases h
        obtain ⟨hfiles, hnow, hanswers, ⟨-, ⟨⟩⟩ | ⟨w, hchoice, hw⟩⟩ := decide_spec hthere hdecide
        cases hw
        refine .of_unchanged hp hnow hanswers hfiles (fun hb => ?_) nofun (fun _ => rfl)
          (fun w hw => ⟨(Except.ok.inj hw).symm, hchoice⟩)
        rw [hchoice] at hb
        cases hb
      · next d₁ hdecide =>
        obtain ⟨hfiles, hnow, hanswers, ⟨-, ⟨⟩⟩ | ⟨w, hchoice, hw⟩⟩ := decide_spec hthere hdecide
        cases hw
        exact .of_finish hnow hanswers hfiles (fun _ => hchoice) h
      · next d₁ hdecide =>
        obtain ⟨hfiles, hnow, hanswers, ⟨-, ⟨⟩⟩ | ⟨w, hchoice, hw⟩⟩ := decide_spec hthere hdecide
        cases hw
        exact .of_backUp hp hnow hanswers hfiles hchoice h

/-- What a change of the files by a unit comes from: there was nothing at the place of the unit, or
it is allowed to be replaced, or its path hides it; or it is kept, and this is where. -/
def Owns (d : Desk) (p : DiskPath) (decider : Option Decider) (after : Files) (x : Place) : Prop :=
  (x = d.files.land p ∧ (d.files.content? x = none ∨ d.files.Hides p ∨
    d.choice? p decider = some .overwrite ∨ d.choice? p decider = some .backup)) ∨
  ∃ b, d.KeptAt p decider b ∧ x = d.files.land b ∧
    after.content? x = d.files.content? (d.files.land p)

lemma UnitFrame.owns (h : UnitFrame d p text decider d' r) {x : Place}
    (hx : d'.files.content? x ≠ d.files.content? x) : d.Owns p decider d'.files x := by
  have hfiles : d'.files ≠ d.files := fun heq => hx (by rw [heq])
  by_cases hp : x = d.files.land p
  · refine .inl ⟨hp, ?_⟩
    cases hthere : d.files.exists? p with
    | false =>
      rw [hp] at hx ⊢
      exact ((h.unseen hthere).resolve_left hx).imp_right .inl
    | true =>
      refine .inr (.inr ?_)
      cases hchoice : d.choice? p decider with
      | none => exact absurd (h.undecided hthere hchoice) hfiles
      | some w =>
        cases w with
        | cancel => exact absurd (h.cancelled hchoice).1 hfiles
        | overwrite => exact .inl rfl
        | backup => exact .inr rfl
  · by_contra hno
    refine hx (h.confined.content x ?_)
    rintro (heq | ⟨b, hb, rfl⟩)
    · exact hp heq
    · exact hno (.inr ⟨b, hb, rfl, (h.kept b hb).resolve_right fun hsame => hfiles hsame.1⟩)

end WriteUnit

end Desk

end SceneBindings
