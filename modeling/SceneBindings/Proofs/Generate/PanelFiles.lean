import SceneBindings.Proofs.Emit.Accessors
import SceneBindings.Proofs.Emit.Groups
import SceneBindings.Proofs.Generate.OwnFiles

/-!
The handlers of panels are written one after the other, side by side with the files that keep what
was there. None of them is in the way of another, so each is decided about as it was found.
-/

namespace SceneBindings

open DiskPath Files

/-! ### Side by side -/

namespace DiskPath

variable {now : Timestamp} {p q x y : DiskPath} {ps : List DiskPath}

/-- Where a file is and where it would be kept. -/
def places (now : Timestamp) (p : DiskPath) : List DiskPath := [p, p.backupAt now]

/-- Files in one directory that do not get in each other's way, whichever of them are kept. -/
structure Apart (now : Timestamp) (ps : List DiskPath) : Prop where
  named : ∀ p ∈ ps, p.Named
  beside : ∀ p ∈ ps, ∀ q ∈ ps, p.parent = q.parent
  distinct : (ps.flatMap (places now)).Nodup

lemma parent_of_mem_places (h : x ∈ places now p) : x.parent = p.parent := by
  rw [places, List.mem_pair] at h
  obtain rfl | rfl := h
  · rfl
  · exact parent_backupAt p now

lemma named_of_mem_places (hp : p.Named) (h : x ∈ places now p) : x.Named := by
  rw [places, List.mem_pair] at h
  obtain rfl | rfl := h
  · exact hp
  · exact named_backupAt p now

lemma backup_mem_places {b : DiskPath} (hb : p.backup now = .ok b) : b ∈ places now p := by
  rw [(backup_eq_ok_iff.mp hb).2]
  exact List.mem_pair.mpr (.inr rfl)

lemma stem_suffix_of_name {p : DiskPath} {x : String} (hx : x ≠ "") (hp : p.name = x ++ ".py") :
    p.stem = x ∧ p.suffix = ".py" := by
  have hchars : p.name.toList = x.toList ++ ['.', 'p', 'y'] := by
    rw [hp, String.toList_append]
    rfl
  have hpos : 0 < x.toList.length := List.length_pos_iff.mpr fun h => hx (String.toList_eq_nil_iff.mp h)
  have hdot : dot? p.name.toList = some x.toList.length := by
    rw [hchars, dot?]
    simp [List.findIdx?_cons]
    omega
  constructor
  · rw [stem, hdot, hchars]
    simp
  · rw [suffix, hdot, hchars]
    simp

namespace Apart

lemma tail (h : Apart now (p :: ps)) : Apart now ps where
  named q hq := h.named q (List.mem_cons_of_mem p hq)
  beside q hq r hr := h.beside q (List.mem_cons_of_mem p hq) r (List.mem_cons_of_mem p hr)
  distinct := (List.nodup_append'.mp (List.flatMap_cons ▸ h.distinct)).2.1

lemma land_ne (h : Apart now (p :: ps)) (hq : q ∈ ps) (hx : x ∈ places now p)
    (hy : y ∈ places now q) (fs : Files) : fs.land x ≠ fs.land y := by
  have hq' := List.mem_cons_of_mem p hq
  have hdisjoint := (List.nodup_append'.mp (List.flatMap_cons ▸ h.distinct)).2.2
  have hparent : x.parent = y.parent := by
    rw [parent_of_mem_places hx, parent_of_mem_places hy,
      h.beside p List.mem_cons_self q hq']
  intro heq
  obtain rfl := (named_of_mem_places (h.named p List.mem_cons_self) hx).eq_of_land
    (named_of_mem_places (h.named q hq') hy) hparent heq
  exact hdisjoint hx (List.mem_flatMap.mpr ⟨q, hq, hy⟩)

lemma nodup_land (h : Apart now ps) (fs : Files) : (ps.map fs.land).Nodup := by
  induction ps with
  | nil => exact List.nodup_nil
  | cons p ps ih =>
    refine List.nodup_cons.mpr ⟨fun hmem => ?_, ih h.tail⟩
    obtain ⟨q, hq, heq⟩ := List.mem_map.mp hmem
    exact h.land_ne hq List.mem_cons_self List.mem_cons_self fs heq.symm

end Apart

end DiskPath

namespace Generate

open Desk

variable {f : Forest} {g : Registry} {s : Settings} {d d' d₁ : Desk} {decider : Option Decider}
  {scene : String} {p : Paneled} {ps : List Paneled}

/-! ### Decisions -/

/-- What is decided about files that are there: the answers go to them in order. -/
def decisions (answers : List String) : Option Decider → List DiskPath →
    List (DiskPath × WriteDecision)
  | none, _ => []
  | some (.always w), there => there.map (·, w)
  | some .ask, there => there.zip (answers.map readAnswer)

/-- A file is found at a path once its directory is there. -/
def isShown (d : Desk) (p : DiskPath) : Bool := (d.files.shown p).isSome

/-- The files that are found when their turn comes: the first one as it is, and its neighbours once
their directory is there. -/
def found (d : Desk) : List DiskPath → List DiskPath
  | [] => []
  | p :: ps => (if d.files.exists? p then [p] else []) ++ ps.filter (isShown d)

/-- What is decided about the files at some paths. -/
def decided (d : Desk) (decider : Option Decider) (ps : List DiskPath) :
    List (DiskPath × WriteDecision) :=
  decisions d.answers decider (found d ps)

/-- An answer that is read as a decision. -/
def answerFor : WriteDecision → String
  | .backup => "b"
  | .overwrite => "o"
  | .cancel => "c"

lemma readAnswer_answerFor (w : WriteDecision) : readAnswer (answerFor w) = w := by
  cases w <;> decide

lemma found_cons_of_exists {p : DiskPath} (hp : d.files.exists? p = true) (ps : List DiskPath) :
    found d (p :: ps) = p :: ps.filter (isShown d) := by
  rw [found, if_pos hp, List.singleton_append]

lemma found_cons_of_missing {p : DiskPath} (hp : d.files.exists? p = false) (ps : List DiskPath) :
    found d (p :: ps) = ps.filter (isShown d) := by
  rw [found, hp, if_neg Bool.false_ne_true, List.nil_append]

/-- Whatever is to be decided about the files, one after the other, there are answers for it. -/
theorem exists_decided_eq (d : Desk) (ps : List DiskPath) (ws : List WriteDecision) :
    ∃ answers, decided { d with answers } (some .ask) ps = (found d ps).zip ws := by
  refine ⟨ws.map answerFor, ?_⟩
  have hanswers : (ws.map answerFor).map readAnswer = ws := by
    rw [List.map_map]
    exact (List.map_congr_left fun w _ => readAnswer_answerFor w).trans (List.map_id ws)
  rw [decided, decisions, hanswers]
  cases ps <;> rfl

lemma decided_cons {p : DiskPath} {ps : List DiskPath}
    (hanswers : d₁.answers = d.answersAfter p decider)
    (hfound : found d₁ ps = ps.filter (isShown d)) :
    decided d decider (p :: ps) =
      (d.choice? p decider).toList.map (p, ·) ++ decided d₁ decider ps := by
  rw [decided, decided, hfound, hanswers, answersAfter]
  cases hp : d.files.exists? p with
  | false =>
    rw [choice?_missing hp, found_cons_of_missing hp, if_neg fun h => Bool.false_ne_true h.1]
    rfl
  | true =>
    rw [found_cons_of_exists hp]
    cases decider with
    | none =>
      have hnone : d.choice? p none = none := if_pos hp
      rw [hnone]
      rfl
    | some decider =>
      cases decider with
      | always w =>
        rw [if_neg (by simp), choice?_always hp]
        rfl
      | ask =>
        rw [if_pos ⟨rfl, rfl⟩, choice?_ask hp]
        cases d.answers with
        | nil => simp [decisions]
        | cons a answers => rfl

lemma mem_decided {p : DiskPath} {w : WriteDecision} (h : d.choice? p decider = some w)
    (ps : List DiskPath) : (p, w) ∈ decided d decider (p :: ps) := by
  have hp := exists?_of_choice? h
  rw [decided, found_cons_of_exists hp]
  cases decider with
  | none =>
    rw [choice?, if_pos hp] at h
    cases h
  | some decider =>
    cases decider with
    | always w' =>
      rw [choice?_always hp] at h
      cases h
      exact List.mem_cons_self
    | ask =>
      rw [choice?_ask hp] at h
      cases hanswers : d.answers with
      | nil =>
        rw [hanswers] at h
        cases h
      | cons a answers =>
        rw [hanswers] at h
        cases h
        exact List.mem_cons_self

/-! ### One panel -/

/-- Where the handler of a panel goes. -/
def handlerPath (s : Settings) (p : Paneled) : DiskPath := s.panelHandlerPath p.1.className

/-- The handler of a panel. -/
def handlerText (scene : String) (s : Settings) (d : Desk) (p : Paneled) : String :=
  Emit.panelHandlerText scene (s.panelHandlerClass p.1.className) p.1.className
    (s.libraryRelative scene s.panelHandlersDir) p.2 (Signature.collect [p.1]).1 (stampOf s d)

lemma stampOf_of_speaks (h : d.Speaks d₁) : stampOf s d₁ = stampOf s d := by
  obtain ⟨es, rfl⟩ := h
  rfl

/-- What becomes of the files when the handler of one panel is written. -/
structure PanelHandlerFrame (d : Desk) (path : DiskPath) (decider : Option Decider) (d' : Desk)
    (r : Except Failure (DiskPath × Bool)) : Prop where
  now : d'.now = d.now
  answers : d'.answers = d.answersAfter path decider
  current : d'.files.current = d.files.current
  changed : ∀ x, d'.files.content? x ≠ d.files.content? x → d.Owns path decider d'.files x
  refused : ∀ e, r = .error e → ¬ e.IsRefusal
  done : ∀ q written, r = .ok (q, written) → q = path ∧
    (written = false → d'.files = d.files) ∧
    ∀ b, d.KeptAt path decider b →
      d'.files.content? (d.files.land b) = d.files.content? (d.files.land path)
  directory : ∀ done, r = .ok done → d'.files.get? path.parent = some .directory
  beside : ∀ done, r = .ok done → ∀ q : DiskPath, q.parent = path.parent →
    (∀ x ∈ places d.now path, d.files.land q ≠ d.files.land x) → d'.files.get? q = d.files.shown q

lemma panelHandler_frame {r : Except Failure (DiskPath × Bool)} (hp : (handlerPath s p).Named)
    (h : panelHandler scene s decider d p = (d', r)) :
    PanelHandlerFrame d (handlerPath s p) decider d' r := by
  rw [panelHandler] at h
  dsimp only at h
  split at h
  · next hskip =>
    cases h
    rw [Bool.and_eq_true, Option.isNone_iff_eq_none] at hskip
    obtain ⟨hthere, rfl⟩ := hskip
    have hnone : d.choice? (handlerPath s p) none = none := if_pos hthere
    have hdir := directory_of_exists hp hthere
    refine ⟨rfl, (if_neg nofun).symm, rfl, fun x hx => absurd rfl hx, nofun, ?_, fun _ _ => hdir,
      fun _ _ q hq _ => (shown_of_directory (hq ▸ hdir)).symm⟩
    rintro q written ⟨⟩
    refine ⟨rfl, fun _ => rfl, fun b hb => ?_⟩
    rw [KeptAt, hnone] at hb
    cases hb.1
  · next hskip =>
    generalize hwrite : Desk.writeUnit _ _ _ _ = out at h
    obtain ⟨d₁, r₁⟩ := out
    have hframe := (writeUnit_frame hp hwrite).of_speaks (speaks_reportAll _ _)
    cases r₁ with
    | error e =>
      cases h
      refine ⟨hframe.now, hframe.answers, hframe.confined.current, fun _ => hframe.owns, ?_, nofun,
        nofun, nofun⟩
      rintro _ ⟨⟩ he
      obtain ⟨-, hthere, rfl⟩ := hframe.refused e rfl he
      exact hskip (by rw [Bool.and_eq_true]; exact ⟨hthere, rfl⟩)
    | ok w =>
      cases h
      refine ⟨hframe.now, hframe.answers, hframe.confined.current, fun _ => hframe.owns, nofun, ?_,
        fun _ _ => hframe.directory w rfl, fun _ _ q hq hne => ?_⟩
      · rintro q written ⟨⟩
        refine ⟨rfl, fun hw => ?_, fun b hb => ?_⟩
        · obtain ⟨rfl, hcancel⟩ | ⟨rfl, -⟩ := hframe.written w rfl
          · exact (hframe.cancelled hcancel).1
          · cases hw
        · obtain h | ⟨-, _, ⟨⟩⟩ := hframe.kept b hb
          exact h
      · refine hframe.beside w rfl q hq ?_
        rintro (heq | ⟨b, hb, heq⟩)
        · exact hne _ List.mem_cons_self heq
        · exact hne b (backup_mem_places hb.2) heq

/-- A handler that is not found is written. -/
lemma panelHandler_missing {q : DiskPath} {written : Bool} (hp : (handlerPath s p).Named)
    (hno : d.files.exists? (handlerPath s p) = false)
    (h : panelHandler scene s decider d p = (d', .ok (q, written))) : written = true ∧
      d'.files.content? (d.files.land (handlerPath s p)) = some (.text (handlerText scene s d p)) := by
  have hskip : (d.files.exists? (handlerPath s p) && decider.isNone) = false := by
    rw [hno, Bool.false_and]
  rw [handlerPath] at hskip
  rw [panelHandler] at h
  simp only [hskip, Bool.false_eq_true, if_false] at h
  have hspoken := speaks_reportAll d (Signature.collect [p.1]).2
  rw [stampOf_of_speaks hspoken] at h
  generalize hwrite : Desk.writeUnit _ _ _ _ = out at h
  obtain ⟨d₁, r₁⟩ := out
  have hframe := (writeUnit_frame hp hwrite).of_speaks hspoken
  cases r₁ with
  | error e => cases h
  | ok w =>
    cases h
    obtain ⟨rfl, hcancel⟩ | ⟨rfl, hcontent⟩ := hframe.written w rfl
    · rw [choice?_missing hno] at hcancel
      cases hcancel
    · exact ⟨rfl, hcontent⟩

/-! ### One panel after the other -/

/-- What a change of the files comes from, given what was decided: there was nothing at the place of
a handler, or it is allowed to be replaced, or it is kept and this is where. -/
def Explains (d : Desk) (ds : List (DiskPath × WriteDecision)) (after : Files) (p : DiskPath)
    (x : Place) : Prop :=
  (x = d.files.land p ∧
    (d.files.content? x = none ∨ (p, .overwrite) ∈ ds ∨ (p, .backup) ∈ ds)) ∨
  (p, .backup) ∈ ds ∧ ∃ b, p.backup d.now = .ok b ∧ x = d.files.land b ∧
    after.content? x = d.files.content? (d.files.land p)

/-- The place of the first handler, if this is only found once its directory is made. -/
def Misses (d : Desk) (paths : List DiskPath) (x : Place) : Prop :=
  ∃ p ∈ paths.head?, d.files.Hides p ∧ x = d.files.land p

/-- What becomes of the files when the handlers at some paths are written one after the other. -/
structure EachFrame (d : Desk) (decider : Option Decider) (paths : List DiskPath) (d' : Desk)
    (r : Except Failure PanelHandlersDone) : Prop where
  changed : ∀ x, d'.files.content? x ≠ d.files.content? x →
    Misses d paths x ∨ ∃ p ∈ paths, Explains d (decided d decider paths) d'.files p x
  listed : ∀ done, r = .ok done → (done.written ++ done.skipped).Perm paths
  skipped : ∀ done, r = .ok done → ∀ p ∈ done.skipped,
    d'.files.content? (d.files.land p) = d.files.content? (d.files.land p)
  kept : ∀ done, r = .ok done → ∀ p b, (p, .backup) ∈ decided d decider paths →
    p.backup d.now = .ok b →
      d'.files.content? (d.files.land b) = d.files.content? (d.files.land p)

section Each

variable {path : DiskPath} {paths : List DiskPath} {ds ds' : List (DiskPath × WriteDecision)}
  {after after' : Files} {x : Place}

lemma Explains.mono (h : Explains d ds after path x) (hds : ∀ y ∈ ds, y ∈ ds')
    (hafter : after'.content? x = after.content? x) : Explains d ds' after' path x := by
  obtain ⟨hx, hthere⟩ | ⟨hbackup, b, hb, hx, hcontent⟩ := h
  · exact .inl ⟨hx, hthere.imp_right fun h => h.imp (hds _) (hds _)⟩
  · exact .inr ⟨hds _ hbackup, b, hb, hx, hafter.trans hcontent⟩

lemma Explains.of_owns (h : d.Owns path decider after x) : Misses d (path :: paths) x ∨
    Explains d (decided d decider (path :: paths)) after path x := by
  obtain ⟨hx, hold | hides | hthere⟩ | ⟨b, hb, hx, hcontent⟩ := h
  · exact .inr (.inl ⟨hx, .inl hold⟩)
  · exact .inl ⟨path, rfl, hides, hx⟩
  · exact .inr (.inl ⟨hx, .inr (hthere.imp (mem_decided · paths) (mem_decided · paths))⟩)
  · exact .inr (.inr ⟨mem_decided hb.1 paths, b, hb.2, hx, hcontent⟩)

lemma Explains.congr (h : Explains d₁ ds after path x) (hnow : d₁.now = d.now)
    (hcurrent : d₁.files.current = d.files.current)
    (hcontent : d₁.files.content? (d.files.land path) = d.files.content? (d.files.land path)) :
    Explains d ds after path x := by
  have hland := fun q => land_congr hcurrent q
  rw [Explains, hnow, hland, hcontent] at h
  obtain ⟨rfl, hthere⟩ | ⟨hbackup, b, hb, hx, hkept⟩ := h
  · exact .inl ⟨rfl, hcontent ▸ hthere⟩
  · exact .inr ⟨hbackup, b, hb, hland b ▸ hx, hkept⟩

lemma mem_of_mem_decided {w : WriteDecision} (h : (path, w) ∈ decided d decider paths) :
    path ∈ paths := by
  have hmem : path ∈ found d paths := by
    rw [decided] at h
    cases decider with
    | none => cases h
    | some decider =>
      cases decider with
      | always w =>
        obtain ⟨p, hp, heq⟩ := List.mem_map.mp h
        cases heq
        exact hp
      | ask => exact (List.of_mem_zip h).1
  cases paths with
  | nil => exact hmem
  | cons p ps =>
    rw [found, List.mem_append] at hmem
    refine List.mem_cons.mpr (hmem.imp (fun h => ?_) fun h => (List.mem_filter.mp h).1)
    split at h
    · exact List.mem_singleton.mp h
    · cases h

/-- The first handler is decided about as it is found, and the others as if it were not there. -/
structure FirstFrame (d : Desk) (path : DiskPath) (paths : List DiskPath)
    (decider : Option Decider) (d₁ : Desk) : Prop where
  parts : decided d decider (path :: paths) =
    (d.choice? path decider).toList.map (path, ·) ++ decided d₁ decider paths
  seen : ∀ q ∈ paths, ¬ d₁.files.Hides q
  content : ∀ q ∈ paths, d₁.files.content? (d.files.land q) = d.files.content? (d.files.land q)

lemma PanelHandlerFrame.content_later {r : Except Failure (DiskPath × Bool)}
    (h : PanelHandlerFrame d path decider d₁ r) (hps : Apart d.now (path :: paths)) {q : DiskPath}
    (hq : q ∈ paths) :
    d₁.files.content? (d.files.land q) = d.files.content? (d.files.land q) := by
  by_contra hne
  obtain ⟨heq, -⟩ | ⟨b, hb, heq, -⟩ := h.changed _ hne
  · exact hps.land_ne hq List.mem_cons_self List.mem_cons_self _ heq.symm
  · exact hps.land_ne hq (backup_mem_places hb.2) List.mem_cons_self _ heq.symm

lemma PanelHandlerFrame.first {done : DiskPath × Bool}
    (h : PanelHandlerFrame d path decider d₁ (.ok done)) (hps : Apart d.now (path :: paths)) :
    FirstFrame d path paths decider d₁ := by
  have hdir : ∀ q ∈ paths, d₁.files.get? q.parent = some .directory := by
    intro q hq
    rw [hps.beside q (List.mem_cons_of_mem path hq) path List.mem_cons_self, h.directory done rfl]
  have hseen : ∀ q ∈ paths, d₁.files.get? q = d.files.shown q := fun q hq =>
    h.beside done rfl q (hps.beside q (List.mem_cons_of_mem path hq) path List.mem_cons_self)
      fun x hx => (hps.land_ne hq hx List.mem_cons_self d.files).symm
  have hshown : ∀ q ∈ paths, isShown d₁ q = isShown d q := by
    intro q hq
    rw [isShown, isShown, shown_of_directory (hdir q hq), hseen q hq]
  refine ⟨decided_cons h.answers ?_, fun q hq => not_hides_of_directory (hdir q hq),
    fun q hq => h.content_later hps hq⟩
  cases paths with
  | nil => rfl
  | cons q qs =>
    have hq : d₁.files.exists? q = isShown d q := by
      rw [Files.exists?, hseen q List.mem_cons_self, isShown]
    rw [found, hq, List.filter_congr fun r hr => hshown r (List.mem_cons_of_mem q hr),
      List.filter_cons]
    split <;> rfl

/-- What the later handlers do leaves the places of the first. -/
lemma EachFrame.later {r : Except Failure PanelHandlersDone} {y : DiskPath}
    (h : EachFrame d₁ decider paths d' r) (hnow : d₁.now = d.now)
    (hcurrent : d₁.files.current = d.files.current) (hps : Apart d.now (path :: paths))
    (hy : y ∈ places d.now path) :
    d'.files.content? (d.files.land y) = d₁.files.content? (d.files.land y) := by
  rw [← land_congr hcurrent]
  by_contra hne
  obtain ⟨p, hp, -, heq⟩ | ⟨p, hp, ⟨heq, -⟩ | ⟨-, b, hb, heq, -⟩⟩ := h.changed _ hne
  · exact hps.land_ne (List.mem_of_mem_head? hp) hy List.mem_cons_self _ heq
  · exact hps.land_ne hp hy List.mem_cons_self _ heq
  · exact hps.land_ne hp hy (backup_mem_places (hnow ▸ hb)) _ heq

/-- What the first handler and the later ones do together. -/
lemma FirstFrame.changed_then {done : DiskPath × Bool} {r : Except Failure PanelHandlersDone}
    (hfirst : FirstFrame d path paths decider d₁)
    (hone : PanelHandlerFrame d path decider d₁ (.ok done))
    (hlater : EachFrame d₁ decider paths d' r) (x : Place)
    (hx : d'.files.content? x ≠ d.files.content? x) : Misses d (path :: paths) x ∨
      ∃ p ∈ path :: paths, Explains d (decided d decider (path :: paths)) d'.files p x := by
  by_cases hsame : d'.files.content? x = d₁.files.content? x
  · exact (Explains.of_owns (hone.changed x (hsame ▸ hx))).imp_right fun hexplains =>
      ⟨path, List.mem_cons_self, hexplains.mono (fun _ => id) hsame⟩
  · obtain ⟨p, hp, hides, -⟩ | ⟨p, hp, hexplains⟩ := hlater.changed x hsame
    · exact absurd hides (hfirst.seen p (List.mem_of_mem_head? hp))
    · refine .inr ⟨p, List.mem_cons_of_mem path hp,
        (hexplains.congr hone.now hone.current (hfirst.content p hp)).mono (fun y hy => ?_) rfl⟩
      rw [hfirst.parts]
      exact List.mem_append_right _ hy

lemma EachFrame.cons {done : PanelHandlersDone} {written : Bool}
    (hone : PanelHandlerFrame d path decider d₁ (.ok (path, written)))
    (hlater : EachFrame d₁ decider paths d' (.ok done)) (hps : Apart d.now (path :: paths)) :
    EachFrame d decider (path :: paths) d' (.ok (if written then
      { done with written := path :: done.written }
      else { done with skipped := path :: done.skipped })) := by
  have hfirst := hone.first hps
  have hland := fun q => land_congr hone.current q
  obtain ⟨-, hskipped, hkept⟩ := hone.done path written rfl
  have hlast : ∀ y ∈ places d.now path,
      d'.files.content? (d.files.land y) = d₁.files.content? (d.files.land y) :=
    fun y hy => hlater.later hone.now hone.current hps hy
  refine ⟨hfirst.changed_then hone hlater, ?_, ?_, ?_⟩
  · rintro _ ⟨⟩
    have hlisted := hlater.listed done rfl
    cases written with
    | true => exact hlisted.cons path
    | false => exact List.perm_middle.trans (hlisted.cons path)
  · have hrest : ∀ p ∈ done.skipped,
        d'.files.content? (d.files.land p) = d.files.content? (d.files.land p) := by
      intro p hp
      rw [← hfirst.content p
        ((hlater.listed done rfl).mem_iff.mp (List.mem_append_right _ hp)), ← hland]
      exact hlater.skipped done rfl p hp
    rintro _ ⟨⟩
    cases written with
    | true => exact hrest
    | false =>
      refine List.forall_mem_cons.mpr ⟨?_, hrest⟩
      rw [hlast path List.mem_cons_self, hskipped rfl]
  · intro _ _ p b hp hb
    rw [hfirst.parts, List.mem_append] at hp
    rcases hp with hp | hp
    · obtain ⟨w, hw, heq⟩ := List.mem_map.mp hp
      cases heq
      rw [hlast b (backup_mem_places hb), hkept b ⟨Option.mem_toList.mp hw, hb⟩]
    · rw [← hfirst.content p (mem_of_mem_decided hp), ← hland, ← hland]
      exact hlater.kept done rfl p b hp (hone.now ▸ hb)

lemma EachFrame.stopped {e : Failure} (hchanged : ∀ x, d'.files.content? x ≠ d.files.content? x →
    Misses d paths x ∨ ∃ p ∈ paths, Explains d (decided d decider paths) d'.files p x) :
    EachFrame d decider paths d' (.error e) := ⟨hchanged, nofun, nofun, nofun⟩

lemma panelHandlerEach_frame {r : Except Failure PanelHandlersDone}
    (hps : Apart d.now (ps.map (handlerPath s)))
    (h : panelHandlerEach scene s decider d ps = (d', r)) :
    EachFrame d decider (ps.map (handlerPath s)) d' r := by
  -- by the panels: the first one leaves the others as they were found, since all are `Apart`
  induction ps generalizing d d' r with
  | nil =>
    cases h
    refine ⟨fun x hx => absurd rfl hx, ?_, ?_, ?_⟩
    · rintro _ ⟨⟩
      exact .nil
    · rintro _ ⟨⟩
      exact nofun
    · intro _ _ p b hp
      cases mem_of_mem_decided hp
  | cons p ps ih =>
    rw [panelHandlerEach] at h
    generalize hrun : panelHandler scene s decider d p = out at h
    obtain ⟨d₁, r₁⟩ := out
    have hone := panelHandler_frame (hps.named _ List.mem_cons_self) hrun
    cases r₁ with
    | error e =>
      cases h
      exact .stopped fun x hx => (Explains.of_owns (hone.changed x hx)).imp_right fun hexplains =>
        ⟨_, List.mem_cons_self, hexplains⟩
    | ok result =>
      obtain ⟨path, written⟩ := result
      obtain rfl := (hone.done path written rfl).1
      dsimp only at h
      generalize hrest : panelHandlerEach scene s decider d₁ ps = out at h
      obtain ⟨d₂, r₂⟩ := out
      have hlater := ih (hone.now ▸ hps.tail) hrest
      cases r₂ with
      | error e =>
        cases h
        exact .stopped ((hone.first hps).changed_then hone hlater)
      | ok done =>
        cases h
        exact .cons hone hlater hps

/-- The first handler is written if it is not found, and stays as it is written. -/
lemma panelHandlerEach_missing {done : PanelHandlersDone}
    (hps : Apart d.now ((p :: ps).map (handlerPath s)))
    (hno : d.files.exists? (handlerPath s p) = false)
    (h : panelHandlerEach scene s decider d (p :: ps) = (d', .ok done)) :
    handlerPath s p ∈ done.written ∧ d'.files.content? (d.files.land (handlerPath s p)) =
      some (.text (handlerText scene s d p)) := by
  have hnamed := hps.named _ List.mem_cons_self
  rw [panelHandlerEach] at h
  generalize hrun : panelHandler scene s decider d p = out at h
  obtain ⟨d₁, r₁⟩ := out
  have hone := panelHandler_frame hnamed hrun
  cases r₁ with
  | error e => cases h
  | ok result =>
    obtain ⟨path, written⟩ := result
    obtain rfl := (hone.done path written rfl).1
    obtain ⟨rfl, hcontent⟩ := panelHandler_missing hnamed hno hrun
    dsimp only at h
    split at h
    · cases h
    · next hrest =>
      cases h
      have hlater := panelHandlerEach_frame (hone.now ▸ hps.tail) hrest
      exact ⟨List.mem_cons_self,
        (hlater.later hone.now hone.current hps List.mem_cons_self).trans hcontent⟩

lemma panelHandlerEach_error {e : Failure} (hps : Apart d.now (ps.map (handlerPath s)))
    (h : panelHandlerEach scene s decider d ps = (d', .error e)) : ¬ e.IsRefusal := by
  induction ps generalizing d with
  | nil => cases h
  | cons p ps ih =>
    rw [panelHandlerEach] at h
    generalize hrun : panelHandler scene s decider d p = out at h
    obtain ⟨d₁, r₁⟩ := out
    have hone := panelHandler_frame (hps.named _ List.mem_cons_self) hrun
    cases r₁ with
    | error e' =>
      cases h
      exact hone.refused e rfl
    | ok result =>
      dsimp only at h
      split at h
      · next hrest =>
        cases h
        exact ih (hone.now ▸ hps.tail) hrest
      · cases h

end Each

end Generate

end SceneBindings
