import Mathlib.Data.List.Nodup
import Mathlib.Data.Nat.Digits.Defs
import SceneBindings.Proofs.Files.Footprint

/-!
What backups keep. A unit is written again and again, at any times, and what was there is backed up
first. Of the versions that are backed up in one second only the last one is kept.
-/

namespace SceneBindings

open DiskPath Files

namespace Timestamp

/-- The parts of a point in time have as many digits as are shown of them. -/
structure Valid (t : Timestamp) : Prop where
  year : t.year < 10 ^ 4
  month : t.month < 10 ^ 2
  day : t.day < 10 ^ 2
  hour : t.hour < 10 ^ 2
  minute : t.minute < 10 ^ 2
  second : t.second < 10 ^ 2

lemma length_pad {w n : Nat} (hw : 0 < w) (hn : n < 10 ^ w) : (pad w n).toList.length = w := by
  have hdigits := Nat.toDigits_length 10 n w hw hn
  rw [pad, String.toList_ofList, List.length_append, List.length_replicate]
  omega

lemma pad_inj {w m n : Nat} (h : pad w m = pad w n) : m = n := by
  have hvalue : ∀ k, Nat.ofDigitChars 10 (pad w k).toList 0 = k := by
    intro k
    rw [pad, String.toList_ofList, Nat.ofDigitChars_append, Nat.ofDigitChars_replicate_zero,
      Nat.mul_zero, Nat.ofDigitChars_toDigits (by decide) (by decide)]
  rw [← hvalue m, h, hvalue]

lemma pad_append_inj {w m n : Nat} {s t : String} (hw : 0 < w) (hm : m < 10 ^ w) (hn : n < 10 ^ w)
    (h : pad w m ++ s = pad w n ++ t) : m = n ∧ s = t := by
  rw [← String.toList_inj, String.toList_append, String.toList_append] at h
  obtain ⟨hpad, hrest⟩ := List.append_inj h ((length_pad hw hm).trans (length_pad hw hn).symm)
  exact ⟨pad_inj (String.toList_inj.mp hpad), String.toList_inj.mp hrest⟩

/-- Two points in time that are shown alike are the same second. -/
lemma compact_inj {t u : Timestamp} (ht : t.Valid) (hu : u.Valid) (h : t.compact = u.compact) :
    t = u := by
  simp only [compact, String.append_assoc] at h
  obtain ⟨hyear, h⟩ := pad_append_inj (by decide) ht.year hu.year h
  obtain ⟨hmonth, h⟩ := pad_append_inj (by decide) ht.month hu.month h
  obtain ⟨hday, h⟩ := pad_append_inj (by decide) ht.day hu.day h
  obtain ⟨hhour, h⟩ := pad_append_inj (by decide) ht.hour hu.hour h
  obtain ⟨hminute, h⟩ := pad_append_inj (by decide) ht.minute hu.minute h
  have hsecond := pad_inj h
  cases t
  cases u
  simp_all

end Timestamp

namespace DiskPath

variable {p : DiskPath} {t u : Timestamp}

lemma land_backupAt_iff {fs : Files} :
    fs.land (p.backupAt t) = fs.land (p.backupAt u) ↔ t.compact = u.compact := by
  constructor
  · intro h
    have heq := (named_backupAt p t).eq_of_land (named_backupAt p u)
      ((parent_backupAt p t).trans (parent_backupAt p u).symm) h
    simpa [backupAt, String.append_assoc] using heq
  · intro h
    rw [backupAt, backupAt, h]

end DiskPath

namespace Desk

/-! ### Saving -/

/-- A unit is written at some time, with what was there backed up first. -/
def saveAt (p : DiskPath) (d : Desk) (call : Timestamp × String) : Desk :=
  ({ d with now := call.1 }.writeUnit p call.2 (some (.always .backup))).1

def saveAll (p : DiskPath) (d : Desk) (calls : List (Timestamp × String)) : Desk :=
  calls.foldl (saveAt p) d

/-- What the file at the place of a path holds. -/
def holds? (p : DiskPath) (fs : Files) : Option FileContent := fs.content? (fs.land p)

/-- What a path held at some moment of a run. -/
def Held (p : DiskPath) (d : Desk) (calls : List (Timestamp × String)) (c : FileContent) : Prop :=
  ∃ before, before <+: calls ∧ holds? p (saveAll p d before).files = some c

/-- The path itself holds something, or some backup of it. -/
def Kept (p : DiskPath) (fs : Files) (c : FileContent) : Prop :=
  holds? p fs = some c ∨ ∃ t, holds? (p.backupAt t) fs = some c

/-- What a call backs up before it writes. -/
def secured? (p : DiskPath) (d : Desk) (now : Timestamp) : Option FileContent :=
  match { d with now }.backUp p with
  | (_, .ok ()) => holds? p d.files
  | (_, .error _) => none

/-- The versions that the calls back up, each with the time of its backup. -/
def replaced (p : DiskPath) : Desk → List (Timestamp × String) → List (Timestamp × FileContent)
  | _, [] => []
  | d, call :: calls =>
    ((secured? p d call.1).map (call.1, ·)).toList ++ replaced p (saveAt p d call) calls

/-- The last of some versions that was backed up in a second. -/
def lastIn? (t : Timestamp) (rs : List (Timestamp × FileContent)) : Option FileContent :=
  ((rs.filter fun r => r.1.compact = t.compact).getLast?).map Prod.snd

variable {p : DiskPath} {d : Desk} {call : Timestamp × String} {calls : List (Timestamp × String)}
  {c : FileContent} {t : Timestamp}

/-- What one call does to the files. -/
structure Saves (p : DiskPath) (d : Desk) (call : Timestamp × String) : Prop where
  current : (saveAt p d call).files.current = d.files.current
  /-- Whatever was hidden, it is found now. -/
  seen : ¬ (saveAt p d call).files.Hides p
  secured : ∀ c, secured? p d call.1 = some c → holds? p d.files = some c ∧
    holds? (p.backupAt call.1) (saveAt p d call).files = some c
  unsecured : secured? p d call.1 = none → ¬ d.files.Hides p →
    ∀ c, holds? p d.files = some c → holds? p (saveAt p d call).files = some c
  rest : ∀ x, x ≠ d.files.land p →
    (secured? p d call.1 ≠ none → x ≠ d.files.land (p.backupAt call.1)) →
    (saveAt p d call).files.content? x = d.files.content? x

lemma secured?_cases (p : DiskPath) (d : Desk) (now : Timestamp) :
    (∃ d' e, { d with now }.backUp p = (d', .error e) ∧ d'.files = d.files ∧
      secured? p d now = none) ∨
    ∃ d' c, { d with now }.backUp p = (d', .ok ()) ∧ d.files.exists? p = true ∧
      holds? p d.files = some c ∧ c.isDirectory = false ∧
      d'.files = d.files.put (d.files.land (p.backupAt now)) c ∧ secured? p d now = some c := by
  generalize hbackup : ({ d with now } : Desk).backUp p = out
  obtain ⟨d', r⟩ := out
  rw [secured?, hbackup]
  obtain ⟨-, -, ⟨e, rfl, -, hfiles⟩ | ⟨b, c, rfl, hb, hc, hfile, hwrite⟩⟩ := backUp_spec hbackup
  · exact .inl ⟨d', e, rfl, hfiles, rfl⟩
  · obtain ⟨-, rfl⟩ := backup_eq_ok_iff.mp hb
    obtain ⟨x, hx, -, hfiles⟩ := write_eq_ok_iff.mp hwrite
    obtain rfl := eq_land_of_place hx
    obtain ⟨y, hy, hat⟩ := get?_eq_some_iff.mp hc
    obtain rfl := eq_land_of_place hy
    have hholds : holds? p d.files = some c := content?_eq_some_iff.mpr ⟨hat, hfile⟩
    exact .inr ⟨d', c, rfl, Option.isSome_iff_exists.mpr ⟨c, hc⟩, hholds, hfile, hfiles, hholds⟩

lemma saveAt_of_missing (h : d.files.exists? p = false) (now : Timestamp) (text : String) :
    saveAt p d (now, text) = ({ d with now }.finish p text).1 := by
  rw [saveAt, writeUnit.eq_def, if_pos (by simpa using h)]

lemma saveAt_of_exists (h : d.files.exists? p = true) (now : Timestamp) (text : String) :
    saveAt p d (now, text) = match { d with now }.backUp p with
      | (d, .error _) => d
      | (d, .ok ()) => (d.finish p text).1 := by
  rw [saveAt, writeUnit.eq_def, if_neg (by simpa using h)]
  dsimp only [decide]
  rcases ({ d with now } : Desk).backUp p with ⟨d₁, _ | _⟩ <;> rfl

/-- A file that is not found is written, and there is nothing to back up. -/
lemma saves_of_missing (h : d.files.exists? p = false) (now : Timestamp) (text : String) :
    Saves p d (now, text) := by
  have hwrite := saveAt_of_missing h now text
  generalize hfinish : ({ d with now } : Desk).finish p text = out at hwrite
  obtain ⟨d', r⟩ := out
  have hwrite : saveAt p d (now, text) = d' := hwrite
  have hdone := finish_frame hfinish
  have hconfined : Confined (· = d.files.land p) d.files d'.files := hdone.confined
  rw [← hwrite] at hdone hconfined
  obtain ⟨_, _, -, -, hsecured⟩ | ⟨_, c, -, hthere, -⟩ := secured?_cases p d now
  · refine ⟨hconfined.current, hdone.seen, fun c hc => ?_, fun _ hvisible c hc => ?_,
      fun x hx _ => hconfined.content x hx⟩
    · rw [hsecured] at hc
      cases hc
    · rw [holds?, land_congr hconfined.current, ← hc]
      obtain hkept | hnone | hhides := hdone.unseen h
      · exact hkept
      · cases hc.symm.trans hnone
      · exact absurd hhides hvisible
  · rw [h] at hthere
    cases hthere

/-- A file that is there is written after its backup, or not at all. -/
lemma saves_of_exists (hp : p.Named) (h : d.files.exists? p = true) (now : Timestamp)
    (text : String) : Saves p d (now, text) := by
  have hsaved := saveAt_of_exists h now text
  have hvisible : ¬ d.files.Hides p := fun hides => nomatch h.symm.trans hides.1
  obtain ⟨d₁, e, hbackup, hfiles, hsecured⟩ | ⟨d₁, c, hbackup, -, hc, hfile, hfiles, hsecured⟩ :=
    secured?_cases p d now
  · have hsame : (saveAt p d (now, text)).files = d.files := by
      rw [hsaved, hbackup]
      exact hfiles
    refine ⟨by rw [hsame], hsame ▸ hvisible, fun c hc => ?_, fun _ _ c hc => hsame ▸ hc,
      fun x _ _ => by rw [hsame]⟩
    rw [hsecured] at hc
    cases hc
  · have hwrite : saveAt p d (now, text) = (d₁.finish p text).1 := by rw [hsaved, hbackup]
    generalize hfinish : d₁.finish p text = out at hwrite
    obtain ⟨d', r⟩ := out
    have hwrite : saveAt p d (now, text) = d' := hwrite
    have hcurrent : d₁.files.current = d.files.current := by rw [hfiles]; rfl
    have hland := fun q => land_congr hcurrent q
    have hdone := finish_frame hfinish
    have hconfined := hdone.confined
    rw [← hwrite, hland] at hconfined
    have hseen := hdone.seen
    rw [← hwrite] at hseen
    have hcurrent' := hconfined.current.trans hcurrent
    refine ⟨hcurrent', hseen, fun c' hc' => ?_, fun hnone => ?_, fun x hx hxb => ?_⟩
    · obtain rfl : c = c' := Option.some.inj (hsecured.symm.trans hc')
      refine ⟨hc, ?_⟩
      rw [holds?, land_congr hcurrent', hconfined.content _ (hp.land_backupAt_ne now d.files), hfiles,
        content?_put hfile, if_pos rfl]
    · rw [hsecured] at hnone
      cases hnone
    · have hxb := hxb (by rw [hsecured]; exact nofun)
      rw [hconfined.content x hx, hfiles, content?_put hfile, if_neg fun heq => hxb heq.symm]

lemma saves (hp : p.Named) (d : Desk) (call : Timestamp × String) : Saves p d call := by
  cases hthere : d.files.exists? p with
  | false => exact saves_of_missing hthere call.1 call.2
  | true => exact saves_of_exists hp hthere call.1 call.2

/-! ### Runs -/

lemma lastIn?_append (t : Timestamp) (rs ss : List (Timestamp × FileContent)) :
    lastIn? t (rs ++ ss) = (lastIn? t ss).or (lastIn? t rs) := by
  rw [lastIn?, List.filter_append, List.getLast?_append, Option.map_or, lastIn?, lastIn?]

/-- What the backup of a second holds in the end: the last version that was backed up in it, or what
it held before the run. -/
lemma holds?_backupAt (hp : p.Named) (d : Desk) (calls : List (Timestamp × String))
    (t : Timestamp) : holds? (p.backupAt t) (saveAll p d calls).files =
      (lastIn? t (replaced p d calls)).or (holds? (p.backupAt t) d.files) := by
  -- by the calls: each writes the backup of its own second at most, over what was there
  induction calls generalizing d with
  | nil => rfl
  | cons call calls ih =>
    have hstep := saves hp d call
    have hland := fun q => land_congr hstep.current q
    have htp := hp.land_backupAt_ne t d.files
    have hone : holds? (p.backupAt t) (saveAt p d call).files =
        (lastIn? t ((secured? p d call.1).map (call.1, ·)).toList).or
          (holds? (p.backupAt t) d.files) := by
      cases hsecured : secured? p d call.1 with
      | none =>
        rw [holds?, hland]
        exact hstep.rest _ htp fun h => absurd hsecured h
      | some c =>
        by_cases hsame : call.1.compact = t.compact
        · rw [holds?, land_backupAt_iff.mpr hsame.symm, ← holds?, (hstep.secured c hsecured).2]
          simp [lastIn?, hsame]
        · rw [holds?, hland, hstep.rest _ htp fun _ h => hsame (land_backupAt_iff.mp h).symm]
          simp [lastIn?, hsame, holds?]
    rw [saveAll, List.foldl_cons, ← saveAll, ih, hone, replaced, lastIn?_append, Option.or_assoc]

/-- A version that the path held is there in the end, or it was backed up when it was replaced, or it
was there from the start but hidden. -/
lemma Held.replaced (hp : p.Named) (h : Held p d calls c) :
    holds? p (saveAll p d calls).files = some c ∨ (∃ t, (t, c) ∈ replaced p d calls) ∨
      d.files.Hides p ∧ holds? p d.files = some c := by
  induction calls generalizing d with
  | nil =>
    obtain ⟨before, hbefore, hc⟩ := h
    rw [List.prefix_nil.mp hbefore] at hc
    exact .inl hc
  | cons call calls ih =>
    have hstep := saves hp d call
    have hlater : Held p (saveAt p d call) calls c →
        holds? p (saveAll p d (call :: calls)).files = some c ∨
          (∃ t, (t, c) ∈ Desk.replaced p d (call :: calls)) ∨
            d.files.Hides p ∧ holds? p d.files = some c := by
      intro hheld
      obtain hlast | ⟨t, ht⟩ | ⟨hides, -⟩ := ih hheld
      · exact .inl hlast
      · exact .inr (.inl ⟨t, List.mem_append_right _ ht⟩)
      · exact absurd hides hstep.seen
    obtain ⟨before, hbefore, hc⟩ := h
    cases before with
    | cons first before =>
      obtain ⟨rfl, hprefix⟩ := List.cons_prefix_cons.mp hbefore
      exact hlater ⟨before, hprefix, hc⟩
    | nil =>
      have hc : holds? p d.files = some c := hc
      cases hsecured : secured? p d call.1 with
      | none =>
        by_cases hides : d.files.Hides p
        · exact .inr (.inr ⟨hides, hc⟩)
        · exact hlater ⟨[], List.nil_prefix, hstep.unsecured hsecured hides c hc⟩
      | some c' =>
        obtain rfl : c' = c := Option.some.inj ((hstep.secured c' hsecured).1.symm.trans hc)
        refine .inr (.inl ⟨call.1, List.mem_append_left _ ?_⟩)
        rw [hsecured]
        exact List.mem_singleton_self _

lemma lastIn?_of_distinct {rs : List (Timestamp × FileContent)} (hvalid : ∀ r ∈ rs, r.1.Valid)
    (hdistinct : (rs.map Prod.fst).Nodup) (h : (t, c) ∈ rs) : lastIn? t rs = some c := by
  obtain ⟨before, after, rfl⟩ := List.append_of_mem h
  have hafter : after.filter (fun r => r.1.compact = t.compact) = [] := by
    rw [List.map_append, List.map_cons] at hdistinct
    have hnotin := (List.nodup_cons.mp (List.nodup_append'.mp hdistinct).2.1).1
    refine List.filter_eq_nil_iff.mpr fun r hr hsame => hnotin ?_
    have heq := Timestamp.compact_inj (hvalid r (List.mem_append_right _ (List.mem_cons_of_mem _ hr)))
      (hvalid (t, c) h) (of_decide_eq_true hsame)
    exact List.mem_map.mpr ⟨r, hr, heq⟩
  rw [lastIn?_append]
  simp [lastIn?, hafter]

/-- **What backups keep.** A content is kept in the end exactly if the path itself holds it, or it
was the last one backed up in some second, or an older backup of a second in which nothing was
backed up holds it. All that the path ever held is among its own content and what was backed up, up
to a file that was hidden at the start; so if there was none, and no two versions were backed up in
one second, then everything is kept. -/
theorem backups_keep_iff (hp : p.Named) (d : Desk) (calls : List (Timestamp × String)) :
    (∀ c, Kept p (saveAll p d calls).files c ↔
      holds? p (saveAll p d calls).files = some c ∨
      (∃ t, lastIn? t (replaced p d calls) = some c) ∨
      ∃ t, lastIn? t (replaced p d calls) = none ∧ holds? (p.backupAt t) d.files = some c) ∧
    (∀ c, Held p d calls c → holds? p (saveAll p d calls).files = some c ∨
      (∃ t, (t, c) ∈ replaced p d calls) ∨ d.files.Hides p ∧ holds? p d.files = some c) ∧
    ((∀ r ∈ replaced p d calls, r.1.Valid) → ((replaced p d calls).map Prod.fst).Nodup →
      ¬ d.files.Hides p → ∀ c, Held p d calls c → Kept p (saveAll p d calls).files c) := by
  refine ⟨fun c => or_congr_right ?_, fun c hc => hc.replaced hp,
    fun hvalid hdistinct hseen c hc => ?_⟩
  · simp only [holds?_backupAt hp, Option.or_eq_some_iff, exists_or]
  · obtain hlast | ⟨t, ht⟩ | ⟨hides, -⟩ := hc.replaced hp
    · exact .inl hlast
    · refine .inr ⟨t, ?_⟩
      rw [holds?_backupAt hp, lastIn?_of_distinct hvalid hdistinct ht]
      rfl
    · exact absurd hides hseen

/-- A unit in a directory with nothing else in it. -/
def unitPath : DiskPath := ⟨.single, ["X.py"]⟩

def noon : Timestamp := ⟨2024, 1, 1, 12, 0, 0⟩

def emptyDesk : Desk := ⟨Files.bare [], [], noon, []⟩

lemma named_unitPath : unitPath.Named := ⟨[], "X.py", rfl, by decide⟩

/-- A unit that is replaced twice, in two seconds. -/
def inTwoSeconds : List (Timestamp × String) :=
  [(noon, "A"), (noon, "B"), ({ noon with second := 1 }, "C")]

theorem backups_keep_iff_of_two_seconds :
    unitPath.Named ∧
      ((replaced unitPath emptyDesk inTwoSeconds).map Prod.fst =
        [noon, { noon with second := 1 }]) ∧
      (∀ c, Kept unitPath (saveAll unitPath emptyDesk inTwoSeconds).files c ↔
        holds? unitPath (saveAll unitPath emptyDesk inTwoSeconds).files = some c ∨
        (∃ t, lastIn? t (replaced unitPath emptyDesk inTwoSeconds) = some c) ∨
        ∃ t, lastIn? t (replaced unitPath emptyDesk inTwoSeconds) = none ∧
          holds? (unitPath.backupAt t) emptyDesk.files = some c) ∧
      ∀ c, Held unitPath emptyDesk inTwoSeconds c →
        Kept unitPath (saveAll unitPath emptyDesk inTwoSeconds).files c := by
  have htimes : (replaced unitPath emptyDesk inTwoSeconds).map Prod.fst =
      [noon, { noon with second := 1 }] := by decide +kernel
  have hvalid : ∀ r ∈ replaced unitPath emptyDesk inTwoSeconds, r.1.Valid := by
    intro r hr
    have htime := List.mem_map_of_mem (f := Prod.fst) hr
    rw [htimes, List.mem_pair] at htime
    rcases htime with h | h <;> rw [h] <;> constructor <;> decide
  have hdistinct : ((replaced unitPath emptyDesk inTwoSeconds).map Prod.fst).Nodup := by
    rw [htimes]
    decide
  obtain ⟨hkept, -, hall⟩ := backups_keep_iff named_unitPath emptyDesk inTwoSeconds
  exact ⟨named_unitPath, htimes, hkept, hall hvalid hdistinct (by decide +kernel)⟩

/-- A unit that is replaced twice in one second. -/
def inOneSecond : List (Timestamp × String) := [(noon, "A"), (noon, "B"), (noon, "C")]

/-- A unit is written in this text. -/
def isUnit (text : String) : FileContent → Bool
  | .text s => s == text
  | _ => false

lemma exists_entry_of_content? {fs : Files} {x : Place} (h : fs.content? x = some c) :
    ∃ e ∈ fs.entries.entries, e.2 = c := by
  have hlookup := (content?_eq_some_iff.mp h).1
  rw [Files.at?, Table.get?] at hlookup
  generalize fs.entries.entries = es at hlookup
  induction es with
  | nil => cases hlookup
  | cons e es ih =>
    rw [Table.lookup] at hlookup
    split at hlookup
    · exact ⟨e, List.mem_cons_self, Option.some.inj hlookup⟩
    · obtain ⟨e', he', hc⟩ := ih hlookup
      exact ⟨e', List.mem_cons_of_mem _ he', hc⟩

/-- The first version is in no file any more. -/
theorem lost_in_one_second :
    Held unitPath emptyDesk inOneSecond (.text "A") ∧
      ∀ x, (saveAll unitPath emptyDesk inOneSecond).files.content? x ≠ some (.text "A") := by
  have hlost : (saveAll unitPath emptyDesk inOneSecond).files.entries.entries.any
      (fun e => isUnit "A" e.2) = false := by decide +kernel
  refine ⟨⟨[(noon, "A")], ⟨[(noon, "B"), (noon, "C")], rfl⟩, ?_⟩, fun x hx => ?_⟩
  · rfl
  · obtain ⟨e, he, hcontent⟩ := exists_entry_of_content? hx
    refine List.any_eq_false.mp hlost e he ?_
    rw [hcontent]
    decide

end Desk

end SceneBindings
