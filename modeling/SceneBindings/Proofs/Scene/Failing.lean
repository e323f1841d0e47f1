import SceneBindings.Proofs.Scene.Contents
import SceneBindings.Proofs.Scene.Rejecting
import SceneBindings.Proofs.Scene.Rewriting
import SceneBindings.Validation.Lax

/-!
What loading a scene fails with. The entries of the nodes are looked into one after the other, and the
paths of all parts once the nodes are there, so the first fault that is met decides.
-/

namespace SceneBindings

namespace Forest

open NodeSpec Component

variable {f : Forest} {entries : List Value} {v : Value} {e : Failure}

/-! ### Building -/

/-- What is wrong with an entry. -/
def fault? (v : Value) : Option Failure := Failure.of? (ofEntry v)

lemma fault?_eq_some : fault? v = some e ↔ Rejects v e := Failure.of?_eq_some.trans ofEntry_eq_error

lemma fault?_eq_none : fault? v = none ↔ ∀ e, ¬ Rejects v e := by
  rw [Option.eq_none_iff_forall_ne_some]
  exact forall_congr' fun e => not_congr fault?_eq_some

lemma of?_describedComponents (entries : List Value) :
    Failure.of? (describedComponents entries) = entries.findSome? fault? := by
  induction entries with
  | nil => rfl
  | cons v entries ih =>
    rw [describedComponents, List.findSome?_cons, fault?]
    cases ofEntry v with
    | error e => rfl
    | ok c =>
      dsimp only [Failure.of?]
      rw [← ih]
      cases describedComponents entries <;> rfl

mutual

/-- Building a tree fails at the first entry that is rejected. -/
theorem of?_build (b : Built) (t : NodeSpec) :
    Failure.of? (build b t).2 = t.entries.flatten.findSome? fault? := by
  cases t with
  | mk name active entries children =>
    have hhere := of?_describedComponents entries
    rw [NodeSpec.entries, List.flatten_cons, List.findSome?_append, ← hhere]
    cases hcs : describedComponents entries with
    | error e =>
      rw [build, hcs]
      rfl
    | ok cs =>
      rw [build_eq b hcs]
      dsimp only
      rw [Failure.of?_map, of?_buildAll]
      rfl

theorem of?_buildAll (b : Built) (p : Key) (ts : List NodeSpec) :
    Failure.of? (buildAll b p ts).2 = (entriesAll ts).flatten.findSome? fault? := by
  cases ts with
  | nil => rfl
  | cons t ts =>
    rw [entriesAll, List.flatten_append, List.findSome?_append, ← of?_build b t, buildAll]
    rcases build b t with ⟨b₁, e | k⟩
    · rfl
    · exact of?_buildAll _ p ts

end

/-- A value that cannot be used is reported with the root that it stands below. -/
def underRoot (root : String) : Failure → Failure
  | .value fault => .config (.sceneNode root fault)
  | e => e

lemma exists_of?_buildRoots (b : Built) (s : SceneId) (ts : List NodeSpec) : ∃ root,
    Failure.of? (buildRoots b s ts).2 =
      ((entriesAll ts).flatten.findSome? fault?).map (underRoot root) := by
  induction ts generalizing b with
  | nil => exact ⟨"", rfl⟩
  | cons t ts ih =>
    rw [entriesAll, List.flatten_append, List.findSome?_append, ← of?_build b t, buildRoots]
    rcases build b t with ⟨b₁, e | k⟩
    · refine ⟨t.name, ?_⟩
      cases e <;> rfl
    · exact ih _

/-! ### Parts -/

lemma resolvable_pendingFrom {k : Nat} {css : List (List (Component × Value))} :
    Resolvable (pendingFrom k css) ↔ ∀ cs ∈ css, ∀ c ∈ cs, ∀ p ∈ c.1.pendingParts c.2,
      ∃ path, p.2 = .text path := by
  induction css generalizing k with
  | nil => exact iff_of_true (List.forall_mem_nil _) (List.forall_mem_nil _)
  | cons cs css ih =>
    rw [Resolvable, pendingFrom, List.forall_mem_append, List.forall_mem_cons]
    exact and_congr resolvable_pendingOf ih

lemma resolveParts_of_misled {ps : List (String × Value)} (h : ¬ ∀ p ∈ ps, ∃ path, p.2 = .text path)
    (f : Forest) (owner : Key) (c : Component) (events : List Event) :
    (f.resolveParts owner c events ps).2.2 = .error .noAttribute := by
  induction ps generalizing c events with
  | nil => exact absurd (List.forall_mem_nil _) h
  | cons p ps ih =>
    rw [List.forall_mem_cons, not_and] at h
    rw [resolveParts]
    cases hpath : p.2 with
    | text path =>
      obtain ⟨⟨d, es⟩, hone⟩ : ∃ r, f.resolvePart owner c p = .ok r := by
        rw [resolvePart, hpath]
        dsimp only
        cases f.find? (c.base owner) path <;> exact ⟨_, rfl⟩
      rw [hone]
      exact ih (h ⟨path, hpath⟩) d (events ++ es)
    | _ =>
      have hone : f.resolvePart owner c p = .error .noAttribute := by
        unfold resolvePart
        rw [hpath]
      rw [hone]

lemma resolve_of_not_resolvable {ps : List Pending} (h : ¬ Resolvable ps) (f : Forest)
    (events : List Event) : (f.resolve events ps).2.2 = .error .noAttribute := by
  induction ps generalizing f events with
  | nil => exact absurd (List.forall_mem_nil _) h
  | cons p ps ih =>
    rw [Resolvable, List.forall_mem_cons, not_and] at h
    rw [resolve]
    by_cases hparts : ∀ q ∈ p.parts, ∃ path, q.2 = .text path
    · obtain ⟨d, es, hone⟩ := exists_resolveParts_eq_ok hparts f p.owner p.component events
      rw [hone]
      exact ih (h hparts) _ es
    · have hone := resolveParts_of_misled hparts f p.owner p.component events
      rcases hall : f.resolveParts p.owner p.component events p.parts with ⟨d, es, r⟩
      rw [hall] at hone
      dsimp only at hone ⊢
      rw [hone]

/-! ### Loading -/

/-- What loading the nodes with some entries, in hierarchy order, does not get past, but does not
report either. -/
inductive Stumbles (entries : List Value) : Prop
  | entry {before after : List Value} {v : Value} {e : Failure} (h : entries = before ++ v :: after)
      (hbefore : ∀ w ∈ before, ∀ e, ¬ Rejects w e) (hv : Rejects v e)
      (he : ∀ fault, e ≠ .value fault)
  | path (hentries : ∀ w ∈ entries, ∀ e, ¬ Rejects w e) {v : Value} (hv : v ∈ entries)
      (hpath : Misleads v)

lemma stumbles_iff : Stumbles entries ↔
    (∃ e, entries.findSome? fault? = some e ∧ ∀ fault, e ≠ .value fault) ∨
      (entries.findSome? fault? = none ∧ ∃ v ∈ entries, Misleads v) := by
  simp only [List.findSome?_eq_some_iff, List.findSome?_eq_none_iff, fault?_eq_some, fault?_eq_none]
  constructor
  · rintro (⟨h, hbefore, hv, he⟩ | ⟨hentries, hv, hpath⟩)
    · exact .inl ⟨_, ⟨_, _, _, h, hv, hbefore⟩, he⟩
    · exact .inr ⟨hentries, _, hv, hpath⟩
  · rintro (⟨e, ⟨before, v, after, h, hv, hbefore⟩, he⟩ | ⟨hentries, v, hv, hpath⟩)
    · exact .entry h hbefore hv he
    · exact .path hentries hv hpath

lemma forall_described (h : entries.findSome? fault? = none) :
    (∀ c ∈ described entries, ∀ p ∈ c.1.pendingParts c.2, ∃ path, p.2 = .text path) ↔
      ∀ v ∈ entries, ¬ Misleads v := by
  obtain ⟨cs, hcs⟩ := Failure.of?_eq_none.mp ((of?_describedComponents entries).trans h)
  have hmade : ∀ v ∈ entries, ∃ c, ofEntry v = .ok c := fun v hv =>
    Failure.of?_eq_none.mp (List.findSome?_eq_none_iff.mp h v hv)
  have htells : ∀ {v c}, ofEntry v = .ok c →
      ((∀ p ∈ c.pendingParts v, ∃ path, p.2 = .text path) ↔ ¬ Misleads v) := by
    intro v c hc
    rw [misleads_iff hc]
    push Not
    rfl
  rw [described, hcs]
  constructor
  · intro hall v hv
    obtain ⟨c, hc⟩ := hmade v hv
    exact (htells hc).mp (hall (c, v) ((mem_describedComponents_iff hcs).mpr ⟨hv, hc⟩))
  · intro hall c hc
    obtain ⟨hv, hmake⟩ := (mem_describedComponents_iff hcs).mp hc
    exact (htells hmake).mpr (hall c.2 hv)

lemma resolvable_iff {k : Nat} {ess : List (List Value)}
    (h : ess.flatten.findSome? fault? = none) :
    Resolvable (pendingFrom k (ess.map described)) ↔ ∀ v ∈ ess.flatten, ¬ Misleads v := by
  rw [List.findSome?_eq_none_iff, List.forall_mem_flatten] at h
  rw [resolvable_pendingFrom, List.forall_mem_map, List.forall_mem_flatten]
  refine forall₂_congr fun es hes => forall_described ?_
  exact List.findSome?_eq_none_iff.mpr (h es hes)

lemma documentFields_object (fields : List (String × Value)) :
    documentFields (.object fields) = .ok fields := by
  cases fields <;> rfl

section Result

variable [Validator] {fields : List (String × Value)} {spec : SceneSpec}
  (hspec : SceneSpec.read fields = .ok spec) (f : Forest)
include hspec

/-- The first entry that is rejected decides. -/
lemma result_of_rejected (h : (entriesAll spec.roots).flatten.findSome? fault? = some e) :
    ∃ root, (f.loadScene (.object fields)).result = .error (underRoot root e) := by
  obtain ⟨root, hbuild⟩ := exists_of?_buildRoots ⟨(f.addScene spec.name).1, []⟩
    (f.addScene spec.name).2 spec.roots
  rw [h] at hbuild
  refine ⟨root, ?_⟩
  simp only [loadScene, documentFields_object, hspec]
  rcases hb : buildRoots ⟨(f.addScene spec.name).1, []⟩ (f.addScene spec.name).2 spec.roots with ⟨b, r⟩
  rw [hb] at hbuild
  obtain rfl : r = .error (underRoot root e) := Failure.of?_eq_some.mp hbuild
  rfl

/-- If none is rejected, then the parts decide. -/
lemma result_of_made (h : (entriesAll spec.roots).flatten.findSome? fault? = none) :
    ((∀ v ∈ (entriesAll spec.roots).flatten, ¬ Misleads v) ∧
        ∃ s, (f.loadScene (.object fields)).result = .ok s) ∨
      ((∃ v ∈ (entriesAll spec.roots).flatten, Misleads v) ∧
        (f.loadScene (.object fields)).result = .error .noAttribute) := by
  obtain ⟨root, hbuild⟩ := exists_of?_buildRoots ⟨(f.addScene spec.name).1, []⟩
    (f.addScene spec.name).2 spec.roots
  rw [h] at hbuild
  simp only [loadScene, documentFields_object, hspec]
  rcases hb : buildRoots ⟨(f.addScene spec.name).1, []⟩ (f.addScene spec.name).2 spec.roots with ⟨b, r⟩
  rw [hb] at hbuild
  obtain ⟨⟨⟩, rfl⟩ : ∃ u, r = .ok u := Failure.of?_eq_none.mp hbuild
  have hpending : b.pending = _ := (fills_buildRoots hb).pending.trans (List.nil_append _)
  have hresolvable := resolvable_iff h (k := (f.addScene spec.name).1.nodes.length + 1)
  rw [← hpending] at hresolvable
  dsimp only
  by_cases hparts : Resolvable b.pending
  · obtain ⟨g, events, hg⟩ := exists_resolve_eq_ok hparts b.forest []
    rw [hg]
    exact .inl ⟨hresolvable.mp hparts, _, rfl⟩
  · have hg := resolve_of_not_resolvable hparts b.forest []
    rw [hresolvable] at hparts
    push Not at hparts
    refine .inr ⟨hparts, ?_⟩
    rw [hg]
    rfl

end Result

/-- **Where loading a scene stumbles.** Loading an object gives a scene or reports a fault of the
description, unless the description is read and its nodes have entries at which loading stumbles: the
first entry that is rejected is so for another reason than a name that nothing has, or none is rejected
and a part is given by something that is no path. -/
theorem loads_or_reports_iff [Validator] (f : Forest) (fields : List (String × Value)) :
    ((∃ s, (f.loadScene (.object fields)).result = .ok s) ∨
      ∃ fault, (f.loadScene (.object fields)).result = .error (.config fault)) ↔
    ∀ spec, SceneSpec.read fields = .ok spec → ¬ Stumbles (entriesAll spec.roots).flatten := by
  cases hspec : SceneSpec.read fields with
  | bad issues =>
    have hresult : (f.loadScene (.object fields)).result = .error (.config (.scene issues)) := by
      simp only [loadScene, documentFields_object, hspec]
    refine iff_of_true (.inr ⟨_, hresult⟩) fun spec hread => ?_
    cases hread
  | ok spec =>
    rw [← not_iff_not, not_or, not_exists, not_exists]
    simp only [Checked.ok.injEq, forall_eq', not_not]
    rw [stumbles_iff]
    cases h : (entriesAll spec.roots).flatten.findSome? fault? with
    | some e =>
      obtain ⟨root, hresult⟩ := result_of_rejected hspec f h
      obtain ⟨v, -, hv⟩ := List.exists_of_findSome?_eq_some h
      have hreported := (fault?_eq_some.mp hv).not_config
      rw [hresult]
      cases e with
      | config fault => exact absurd rfl (hreported fault)
      | _ => simp [underRoot]
    | none =>
      rcases result_of_made hspec f h with ⟨hparts, s, hresult⟩ | ⟨hparts, hresult⟩
      · rw [hresult]
        simpa using hparts
      · rw [hresult]
        simpa using hparts

/-- A node with a component whose type is given by a list. -/
def listedType : Value :=
  .object [("scene", .text "S"), ("roots", .list [.object [("name", .text "A"),
    ("components", .list [.object [("type", .list [.text "Button"])]])]])]

/-- A list can name no type, but is looked up like a name. -/
theorem not_loads_or_reports :
    (empty.loadScene listedType).result = .error .wrongKind ∧
      ¬ ((∃ s, (empty.loadScene listedType).result = .ok s) ∨
        ∃ fault, (empty.loadScene listedType).result = .error (.config fault)) := by
  have hresult : (empty.loadScene listedType).result = .error .wrongKind := by decide +kernel
  rw [hresult]
  exact ⟨rfl, by simp⟩

end Forest

end SceneBindings
