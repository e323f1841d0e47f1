import Mathlib.Tactic.Lemma
import SceneBindings.Cli.Commands

/-!
Commands taken apart: a command succeeds if its steps do, each on the desk that the one before left.
-/

namespace SceneBindings.Cli

namespace Job

variable {α β : Type} {d d' : Desk}

lemma run_bind (x : Job α) (f : α → Job β) (d : Desk) : (x >>= f).run d =
    match x.run d with
    | (.ok a, d₀) => (f a).run d₀
    | (.error e, d₀) => (.error e, d₀) := by
  have hstep : ∀ (y : StateM Desk (Except Failure α))
      (g : Except Failure α → StateM Desk (Except Failure β)),
      (y >>= g) d = g (y d).1 (y d).2 := fun _ _ => rfl
  rw [ExceptT.run_bind, hstep]
  rcases x.run d with ⟨a | e, d₀⟩ <;> rfl

lemma bind_eq_ok {x : Job α} {f : α → Job β} {b : β} : (x >>= f).run d = (.ok b, d') ↔
    ∃ a d₀, x.run d = (.ok a, d₀) ∧ (f a).run d₀ = (.ok b, d') := by
  rw [run_bind]
  constructor
  · intro h
    rcases hx : x.run d with ⟨e | a, d₀⟩
    · rw [hx] at h
      cases h
    · rw [hx] at h
      exact ⟨a, d₀, rfl, h⟩
  · rintro ⟨a, d₀, hx, hf⟩
    rw [hx]
    exact hf

lemma pure_eq_ok {a b : α} : (pure a : Job α).run d = (.ok b, d') ↔ a = b ∧ d = d' := by
  change ((.ok a, d) : Except Failure α × Desk) = (.ok b, d') ↔ _
  rw [Prod.mk.injEq, Except.ok.injEq]

lemma get_eq_ok {e : Desk} : (get : Job Desk).run d = (.ok e, d') ↔ d = e ∧ d = d' := by
  change ((.ok d, d) : Except Failure Desk × Desk) = (.ok e, d') ↔ _
  rw [Prod.mk.injEq, Except.ok.injEq]

lemma ofExcept_eq_ok {r : Except Failure α} {a : α} :
    (ofExcept r : Job α).run d = (.ok a, d') ↔ r = .ok a ∧ d = d' := by
  cases r with
  | error e =>
    change ((.error e, d) : Except Failure α × Desk) = (.ok a, d') ↔ _
    rw [Prod.mk.injEq]
  | ok b =>
    change ((.ok b, d) : Except Failure α × Desk) = (.ok a, d') ↔ _
    rw [Prod.mk.injEq]

lemma say_eq_ok {es : List Event} {u : Unit} :
    (say es).run d = (.ok u, d') ↔ { d with events := d.events ++ es } = d' := by
  change ((.ok (), { d with events := d.events ++ es }) : Except Failure Unit × Desk) = (.ok u, d') ↔ _
  rw [Prod.mk.injEq, and_iff_right rfl]

lemma print_eq_ok {text : String} {u : Unit} :
    (print text).run d = (.ok u, d') ↔ { d with events := d.events ++ [.line text] } = d' :=
  say_eq_ok

lemma onDesk_eq_ok {act : Desk → Desk × Except Failure α} {a : α} :
    (onDesk act).run d = (.ok a, d') ↔ act d = (d', .ok a) := by
  simp only [onDesk, bind_eq_ok, get_eq_ok]
  constructor
  · rintro ⟨_, _, ⟨rfl, rfl⟩, h⟩
    rcases hact : act d with ⟨d₁, r⟩
    simp only [hact] at h
    obtain ⟨_, d₀, hset, h⟩ := h
    obtain ⟨rfl, rfl⟩ := ofExcept_eq_ok.mp h
    cases hset
    rfl
  · intro h
    refine ⟨d, d, ⟨rfl, rfl⟩, ?_⟩
    simp only [h]
    exact ⟨(), d', rfl, ofExcept_eq_ok.mpr ⟨rfl, rfl⟩⟩

lemma on_eq_ok {w v : Workspace} {act : Workspace → Workspace × α} {a : α} :
    (on w act).run d = (.ok (v, a), d') ↔
      { (act { w with events := [] }).1 with events := [] } = v ∧
        (act { w with events := [] }).2 = a ∧
          { d with events := d.events ++ (act { w with events := [] }).1.events } = d' := by
  simp only [on, bind_eq_ok, say_eq_ok, pure_eq_ok, Prod.mk.injEq]
  constructor
  · rintro ⟨_, _, rfl, ⟨rfl, rfl⟩, rfl⟩
    exact ⟨rfl, rfl, rfl⟩
  · rintro ⟨rfl, rfl, rfl⟩
    exact ⟨(), _, rfl, ⟨rfl, rfl⟩, rfl⟩

end Job

open Job

variable [Yaml] [Validator] {s : Settings} {d d' : Desk} {f : Forest} {scene : SceneId}

lemma loadScene_eq_ok : (loadScene s).run d = (.ok (f, scene), d') ↔
    ∃ v events, d.files.readScene s.scenePath = .ok v ∧
      Forest.empty.loadScene v = ⟨f, events, .ok scene⟩ ∧
        { d with events := d.events ++ events } = d' := by
  simp only [loadScene, bind_eq_ok, get_eq_ok, ofExcept_eq_ok, say_eq_ok, pure_eq_ok, Prod.mk.injEq]
  constructor
  · rintro ⟨_, _, ⟨rfl, rfl⟩, v, _, ⟨hv, rfl⟩, _, _, rfl, scene', _, ⟨hresult, rfl⟩, ⟨rfl, rfl⟩, rfl⟩
    rcases hload : Forest.empty.loadScene v with ⟨f, events, result⟩
    rw [hload] at hresult
    cases hresult
    exact ⟨v, events, hv, hload, rfl⟩
  · rintro ⟨v, events, hv, hload, rfl⟩
    refine ⟨d, d, ⟨rfl, rfl⟩, v, d, ⟨hv, rfl⟩, (), _, rfl, scene, _, ⟨?_, rfl⟩, ?_⟩
    · rw [hload]
    · rw [hload]
      exact ⟨⟨rfl, rfl⟩, rfl⟩

/-- The workspace in which a registry has been bound to a scene. A registry without a name takes that
of the scene. -/
def opened (f : Forest) (scene : SceneId) (g : Registry) : Workspace :=
  (Workspace.bindScene
    ⟨f, { g with sceneName := if g.sceneName.isEmpty then (f.scene scene).name else g.sceneName },
      none, []⟩ scene).1

lemma boundRegistry_eq_ok {w : Workspace} :
    (boundRegistry s f scene).run d = (.ok w, d') ↔
      ∃ g, d.files.readRegistry f s.registryPath = .ok g ∧
        { opened f scene g with events := [] } = w ∧
          { d with events := d.events ++ (opened f scene g).events } = d' := by
  simp only [boundRegistry, bind_eq_ok, get_eq_ok, ofExcept_eq_ok]
  constructor
  · rintro ⟨_, _, ⟨rfl, rfl⟩, g, _, ⟨hg, rfl⟩, ⟨v, n⟩, _, hon, hpure⟩
    obtain ⟨rfl, -, rfl⟩ := on_eq_ok.mp hon
    obtain ⟨rfl, rfl⟩ := pure_eq_ok.mp hpure
    exact ⟨g, hg, rfl, rfl⟩
  · rintro ⟨g, hg, rfl, rfl⟩
    exact ⟨d, d, ⟨rfl, rfl⟩, g, d, ⟨hg, rfl⟩, (_, _), _, on_eq_ok.mpr ⟨rfl, rfl, rfl⟩,
      pure_eq_ok.mpr ⟨rfl, rfl⟩⟩

end SceneBindings.Cli
