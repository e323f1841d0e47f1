import SceneBindings.Proofs.Cli.Jobs
import SceneBindings.Proofs.Files.Writing

/-!
The stages of the command that registers all nodes of a scene: what it reads, what it works on, and
what it stores.
-/

namespace SceneBindings.Cli

open Job Files

variable {s : Settings} {d d' : Desk} {n : Nat}

/-- The workspace in which nodes are registered. -/
def registering (s : Settings) (f : Forest) (scene : SceneId) (g : Registry) : Workspace :=
  ⟨(opened f scene g).forest, (opened f scene g).registry,
    if s.naming.onAdd then some (newStandardizer s) else (opened f scene g).namer, []⟩

/-- The stored scene and registry of a project. -/
structure Reads [Yaml] [Validator] (s : Settings) (fs : Files) (f : Forest) (scene : SceneId)
    (g : Registry) : Prop where
  scene : ∃ v events, fs.readScene s.scenePath = .ok v ∧
    Forest.empty.loadScene v = ⟨f, events, .ok scene⟩
  registry : fs.readRegistry f s.registryPath = .ok g

/-- What a registration that works in a state comes to: all nodes are registered, and moved ones are
followed. -/
def Settles (w : Workspace) (scene : SceneId) (u : Workspace) : Prop :=
  ∃ v, registerNodes w (w.forest.walk scene) = (v, .ok ()) ∧
    u = { (Workspace.refreshPaths { v with events := [] }).1 with events := [] }

/-- What a registration stores: the registry, and the scene if a node was renamed. -/
structure Stores (s : Settings) (scene : SceneId) (u : Workspace) (before after : Files) : Prop where
  registry : ∃ v files, u.registry.document = .ok v ∧
    Writes s.registryPath (.document v) before files ∧
      ((∀ z, u.namer = some z → z.renamed = 0) ∧ after = files ∨
        (∃ z, u.namer = some z ∧ z.renamed ≠ 0) ∧ ∃ v' files', u.forest.writeScene scene = .ok v' ∧
          Writes s.scenePath (.text "") files files' ∧ Writes s.scenePath (.document v') files' after)

/-- What is said once the registry is stored. -/
def registeredLine (before total : Nat) : String :=
  "✅ Registered " ++ toString ((total : Int) - before) ++ " new elements (" ++ toString total ++
    " total)"

def renamedLine (count : Nat) : String :=
  "✏️  Renamed " ++ toString count ++ " nodes, scene file updated"

/-- What was said last is that nodes were renamed and the scene was stored. -/
def SaysRenamed (d : Desk) : Prop := ∃ count, d.events.getLast? = some (.line (renamedLine count))

lemma toList_toString (m : Nat) : (toString m).toList = Nat.toDigits 10 m := String.toList_ofList

lemma space_not_mem_toString (n : Int) : ' ' ∉ (toString n).toList := by
  have hdigits : ∀ m : Nat, ' ' ∉ (toString m).toList := by
    intro m hmem
    rw [toList_toString] at hmem
    have hdigit := Nat.isDigit_of_mem_toDigits (b := 10) (by decide) (by decide) hmem
    exact absurd hdigit (by decide)
  cases n with
  | ofNat m => exact hdigits m
  | negSucc m =>
    have hminus : toString (Int.negSucc m) = "-" ++ toString (m + 1) := rfl
    rw [hminus, String.toList_append, List.mem_append, not_or]
    exact ⟨by decide, hdigits (m + 1)⟩

lemma eq_zero_of_toString {n : Int} (h : (toString n).toList = ['0']) : n = 0 := by
  cases n with
  | ofNat m =>
    have hvalue := Nat.ofDigitChars_toDigits (b := 10) (n := m) (by decide) (by decide)
    have hdigits : Nat.toDigits 10 m = ['0'] := (toList_toString m).symm.trans h
    rw [hdigits] at hvalue
    exact congrArg Int.ofNat hvalue.symm
  | negSucc m =>
    have hminus : toString (Int.negSucc m) = "-" ++ toString (m + 1) := rfl
    rw [hminus, String.toList_append] at h
    exact absurd (List.cons.inj h).1 (by decide)

/-- A number that is shown between two texts is told by the whole. -/
lemma eq_zero_of_shown {n : Int} {before after s t u : String} {rest : List Char}
    (hafter : after.toList = ' ' :: rest)
    (h : before ++ toString n ++ after ++ s ++ u = before ++ "0" ++ after ++ t ++ u) : n = 0 := by
  have hzero : "0".toList = ['0'] := rfl
  have hword : ' ' ∉ ['0'] := by decide
  have hsplit (r : List Char) : Text.splitAt ' ' ('0' :: ' ' :: r) = ['0'] :: Text.splitAt ' ' r :=
    Text.splitAt_append_cons hword r
  have hchars := congrArg String.toList h
  simp only [String.toList_append, hafter, hzero, List.append_assoc, List.cons_append,
    List.nil_append, List.append_cancel_left_eq] at hchars
  have hwords := congrArg (Text.splitAt ' ') hchars
  rw [Text.splitAt_append_cons (space_not_mem_toString n), hsplit] at hwords
  exact eq_zero_of_toString (List.cons.inj hwords).1

lemma shown_self {before after line total : String} (n : Nat) (h : before ++ "0" ++ after = line) :
    before ++ toString ((n : Int) - n) ++ after ++ toString n ++ total =
      line ++ toString n ++ total := by
  have hzero : toString (0 : Int) = "0" := rfl
  rw [Int.sub_self, hzero, h]

lemma registeredLine_self (n : Nat) :
    registeredLine n n = "✅ Registered 0 new elements (" ++ toString n ++ " total)" :=
  shown_self n (by decide)

/-- Who reads that nothing was added knows that the registry is as large as before. -/
lemma eq_of_registeredLine {before total : Nat} {shown : String}
    (h : registeredLine before total = "✅ Registered 0 new elements (" ++ shown ++ " total)") :
    total = before := by
  have hzero : "✅ Registered 0 new elements (" = "✅ Registered " ++ "0" ++ " new elements (" := by
    decide
  have hafter : " new elements (".toList = ' ' :: "new elements (".toList := by decide
  have hdifference := eq_zero_of_shown hafter
    (h.trans (congrArg (fun s => s ++ shown ++ " total)") hzero))
  omega

lemma renamedLine_ne (count : Nat) (shown : String) :
    renamedLine count ≠ "✅ Registered 0 new elements (" ++ shown ++ " total)" := by
  intro h
  have hfirst := congrArg (fun t => t.toList.head?) h
  rw [renamedLine] at hfirst
  simp at hfirst

/-- The last stage: the scene is stored if a node was renamed. -/
def saved (s : Settings) (scene : SceneId) (u : Workspace) : Job Nat := do
  match u.namer with
  | some z =>
    if z.renamed != 0 then
      onDesk fun d => d.storeDocument s.scenePath (u.forest.writeScene scene)
      print (renamedLine z.renamed)
  | none => pure ()
  return 0

lemma stages_of_saved {scene : SceneId} {u : Workspace} (h : (saved s scene u).run d = (.ok n, d')) :
    (∀ z, u.namer = some z → z.renamed = 0) ∧ d' = d ∨
      ((∃ z, u.namer = some z ∧ z.renamed ≠ 0) ∧ ∃ v files, u.forest.writeScene scene = .ok v ∧
        Writes s.scenePath (.text "") d.files files ∧ Writes s.scenePath (.document v) files d'.files) ∧
          SaysRenamed d' := by
  rw [saved] at h
  split at h
  · next z hz =>
    split at h
    · next hrenamed =>
      obtain ⟨_, d₁, hscene, h⟩ := bind_eq_ok.mp h
      obtain ⟨v, files, after, hv, hfirst, hsecond, hd₁⟩ :=
        Desk.writes_of_storeDocument (onDesk_eq_ok.mp hscene)
      obtain ⟨_, d₂, htold, h⟩ := bind_eq_ok.mp h
      obtain ⟨-, rfl⟩ := pure_eq_ok.mp h
      rw [← print_eq_ok.mp htold]
      exact .inr ⟨⟨⟨z, hz, bne_iff_ne.mp hrenamed⟩, v, files, hv, hfirst, hd₁ ▸ hsecond⟩, z.renamed,
        List.getLast?_concat⟩
    · next hstill =>
      obtain ⟨-, rfl⟩ := pure_eq_ok.mp h
      refine .inl ⟨fun y hy => ?_, rfl⟩
      rw [hz] at hy
      cases hy
      simpa using hstill
  · next hz =>
    obtain ⟨-, rfl⟩ := pure_eq_ok.mp h
    refine .inl ⟨fun y hy => ?_, rfl⟩
    rw [hz] at hy
    cases hy

lemma saved_of_still {scene : SceneId} {u : Workspace}
    (hstill : ∀ z, u.namer = some z → z.renamed = 0) : (saved s scene u).run d = (.ok 0, d) := by
  rw [saved]
  split
  · next z hz =>
    rw [if_neg (by rw [hstill z hz]; decide)]
    exact pure_eq_ok.mpr ⟨rfl, rfl⟩
  · exact pure_eq_ok.mpr ⟨rfl, rfl⟩

variable [Yaml] [Validator]

/-- A successful registration, stage by stage. -/
theorem stages_of_register (h : (Cli.register s).run d = (.ok n, d')) :
    ∃ f scene g u, Reads s d.files f scene g ∧ Settles (registering s f scene g) scene u ∧
      Stores s scene u d.files d'.files ∧
        ((∀ z, u.namer = some z → z.renamed = 0) ∧ d'.events.getLast? = some (.line
            (registeredLine (registering s f scene g).registry.size u.registry.size)) ∨
          SaysRenamed d') := by
  rw [Cli.register] at h
  obtain ⟨_, d₁, hprint, h⟩ := bind_eq_ok.mp h
  have hfiles₁ : d₁.files = d.files := by rw [← print_eq_ok.mp hprint]
  obtain ⟨⟨f, scene⟩, d₂, hload, h⟩ := bind_eq_ok.mp h
  obtain ⟨v, events, hv, hloaded, hd₂⟩ := loadScene_eq_ok.mp hload
  have hfiles₂ : d₂.files = d.files := by rw [← hd₂, hfiles₁]
  obtain ⟨w, d₃, hbound, h⟩ := bind_eq_ok.mp h
  obtain ⟨g, hg, hw, hd₃⟩ := boundRegistry_eq_ok.mp hbound
  have hfiles₃ : d₃.files = d.files := by rw [← hd₃, hfiles₂]
  dsimp only at h
  have hstart : (if s.naming.onAdd = true then { w with namer := some (newStandardizer s) } else w) =
      registering s f scene g := by
    rw [registering, ← hw]
    split <;> rfl
  rw [hstart] at h
  obtain ⟨⟨w', r⟩, d₄, hnodes, h⟩ := bind_eq_ok.mp h
  obtain ⟨hw', hr, hd₄⟩ := on_eq_ok.mp hnodes
  have hquiet : { registering s f scene g with events := [] } = registering s f scene g := rfl
  rw [hquiet] at hw' hr
  have hfiles₄ : d₄.files = d.files := by rw [← hd₄, hfiles₃]
  obtain ⟨_, d₅, hregistered, h⟩ := bind_eq_ok.mp h
  obtain ⟨hresult, rfl⟩ := ofExcept_eq_ok.mp hregistered
  rw [← hr] at hresult
  obtain ⟨⟨u, _⟩, d₆, hrefresh, h⟩ := bind_eq_ok.mp h
  obtain ⟨hu, -, hd₆⟩ := on_eq_ok.mp hrefresh
  have hfiles₆ : d₆.files = d.files := by rw [← hd₆, hfiles₄]
  obtain ⟨_, d₇, hstore, h⟩ := bind_eq_ok.mp h
  obtain ⟨v', files, hv', hwrites, hd₇⟩ := Desk.storeRegistry_eq_ok_iff.mp (onDesk_eq_ok.mp hstore)
  rw [hfiles₆] at hwrites
  have hfiles₇ : d₇.files = files := by rw [← hd₇]
  obtain ⟨_, d₈, htold, h⟩ := bind_eq_ok.mp h
  have hfiles₈ : d₈.files = files := by rw [← print_eq_ok.mp htold, hfiles₇]
  have hsettles : Settles (registering s f scene g) scene u := by
    -- with a name of its own the result is not computed when workspaces are compared
    generalize hp : registerNodes (registering s f scene g)
      ((registering s f scene g).forest.walk scene) = p at hw' hresult
    subst hw'
    exact ⟨p.1, hp.trans (Prod.ext rfl hresult), hu.symm⟩
  have hsaved : (saved s scene u).run d₈ = (.ok n, d') := h
  refine ⟨f, scene, g, u, ⟨⟨v, events, hfiles₁ ▸ hv, hloaded⟩, hfiles₂ ▸ hg⟩, hsettles, ?_⟩
  rw [← hfiles₈] at hwrites
  obtain ⟨hstill, rfl⟩ | ⟨hstored, hlast⟩ := stages_of_saved hsaved
  · refine ⟨⟨v', d'.files, hv', hwrites, .inl ⟨hstill, rfl⟩⟩, .inl ⟨hstill, ?_⟩⟩
    rw [← print_eq_ok.mp htold]
    exact List.getLast?_concat
  · exact ⟨⟨v', d₈.files, hv', hwrites, .inr hstored⟩, .inr hlast⟩

/-- Where nothing is to be renamed, a registration succeeds if the registry can be stored. -/
theorem register_of_stages {f : Forest} {scene : SceneId} {g : Registry} {u : Workspace} {v : Value}
    {files : Files} (hreads : Reads s d.files f scene g)
    (hsettles : Settles (registering s f scene g) scene u)
    (hstill : ∀ z, u.namer = some z → z.renamed = 0) (hdocument : u.registry.document = .ok v)
    (hwrites : Writes s.registryPath (.document v) d.files files) :
    ∃ d', (Cli.register s).run d = (.ok 0, d') ∧ d'.files = files ∧
      d'.events.getLast? = some (.line
        (registeredLine (registering s f scene g).registry.size u.registry.size)) := by
  obtain ⟨⟨v', events, hv, hloaded⟩, hg⟩ := hreads
  obtain ⟨w, hregistered, hu⟩ := hsettles
  obtain ⟨d₁, hprint⟩ : ∃ e, (print "🔍 Registering UI elements...").run d = (.ok (), e) :=
    ⟨_, print_eq_ok.mpr rfl⟩
  have hfiles₁ : d₁.files = d.files := by rw [← print_eq_ok.mp hprint]
  obtain ⟨d₂, hload, hfiles₂⟩ : ∃ e, (loadScene s).run d₁ = (.ok (f, scene), e) ∧
      e.files = d.files :=
    ⟨_, loadScene_eq_ok.mpr ⟨v', events, hfiles₁ ▸ hv, hloaded, rfl⟩, hfiles₁⟩
  obtain ⟨d₃, hbound, hfiles₃⟩ : ∃ e, (boundRegistry s f scene).run d₂ =
      (.ok { opened f scene g with events := [] }, e) ∧ e.files = d.files :=
    ⟨_, boundRegistry_eq_ok.mpr ⟨g, hfiles₂ ▸ hg, rfl, rfl⟩, hfiles₂⟩
  have hstart : (if s.naming.onAdd = true then
      { ({ opened f scene g with events := [] } : Workspace) with namer := some (newStandardizer s) }
      else { opened f scene g with events := [] }) = registering s f scene g := by
    rw [registering]
    split <;> rfl
  obtain ⟨d₄, hnodes, hfiles₄⟩ : ∃ e, (on (registering s f scene g) fun w =>
      registerNodes w (w.forest.walk scene)).run d₃ = (.ok ({ w with events := [] }, .ok ()), e) ∧
        e.files = d.files := by
    refine ⟨_, on_eq_ok.mpr ⟨?_, congrArg Prod.snd hregistered, rfl⟩, hfiles₃⟩
    exact congrArg (fun r => { r.1 with events := [] }) hregistered
  obtain ⟨d₅, hrefresh, hfiles₅⟩ : ∃ e, (on { w with events := [] } Workspace.refreshPaths).run d₄ =
      (.ok (u, (Workspace.refreshPaths { w with events := [] }).2), e) ∧ e.files = d.files :=
    ⟨_, on_eq_ok.mpr ⟨hu.symm, rfl, rfl⟩, hfiles₄⟩
  obtain ⟨d₆, hstore, hfiles₆⟩ : ∃ e, (onDesk fun d => d.storeRegistry s.registryPath u.registry).run
      d₅ = (.ok (), e) ∧ e.files = files :=
    ⟨_, onDesk_eq_ok.mpr (Desk.storeRegistry_eq_ok_iff.mpr ⟨v, files, hdocument, hfiles₅ ▸ hwrites, rfl⟩),
      rfl⟩
  obtain ⟨d₇, htold, hfiles₇, hlast⟩ : ∃ e, (print
      (registeredLine (registering s f scene g).registry.size u.registry.size)).run d₆ =
        (.ok (), e) ∧ e.files = files ∧ e.events.getLast? = some (.line
          (registeredLine (registering s f scene g).registry.size u.registry.size)) :=
    ⟨_, print_eq_ok.mpr rfl, hfiles₆, List.getLast?_concat⟩
  refine ⟨d₇, ?_, hfiles₇, hlast⟩
  rw [Cli.register]
  refine bind_eq_ok.mpr ⟨_, d₁, hprint, bind_eq_ok.mpr ⟨_, d₂, hload,
    bind_eq_ok.mpr ⟨_, d₃, hbound, ?_⟩⟩⟩
  dsimp only
  rw [hstart]
  refine bind_eq_ok.mpr ⟨_, d₄, hnodes, bind_eq_ok.mpr ⟨_, d₄, ofExcept_eq_ok.mpr ⟨rfl, rfl⟩,
    bind_eq_ok.mpr ⟨_, d₅, hrefresh, bind_eq_ok.mpr ⟨_, d₆, hstore,
      bind_eq_ok.mpr ⟨_, d₇, htold, ?_⟩⟩⟩⟩⟩
  exact saved_of_still hstill

end SceneBindings.Cli
