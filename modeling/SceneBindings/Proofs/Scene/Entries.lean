import SceneBindings.Proofs.Scene.Saving
import SceneBindings.Proofs.Validation.Checked

/-!
The entries that components are written as. Whatever a component holds, its entry is read again and
makes a component of its kind, and the parts that it names are given by paths.
-/

namespace SceneBindings

namespace Forest

open NodeSpec

variable {f : Forest} {k : Nat} {c : Component}

/-! ### Components -/

/-- An entry from which a component of a kind can be made, its parts given by texts. -/
structure Describes (v : Value) (kind : ComponentKind) : Prop where
  readable : readEntry v = .ok v
  typed : lacksType v = false
  component : ∃ c, Component.ofEntry v = .ok c ∧ c.kind = kind ∧ c.Genuine ∧
    ∀ p ∈ c.pendingParts v, ∃ path, p.2 = .text path

/-- A node takes over what was made from an entry. -/
lemma ofEntry_writeEntry (hc : c.Genuine) {e : Value} {d : Component} (h : f.writeEntry k c = .ok e)
    (hd : Component.ofDescription e = .ok d) : Component.ofEntry e = .ok d := by
  have hrecalls := recalls_writeEntry hc h hd
  refine Component.ofEntry_eq_ok.mpr ⟨hd, ?_⟩
  rw [Component.tellsParts, hrecalls.enabled "pending_refs" (by decide), hrecalls.genuine.label_eq,
    hrecalls.genuine.partNames?_eq]
  simp [Value.isKey]

/-- Whatever was written down can be made again. -/
lemma describes_writeEntry (hc : c.Genuine) {v : Value} (h : f.writeEntry k c = .ok v) :
    Describes v c.kind where
  readable := by
    obtain rfl | ⟨rfl, -⟩ := entry_of_writeEntry hc h <;> rfl
  typed := by
    obtain rfl | ⟨rfl, -⟩ := entry_of_writeEntry hc h
    · rw [lacksType, field?_fieldsOf_type]
      rfl
    · rfl
  component := by
    obtain ⟨d, hd⟩ : ∃ d, (Component.new c.kind).takeFields (f.fieldsOf k c) = .ok d :=
      Component.takeFields_eq_ok (.new c.kind) fun x => known_of_mem_fieldsOf
    rw [← ofDescription_writeEntry hc h] at hd
    have hrecalls := recalls_writeEntry hc h hd
    refine ⟨d, ofEntry_writeEntry hc h hd, hrecalls.kind, hrecalls.genuine, fun p hp => ?_⟩
    rw [hrecalls.parts] at hp
    obtain ⟨part, -, hp⟩ := List.mem_filterMap.mp hp
    obtain ⟨path, -, rfl⟩ := Option.map_eq_some_iff.mp hp
    exact ⟨path, rfl⟩

/-! ### Entries of one node -/

lemma mapM_eq_ok {α β : Type} {f : α → Except Failure β} {xs : List α} {ys : List β} :
    xs.mapM f = .ok ys ↔ List.Forall₂ (fun x y => f x = .ok y) xs ys := by
  induction xs generalizing ys with
  | nil =>
    rw [List.mapM_nil, List.forall₂_nil_left_iff]
    exact ⟨fun h => (Except.ok.inj h).symm, fun h => congrArg Except.ok h.symm⟩
  | cons x xs ih =>
    rw [List.mapM_cons, List.forall₂_cons_left_iff]
    cases hx : f x with
    | error e => simp [bind, Except.bind]
    | ok y =>
      cases hxs : xs.mapM f with
      | error e =>
        have hno : ∀ zs, ¬ List.Forall₂ (fun x y => f x = .ok y) xs zs := fun zs hzs => by
          rw [ih.mpr hzs] at hxs
          cases hxs
        simp [bind, Except.bind, hno]
      | ok zs =>
        have hzs := ih.mp hxs
        constructor
        · intro h
          cases h
          exact ⟨y, zs, rfl, hzs, rfl⟩
        · rintro ⟨y', zs', hy', hzs', rfl⟩
          cases hy'
          rw [ih.mpr hzs'] at hxs
          cases hxs
          rfl

/-- The entries of a node tell the kinds of its components, and its components can be made again. -/
structure Recounts (entries : List Value) (ks : List ComponentKind) : Prop where
  readable : readEntries (.list entries) = .ok entries
  components : ∃ cs, describedComponents entries = .ok cs ∧ cs.map (·.1.kind) = ks ∧
    ∀ c ∈ cs, c.1.Genuine ∧ ∀ p ∈ c.1.pendingParts c.2, ∃ path, p.2 = .text path

lemma recounts_of_describes {entries : List Value} {ks : List ComponentKind}
    (h : List.Forall₂ Describes entries ks) : Recounts entries ks := by
  refine ⟨?_, ?_⟩
  · have hsame : List.Forall₂ (fun v a => readEntry v = .ok a) entries entries := by
      induction h with
      | nil => exact .nil
      | cons hv _ ih => exact .cons hv.readable ih
    have htyped : entries.any lacksType = false := by
      induction h with
      | nil => rfl
      | cons hv _ ih =>
        cases hsame with
        | cons _ hsame => rw [List.any_cons, hv.typed, ih hsame, Bool.false_or]
    rw [readEntries, Checked.check_eq_ok, htyped]
    exact ⟨Value.readItemsFrom_eq_ok hsame 0, rfl⟩
  · induction h with
    | nil => exact ⟨[], rfl, rfl, List.forall_mem_nil _⟩
    | @cons v kind entries ks hv _ ih =>
      obtain ⟨cs, hcs, hks, hparts⟩ := ih
      obtain ⟨c, hc, hkind, hgenuine, htexts⟩ := hv.component
      refine ⟨(c, v) :: cs, ?_, ?_, ?_⟩
      · rw [describedComponents, hc, hcs]
      · rw [List.map_cons, hkind, hks]
      · exact List.forall_mem_cons.mpr ⟨⟨hgenuine, htexts⟩, hparts⟩

lemma Recounts.bares_eq {entries : List Value} {ks : List ComponentKind} (h : Recounts entries ks)
    (hnodup : ks.Nodup) : bares entries = ks.map fun kind => (Component.new kind).bare := by
  obtain ⟨cs, hcs, rfl, hgenuine⟩ := h.components
  rw [bares, described, hcs]
  dsimp only
  rw [installed_of_nodup (fun c hc => (hgenuine c hc).1) hnodup, List.map_map, List.map_map]
  exact List.map_congr_left fun c hc => bare_of_genuine (hgenuine c hc).1

end Forest

end SceneBindings
