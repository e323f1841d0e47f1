import SceneBindings.Proofs.Standardizing.Order
import SceneBindings.Validation.Lax

/-!
The parts of a widget after a run over its scene. A widget is visited after all nodes below it, so it
looks for its parts among nodes that may have other names by then.
-/

namespace SceneBindings

namespace Forest

variable {f g : Forest} {c : Capability} {d k p : Key} {role : String}
  {roles : List (Key × String)}

/-! ### Parts under other names -/

/-- Under other names only a dropdown can find other parts, and only an input field other roles of
its parts. -/
lemma Renamed.parts_partRoles (h : Renamed f g) (k : Key) (c : Capability) :
    (c ≠ .dropdown → (g.partRoles k c).parts.map (·.1) = (f.partRoles k c).parts.map (·.1)) ∧
      (c ∉ [Capability.inputField, .dropdown] → (g.partRoles k c).parts = (f.partRoles k c).parts) := by
  by_cases hc : c ∈ [Capability.inputField, .dropdown]
  · refine ⟨fun hne => ?_, fun hno => absurd hc hno⟩
    simp only [List.mem_cons, List.not_mem_nil, or_false] at hc
    obtain rfl := hc.resolve_right hne
    rw [partRoles, partRoles, inputFieldParts, inputFieldParts, h.component?_eq, h.texts_eq]
    dsimp only
    split
    · rfl
    · simp only [List.map_map]
      rfl
  · rw [h.partRoles_eq hc]
    exact ⟨fun _ => rfl, fun _ => rfl⟩

/-! ### The parts of a dropdown -/

/-- The node some levels above another. -/
def climb (f : Forest) : Nat → Key → Option Key
  | 0, k => some k
  | n + 1, k => (f.node k).parent.bind (f.climb n)

lemma Reshaped.climb_eq (h : Reshaped f g) : g.climb = f.climb := by
  funext n
  induction n with
  | zero => rfl
  | succ n ih =>
    funext k
    rw [climb, climb, h.parent, ih]

lemma mem_given {o : Option Key} {x : String} :
    (p, role) ∈ given o x ↔ o = some p ∧ role = x := by
  cases o with
  | none => simp [given]
  | some d => simp [given, eq_comm]

/-- How far below a dropdown a part stands. -/
def levelOf (role : String) : Nat :=
  if role = "Content" then 3 else if role = "Scrollbar" ∨ role = "Viewport" then 2 else 1

/-- A part of a dropdown has its role as its name, and shows to which dropdown it belongs. -/
lemma of_mem_dropdownParts (hf : f.WellFormed) (h : (p, role) ∈ f.dropdownParts k) :
    (f.node p).name = role ∧ f.climb (levelOf role) p = some k := by
  have hchild : ∀ {a b : Key} {name : String}, f.child? a name = some b →
      (f.node b).name = name ∧ (f.node b).parent = some a := fun hb =>
    ⟨by simpa using List.find?_some hb, (hf.children _ _).mp (List.mem_of_find?_eq_some hb)⟩
  simp only [dropdownParts, List.mem_append, mem_given, Option.bind_eq_some_iff] at h
  rcases h with ((((⟨hp, rfl⟩ | ⟨hp, rfl⟩) | ⟨hp, rfl⟩) | ⟨⟨t, ht, hp⟩, rfl⟩) |
    ⟨⟨t, ht, hp⟩, rfl⟩) | ⟨⟨v, ⟨t, ht, hv⟩, hp⟩, rfl⟩
  · exact ⟨(hchild hp).1, by simp [levelOf, climb, (hchild hp).2]⟩
  · exact ⟨(hchild hp).1, by simp [levelOf, climb, (hchild hp).2]⟩
  · exact ⟨(hchild hp).1, by simp [levelOf, climb, (hchild hp).2]⟩
  · exact ⟨(hchild hp).1, by simp [levelOf, climb, (hchild hp).2, (hchild ht).2]⟩
  · exact ⟨(hchild hp).1, by simp [levelOf, climb, (hchild hp).2, (hchild ht).2]⟩
  · exact ⟨(hchild hp).1, by simp [levelOf, climb, (hchild hp).2, (hchild hv).2, (hchild ht).2]⟩

end Forest

namespace Renaming

open Forest Naming

variable {r : Renaming} {s : SceneId} {c e j k p : Key} {ks : List Key} {name : String}

/-! ### Where names come from -/

/-- What the name of a node comes from after some visits: it is the first name, or was given by the
node's own visit or by that of a widget. -/
inductive NamedBy (r : Renaming) (ks : List Key) (j : Key) (name : String) : Prop where
  | first (same : name = r.name j)
  | own {role : Capability} {word : String} (word? : role.typeWord? = some word)
      (ends : word.toList <:+ name.toList)
  | widget {e : Key} {f : Forest} {role : Capability} {word part : String} (visited : e ∈ ks)
      (renamed : Renamed r.forest f) (located : (j, part) ∈ (f.partRoles e role).parts)
      (known : part ∈ roleWords role) (word? : role.typeWord? = some word)
      (ends : (partEnd word part).toList <:+ name.toList)

section Visits

variable (hr : Orderly r.forest)

include hr

lemma namedBy_standardize (he : r.forest.IsNode e) (hks : e ∈ ks) (j : Key) :
    NamedBy r ks j ((r.standardize e false).1.name j) := by
  rcases name_standardize hr he j with hmem | ⟨-, hname⟩
  · rw [visitNames] at hmem
    split at hmem
    · next hvisit =>
      rw [Bool.and_eq_true, Bool.and_eq_true, Bool.not_eq_true'] at hvisit
      obtain ⟨word, hword⟩ := Option.isSome_iff_exists.mp (nameable_of_not_passesOver hvisit.1.1)
      have hone := (works_canonicalName hr he).forest
      obtain ⟨-, part, hpart, hknown, hname⟩ :=
        exists_role_of_mem_partNames (hr.renames hone) (hone.isNode_iff.mpr he) hmem
      refine .widget hks hone.toRenamed hpart hknown hword ?_
      dsimp only at hname
      rw [hname]
      exact partEnd_suffix_partName hword (fun h => roleWords_ne_empty _ (h ▸ hknown)) _
    · cases hmem
  · split at hname
    · next hself =>
      obtain ⟨word, hword⟩ := Option.isSome_iff_exists.mp (nameable_of_not_passesOver hself.2)
      refine .own hword ?_
      rw [hname, canonicalName, Name.toList_normalize hword]
      exact suffix_withType _ _
    · exact .first hname

lemma namedBy_visits (hks : ∀ e ∈ ks, r.forest.IsNode e) (j : Key) :
    NamedBy r ks j ((r.visits ks).name j) := by
  induction ks generalizing r with
  | nil => exact .first rfl
  | cons e ks ih =>
    rw [List.forall_mem_cons] at hks
    have hone := (works_standardize false hr hks.1).forest
    obtain hsame | ⟨hword, hends⟩ | ⟨hvisited, hrenamed, hlocated, hknown, hword, hends⟩ :=
      ih (hr.renames hone) fun i hi => hone.isNode_iff.mpr (hks.2 i hi)
    · have hvisit := namedBy_standardize hr hks.1 (List.mem_cons_self : e ∈ e :: ks) j
      rw [← hsame] at hvisit
      exact hvisit
    · exact .own hword hends
    · exact .widget (List.mem_cons_of_mem e hvisited) (hone.toRenamed.trans hrenamed) hlocated
        hknown hword hends

lemma namedBy_visitAll (hks : ∀ e ∈ ks, r.forest.IsNode e) (j : Key) :
    NamedBy r ks j ((r.visitAll false ks).name j) := by
  obtain ⟨before, after, rfl, hvisits, -⟩ := exists_visits r ks
  rw [hvisits]
  obtain hsame | ⟨hword, hends⟩ | ⟨hvisited, hrenamed, hlocated, hknown, hword, hends⟩ :=
    namedBy_visits hr (List.forall_mem_append.mp hks).1 j
  · exact .first hsame
  · exact .own hword hends
  · exact .widget (List.mem_append_left _ hvisited) hrenamed hlocated hknown hword hends

end Visits

/-! ### The turn of a widget -/

/-- The run over a scene when a node has just got its own name. -/
def whenNamed (r : Renaming) (s : SceneId) (k : Key) : Renaming :=
  let turn := r.visitAll false (earlier r.forest s k)
  (turn.rename k (turn.canonicalName k)).1

/-- Visits have kept the name of a node and the rules of the standardizer. -/
structure Untouched (r turn : Renaming) (k : Key) : Prop where
  orderly : Orderly turn.forest
  renamed : Renamed r.forest turn.forest
  isNode : turn.forest.IsNode k
  renamesParts : turn.namer.renamesParts = r.namer.renamesParts
  respectsExisting : turn.namer.respectsExisting = r.namer.respectsExisting
  name : turn.name k = r.name k

namespace Untouched

variable {turn : Renaming} (h : Untouched r turn k)

include h

lemma classify_eq : turn.forest.classify k = r.forest.classify k :=
  Forest.classify_eq (h.renamed.shape k) h.name

lemma canonicalName_eq : turn.canonicalName k = r.canonicalName k := by
  rw [canonicalName, canonicalName, h.classify_eq, h.name]

lemma passesOver_eq : turn.passesOver k = r.passesOver k := by
  rw [passesOver, passesOver, Standardizer.keepsName, Standardizer.keepsName, h.classify_eq,
    h.respectsExisting, ← Renaming.name, ← Renaming.name, h.name]

end Untouched

/-- The visit of a node that gets another name goes on to its parts. -/
lemma standardize_of_new (hparts : r.namer.renamesParts = true) (hover : r.passesOver k = false)
    (hnew : r.canonicalName k ≠ r.name k) : ∃ e, (r.standardize k false).1 =
      ((r.rename k (r.canonicalName k)).1.renameAll
        ((r.rename k (r.canonicalName k)).1.partNames k (r.forest.classify k))).stop e := by
  have hdone : (r.rename k (r.canonicalName k)).2 = true := by
    rw [rename, if_neg]
    rw [Bool.or_eq_true, String.isEmpty_iff, beq_iff_eq]
    exact not_or.mpr ⟨(isTidy_canonicalName hover).1, hnew.symm⟩
  obtain ⟨e, hvisit⟩ := standardize_eq r k
  rw [visitNames, hover, hdone, hparts] at hvisit
  exact ⟨e, hvisit⟩

section Turn

variable (hr : Orderly r.forest) (hf : r.forest.Housed s) (hk : k ∈ r.forest.walk s)

include hr hf hk

lemma isNode_of_mem_earlier : ∀ e ∈ earlier r.forest s k, r.forest.IsNode e := by
  obtain ⟨later, hsplit, -⟩ := bottomUp_eq hf hk
  have hnodes := isNode_of_mem_bottomUp (s := s) hr
  rw [hsplit, List.forall_mem_append] at hnodes
  exact hnodes.1

lemma untouched_visitAll : Untouched r (r.visitAll false (earlier r.forest s k)) k := by
  obtain ⟨-, -, hbefore, -⟩ := bottomUp_eq hf hk
  have hnodes := isNode_of_mem_earlier hr hf hk
  have hsteps : Steps r (r.visitAll false (earlier r.forest s k)) := steps_visitAll hr hnodes
  obtain ⟨horderly, hrenamed⟩ := orderly_of_steps hr hsteps
  have hname : (r.visitAll false (earlier r.forest s k)).name k = r.name k := by
    obtain ⟨visited, rest, hsplit, hvisits, -⟩ := exists_visits r (earlier r.forest s k)
    rw [hsplit] at hnodes hbefore
    rw [hvisits]
    exact name_visits_of_not_within hr (List.forall_mem_append.mp hnodes).1
      (List.forall_mem_append.mp hbefore).1
  exact ⟨horderly, hrenamed, hrenamed.isNode_iff.mpr (hr.wellFormed.isNode_of_mem_walk hk),
    (settings_of_steps hsteps).1, (settings_of_steps hsteps).2, hname⟩

/-- A node that gets another name has it at its turn, and nothing else has changed since the visits
before. -/
lemma whenNamed_spec (hover : r.passesOver k = false) :
    Orderly (r.whenNamed s k).forest ∧ Renamed r.forest (r.whenNamed s k).forest ∧
      ∀ j, (r.whenNamed s k).name j =
        if j = k then r.canonicalName k
        else (r.visitAll false (earlier r.forest s k)).name j := by
  have hturn := untouched_visitAll hr hf hk
  have hone := (works_canonicalName hturn.orderly hturn.isNode).forest
  refine ⟨hturn.orderly.renames hone, hturn.renamed.trans hone.toRenamed, fun j => ?_⟩
  rw [whenNamed, hturn.canonicalName_eq, name_rename hturn.isNode (isTidy_canonicalName hover).1]

/-- Below containers a widget that gets another name has the last word on the nodes at and below
it. -/
lemma name_standardizeScene_of_within (hgoes : (r.standardizeScene s false).1.fault = none)
    (hfresh : r.fault = none) (hparts : r.namer.renamesParts = true)
    (hover : r.passesOver k = false) (hnew : r.canonicalName k ≠ r.name k)
    (habove : ∀ a, r.forest.Below a k → r.forest.classify a ∈ containers)
    (hj : r.forest.Within k j) : (r.standardizeScene s false).1.name j =
      ((r.whenNamed s k).renameAll
        ((r.whenNamed s k).partNames k (r.forest.classify k))).name j := by
  obtain ⟨later, hsplit, -, hafter⟩ := bottomUp_eq hf hk
  have hturn := untouched_visitAll hr hf hk
  have hrun : (r.visitAll false (earlier r.forest s k ++ k :: later)).fault = none := by
    rw [← hsplit]
    exact hgoes
  have hturns := visitAll_eq_visits (fault_of_append hfresh hrun)
  obtain ⟨e, hvisit⟩ : ∃ e, ((r.visitAll false (earlier r.forest s k)).standardize k false).1 =
      ((r.whenNamed s k).renameAll
        ((r.whenNamed s k).partNames k (r.forest.classify k))).stop e := by
    rw [whenNamed, ← hturn.classify_eq]
    refine standardize_of_new (hturn.renamesParts.trans hparts)
      (hturn.passesOver_eq.trans hover) ?_
    rw [hturn.canonicalName_eq, hturn.name]
    exact hnew
  have hall : (r.standardizeScene s false).1 =
      ((r.visitAll false (earlier r.forest s k)).standardize k false).1.visits later := by
    have hvisits : (r.standardizeScene s false).1 = r.visits (bottomUp r.forest s) :=
      visitAll_eq_visits hgoes
    rw [hvisits, hsplit, hturns, visits, List.foldl_append, List.foldl_cons, visits, visits]
  have hone := (works_standardize false hturn.orderly hturn.isNode).forest
  have hdone := hturn.renamed.trans hone.toRenamed
  have hsame := congrFun (congrArg Renaming.name hvisit) j
  rw [stop_name] at hsame
  rw [hall, ← hsame]
  refine name_visits_of_containers (k := k) (hturn.orderly.renames hone)
    (fun e he => hdone.isNode_iff.mpr (isNode_of_mem_bottomUp (s := s) hr e ?_)) (fun e he => ?_)
    (containers_above hr.wellFormed hdone.toReshaped habove) ?_
  · rw [hsplit]
    exact List.mem_append_right _ (List.mem_cons_of_mem k he)
  · rw [hdone.within_eq]
    exact hafter e he
  · rw [hdone.within_eq]
    exact hj

/-- The nodes that the widget finds at its turn have the names of their last roles. -/
lemma name_standardizeScene_eq (hgoes : (r.standardizeScene s false).1.fault = none)
    (hfresh : r.fault = none) (hparts : r.namer.renamesParts = true) (hover : r.passesOver k = false)
    (hnew : r.canonicalName k ≠ r.name k)
    (habove : ∀ a, r.forest.Below a k → r.forest.classify a ∈ containers)
    (hj : r.forest.Within k j) : (r.standardizeScene s false).1.name j =
      ((lastFor? ((r.whenNamed s k).forest.partRoles k (r.forest.classify k)).parts j).map
        (partName (r.canonicalName k) (r.forest.classify k))).getD ((r.whenNamed s k).name j) := by
  obtain ⟨horderly, hrenamed, hname⟩ := whenNamed_spec hr hf hk hover
  have hnode := hrenamed.isNode_iff.mpr (hr.wellFormed.isNode_of_mem_walk hk)
  have hown : (r.whenNamed s k).name k = r.canonicalName k := by rw [hname, if_pos rfl]
  have hgiven : (r.whenNamed s k).partNames k (r.forest.classify k) =
      ((r.whenNamed s k).forest.partRoles k (r.forest.classify k)).parts.map fun p =>
        (p.1, partName (r.canonicalName k) (r.forest.classify k) p.2) := by
    rw [partNames, hown]
  rw [name_standardizeScene_of_within hr hf hk hgoes hfresh hparts hover hnew habove hj,
    name_renameAll_eq hnode, hgiven, lastFor?_map]
  · exact fun n hn => ⟨(exists_role_of_mem_partNames horderly hnode hn).1,
      slash_not_mem_of_mem_partNames horderly hnode hn⟩
  · intro n hn
    obtain ⟨-, role, -, hrole, hpart⟩ := exists_role_of_mem_partNames horderly hnode hn
    rw [hpart, hown]
    exact (isTidy_partName (isTidy_canonicalName hover).2 (isRole_of_mem hrole)
      (nameable_of_not_passesOver hover)).1

lemma namedBy_whenNamed (hover : r.passesOver k = false) (j : Key) :
    NamedBy r (earlier r.forest s k) j ((r.whenNamed s k).name j) := by
  rw [(whenNamed_spec hr hf hk hover).2.2 j]
  split
  · obtain ⟨word, hword⟩ := Option.isSome_iff_exists.mp (nameable_of_not_passesOver hover)
    refine .own hword ?_
    rw [canonicalName, Name.toList_normalize hword]
    exact suffix_withType _ _
  · exact namedBy_visitAll hr (isNode_of_mem_earlier hr hf hk) j

end Turn

/-! ### Parts that are lost -/

/-- No type word ends the name of a part of a dropdown. -/
lemma typeWord_apart : ∀ c ∈ Capability.all, ∀ word ∈ c.typeWord?, ∀ x ∈ roleWords .dropdown,
    ¬ word.toList <:+ (partEnd "Dropdown" x).toList ∧
      ¬ (partEnd "Dropdown" x).toList <:+ word.toList := by
  decide +kernel

lemma eq_dropdown_of_typeWord : ∀ c ∈ Capability.all, c.typeWord? = some "Dropdown" →
    c = .dropdown := by
  decide

/-- Before the turn of a dropdown nothing is named as its part: neither the first name of a part nor
its own type word ends so, and another dropdown has other parts in the same roles. -/
lemma not_partEnd_of_namedBy (hf : r.forest.WellFormed) {role : String}
    (hp : (p, role) ∈ r.forest.dropdownParts k) (hks : ∀ e ∈ ks, ¬ r.forest.Within e k)
    (h : NamedBy r ks p name) : ¬ (partEnd "Dropdown" role).toList <:+ name.toList := by
  intro hends
  obtain ⟨hname, hclimb⟩ := of_mem_dropdownParts hf hp
  have hrole := (rolesWithin_dropdownParts hf (p, role) hp).2
  cases h with
  | first same =>
    rw [same, Renaming.name, hname] at hends
    have hlen := hends.length_le
    simp [partEnd] at hlen
    omega
  | own hword hown =>
    rcases List.suffix_or_suffix_of_suffix hown hends with h | h
    · exact (typeWord_apart _ (Capability.mem_all _) _ hword role hrole).1 h
    · exact (typeWord_apart _ (Capability.mem_all _) _ hword role hrole).2 h
  | @widget e f c _ part hvisited hrenamed hlocated hknown hword hpart =>
    obtain ⟨rfl, rfl⟩ := partEnd_apart (d := .dropdown) hword rfl hknown hrole hpart hends
    obtain rfl := eq_dropdown_of_typeWord c c.mem_all hword
    have hclimb' := (of_mem_dropdownParts (hrenamed.wellFormed hf) hlocated).2
    rw [hrenamed.toReshaped.climb_eq, hclimb] at hclimb'
    obtain rfl := Option.some.inj hclimb'
    exact hks k hvisited .refl

lemma name_whenNamed_ne (hr : Orderly r.forest) (hf : r.forest.Housed s)
    (hk : k ∈ r.forest.walk s) (hover : r.passesOver k = false) {role : String}
    (hp : (p, role) ∈ r.forest.dropdownParts k) (base : String) :
    (r.whenNamed s k).name p ≠ base ++ "_" ++ partEnd "Dropdown" role := by
  intro hname
  obtain ⟨-, -, hearlier, -⟩ := bottomUp_eq hf hk
  refine not_partEnd_of_namedBy hr.wellFormed hp hearlier (namedBy_whenNamed hr hf hk hover p) ?_
  rw [hname, String.toList_append]
  exact List.suffix_append _ _

/-- A part that the widget finds before the run and not at its turn is one of a dropdown, and is not
named after its role by then. -/
lemma name_whenNamed_of_lost (hr : Orderly r.forest) (hf : r.forest.Housed s)
    (hk : k ∈ r.forest.walk s) (hover : r.passesOver k = false) {role word : String}
    (hword : (r.forest.classify k).typeWord? = some word)
    (hp : (p, role) ∈ (r.forest.partRoles k (r.forest.classify k)).parts)
    (hlost : p ∉ ((r.whenNamed s k).forest.partRoles k (r.forest.classify k)).parts.map (·.1))
    (base : String) : (r.whenNamed s k).name p ≠ base ++ "_" ++ partEnd word role := by
  have hrenamed := (whenNamed_spec hr hf hk hover).2.1
  have hdropdown : r.forest.classify k = .dropdown := by
    by_contra hother
    exact hlost ((hrenamed.parts_partRoles k _).1 hother ▸ List.mem_map_of_mem hp)
  rw [hdropdown] at hword
  cases hword
  rw [hdropdown, partRoles] at hp
  exact name_whenNamed_ne hr hf hk hover hp base

/-! ### Names after the run -/

/-- A proposed name that is a new one is the canonical name. -/
lemma canonicalName_of_proposedName {new : String}
    (h : r.namer.proposedName r.forest k false = new) (hnew : new ≠ r.name k) :
    r.passesOver k = false ∧ r.canonicalName k = new := by
  rw [proposedName_eq] at h
  split at h
  · exact absurd h.symm hnew
  · next hover => exact ⟨Bool.not_eq_true _ ▸ hover, h⟩

/-- **Parts of a widget.** A run over a loaded scene in which no visit stops gives a widget below
containers the name of its base and type word. A part in a role that the widget finds for it, before
the run or at its turn, ends with that name and the role just if the base stays when it is capitalized
again, and the role is the last one that the widget finds for it at its turn. Only a dropdown has lost
parts by then, and only an input field finds its parts in other roles. -/
theorem parts_of_widget_iff [Validator] {v : Value} {events : List Event}
    (hload : Forest.empty.loadScene v = ⟨r.forest, events, .ok s⟩) (hfresh : r.fault = none)
    (hgoes : ∀ d ∈ r.forest.walk s, ¬ r.Stuck d false)
    (hparts : r.namer.renamesParts = true) (hk : k ∈ r.forest.walk s)
    (hwidget : r.forest.classify k ∈ widgets)
    (habove : ∀ a, r.forest.Below a k → r.forest.classify a ∈ containers) {base word : String}
    (hword : (r.forest.classify k).typeWord? = some word)
    (hproposed : r.namer.proposedName r.forest k false = base ++ "_" ++ word)
    (hnew : base ++ "_" ++ word ≠ r.name k) :
    let before := (r.forest.partRoles k (r.forest.classify k)).parts
    let now := ((r.whenNamed s k).forest.partRoles k (r.forest.classify k)).parts
    (r.standardizeScene s false).1.fault = none ∧
      (r.whenNamed s k).name k = base ++ "_" ++ word ∧
      (r.forest.classify k ≠ .dropdown → now.map (·.1) = before.map (·.1)) ∧
      (r.forest.classify k ∉ [Capability.inputField, .dropdown] → now = before) ∧
      ∀ p role, (p, role) ∈ before ++ now →
        ((r.standardizeScene s false).1.name p = base ++ "_" ++ word ++ "_" ++ role ↔
          (Name.pascal base = base ∧ Name.lower base ≠ Name.lower word) ∧
            lastFor? now p = some role) := by
  obtain ⟨hscene, -, hr, ts, hplanted⟩ := orderly_of_loadScene hload
  have hf : r.forest.Housed s := hscene ▸ hplanted.housed
  obtain ⟨hover, hcanonical⟩ := canonicalName_of_proposedName hproposed hnew
  have hbase : base ≠ "" := Name.base_ne_empty hword hcanonical
  have hreturns := (fault_standardizeScene_iff hr hf hfresh).mpr hgoes
  obtain ⟨horderly, hrenamed, hnames⟩ := whenNamed_spec hr hf hk hover
  have hnode := hr.wellFormed.isNode_of_mem_walk hk
  obtain ⟨hkeys, hsame⟩ := hrenamed.parts_partRoles k (r.forest.classify k)
  have hrolesBefore := rolesWithin_partRoles hr.parts hr.wellFormed hnode (r.forest.classify k)
  have hrolesNow := rolesWithin_partRoles horderly.parts horderly.wellFormed
    (hrenamed.isNode_iff.mpr hnode) (r.forest.classify k)
  rw [RolesWithin, hrenamed.within_eq] at hrolesNow
  intro before now
  refine ⟨hreturns, by rw [hnames, if_pos rfl, hcanonical], hkeys, hsame, fun p role hp => ?_⟩
  obtain ⟨hpk, hrole⟩ := List.forall_mem_append.mpr ⟨hrolesBefore, hrolesNow⟩ _ hp
  have hlast := name_standardizeScene_eq hr hf hk hreturns hfresh hparts hover (hcanonical ▸ hnew)
    habove hpk
  have hend : base ++ "_" ++ word ++ "_" ++ role = base ++ "_" ++ partEnd word role := by
    simp only [partEnd, String.append_assoc]
  rw [hlast, hcanonical, hend]
  cases hfound : lastFor? now p with
  | some y =>
    have hy := (hrolesNow _ (mem_of_lastFor? hfound)).2
    rw [Option.map_some, Option.getD_some, Option.some_inj]
    exact partName_append_iff hwidget hword hbase hrole hy
  | none =>
    rw [Option.map_none, Option.getD_none]
    refine iff_of_false (fun hname => ?_) (by rintro ⟨-, ⟨⟩⟩)
    have hlost : p ∉ now.map (·.1) := lastFor?_eq_none.mp hfound
    have hmem : (p, role) ∈ before := (List.mem_append.mp hp).resolve_right fun h =>
      hlost (List.mem_map_of_mem h)
    exact name_whenNamed_of_lost hr hf hk hover hword hmem hlost base hname

/-- A dropdown on a panel, and what its label is made of. -/
def qualityScene (label : List Value) : Value :=
  .object [("scene", .text "S"), ("roots", .list [.object [("name", .text "menu"),
    ("components", .list [.text "Image"]),
    ("children", .list [.object [("name", .text "quality"),
      ("components", .list [.text "Dropdown"]),
      ("children", .list [.object [("name", .text "Label"),
        ("components", .list label)]])]])]])]

def loadedQuality (label : List Value) : Renaming :=
  ⟨(Forest.empty.loadScene (qualityScene label)).forest, .new true true, [], none⟩

/-- A label that has no component is found. -/
theorem parts_of_widget_plain :
    Forest.empty.loadScene (qualityScene []) = ⟨(loadedQuality []).forest, [], .ok 0⟩ ∧
      (loadedQuality []).forest.partRoles 2 .dropdown = ⟨[(3, "Label")], none⟩ ∧
        ((loadedQuality []).standardizeScene 0 false).1.name 3 = "Quality_Dropdown_Label" := by
  have hload : Forest.empty.loadScene (qualityScene []) =
      ⟨(loadedQuality []).forest, [], .ok 0⟩ := rfl
  have habove : ∀ a, (loadedQuality []).forest.Below a 2 →
      (loadedQuality []).forest.classify a ∈ containers := by
    intro a ha
    obtain ⟨p, hap, hchild⟩ := Relation.TransGen.tail'_iff.mp ha
    obtain rfl : p = 1 := Option.some.inj hchild.symm
    obtain rfl : 1 = a := eq_of_within_root rfl hap
    decide +kernel
  have hproposed : (loadedQuality []).namer.proposedName (loadedQuality []).forest 2 false =
      "Quality" ++ "_" ++ "Dropdown" := by
    decide +kernel
  obtain ⟨-, -, -, -, hnames⟩ := parts_of_widget_iff hload rfl (by decide +kernel) rfl
    (by decide +kernel) (by decide +kernel) habove (by decide +kernel) hproposed (by decide +kernel)
  exact ⟨hload, rfl, (hnames 3 "Label" (by decide +kernel)).mpr (by decide +kernel)⟩

/-- A label that is a text is named after its own type first, and then it is not found. -/
theorem parts_of_widget_text :
    Forest.empty.loadScene (qualityScene [.text "Text"]) =
        ⟨(loadedQuality [.text "Text"]).forest, [], .ok 0⟩ ∧
      ((loadedQuality [.text "Text"]).forest.classify 1 = .panel ∧
        (loadedQuality [.text "Text"]).forest.classify 2 = .dropdown) ∧
      (loadedQuality [.text "Text"]).forest.partRoles 2 .dropdown = ⟨[(3, "Label")], none⟩ ∧
        let last := ((loadedQuality [.text "Text"]).standardizeScene 0 false).1
        last.fault = none ∧ last.name 2 = "Quality_Dropdown" ∧ last.name 3 = "Text" :=
  ⟨rfl, by decide +kernel, rfl, by decide +kernel⟩

end Renaming

end SceneBindings
