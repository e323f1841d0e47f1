/-!
Finite maps that remember the order in which their keys came. Putting a value under a known key
keeps the key's place.
-/

namespace SceneBindings

structure Table (α β : Type) where
  entries : List (α × β)
  deriving DecidableEq, Repr

namespace Table

variable {α β : Type} [DecidableEq α]

def empty : Table α β := ⟨[]⟩

instance : Inhabited (Table α β) := ⟨empty⟩

def lookup (k : α) : List (α × β) → Option β
  | [] => none
  | e :: es => if e.1 = k then some e.2 else lookup k es

def insert (k : α) (v : β) : List (α × β) → List (α × β)
  | [] => [(k, v)]
  | e :: es => if e.1 = k then (k, v) :: es else e :: insert k v es

def get? (t : Table α β) (k : α) : Option β := lookup k t.entries

def contains (t : Table α β) (k : α) : Bool := (t.get? k).isSome

def put (t : Table α β) (k : α) (v : β) : Table α β := ⟨insert k v t.entries⟩

/-- What a list of pairs makes; of several with one key the last counts. -/
def ofList (es : List (α × β)) : Table α β := es.foldl (fun t e => t.put e.1 e.2) empty

def erase (t : Table α β) (k : α) : Table α β := ⟨t.entries.filter fun e => e.1 ≠ k⟩

def keys (t : Table α β) : List α := t.entries.map (·.1)

def values (t : Table α β) : List β := t.entries.map (·.2)

def size (t : Table α β) : Nat := t.entries.length

theorem lookup_insert (k j : α) (v : β) (es : List (α × β)) :
    lookup j (insert k v es) = if k = j then some v else lookup j es := by
  induction es with
  | nil => simp [insert, lookup]
  | cons e es ih => grind [insert, lookup]

theorem lookup_filter_ne (k j : α) (es : List (α × β)) :
    lookup j (es.filter fun e => e.1 ≠ k) = if k = j then none else lookup j es := by
  induction es with
  | nil => simp [lookup]
  | cons e es ih => grind [lookup]

theorem lookup_isSome (k : α) (es : List (α × β)) :
    (lookup k es).isSome = true ↔ k ∈ es.map (·.1) := by
  induction es with
  | nil => simp [lookup]
  | cons e es ih => grind [lookup]

theorem keys_insert (k : α) (v : β) (es : List (α × β)) : (insert k v es).map (·.1) =
    if k ∈ es.map (·.1) then es.map (·.1) else es.map (·.1) ++ [k] := by
  induction es with
  | nil => simp [insert]
  | cons e es ih => grind [insert]

theorem mem_of_mem_insert {k : α} {v : β} {e : α × β} {es : List (α × β)}
    (h : e ∈ insert k v es) : e = (k, v) ∨ e ∈ es := by
  induction es with
  | nil => simpa [insert] using h
  | cons d es ih => grind [insert]

@[simp, grind =]
theorem get?_empty (k : α) : (empty : Table α β).get? k = none := rfl

@[grind =]
theorem get?_put (t : Table α β) (k j : α) (v : β) :
    (t.put k v).get? j = if k = j then some v else t.get? j :=
  lookup_insert k j v t.entries

@[grind =]
theorem get?_erase (t : Table α β) (k j : α) :
    (t.erase k).get? j = if k = j then none else t.get? j :=
  lookup_filter_ne k j t.entries

theorem mem_keys (t : Table α β) (k : α) : k ∈ t.keys ↔ (t.get? k).isSome = true :=
  (lookup_isSome k t.entries).symm

theorem mem_keys_put (t : Table α β) (k j : α) (v : β) :
    j ∈ (t.put k v).keys ↔ j = k ∨ j ∈ t.keys := by
  grind [mem_keys]

theorem nodup_keys_put {t : Table α β} (h : t.keys.Nodup) (k : α) (v : β) :
    (t.put k v).keys.Nodup := by
  have hkeys := keys_insert k v t.entries
  rw [keys, put, hkeys]
  split
  · exact h
  · next hk => exact List.nodup_append.mpr ⟨h, by simp, by grind⟩

theorem nodup_keys_erase {t : Table α β} (h : t.keys.Nodup) (k : α) : (t.erase k).keys.Nodup :=
  List.Nodup.sublist (List.Sublist.map _ List.filter_sublist) h

end Table

end SceneBindings
