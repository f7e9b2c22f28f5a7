/-! Ordered mappings. Every key stands once, at the place where it was first put; putting it
again changes the value and keeps the place. -/

namespace LayeredConfig

structure Ledger (κ α : Type) where
  pairs : List (κ × α)
  nodup : (pairs.map Prod.fst).Nodup := by simp

namespace Ledger

variable {κ α β : Type}

theorem ext {l m : Ledger κ α} (h : l.pairs = m.pairs) : l = m := by
  cases l; cases m; cases h; rfl

def empty : Ledger κ α := ⟨[], by simp⟩

instance : Inhabited (Ledger κ α) := ⟨empty⟩

def keys (l : Ledger κ α) : List κ := l.pairs.map Prod.fst

def values (l : Ledger κ α) : List α := l.pairs.map Prod.snd

def size (l : Ledger κ α) : Nat := l.pairs.length

def map (f : α → β) (l : Ledger κ α) : Ledger κ β :=
  ⟨l.pairs.map fun p => (p.1, f p.2), by simpa [Function.comp_def] using l.nodup⟩

@[simp] theorem pairs_empty : (empty : Ledger κ α).pairs = [] := rfl

@[simp] theorem keys_empty : (empty : Ledger κ α).keys = [] := rfl

@[simp] theorem keys_map (f : α → β) (l : Ledger κ α) : (l.map f).keys = l.keys := by
  simp [keys, map]

variable [DecidableEq κ]

instance [DecidableEq α] : DecidableEq (Ledger κ α) := fun l m =>
  if h : l.pairs = m.pairs then isTrue (ext h) else isFalse fun e => h (e ▸ rfl)

def lookup (k : κ) : List (κ × α) → Option α
  | [] => none
  | (j, v) :: ps => if j = k then some v else lookup k ps

def place (k : κ) (v : α) : List (κ × α) → List (κ × α)
  | [] => [(k, v)]
  | (j, w) :: ps => if j = k then (k, v) :: ps else (j, w) :: place k v ps

def get? (l : Ledger κ α) (k : κ) : Option α := lookup k l.pairs

def getD (l : Ledger κ α) (k : κ) (d : α) : α := (l.get? k).getD d

def contains (l : Ledger κ α) (k : κ) : Bool := (l.get? k).isSome

theorem fst_place (k : κ) (v : α) (ps : List (κ × α)) :
    (place k v ps).map Prod.fst =
      if k ∈ ps.map Prod.fst then ps.map Prod.fst else ps.map Prod.fst ++ [k] := by
  induction ps with
  | nil => rfl
  | cons p ps ih =>
    by_cases h : p.1 = k
    · simp [place, h]
    · have h' : k ≠ p.1 := fun e => h e.symm
      simp only [place, h, if_false, List.map_cons, ih, List.mem_cons, h', false_or]
      by_cases hk : k ∈ ps.map Prod.fst <;> simp [hk]

theorem nodup_place (k : κ) (v : α) {ps : List (κ × α)} (h : (ps.map Prod.fst).Nodup) :
    ((place k v ps).map Prod.fst).Nodup := by
  rw [fst_place]
  split
  · exact h
  · rename_i hk
    refine List.nodup_append.2 ⟨h, by simp, fun a ha b hb e => hk ?_⟩
    rw [List.mem_singleton] at hb
    exact hb ▸ e ▸ ha

def put (l : Ledger κ α) (k : κ) (v : α) : Ledger κ α := ⟨place k v l.pairs, nodup_place k v l.nodup⟩

def putNew (l : Ledger κ α) (k : κ) (v : α) : Ledger κ α := if l.contains k then l else l.put k v

def erase (l : Ledger κ α) (k : κ) : Ledger κ α :=
  ⟨l.pairs.filter fun p => p.1 ≠ k,
    (List.filter_sublist.map Prod.fst).nodup l.nodup⟩

def putAll (l : Ledger κ α) (ps : List (κ × α)) : Ledger κ α := ps.foldl (fun l p => l.put p.1 p.2) l

/-- Later values win, first places stay. -/
def ofList (ps : List (κ × α)) : Ledger κ α := empty.putAll ps

def union (l m : Ledger κ α) : Ledger κ α := l.putAll m.pairs

theorem keys_put (l : Ledger κ α) (k : κ) (v : α) :
    (l.put k v).keys = if k ∈ l.keys then l.keys else l.keys ++ [k] := fst_place k v l.pairs

theorem lookup_place (k j : κ) (v : α) (ps : List (κ × α)) :
    lookup j (place k v ps) = if j = k then some v else lookup j ps := by
  induction ps with
  | nil => simp [place, lookup, eq_comm]
  | cons p ps ih =>
    by_cases hp : p.1 = k
    · by_cases hj : j = k
      · simp [place, lookup, hp, hj]
      · have : k ≠ j := fun e => hj e.symm
        simp [place, lookup, hp, hj, this]
    · by_cases hj : j = k
      · subst hj; simp [place, lookup, hp, ih]
      · simp [place, lookup, hp, ih, hj]

theorem get?_put (l : Ledger κ α) (k j : κ) (v : α) :
    (l.put k v).get? j = if j = k then some v else l.get? j := lookup_place k j v l.pairs

theorem getD_put (l : Ledger κ α) (k j : κ) (v d : α) :
    (l.put k v).getD j d = if j = k then v else l.getD j d := by
  rw [getD, get?_put]
  split <;> rfl

@[simp] theorem get?_put_self (l : Ledger κ α) (k : κ) (v : α) : (l.put k v).get? k = some v := by
  simp [get?_put]

@[simp] theorem get?_empty (k : κ) : (empty : Ledger κ α).get? k = none := rfl

theorem lookup_eq_none_iff {k : κ} {ps : List (κ × α)} :
    lookup k ps = none ↔ k ∉ ps.map Prod.fst := by
  induction ps with
  | nil => simp [lookup]
  | cons p ps ih =>
    by_cases h : p.1 = k
    · simp [lookup, h]
    · have h' : k ≠ p.1 := fun e => h e.symm
      simp [lookup, h, ih, h']

theorem get?_eq_none_iff {l : Ledger κ α} {k : κ} : l.get? k = none ↔ k ∉ l.keys :=
  lookup_eq_none_iff

theorem contains_iff {l : Ledger κ α} {k : κ} : l.contains k = true ↔ k ∈ l.keys := by
  rw [contains, Option.isSome_iff_ne_none, ne_eq, get?_eq_none_iff, Classical.not_not]

theorem lookup_map (f : α → β) (k : κ) (ps : List (κ × α)) :
    lookup k (ps.map fun p => (p.1, f p.2)) = (lookup k ps).map f := by
  induction ps with
  | nil => rfl
  | cons p ps ih => by_cases h : p.1 = k <;> simp [lookup, h, ih]

@[simp] theorem get?_map (f : α → β) (l : Ledger κ α) (k : κ) :
    (l.map f).get? k = (l.get? k).map f := lookup_map f k l.pairs

theorem contains_put (l : Ledger κ α) (k j : κ) (v : α) :
    (l.put k v).contains j = (decide (j = k) || l.contains j) := by
  rw [contains, contains, get?_put]
  by_cases h : j = k <;> simp [h]

theorem size_put (l : Ledger κ α) (k : κ) (v : α) :
    (l.put k v).size = if l.contains k then l.size else l.size + 1 := by
  have hsize (m : Ledger κ α) : m.size = m.keys.length := by simp [size, keys]
  rw [hsize, hsize, keys_put]
  by_cases h : k ∈ l.keys
  · rw [if_pos h, if_pos (contains_iff.2 h)]
  · rw [if_neg h, if_neg (mt contains_iff.1 h), List.length_append, List.length_singleton]

theorem size_le_size_put (l : Ledger κ α) (k : κ) (v : α) : l.size ≤ (l.put k v).size := by
  rw [size_put]
  split <;> omega

theorem size_erase_le (l : Ledger κ α) (k : κ) : (l.erase k).size ≤ l.size :=
  List.length_filter_le _ _

theorem lookup_erase (k j : κ) (ps : List (κ × α)) :
    lookup j (ps.filter fun p => p.1 ≠ k) = if j = k then none else lookup j ps := by
  induction ps with
  | nil => simp [lookup]
  | cons p ps ih =>
    by_cases hp : p.1 = k
    · by_cases hj : j = k
      · simpa [hp, hj] using ih
      · have : k ≠ j := fun e => hj e.symm
        simpa [hp, hj, lookup, this] using ih
    · by_cases hj : j = k
      · subst hj; simpa [hp, lookup] using ih
      · simp only [hj, if_false] at ih ⊢
        simp [hp, lookup, ← ih]

theorem get?_erase (l : Ledger κ α) (k j : κ) :
    (l.erase k).get? j = if j = k then none else l.get? j := lookup_erase k j l.pairs

theorem mem_keys_iff {l : Ledger κ α} {k : κ} : k ∈ l.keys ↔ ∃ v, l.get? k = some v := by
  rw [← contains_iff, contains, Option.isSome_iff_exists]

theorem mem_keys_of_get? {l : Ledger κ α} {k : κ} {v : α} (h : l.get? k = some v) : k ∈ l.keys :=
  mem_keys_iff.2 ⟨v, h⟩

theorem lookup_mem {k : κ} {v : α} {ps : List (κ × α)} (h : lookup k ps = some v) : (k, v) ∈ ps := by
  induction ps with
  | nil => cases h
  | cons p ps ih =>
    rw [lookup] at h
    split at h
    · rename_i hk
      cases h
      simp [← hk]
    · exact List.mem_cons_of_mem _ (ih h)

theorem lookup_of_mem {k : κ} {v : α} {ps : List (κ × α)} (h : (ps.map Prod.fst).Nodup)
    (hmem : (k, v) ∈ ps) : lookup k ps = some v := by
  induction ps with
  | nil => cases hmem
  | cons p ps ih =>
    obtain ⟨hp, hps⟩ := List.nodup_cons.1 h
    rcases List.mem_cons.1 hmem with rfl | hmem
    · simp [lookup]
    · have hne : p.1 ≠ k := fun e => hp (e ▸ List.mem_map_of_mem hmem)
      rw [lookup, if_neg hne, ih hps hmem]

theorem mem_pairs_iff {l : Ledger κ α} {k : κ} {v : α} : (k, v) ∈ l.pairs ↔ l.get? k = some v :=
  ⟨lookup_of_mem l.nodup, lookup_mem⟩

theorem get?_of_perm {l m : Ledger κ α} (h : l.pairs.Perm m.pairs) (k : κ) : l.get? k = m.get? k :=
  Option.ext fun v => by rw [← mem_pairs_iff, ← mem_pairs_iff, h.mem_iff]

theorem mem_values_of_get? {l : Ledger κ α} {k : κ} {v : α} (h : l.get? k = some v) :
    v ∈ l.values :=
  List.mem_map_of_mem (f := Prod.snd) (lookup_mem h)

theorem get?_putNew (l : Ledger κ α) (k j : κ) (v : α) :
    (l.putNew k v).get? j = (l.get? j).or (if j = k then some v else none) := by
  unfold putNew contains
  by_cases hj : j = k
  · subst hj
    cases h : l.get? j <;> simp [h]
  · cases h : l.get? k <;> simp [get?_put, hj]

theorem get?_putAll (l : Ledger κ α) {ps : List (κ × α)} (h : (ps.map Prod.fst).Nodup) (k : κ) :
    (l.putAll ps).get? k = (lookup k ps).or (l.get? k) := by
  induction ps generalizing l with
  | nil => rfl
  | cons p ps ih =>
    obtain ⟨hp, hps⟩ := List.nodup_cons.1 h
    rw [show l.putAll (p :: ps) = (l.put p.1 p.2).putAll ps from rfl, ih _ hps, get?_put, lookup]
    by_cases hk : p.1 = k
    · subst hk
      simp [lookup_eq_none_iff.2 hp]
    · have hk' : k ≠ p.1 := fun e => hk e.symm
      simp [hk, hk']

theorem get?_union (l m : Ledger κ α) (k : κ) : (l.union m).get? k = (m.get? k).or (l.get? k) :=
  get?_putAll l m.nodup k

theorem mem_keys_put {l : Ledger κ α} {k j : κ} {v : α} : j ∈ (l.put k v).keys ↔ j = k ∨ j ∈ l.keys := by
  rw [keys_put]
  split
  · rename_i hk
    exact ⟨.inr, fun h => h.elim (fun e => e ▸ hk) id⟩
  · simp [or_comm]

theorem mem_keys_putAll {l : Ledger κ α} {ps : List (κ × α)} {j : κ} :
    j ∈ (l.putAll ps).keys ↔ j ∈ l.keys ∨ j ∈ ps.map Prod.fst := by
  induction ps generalizing l with
  | nil => simp [putAll]
  | cons p ps ih =>
    rw [show l.putAll (p :: ps) = (l.put p.1 p.2).putAll ps from rfl, ih, mem_keys_put]
    simp [or_assoc, or_left_comm]

theorem place_of_not_mem {k : κ} {v : α} {ps : List (κ × α)} (h : k ∉ ps.map Prod.fst) :
    place k v ps = ps ++ [(k, v)] := by
  induction ps with
  | nil => rfl
  | cons p ps ih =>
    obtain ⟨hp, hps⟩ := List.ne_and_not_mem_of_not_mem_cons h
    rw [place, if_neg hp.symm, ih hps, List.cons_append]

theorem pairs_putAll {l : Ledger κ α} {ps : List (κ × α)}
    (h : ((l.pairs ++ ps).map Prod.fst).Nodup) : (l.putAll ps).pairs = l.pairs ++ ps := by
  induction ps generalizing l with
  | nil => rw [List.append_nil]; rfl
  | cons p ps ih =>
    have hp : p.1 ∉ l.pairs.map Prod.fst := by
      rw [List.map_append, List.map_cons, List.nodup_append] at h
      exact fun hmem => h.2.2 _ hmem _ List.mem_cons_self rfl
    have hput : (l.put p.1 p.2).pairs = l.pairs ++ [p] := place_of_not_mem hp
    rw [show l.putAll (p :: ps) = (l.put p.1 p.2).putAll ps from rfl, ih, hput,
      List.append_assoc, List.singleton_append]
    rwa [hput, List.append_assoc, List.singleton_append]

theorem ofList_pairs (l : Ledger κ α) : ofList l.pairs = l := ext (pairs_putAll l.nodup)

theorem filterMap_key (k : κ) (f : α → Option β) {ps : List (κ × α)}
    (h : (ps.map Prod.fst).Nodup) :
    (ps.filterMap fun p => if p.1 = k then f p.2 else none) = ((lookup k ps).bind f).toList := by
  induction ps with
  | nil => rfl
  | cons p ps ih =>
    obtain ⟨hp, hps⟩ := List.nodup_cons.1 h
    by_cases hk : p.1 = k
    · subst hk
      cases hf : f p.2 <;> simp [lookup, hf, ih hps, lookup_eq_none_iff.2 hp]
    · simp [lookup, hk, ih hps]

end Ledger

end LayeredConfig
