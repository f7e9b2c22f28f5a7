import LayeredConfig.Failure
import LayeredConfig.Ledger

/-! A configuration value with its key, the source it came from and the meta-entries in effect.
No entry has an empty key. -/

namespace LayeredConfig

structure Entry where
  key : String
  value : Option String
  source : String
  metadata : Ledger String String
  key_ne : key ≠ ""
  deriving DecidableEq

namespace Entry

def make (key : String) (value : Option String) (source : String)
    (metadata : Ledger String String) : Except Failure Entry :=
  if h : key ≠ "" then .ok ⟨key, value, source, metadata, h⟩ else .error .emptyKey

def withValue (e : Entry) (value : Option String) : Entry := { e with value }

def withKey (e : Entry) (key : String) : Except Failure Entry :=
  make key e.value e.source e.metadata

def withMetadata (e : Entry) (metadata : Ledger String String) : Entry :=
  { e with metadata := e.metadata.union metadata }

theorem make_eq_ok_iff {key : String} {value : Option String} {source : String}
    {metadata : Ledger String String} {e : Entry} :
    make key value source metadata = .ok e ↔
      e.key = key ∧ e.value = value ∧ e.source = source ∧ e.metadata = metadata := by
  unfold make
  split
  · constructor
    · intro h; cases h; simp
    · rintro ⟨rfl, rfl, rfl, rfl⟩; rfl
  · rename_i h
    constructor
    · intro h'; cases h'
    · rintro ⟨rfl, _⟩; exact absurd e.key_ne h

structure Same (a b : Entry) : Prop where
  key : a.key = b.key
  value : a.value = b.value
  source : a.source = b.source
  metadata : ∀ name, a.metadata.get? name = b.metadata.get? name

theorem Same.symm {a b : Entry} (h : a.Same b) : b.Same a :=
  ⟨h.key.symm, h.value.symm, h.source.symm, fun name => (h.metadata name).symm⟩

theorem rel_same_symm {a b : Option Entry} (h : Option.Rel Same a b) : Option.Rel Same b a := by
  cases h with
  | none => exact .none
  | some h => exact .some h.symm

@[simp] theorem key_withValue (e : Entry) (v : Option String) : (e.withValue v).key = e.key := rfl

def add (source : String) (metadata : Ledger String String) (entries : Ledger String Entry)
    (p : String × Option String) : Except Failure (Ledger String Entry) := do
  return entries.put p.1 (← make p.1 p.2 source metadata)

def all (source : String) (metadata : Ledger String String) (values : Ledger String (Option String)) :
    Except Failure (Ledger String Entry) :=
  values.pairs.foldlM (add source metadata) .empty

theorem ne_empty_of_make {key : String} {value : Option String} {source : String}
    {metadata : Ledger String String} {e : Entry} (h : make key value source metadata = .ok e) :
    key ≠ "" :=
  (make_eq_ok_iff.1 h).1 ▸ e.key_ne

theorem make_of_ne {key : String} (h : key ≠ "") (value : Option String) (source : String)
    (metadata : Ledger String String) :
    make key value source metadata = .ok ⟨key, value, source, metadata, h⟩ := dif_pos h

theorem all_ok (source : String) (metadata : Ledger String String)
    {values : Ledger String (Option String)} (h : "" ∉ values.keys) :
    ∃ entries, all source metadata values = .ok entries := by
  change "" ∉ values.pairs.map Prod.fst at h
  unfold all
  generalize values.pairs = ps at h ⊢
  generalize Ledger.empty = start
  induction ps generalizing start with
  | nil => exact ⟨start, rfl⟩
  | cons p ps ih =>
    rw [List.map_cons, List.mem_cons, not_or] at h
    rw [List.foldlM_cons, add, make_of_ne (Ne.symm h.1)]
    exact ih h.2 _

theorem all_of_mem (source : String) (metadata : Ledger String String)
    {values : Ledger String (Option String)} (h : "" ∈ values.keys) :
    all source metadata values = .error .emptyKey := by
  change "" ∈ values.pairs.map Prod.fst at h
  unfold all
  generalize values.pairs = ps at h ⊢
  generalize Ledger.empty = start
  induction ps generalizing start with
  | nil => cases h
  | cons p ps ih =>
    rw [List.foldlM_cons, add]
    by_cases hp : p.1 = ""
    · rw [make, dif_neg (by simp [hp])]
      rfl
    · rw [make_of_ne hp]
      rw [List.map_cons, List.mem_cons] at h
      exact ih (h.resolve_left (Ne.symm hp)) _

theorem all_eq_error_iff {source : String} {metadata : Ledger String String}
    {values : Ledger String (Option String)} {failure : Failure} :
    all source metadata values = .error failure ↔ failure = .emptyKey ∧ "" ∈ values.keys := by
  by_cases hkey : "" ∈ values.keys
  · rw [all_of_mem source metadata hkey, Except.error.injEq]
    exact ⟨fun h => ⟨h.symm, hkey⟩, fun h => h.1.symm⟩
  · obtain ⟨entries, hentries⟩ := all_ok source metadata hkey
    rw [hentries]
    exact ⟨fun h => (nomatch h), fun h => absurd h.2 hkey⟩

theorem map_value_of_all {source : String} {metadata : Ledger String String}
    {values : Ledger String (Option String)} {entries : Ledger String Entry}
    (h : all source metadata values = .ok entries) : entries.map (·.value) = values := by
  -- From any start on, the pairs taken in so far stand before what is still to come.
  suffices hfold : ∀ (ps : List (String × Option String)) (start : Ledger String Entry),
      (start.keys ++ ps.map Prod.fst).Nodup → ps.foldlM (add source metadata) start = .ok entries →
      (entries.map (·.value)).pairs = (start.map (·.value)).pairs ++ ps by
    exact Ledger.ext (hfold values.pairs .empty values.nodup h)
  intro ps
  induction ps with
  | nil =>
    intro start _ hps
    cases hps
    rw [List.append_nil]
  | cons p ps ih =>
    intro start hnodup hps
    rw [List.foldlM_cons, add] at hps
    cases hmake : make p.1 p.2 source metadata with
    | error failure => rw [hmake] at hps; cases hps
    | ok e =>
      rw [hmake] at hps
      have hnew : p.1 ∉ start.keys := by
        rw [List.map_cons, List.nodup_append] at hnodup
        exact fun hmem => hnodup.2.2 _ hmem _ List.mem_cons_self rfl
      have hput : (start.put p.1 e).pairs = start.pairs ++ [(p.1, e)] :=
        Ledger.place_of_not_mem hnew
      have hkeys : (start.put p.1 e).keys = start.keys ++ [p.1] := by
        rw [Ledger.keys_put, if_neg hnew]
      rw [ih (start.put p.1 e) (by rwa [hkeys, List.append_assoc]) hps]
      simp [Ledger.map, hput, (make_eq_ok_iff.1 hmake).2.1]

theorem value_of_all {source : String} {metadata : Ledger String String}
    {values : Ledger String (Option String)} {entries : Ledger String Entry}
    (h : all source metadata values = .ok entries) (key : String) :
    (entries.get? key).map (·.value) = values.get? key := by
  rw [← Ledger.get?_map, map_value_of_all h]

theorem make_of_all {source : String} {metadata : Ledger String String}
    {values : Ledger String (Option String)} {entries : Ledger String Entry}
    (h : all source metadata values = .ok entries) {key : String} {e : Entry}
    (he : entries.get? key = some e) : make key e.value source metadata = .ok e := by
  have hstart : ∀ e, (Ledger.empty : Ledger String Entry).get? key = some e →
      make key e.value source metadata = .ok e := fun _ he => by cases he
  unfold all at h
  -- What is put in from here on joins entries that are made for their keys, not only the empty
  -- ledger.
  generalize values.pairs = ps at h
  generalize Ledger.empty = start at h hstart
  induction ps generalizing start with
  | nil =>
    cases h
    exact hstart e he
  | cons p ps ih =>
    rw [List.foldlM_cons, add] at h
    cases hmake : make p.1 p.2 source metadata with
    | error failure => rw [hmake] at h; cases h
    | ok made =>
      rw [hmake] at h
      refine ih (start.put p.1 made) h fun e he => ?_
      rw [Ledger.get?_put] at he
      split at he
      · rename_i hkey
        cases he
        rw [hkey, (make_eq_ok_iff.1 hmake).2.1, hmake]
      · exact hstart e he

theorem empty_not_mem_keys_of_all {source : String} {metadata : Ledger String String}
    {values : Ledger String (Option String)} {entries : Ledger String Entry}
    (h : all source metadata values = .ok entries) : "" ∉ entries.keys := by
  have hstart : "" ∉ (Ledger.empty : Ledger String Entry).keys := by simp
  unfold all at h
  generalize values.pairs = ps at h
  generalize Ledger.empty = start at h hstart
  induction ps generalizing start with
  | nil => cases h; exact hstart
  | cons p ps ih =>
    rw [List.foldlM_cons, add] at h
    cases hp : make p.1 p.2 source metadata with
    | error failure => rw [hp] at h; cases h
    | ok e =>
      rw [hp] at h
      refine ih (start.put p.1 e) h ?_
      rw [Ledger.mem_keys_put, not_or]
      exact ⟨(ne_empty_of_make hp).symm, hstart⟩

end Entry

end LayeredConfig
