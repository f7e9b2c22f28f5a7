import LayeredConfig.Merge
import LayeredConfig.Proofs.Ranking
import LayeredConfig.Proofs.Settling
import Mathlib.Tactic.Common

/-! Sources that keep their answers, and what a merge reads from them. Both ways of merging see,
under every key they want, exactly what each source holds. -/

namespace LayeredConfig

variable {σ : Type}

structure Source.Ascending (sources ordered : List (Source σ)) : Prop where
  perm : ordered.Perm sources
  sorted : ordered.Pairwise fun a b => a.ordinal ≤ b.ordinal
  ties : ∀ ordinal, ordered.filter (·.ordinal = ordinal) = sources.filter (·.ordinal = ordinal)

lemma Source.ascending_inOrder (sources : List (Source σ)) :
    Source.Ascending sources (Source.inOrder sources) where
  perm := Ranking.sort_perm sources
  sorted := Ranking.sort_sorted sources
  ties := Ranking.sort_agree sources

/-- What sources hold as long as the circumstance lasts. A scannable source answers for each key
as it enumerates it. -/
structure Steady (P : Circumstance σ) (sources : List (Source σ)) where
  held : Source σ → String → Option Entry
  listed : Source σ → Ledger String Entry
  get : ∀ s ∈ sources, ∀ key, Yields P.world (s.get key) (.ok (held s key))
  properties : ∀ s ∈ sources, s.scannable = true → Yields P.world s.properties (.ok (listed s))
  held_eq : ∀ s ∈ sources, s.scannable = true → ∀ key, held s key = (listed s).get? key

def Steady.ofTables (P : Circumstance σ) {sources : List (Source σ)}
    (table : Source σ → Ledger String Entry)
    (hget : ∀ s ∈ sources, ∀ key, s.get key = pure ((table s).get? key))
    (hproperties : ∀ s ∈ sources, s.scannable = true → s.properties = pure (table s)) :
    Steady P sources where
  held s := (table s).get?
  listed := table
  get s hs key := by
    rw [hget s hs]
    exact Yields.pure _
  properties s hs hscan := by
    rw [hproperties s hs hscan]
    exact Yields.pure _
  held_eq _ _ _ _ := rfl

namespace Merge

def gather (held : String → Option Entry) (found : Ledger String Entry) (key : String) :
    Ledger String Entry :=
  match held key with
  | some entry => found.put key entry
  | none => found

def gathered (held : String → Option Entry) (wanted : List String) : Ledger String Entry :=
  wanted.foldl (gather held) .empty

lemma get?_foldl_gather (held : String → Option Entry) (wanted : List String)
    (found : Ledger String Entry) (key : String) :
    (wanted.foldl (gather held) found).get? key =
      if key ∈ wanted then (held key).or (found.get? key) else found.get? key := by
  induction wanted generalizing found with
  | nil => rfl
  | cons k wanted ih =>
    rw [List.foldl_cons, ih]
    rw [gather]
    by_cases hk : key = k
    · subst hk
      cases held key <;> simp
    · cases held k <;> simp [Ledger.get?_put, hk]

lemma get?_gathered (held : String → Option Entry) (wanted : List String) (key : String) :
    (gathered held wanted).get? key = if key ∈ wanted then held key else none := by
  simp [gathered, get?_foldl_gather]

lemma mem_found {scanned : List (Source σ × Option (Ledger String Entry))} {key : String} :
    key ∈ found scanned ↔ ∃ p ∈ scanned, ∃ entries ∈ p.2, key ∈ entries.keys := by
  have h : ∀ keys : Ledger String Unit,
      key ∈ (scanned.foldl
        (fun keys p => keys.putAll (((p.2.map Ledger.keys).getD []).map (·, ()))) keys).keys ↔
        key ∈ keys.keys ∨ ∃ p ∈ scanned, ∃ entries ∈ p.2, key ∈ entries.keys := by
    induction scanned with
    | nil => simp
    | cons p scanned ih =>
      intro keys
      obtain ⟨s, entries⟩ := p
      rw [List.foldl_cons, ih, Ledger.mem_keys_putAll]
      cases entries <;> simp [Function.comp_def, or_assoc]
  rw [found, h]
  simp

lemma fetchKeys_yields {P : Circumstance σ} {s : Source σ} {held : String → Option Entry}
    (h : ∀ key, Yields P.world (s.get key) (.ok (held key))) (wanted : List String) :
    Yields P.world (fetchKeys s wanted) (.ok (gathered held wanted)) := by
  refine Yields.foldlM_ok (g := gather held) (fun found key _ => (h key).bind_ok ?_) Ledger.empty
  rw [gather]
  cases held key <;> exact Yields.pure _

end Merge

namespace Steady

open Merge

variable {P : Circumstance σ} {sources : List (Source σ)} (v : Steady P sources)

def Lists (key : String) : Prop := ∃ s ∈ sources, s.scannable = true ∧ key ∈ (v.listed s).keys

def values (ordered : List (Source σ)) (key : String) : List String :=
  ordered.filterMap fun s => (v.held s key).bind (·.value)

def asked (wanted : List String) (s : Source σ) : Snapshot :=
  ⟨s.name, s.ordinal, gathered (v.held s) wanted⟩

def fetched (wanted : List String) (s : Source σ) : Snapshot :=
  ⟨s.name, s.ordinal, if s.scannable then v.listed s else gathered (v.held s) wanted⟩

def scanned (s : Source σ) : Source σ × Option (Ledger String Entry) :=
  (s, if s.scannable then some (v.listed s) else none)

def keys : List String := found ((Source.inOrder sources).map v.scanned)

lemma mem_inOrder {s : Source σ} : s ∈ Source.inOrder sources ↔ s ∈ sources :=
  (Source.ascending_inOrder sources).perm.mem_iff

lemma ask_yields (wanted : List String) :
    Yields P.world (ask wanted (Source.inOrder sources))
      (.ok ((Source.inOrder sources).map (v.asked wanted))) := by
  refine Yields.mapM fun s hs => ?_
  exact (fetchKeys_yields (v.get s (mem_inOrder.1 hs)) wanted).bind_ok (Yields.pure _)

lemma scan_yields :
    Yields P.world (scan (Source.inOrder sources))
      (.ok ((Source.inOrder sources).map v.scanned)) := by
  refine Yields.mapM fun s hs => ?_
  by_cases hscan : s.scannable = true
  · simp only [hscan, if_true, scanned]
    exact (v.properties s (mem_inOrder.1 hs) hscan).bind_ok
      (Yields.report_call _ _ _ _ _ (Yields.pure _))
  · simp only [hscan, scanned]
    exact Yields.pure _

lemma supply_yields (wanted : List String) {s : Source σ} (hs : s ∈ sources) :
    Yields P.world (supply wanted (v.scanned s)) (.ok (v.fetched wanted s)) := by
  rw [supply]
  by_cases hscan : s.scannable = true
  · simp only [scanned, fetched, hscan, if_true]
    exact Yields.pure _
  · simp only [scanned, fetched, hscan]
    exact (fetchKeys_yields (v.get s hs) wanted).bind_ok
      (Yields.report_call _ _ _ _ _ (Yields.pure _))

lemma query_yields (wanted : List String) :
    Yields P.world (query wanted ((Source.inOrder sources).map v.scanned))
      (.ok ((Source.inOrder sources).map (v.fetched wanted))) := by
  rw [query]
  rw [List.mapM_map]
  exact Yields.mapM fun s hs => v.supply_yields wanted (mem_inOrder.1 hs)

lemma fetch_yields (m : MetaKeys) :
    Yields P.world (fetch m (Source.inOrder sources))
      (.ok ((Source.inOrder sources).map (v.fetched (lookups m v.keys)), v.keys)) :=
  v.scan_yields.bind_ok ((v.query_yields (lookups m v.keys)).bind_ok (Yields.pure _))

lemma mem_keys {key : String} : key ∈ v.keys ↔ v.Lists key := by
  rw [keys, mem_found]
  constructor
  · rintro ⟨_, hp, entries, hentries, hkey⟩
    obtain ⟨s, hs, rfl⟩ := List.mem_map.1 hp
    rw [scanned, Option.mem_ite_none_right, Option.mem_some_iff] at hentries
    obtain ⟨hscan, rfl⟩ := hentries
    exact ⟨s, mem_inOrder.1 hs, hscan, hkey⟩
  · rintro ⟨s, hs, hscan, hkey⟩
    refine ⟨v.scanned s, List.mem_map_of_mem (mem_inOrder.2 hs), v.listed s, ?_, hkey⟩
    rw [scanned, if_pos hscan]
    rfl

structure Reads (wanted : List String) (f : Source σ → Snapshot) : Prop where
  name : ∀ s ∈ sources, (f s).name = s.name
  entries : ∀ s ∈ sources, ∀ key ∈ wanted, (f s).entries.get? key = v.held s key

lemma reads_asked (wanted : List String) : v.Reads wanted (v.asked wanted) where
  name _ _ := rfl
  entries s _ key hkey := by simp [asked, get?_gathered, hkey]

lemma reads_fetched (wanted : List String) : v.Reads wanted (v.fetched wanted) where
  name _ _ := rfl
  entries s hs key hkey := by
    by_cases hscan : s.scannable = true
    · simp [fetched, hscan, v.held_eq s hs hscan]
    · simp [fetched, hscan, get?_gathered, hkey]

end Steady

end LayeredConfig
