import LayeredConfig.Proofs.Attribution
import LayeredConfig.Proofs.Steadiness
import Mathlib.Data.List.Basic

/-! The meta-entries in effect for a key. Both ways of merging ask every source for both spellings
of every name of the key, so they find the same values in effect. -/

namespace LayeredConfig

variable {σ : Type}

namespace Merge

def values (snapshots : List Snapshot) (key : String) : List String :=
  snapshots.filterMap fun s => (s.entries.get? key).bind (·.value)

def metaValue (m : MetaKeys) (key : String) (brought : Option String) : Option (Option String) :=
  if m.isMeta key then brought.map some else none

lemma get?_foldl_keepMeta (m : MetaKeys) (found : Ledger String (Option String))
    {entries : List (String × Entry)} (h : (entries.map Prod.fst).Nodup) (key : String) :
    (entries.foldl (keepMeta m) found).get? key =
      (metaValue m key ((Ledger.lookup key entries).bind (·.value))).or (found.get? key) := by
  induction entries generalizing found with
  | nil => simp [Ledger.lookup, metaValue]
  | cons p entries ih =>
    obtain ⟨hp, hentries⟩ := List.nodup_cons.1 h
    rw [List.foldl_cons, ih _ hentries, Ledger.lookup, keepMeta]
    by_cases hk : p.1 = key
    · subst hk
      rw [Ledger.lookup_eq_none_iff.2 hp]
      cases hm : m.isMeta p.1 <;> cases hv : p.2.value <;> simp [metaValue, hm, hv]
    · have hk' : key ≠ p.1 := fun e => hk e.symm
      rw [if_neg hk]
      split <;> simp [Ledger.get?_put, hk']

lemma get?_foldl_snapshots (m : MetaKeys) (snapshots : List Snapshot)
    (found : Ledger String (Option String)) (key : String) :
    (snapshots.foldl (fun found s => s.entries.pairs.foldl (keepMeta m) found) found).get? key =
      (metaValue m key (values snapshots key).getLast?).or (found.get? key) := by
  induction snapshots generalizing found with
  | nil => simp [values, metaValue]
  | cons s snapshots ih =>
    rw [List.foldl_cons, ih, get?_foldl_keepMeta m found s.entries.nodup, ← Option.or_assoc]
    congr 1
    simp only [values]
    rw [List.filterMap_cons, show Ledger.lookup key s.entries.pairs = s.entries.get? key from rfl]
    cases (s.entries.get? key).bind (·.value) with
    | none => simp [metaValue]
    | some value =>
      rw [List.getLast?_cons]
      cases hm : m.isMeta key <;>
        cases (snapshots.filterMap fun s => (s.entries.get? key).bind (·.value)).getLast? <;>
          simp [metaValue, hm]

lemma get?_metaValues (m : MetaKeys) (snapshots : List Snapshot) (key : String) :
    (metaValues m snapshots).get? key = metaValue m key (values snapshots key).getLast? := by
  rw [metaValues, get?_foldl_snapshots, Ledger.get?_empty, Option.or_none]

lemma get?_metadata (m : MetaKeys) (snapshots : List Snapshot) (key name : String) :
    ((metadata m snapshots).at key).get? name =
      m.inEffect (fun entry => (values snapshots entry).getLast?) key name := by
  have hspelled (reserved : Bool) :
      m.spelled (fun entry => ((metaValues m snapshots).get? entry).join) reserved key name =
        m.spelled (fun entry => (values snapshots entry).getLast?) reserved key name := by
    unfold MetaKeys.spelled
    simp only
    split
    · rename_i ha
      have hmeta : m.isMeta (m.spelling reserved key name) = true := by
        simp [MetaKeys.isMeta, ha.2]
      rw [get?_metaValues, metaValue, if_pos hmeta]
      cases (values snapshots (m.spelling reserved key name)).getLast? <;> rfl
    · rfl
  rw [metadata, MetaKeys.get?_collect, MetaKeys.inEffect, MetaKeys.inEffect, hspelled, hspelled]

lemma spelling_mem_candidates {m : MetaKeys} {name : String} (h : name ∈ m.names)
    (reserved : Bool) (key : String) : m.spelling reserved key name ∈ candidates m key := by
  refine List.mem_flatMap.2 ⟨name, h, ?_⟩
  cases reserved <;> simp [MetaKeys.spelling]

end Merge

namespace Steady

open Merge

variable {P : Circumstance σ} {sources : List (Source σ)} (v : Steady P sources)

def last (key : String) : Option String := (v.values (Source.inOrder sources) key).getLast?

lemma Reads.values {wanted : List String} {f : Source σ → Snapshot} (h : v.Reads wanted f)
    {key : String} (hkey : key ∈ wanted) :
    Merge.values ((Source.inOrder sources).map f) key = v.values (Source.inOrder sources) key := by
  rw [Merge.values, List.filterMap_map]
  refine List.filterMap_congr fun s hs => ?_
  simp [h.entries s (mem_inOrder.1 hs) key hkey]

lemma Reads.metadata {wanted : List String} {f : Source σ → Snapshot} (h : v.Reads wanted f)
    (m : MetaKeys) {key : String} (hkey : ∀ entry ∈ candidates m key, entry ∈ wanted)
    (name : String) :
    ((Merge.metadata m ((Source.inOrder sources).map f)).at key).get? name =
      m.inEffect v.last key name := by
  rw [get?_metadata]
  by_cases hname : name ∈ m.names
  · refine MetaKeys.inEffect_congr fun reserved => ?_
    rw [h.values v (hkey _ (spelling_mem_candidates hname reserved key)), last]
  · rw [MetaKeys.inEffect_eq_none hname, MetaKeys.inEffect_eq_none hname]

lemma mem_lookups {m : MetaKeys} {key : String} (hlists : v.Lists key)
    (hvisible : m.isMeta key = false) :
    ∀ entry ∈ key :: candidates m key, entry ∈ lookups m v.keys := by
  intro entry hentry
  have hkey : key ∈ v.keys := v.mem_keys.2 hlists
  rcases List.mem_cons.1 hentry with rfl | hentry
  · exact List.mem_append_left _ hkey
  · refine List.mem_append_right _ (List.mem_flatMap.2 ⟨key, ?_, hentry⟩)
    simp [hkey, hvisible]

lemma metadata_fetched {m : MetaKeys} {key : String} (hlists : v.Lists key)
    (hvisible : m.isMeta key = false) (name : String) :
    ((Merge.metadata m ((Source.inOrder sources).map (v.fetched (lookups m v.keys)))).at key).get?
      name = m.inEffect v.last key name :=
  (v.reads_fetched _).metadata v m
    (fun _ h => v.mem_lookups hlists hvisible _ (List.mem_cons_of_mem _ h)) name

lemma metadata_asked (m : MetaKeys) (key name : String) :
    ((Merge.metadata m ((Source.inOrder sources).map (v.asked (key :: candidates m key)))).at
      key).get? name = m.inEffect v.last key name :=
  (v.reads_asked _).metadata v m (fun _ h => List.mem_cons_of_mem _ h) name

end Steady

end LayeredConfig
