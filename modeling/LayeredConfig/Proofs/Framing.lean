import LayeredConfig.Proofs.Reference

/-! What one more source changes. Under a key a merge reads the sources that hold the key and the
values of its meta-entries, and nothing else of what it has fetched. So a source that holds neither
leaves the key as it was, wherever it ranks and whatever it brings to other keys. -/

namespace LayeredConfig

variable {σ α : Type} {P : Circumstance σ} {before after : List (Source σ)} {s : Source σ}

namespace Source

lemma mem_insert {t : Source σ} (h : t ∈ before ++ after) : t ∈ before ++ s :: after := by
  rw [List.mem_append] at h
  rw [List.mem_append, List.mem_cons]
  tauto

lemma filterMap_inOrder_insert {f : Source σ → Option α} (h : f s = none) :
    (inOrder (before ++ s :: after)).filterMap f = (inOrder (before ++ after)).filterMap f := by
  -- What is picked can be put in order by itself, and then the new source takes no place in it.
  let ranked (t : Source σ) : Option (Int × α) := (f t).map (t.ordinal, ·)
  have hsort (sources : List (Source σ)) :
      Ranking.sort Prod.fst (sources.filterMap ranked) = (inOrder sources).filterMap ranked := by
    apply Ranking.sort_filterMap
    intro t p hp
    obtain ⟨a, -, rfl⟩ := Option.map_eq_some_iff.1 hp
    rfl
  have hranked (sources : List (Source σ)) : (inOrder sources).filterMap f =
      (Ranking.sort Prod.fst (sources.filterMap ranked)).map Prod.snd := by
    rw [hsort, List.map_filterMap]
    refine List.filterMap_congr fun t _ => ?_
    simp [ranked, Function.comp_def]
  have hinsert : (before ++ s :: after).filterMap ranked = (before ++ after).filterMap ranked := by
    simp [ranked, h]
  rw [hranked, hranked, hinsert]

end Source

namespace Steady

open Merge Resolver.Regular

variable (v : Steady P (before ++ s :: after))

def without : Steady P (before ++ after) where
  held := v.held
  listed := v.listed
  get t ht := v.get t (Source.mem_insert ht)
  properties t ht := v.properties t (Source.mem_insert ht)
  held_eq t ht := v.held_eq t (Source.mem_insert ht)

lemma lists_of_without {key : String} (h : v.without.Lists key) : v.Lists key := by
  obtain ⟨t, ht, hscan, hkey⟩ := h
  exact ⟨t, Source.mem_insert ht, hscan, hkey⟩

lemma holders_without {key : String} (h : v.held s key = none) :
    v.holders key = v.without.holders key :=
  Source.filterMap_inOrder_insert (by rw [h, Option.map_none])

lemma last_without {key : String} (h : v.held s key = none) :
    v.last key = v.without.last key := by
  have hvalue : (v.held s key).bind (·.value) = none := by rw [h, Option.bind_none]
  exact congrArg List.getLast? (Source.filterMap_inOrder_insert hvalue)

lemma inEffect_without {m : MetaKeys} {key : String}
    (h : ∀ entry ∈ candidates m key, v.held s entry = none) (name : String) :
    m.inEffect v.last key name = m.inEffect v.without.last key name := by
  by_cases hname : name ∈ m.names
  · exact MetaKeys.inEffect_congr fun reserved =>
      v.last_without (h _ (spelling_mem_candidates hname reserved key))
  · rw [MetaKeys.inEffect_eq_none hname, MetaKeys.inEffect_eq_none hname]

variable {r : Resolver σ} (g : r.Regular P) {m : MetaKeys} {key : String}
variable (habsent : ∀ entry ∈ key :: candidates m key, v.held s entry = none)

include habsent

lemma single_without : SameOutcome (v.single g m key) (v.without.single g m key) := by
  obtain ⟨hkey, hmeta⟩ := List.forall_mem_cons.1 habsent
  simp only [single]
  split
  · exact .ok .none
  · rw [v.holders_without hkey]
    refine g.outcome_same (fun name => ?_) _
    rw [v.metadata_asked, v.without.metadata_asked, v.inEffect_without hmeta]

lemma combined_without (hlists : v.without.Lists key) (hvisible : m.isMeta key = false) :
    SameOutcome (v.combined g m key) (v.without.combined g m key) := by
  obtain ⟨hkey, hmeta⟩ := List.forall_mem_cons.1 habsent
  simp only [combined]
  rw [v.holders_without hkey]
  refine g.outcome_same (fun name => ?_) _
  rw [v.metadata_fetched (v.lists_of_without hlists) hvisible,
    v.without.metadata_fetched hlists hvisible, v.inEffect_without hmeta]

lemma bulk_without (hlists : v.without.Lists key) (hvisible : m.isMeta key = false)
    {merged merged' : Ledger String Entry} (hmerged : v.without.bulk g m = .ok merged)
    (hmerged' : v.bulk g m = .ok merged') :
    Option.Rel Entry.Same (merged'.get? key) (merged.get? key) := by
  have hsame := v.combined_without g habsent hlists hvisible
  rw [v.bulk_ok g m hmerged' (v.lists_of_without hlists) hvisible,
    v.without.bulk_ok g m hmerged hlists hvisible] at hsame
  cases hsame with
  | ok hrel => exact hrel

omit habsent

lemma remains_of_without (h : v.without.Remains m (Source.inOrder (before ++ after)) key) :
    v.Remains m (Source.inOrder (before ++ s :: after)) key := by
  obtain ⟨hvisible, hlists, hbrought⟩ := h
  refine ⟨hvisible, v.lists_of_without hlists, ?_⟩
  have hsources : Source.inOrder (before ++ after) ⊆ Source.inOrder (before ++ s :: after) :=
    fun t ht => mem_inOrder.2 (Source.mem_insert (mem_inOrder.1 ht))
  obtain ⟨c, hc⟩ := List.exists_mem_of_ne_nil _ hbrought
  exact List.ne_nil_of_mem (List.filterMap_subset _ (List.filterMap_subset _ hsources) hc)

variable (slot : Nat)

/-- With built-in policies, a source that holds neither a key nor any of its meta-entries leaves
both ways of merging that key as they were. Only a value under the empty key, which no entry can
have, makes a pass over all keys fail. -/
theorem insertion_frames (m m₀ : MetaKeys) (key : String) (hvisible : m.isMeta key = false)
    (hlists : ∃ t ∈ before ++ after, t.scannable = true ∧ key ∈ (v.listed t).keys)
    (habsent : ∀ entry ∈ key :: candidates m key, v.held s entry = none) :
    ∃ (bulk bulk' : Except Failure (Ledger String Entry))
      (single single' : Except Failure (Option Entry)),
      Yields P.memory ((⟨⟨slot, .empty, m₀⟩, m⟩ : Merge σ).resolveAll (before ++ after)) bulk ∧
      Yields P.memory ((⟨⟨slot, .empty, m₀⟩, m⟩ : Merge σ).resolveAll (before ++ s :: after)) bulk' ∧
      Yields P.memory ((⟨⟨slot, .empty, m₀⟩, m⟩ : Merge σ).resolve key (before ++ after)) single ∧
      Yields P.memory ((⟨⟨slot, .empty, m₀⟩, m⟩ : Merge σ).resolve key (before ++ s :: after))
        single' ∧
      SameOutcome single' single ∧ (key ≠ "" → ∃ found, single = .ok found) ∧
      (∀ merged merged', bulk = .ok merged → bulk' = .ok merged' →
        Option.Rel Entry.Same (merged'.get? key) (merged.get? key)) ∧
      (¬ v.Remains m (Source.inOrder (before ++ s :: after)) "" →
        ∃ merged merged', bulk = .ok merged ∧ bulk' = .ok merged') := by
  let g := builtIn P slot m₀
  have hmemory := builtIn_memory (P := P) slot (m := m₀)
  refine ⟨v.without.bulk g m, v.bulk g m, v.without.single g m key, v.single g m key,
    (v.without.resolveAll_yields g m).on hmemory, (v.resolveAll_yields g m).on hmemory,
    (v.without.resolve_yields g m key).on hmemory, (v.resolve_yields g m key).on hmemory,
    v.single_without g habsent, v.without.single_ok g m (builtIn_total slot), ?_, ?_⟩
  · exact fun merged merged' hmerged hmerged' =>
      v.bulk_without g habsent hlists hvisible hmerged hmerged'
  · intro hempty
    obtain ⟨merged', hmerged'⟩ := v.exists_bulk g (builtIn_total slot) hempty
    obtain ⟨merged, hmerged⟩ := v.without.exists_bulk g (builtIn_total slot) fun hremains =>
      hempty (v.remains_of_without hremains)
    exact ⟨merged, merged', hmerged, hmerged'⟩

def filed : Nat → Ledger String Entry
  | 0 => ⟨[("region", ⟨"region", some "1", "low", .empty, by decide⟩),
      ("region.combination-policy",
        ⟨"region.combination-policy", some "collect", "low", .empty, by decide⟩)], by decide⟩
  | 1 => ⟨[("region", ⟨"region", some "2", "high", .empty, by decide⟩),
      ("zone", ⟨"zone", some "3", "high", .empty, by decide⟩)], by decide⟩
  | _ => ⟨[("zone", ⟨"zone", some "4", "newcomer", .empty, by decide⟩),
      ("zone.combination-policy",
        ⟨"zone.combination-policy", some "collect", "newcomer", .empty, by decide⟩)], by decide⟩

def bottom : Source Unit := .ofEntries 0 "low" 0 true (filed 0)

def top : Source Unit := .ofEntries 1 "high" 10 false (filed 1)

def newcomer : Source Unit := .ofEntries 2 "newcomer" 5 true (filed 2)

def steadyJoined : Steady (fun _ _ => True) ([top] ++ newcomer :: [bottom]) where
  held s := (filed s.id).get?
  listed s := filed s.id
  get s hs key := by
    simp only [List.mem_append, List.mem_cons, List.not_mem_nil, or_false] at hs
    rcases hs with rfl | rfl | rfl <;> exact Yields.pure _
  properties s hs hscan := by
    simp only [List.mem_append, List.mem_cons, List.not_mem_nil, or_false] at hs
    rcases hs with rfl | rfl | rfl
    · cases hscan
    · exact Yields.pure _
    · exact Yields.pure _
  held_eq _ _ _ _ := rfl

lemma not_remains_joined (ordered : List (Source Unit)) :
    ¬ steadyJoined.Remains .standard ordered "" := by
  rintro ⟨_, ⟨s, hs, _, hlisted⟩, _⟩
  simp only [List.mem_append, List.mem_cons, List.not_mem_nil, or_false] at hs
  rcases hs with rfl | rfl | rfl <;> exact absurd hlisted (by decide)

theorem insertion_frames_newcomer :
    (MetaKeys.standard.isMeta "region" = false ∧
      (∃ t ∈ [top] ++ [bottom], t.scannable = true ∧ "region" ∈ (steadyJoined.listed t).keys) ∧
      ∀ entry ∈ "region" :: candidates .standard "region",
        steadyJoined.held newcomer entry = none) ∧
    ∃ merged merged',
      Yields (Circumstance.memory fun _ _ => True)
        ((⟨⟨0, .empty, .standard⟩, .standard⟩ : Merge Unit).resolveAll [top, bottom])
        (.ok merged) ∧
      Yields (Circumstance.memory fun _ _ => True)
        ((⟨⟨0, .empty, .standard⟩, .standard⟩ : Merge Unit).resolveAll [top, newcomer, bottom])
        (.ok merged') ∧
      Option.Rel Entry.Same (merged'.get? "region") (merged.get? "region") := by
  have hlists : ∃ t ∈ [top] ++ [bottom],
      t.scannable = true ∧ "region" ∈ (steadyJoined.listed t).keys :=
    ⟨bottom, by simp, rfl, by decide⟩
  have habsent : ∀ entry ∈ "region" :: candidates .standard "region",
      steadyJoined.held newcomer entry = none := by decide
  obtain ⟨bulk, bulk', _, _, hbulk, hbulk', _, _, _, _, hsame, hok⟩ :=
    steadyJoined.insertion_frames 0 .standard .standard "region" (by decide) hlists habsent
  obtain ⟨merged, merged', rfl, rfl⟩ := hok (not_remains_joined _)
  exact ⟨⟨by decide, hlists, habsent⟩, merged, merged', hbulk, hbulk', hsame _ _ rfl rfl⟩

end Steady

end LayeredConfig
