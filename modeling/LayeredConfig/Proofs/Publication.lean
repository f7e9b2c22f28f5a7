import LayeredConfig.Context
import LayeredConfig.Proofs.Reference
import LayeredConfig.Proofs.StockFilters
import LayeredConfig.Proofs.StockSources

/-! What a context publishes. The entries of a snapshot are those that the lookups of its keys
give, each filed under the key that the filters leave it. -/

namespace LayeredConfig

variable {σ : Type} {P : Circumstance σ}

open LayeredConfig.Filter Resolver.Regular

namespace Steady

variable {sources : List (Source σ)} (v : Steady P sources) (slot : Nat) (m : MetaKeys)

lemma not_remains_empty (hempty : ∀ s ∈ sources, v.held s "" = none)
    (ordered : List (Source σ)) : ¬ v.Remains m ordered "" := by
  rintro ⟨_, ⟨s, hs, hscan, hlisted⟩, _⟩
  have hheld := v.held_eq s hs hscan ""
  rw [hempty s hs] at hheld
  exact Ledger.get?_eq_none_iff.1 hheld.symm hlisted

lemma bulk_builtIn (hempty : ∀ s ∈ sources, v.held s "" = none) :
    ∃ merged, v.bulk (builtIn P slot m) m = .ok merged := by
  cases hbulk : v.bulk (builtIn P slot m) m with
  | ok merged => exact ⟨merged, rfl⟩
  | error failure =>
    exact absurd (v.remains_empty_of_bulk_error slot hbulk).1 (v.not_remains_empty m hempty _)

lemma single_builtIn (hempty : ∀ s ∈ sources, v.held s "" = none) (key : String) :
    ∃ found, v.single (builtIn P slot m) m key = .ok found := by
  by_cases hne : key = ""
  · subst hne
    rw [single]
    split
    · exact ⟨none, rfl⟩
    · rename_i hvisible
      have hholders : v.holders "" = [] := by
        refine List.filterMap_eq_nil_iff.2 fun s hs => ?_
        rw [hempty s (mem_inOrder.1 hs)]
        rfl
      refine ⟨none, builtIn_outcome_nil slot (by simpa using hvisible) _ ?_⟩
      rw [hholders]
      rfl
  · exact v.single_ok _ m (builtIn_total slot) hne

end Steady

namespace Context

variable (c : Context σ)

lemma get?_yields {M : Memory σ → Prop} (hM : P.Within M) {outcome : Filter σ → Entry → Option Entry}
    (hfilters : ∀ f ∈ c.filters, f.Settled M (outcome f)) {key : String} {found : Option Entry}
    (h : Yields M (c.merge.resolve key c.sources) (.ok found)) :
    Yields M (c.get? key) (.ok (found.bind fun e => valued (passed outcome c.filters e))) := by
  refine h.bind_ok ?_
  cases found with
  | none => exact Yields.pure _
  | some e => exact (apply_yields hM hfilters e _).bind_ok (Yields.pure _)

lemma resolve_yields {M : Memory σ → Prop} (hM : P.Within M)
    {outcome : Filter σ → Entry → Option Entry}
    (hfilters : ∀ f ∈ c.filters, f.Settled M (outcome f)) {merged : Ledger String Entry}
    (h : Yields M (c.merge.resolveAll c.sources) (.ok merged)) :
    Yields M c.resolve (.ok ⟨if c.filters.isEmpty then merged
      else rest (passed outcome c.filters) merged, some c.converters⟩) :=
  h.bind_ok ((applyAll_yields hM hfilters merged).bind_ok (Yields.pure _))

lemma resolve_of_bulk (c : Context σ) (hfilters : c.filters = []) (v : Steady P c.sources)
    (g : c.resolver.Regular P) {merged : Ledger String Entry}
    (h : v.bulk g c.resolver.metaKeys = .ok merged) :
    Yields g.memory c.resolve (.ok ⟨merged, some c.converters⟩) := by
  have hbulk := v.resolveAll_yields g c.resolver.metaKeys
  rw [h] at hbulk
  have hsettled : ∀ f ∈ c.filters, f.Settled g.memory some := by simp [hfilters]
  have hresolve := c.resolve_yields g.within hsettled hbulk
  simpa [hfilters] using hresolve

/-- Under each key the snapshot holds what the lookup of that key gives if the entry still has the
key, or else what the lookup of the smallest merged key gives whose entry got it. -/
theorem resolve_agrees_with_get? (hfactories : c.resolver.factories = .empty)
    (hsources : ∀ s ∈ c.sources, s.Stock P)
    (hfilters : ∀ f ∈ c.filters, ∃ (s : Filter.Stock σ) (id : Nat), f = s.toFilter id ∧ s.Fixed P) :
    ∃ (merged : Ledger String Entry) (config : Config σ) (single : String → Option Entry),
      Yields P.memory (c.merge.resolveAll c.sources) (.ok merged) ∧
      Yields P.memory c.resolve (.ok config) ∧
      (∀ key, Yields P.memory (c.get? key) (.ok (single key))) ∧
      ∀ key, ∃ found, Filed merged.keys single key found ∧
        Option.Rel Entry.Same (config.entry? key) found := by
  obtain ⟨outcome, houtcome⟩ := Stock.exists_settled P.within_memory hfilters
  obtain ⟨v, hempty⟩ := Steady.exists_of_stock hsources
  obtain ⟨sources, filters, converters, ⟨slot, factories, m⟩⟩ := c
  obtain rfl : factories = .empty := hfactories
  obtain ⟨merged, hmerged⟩ := v.bulk_builtIn slot m hempty
  choose found hfound using v.single_builtIn slot m hempty
  have hbulk := (v.resolveAll_yields (builtIn P slot m) m).on (builtIn_memory slot)
  have hsingle := fun key => (v.resolve_yields (builtIn P slot m) m key).on (builtIn_memory slot)
  rw [hmerged] at hbulk
  simp only [hfound] at hsingle
  refine ⟨merged, _, _, hbulk, resolve_yields _ P.within_memory houtcome hbulk,
    fun key => get?_yields _ P.within_memory houtcome (hsingle key), fun key => ?_⟩
  have hwell := fun key e (he : merged.get? key = some e) =>
    v.bulk_wellKeyed (builtIn P slot m) m hmerged he
  refine (filed_passed outcome filters (fun key e he => (hwell key e he).2) key).congr ?_
  intro k hk
  obtain ⟨e, he⟩ := Ledger.mem_keys_iff.1 hk
  obtain ⟨hlists, hvisible⟩ := (hwell k e he).1
  obtain ⟨found', hfound', hrel⟩ := v.single_of_bulk (builtIn P slot m) m hmerged hlists hvisible
  obtain rfl : found' = found k := Except.ok.inj (hfound'.symm.trans (hfound k))
  exact bind_valued_same _ (fun a b => passed_same houtcome) (Entry.rel_same_symm hrel)

def switchedOn : Circumstance Unit := fun switches _ => switches.getD 0 false = true

def nested : Source.Mapping :=
  ⟨"low", 0, true,
    ⟨[("x.port", ⟨"x.port", some "1", "low", .empty, by decide⟩),
      ("port", ⟨"port", some "2", "low", .empty, by decide⟩)], by decide⟩⟩

def colliding : Context Unit where
  sources := [nested.toSource 0, Source.Guarded.source 2 0
    (Source.Environment.source 1 "" "env" 300 (pure (Ledger.ofList [("X__PORT", "3")])))]
  filters := [(Stock.rename none (some "x.") none).toFilter 0,
    (Stock.secure none ["admin"] (pure (some ["guest"])) .warn).toFilter 1]
  converters := .empty
  resolver := ⟨0, .empty, .standard⟩

theorem colliding_resolve_agrees_with_get? :
    (∃ memory, switchedOn.memory memory) ∧
    colliding.resolver.factories = .empty ∧ (∀ s ∈ colliding.sources, s.Stock switchedOn) ∧
    (∀ f ∈ colliding.filters, ∃ (s : Filter.Stock Unit) (id : Nat),
      f = s.toFilter id ∧ s.Fixed switchedOn) ∧
    ∃ (merged : Ledger String Entry) (config : Config Unit) (single : String → Option Entry),
      Yields switchedOn.memory (colliding.merge.resolveAll colliding.sources) (.ok merged) ∧
      Yields switchedOn.memory colliding.resolve (.ok config) ∧
      (∀ key, Yields switchedOn.memory (colliding.get? key) (.ok (single key))) ∧
      ∀ key, ∃ found, Filed merged.keys single key found ∧
        Option.Rel Entry.Same (config.entry? key) found := by
  have hsources : ∀ s ∈ colliding.sources, s.Stock switchedOn := by
    have hnested : Source.Mapping.make "low" [(.text "x", .mapping [(.text "port", .text "1")]),
      (.text "port", .text "2")] 0 true .empty = .ok nested := by
      simp only [Source.Mapping.make, Data.flatten, Data.flattenOnto, Data.dotted, Data.display,
        Data.render]
      rfl
    refine List.forall_mem_cons.2 ⟨.mapping 0 hnested, List.forall_mem_singleton.2 ?_⟩
    exact .guarded 2 true (fun _ _ h => h) (.environment 1 "" "env" 300 _ (Ensures.pure rfl))
  have hfilters : ∀ f ∈ colliding.filters, ∃ (s : Filter.Stock Unit) (id : Nat),
      f = s.toFilter id ∧ s.Fixed switchedOn := by
    refine List.forall_mem_cons.2 ⟨⟨_, 0, rfl, trivial⟩, List.forall_mem_singleton.2 ?_⟩
    exact ⟨_, 1, rfl, by decide, _, Ensures.pure rfl⟩
  have hmemory : switchedOn.memory
      ⟨⟨⟨.debug, none, []⟩, .ofList [(0, true)], ()⟩, .empty, .empty, .empty⟩ := rfl
  exact ⟨⟨_, hmemory⟩, rfl, hsources, hfilters,
    colliding.resolve_agrees_with_get? rfl hsources hfilters⟩

end Context

end LayeredConfig
