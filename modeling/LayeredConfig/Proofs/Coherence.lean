import LayeredConfig.Context
import LayeredConfig.Filter.Stock
import LayeredConfig.Proofs.Combination

/-! What a configuration is read as. A merge files every entry under its own key and with a value,
and so do filters, whatever they do to an entry, and overrides. So all views of a published
configuration agree. -/

namespace LayeredConfig

variable {σ : Type}

def Coherent (entries : Ledger String Entry) : Prop :=
  ∀ key e, entries.get? key = some e → e.key = key ∧ e.value.isSome = true

lemma Ledger.keys_put_append {κ α : Type} [DecidableEq κ] (l : Ledger κ α) {k : κ} (v : α)
    {ks : List κ} (h : k ∉ ks) :
    (l.put k v).keys ++ ks.filter (· ∉ (l.put k v).keys) =
      l.keys ++ (k :: ks).filter (· ∉ l.keys) := by
  have hfilter : ∀ j ∈ ks, decide (j ∉ (l.put k v).keys) = decide (j ∉ l.keys) := by
    intro j hj
    have hne : j ≠ k := fun he => h (he ▸ hj)
    simp [mem_keys_put, hne]
  rw [List.filter_congr hfilter, keys_put, List.filter_cons]
  by_cases hmem : k ∈ l.keys <;> simp [hmem]

namespace Coherent

lemma empty : Coherent .empty := fun _ _ h => (nomatch h)

lemma put {entries : Ledger String Entry} (h : Coherent entries) {key : String} {e : Entry}
    (hkey : e.key = key) (hvalue : e.value.isSome = true) : Coherent (entries.put key e) := by
  intro k e' hget
  rw [Ledger.get?_put] at hget
  split at hget
  · rename_i hk
    cases hget
    exact ⟨hkey.trans hk.symm, hvalue⟩
  · exact h k e' hget

end Coherent

namespace Merge

variable (e : Merge σ)

lemma mergeKey_coherent (key : String) (snapshots : List Snapshot)
    (metadata : Ledger String String) :
    Gives (e.mergeKey key snapshots metadata) fun found =>
      ∀ e ∈ found, e.key = key ∧ e.value.isSome = true := by
  rw [mergeKey]
  split
  · exact Gives.pure fun e he => absurd he (Option.not_mem_none e)
  · refine Gives.after fun choice => Gives.after fun running => Gives.make ?_
    rintro found hfound e rfl
    exact Running.entry?_some hfound

lemma mergeKeys_coherent (snapshots : List Snapshot) (grouped : MetaKeys.Grouped)
    (keys : List String) : Gives (e.mergeKeys snapshots grouped keys) Coherent :=
  mergeKeys_gives (Q := fun key e => e.key = key ∧ e.value.isSome = true) fun key _ =>
    e.mergeKey_coherent key snapshots (grouped.at key)

lemma resolveAll_coherent (sources : List (Source σ)) :
    Gives (e.resolveAll sources) Coherent := by
  refine Gives.after fun fetched => ?_
  refine (e.mergeKeys_coherent _ _ _).bind fun merged hmerged => ?_
  exact Gives.after fun _ => Gives.pure hmerged

end Merge

namespace Filter

structure Sorted.Coherent (s : Sorted) : Prop where
  kept : LayeredConfig.Coherent s.kept
  renamed : ∀ p ∈ s.renamed, p.2.value.isSome = true

lemma Sorted.Coherent.file {s : Sorted} (h : s.Coherent) (key : String) (found : Option Entry) :
    (s.file key found).Coherent := by
  cases found with
  | none => exact h
  | some e =>
    rw [Sorted.file]
    split
    · exact h
    · rename_i hvalue
      have hvalue : e.value.isSome = true := by simpa [Option.isSome_iff_ne_none] using hvalue
      split
      · rename_i hkey
        exact ⟨h.kept.put hkey hvalue, h.renamed⟩
      · refine ⟨h.kept, fun p hp => ?_⟩
        rcases List.mem_append.1 hp with hp | hp
        · exact h.renamed p hp
        · rw [List.mem_singleton.1 hp]
          exact hvalue

lemma settle_coherent {result : Ledger String Entry} (h : Coherent result)
    {renamed : List (String × Entry)} (hrenamed : ∀ p ∈ renamed, p.2.value.isSome = true) :
    Gives (settle result renamed : Act σ (Ledger String Entry)) Coherent := by
  induction renamed generalizing result with
  | nil => exact Gives.pure h
  | cons p renamed ih =>
    obtain ⟨hp, hrest⟩ := List.forall_mem_cons.1 hrenamed
    rw [settle]
    split
    · exact Gives.after fun _ => ih h hrest
    -- A renamed entry goes under its new key, so it need only have a value.
    · exact ih (h.put rfl hp) hrest

lemma applyAll_coherent (chain : Act σ (List (Filter σ))) {entries : Ledger String Entry}
    (h : Coherent entries) : Gives (applyAll chain entries) Coherent := by
  refine Gives.after fun filters => ?_
  split
  · exact Gives.pure h
  · have hsorted : Sorted.Coherent ⟨.empty, []⟩ := ⟨Coherent.empty, List.forall_mem_nil _⟩
    refine Gives.bind (Gives.foldlM (fun s p _ hs => ?_) hsorted) fun sorted hs => ?_
    · exact Gives.after fun _ => Gives.after fun found => Gives.pure (hs.file p.1 found)
    · exact settle_coherent hs.kept fun p hp => hs.renamed p (List.mem_mergeSort.1 hp)

end Filter

namespace Context

lemma resolve_coherent (c : Context σ) : Gives c.resolve fun config => Coherent config.entries := by
  refine (c.merge.resolveAll_coherent c.sources).bind fun merged hmerged => ?_
  refine (Filter.applyAll_coherent _ hmerged).bind fun filtered hfiltered => ?_
  exact Gives.pure hfiltered

end Context

namespace Config

structure Describes (c : Config σ) (values : Ledger String String) : Prop where
  keys : c.keys = values.keys
  size : c.size = values.size
  contains : ∀ key, c.contains key = values.contains key
  get? : ∀ key, c.get? key = values.get? key
  get : ∀ key, c.get key = (values.get? key).elim (.error (.noSuchKey key)) .ok
  toPairs : c.toPairs = values.pairs
  origin? : ∀ key, (c.origin? key).map (·.key) = if values.contains key then some key else none
  provenance : c.provenance.map (fun p => (p.1, p.2.key)) = values.keys.map fun key => (key, key)
  provenance_origin : ∀ p ∈ c.provenance, c.origin? p.1 = some p.2

def values (c : Config σ) : Ledger String String := c.entries.map fun e => e.value.getD ""

section Views

variable {c : Config σ} (h : Coherent c.entries)
include h

lemma get?_eq_values (key : String) : c.get? key = c.values.get? key := by
  rw [get?, entry?, values, Ledger.get?_map]
  cases he : c.entries.get? key with
  | none => rfl
  | some e =>
    obtain ⟨text, htext⟩ := Option.isSome_iff_exists.1 (h key e he).2
    simp [htext]

lemma toPairs_eq_values : c.toPairs = c.values.pairs := by
  have hpairs : ∀ p ∈ c.entries.pairs,
      (p.2.value.map fun text => (p.1, text)) = some (p.1, p.2.value.getD "") := by
    intro p hp
    obtain ⟨text, htext⟩ := Option.isSome_iff_exists.1 (h p.1 p.2 (Ledger.mem_pairs_iff.1 hp)).2
    simp [htext]
  rw [toPairs, List.filterMap_congr hpairs, List.filterMap_eq_map']
  rfl

lemma origin?_eq_values (key : String) :
    (c.origin? key).map (·.key) = if c.values.contains key then some key else none := by
  rw [origin?, entry?, Ledger.contains, values, Ledger.get?_map]
  cases he : c.entries.get? key with
  | none => rfl
  | some e => simp [(h key e he).1]

lemma provenance_eq_values :
    c.provenance.map (fun p => (p.1, p.2.key)) = c.values.keys.map fun key => (key, key) := by
  have hkeys : c.values.keys = c.keys := Ledger.keys_map _ _
  rw [provenance, List.map_filterMap, hkeys, ← List.filterMap_eq_map']
  refine List.filterMap_congr fun key hkey => ?_
  obtain ⟨e, he⟩ := Ledger.mem_keys_iff.1 hkey
  simp [origin?, entry?, he, (h key e he).1]

lemma describes_values : c.Describes c.values where
  keys := (Ledger.keys_map _ _).symm
  size := by simp [size, values, Ledger.size, Ledger.map]
  contains key := by rw [contains, get?_eq_values h, Ledger.contains]
  get? := get?_eq_values h
  get key := by
    rw [get, get?_eq_values h]
    cases c.values.get? key <;> rfl
  toPairs := toPairs_eq_values h
  origin? := origin?_eq_values h
  provenance := provenance_eq_values h
  provenance_origin p hp := by
    obtain ⟨key, -, horigin⟩ := List.mem_filterMap.1 hp
    obtain ⟨origin, ho, rfl⟩ := Option.map_eq_some_iff.1 horigin
    exact ho

end Views

structure Overridden (c : Config σ) (overrides : Ledger String String) (source : String)
    (next : Config σ) : Prop where
  keys : next.keys = c.keys ++ overrides.keys.filter (· ∉ c.keys)
  kept : ∀ key, overrides.get? key = none → next.entry? key = c.entry? key
  put : ∀ key text, overrides.get? key = some text → ∃ e, next.entry? key = some e ∧ e.key = key ∧
    e.value = some text ∧ e.source = source ∧
    e.metadata = ((c.entry? key).map (·.metadata)).getD .empty
  converters : next.converters = c.converters

def overriding (overrides : Ledger String String) : List (String × Option String) :=
  overrides.pairs.map fun p => (p.1, some p.2)

def override (c : Config σ) (key text source : String) (h : key ≠ "") : Config σ where
  entries := c.entries.put key
    ⟨key, some text, source, ((c.entry? key).map (·.metadata)).getD .empty, h⟩
  converters := c.converters

lemma withOverrides_cons (c : Config σ) {key : String} (h : key ≠ "") (text source : String)
    (rest : List (String × Option String)) :
    c.withOverrides ((key, some text) :: rest) source =
      (c.override key text source h).withOverrides rest source := by
  rw [withOverrides, List.foldlM_cons]
  simp only [Entry.make, dif_pos h]
  rfl

lemma entry?_override (c : Config σ) {key : String} (h : key ≠ "") (text source k : String) :
    entry? (c.override key text source h) k =
      if k = key then
        some ⟨key, some text, source, ((c.entry? key).map (·.metadata)).getD .empty, h⟩
      else c.entry? k :=
  Ledger.get?_put _ _ _ _

namespace Overridden

variable {c next : Config σ} {source : String}

lemma nothing (c : Config σ) (source : String) : c.Overridden .empty source c where
  keys := (List.append_nil _).symm
  kept _ _ := rfl
  put _ _ h := nomatch h
  converters := rfl

lemma cons {key text : String} {h : key ≠ ""} {ps : List (String × String)}
    (hps : (((key, text) :: ps).map Prod.fst).Nodup)
    (hrest :
      (c.override key text source h).Overridden ⟨ps, (List.nodup_cons.1 hps).2⟩ source next) :
    c.Overridden ⟨(key, text) :: ps, hps⟩ source next := by
  have hnew : key ∉ ps.map Prod.fst := (List.nodup_cons.1 hps).1
  refine ⟨?_, fun k hk => ?_, fun k t hk => ?_, hrest.converters⟩
  · rw [hrest.keys]
    exact Ledger.keys_put_append c.entries _ hnew
  · change (if key = k then some text else Ledger.lookup k ps) = none at hk
    split at hk
    · cases hk
    · rename_i hne
      rw [hrest.kept k hk, entry?_override, if_neg (Ne.symm hne)]
  · change (if key = k then some text else Ledger.lookup k ps) = some t at hk
    split at hk
    · rename_i he
      cases hk
      subst he
      rw [hrest.kept key (Ledger.lookup_eq_none_iff.2 hnew), entry?_override, if_pos rfl]
      exact ⟨_, rfl, rfl, rfl, rfl, rfl⟩
    · rename_i hne
      have hput := hrest.put k t hk
      rwa [entry?_override, if_neg (Ne.symm hne)] at hput

lemma coherent {overrides : Ledger String String} (h : c.Overridden overrides source next)
    (hc : Coherent c.entries) : Coherent next.entries := by
  intro key e he
  cases hget : overrides.get? key with
  | none =>
    refine hc key e ?_
    rw [← he]
    exact (h.kept key hget).symm
  | some text =>
    obtain ⟨e', he', hkey, hvalue, -⟩ := h.put key text hget
    cases he'.symm.trans he
    exact ⟨hkey, by rw [hvalue]; rfl⟩

end Overridden

lemma exists_overridden (c : Config σ) {overrides : Ledger String String}
    (h : "" ∉ overrides.keys) (source : String) :
    ∃ next, c.withOverrides (overriding overrides) source = .ok next ∧
      c.Overridden overrides source next := by
  obtain ⟨ps, hps⟩ := overrides
  -- What the first override makes of the receiver is the receiver of the others.
  induction ps generalizing c with
  | nil => exact ⟨c, rfl, .nothing c source⟩
  | cons p ps ih =>
    obtain ⟨key, text⟩ := p
    obtain ⟨hkey, hrest⟩ := List.ne_and_not_mem_of_not_mem_cons h
    obtain ⟨next, hnext, hover⟩ :=
      ih (c.override key text source hkey.symm) (List.nodup_cons.1 hps).2 hrest
    refine ⟨next, ?_, hover.cons hps⟩
    rw [← hnext]
    exact c.withOverrides_cons hkey.symm text source _

inductive Reaches (c : Config σ) : Config σ → Prop
  | refl : Reaches c c
  | override {d next : Config σ} {overrides : Ledger String String} {source : String}
      (before : Reaches c d) (h : "" ∉ overrides.keys)
      (hnext : d.withOverrides (overriding overrides) source = .ok next) : Reaches c next

lemma Reaches.coherent {c d : Config σ} (h : c.Reaches d) (hc : Coherent c.entries) :
    Coherent d.entries := by
  -- An override is a function, so the step taken is the one that is known to keep coherence.
  induction h with
  | refl => exact hc
  | @override d next overrides source _ hne hnext ih =>
    obtain ⟨next', hnext', hover⟩ := d.exists_overridden hne source
    cases hnext'.symm.trans hnext
    exact hover.coherent ih

end Config

namespace Context

/-- Whatever sources, policies and filters do, what a pass publishes is coherent, and remains so
under overrides, which put what they name and leave the rest. -/
theorem published_coherent (c : Context σ) {m m' : Memory σ} {config reached : Config σ}
    (hresolve : c.resolve.run.run m = (.ok config, m')) (hreached : config.Reaches reached) :
    Coherent reached.entries ∧ (∃ values, reached.Describes values) ∧
      ∀ (overrides : Ledger String String) (source : String), "" ∉ overrides.keys →
        ∃ next, reached.withOverrides (Config.overriding overrides) source = .ok next ∧
          reached.Overridden overrides source next := by
  have hcoherent : Coherent reached.entries :=
    hreached.coherent (c.resolve_coherent.of_run (congrArg Prod.fst hresolve))
  exact ⟨hcoherent, ⟨reached.values, Config.describes_values hcoherent⟩,
    fun overrides source h => reached.exists_overridden h source⟩

def blanking : Filter Unit where
  id := 1
  name := "Blanking"
  run e _ := return some (if e.key = "token" then e.withValue none else e)

def rewriting : Context Unit where
  sources := [.ofEntries 0 "file" 10 true
    ⟨[("old.port", ⟨"old.port", some "80", "file", .ofList [("item-separator", ";")], by decide⟩),
      ("token", ⟨"token", some "x", "file", .empty, by decide⟩),
      ("host", ⟨"host", some "a", "file", .empty, by decide⟩)], by decide⟩]
  filters := [(Filter.Stock.rename none (some "old.") none).toFilter 0, blanking]
  converters := .empty
  resolver := ⟨0, .empty, .standard⟩

theorem rewriting_published_coherent :
    ∃ config m' next,
      rewriting.resolve.run.run (.initial .debug ()) = (.ok config, m') ∧
      config.toPairs = [("host", "a"), ("port", "80")] ∧
      config.Reaches next ∧ next.toPairs = [("host", "a"), ("port", "81"), ("user", "b")] ∧
      Coherent next.entries ∧ ∃ values, next.Describes values := by
  have hordered : Source.inOrder rewriting.sources = rewriting.sources := List.mergeSort_singleton _
  let overrides : Ledger String String := .ofList [("user", "b"), ("port", "81")]
  have hpairs : (rewriting.resolve.run.run (.initial .debug ())).1.toOption.map (fun config =>
      (config.toPairs, (config.withOverrides (Config.overriding overrides) "cli").toOption.map
        Config.toPairs)) =
      some ([("host", "a"), ("port", "80")],
        some [("host", "a"), ("port", "81"), ("user", "b")]) := by
    rw [resolve, Merge.resolveAll, hordered]
    decide +kernel
  match hrun : rewriting.resolve.run.run (.initial .debug ()) with
  | (.error failure, m') =>
    rw [hrun] at hpairs
    cases hpairs
  | (.ok config, m') =>
    rw [hrun] at hpairs
    obtain ⟨hpublished, hoverridden⟩ := Prod.mk.inj (Option.some.inj hpairs)
    obtain ⟨-, -, hover⟩ := rewriting.published_coherent hrun .refl
    obtain ⟨next, hnext, -⟩ := hover overrides "cli" (by decide)
    rw [hnext] at hoverridden
    have hreached : config.Reaches next := .override .refl (by decide) hnext
    obtain ⟨hcoherent, hvalues, -⟩ := rewriting.published_coherent hrun hreached
    exact ⟨config, m', next, rfl, hpublished, hreached, Option.some.inj hoverridden, hcoherent,
      hvalues⟩

end Context

end LayeredConfig
