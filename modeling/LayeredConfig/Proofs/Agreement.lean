import LayeredConfig.Proofs.Combination

/-! The pass over all keys and the merge of a single key agree. -/

namespace LayeredConfig.Steady

open Merge

variable {σ : Type} {P : Circumstance σ} {sources : List (Source σ)} (v : Steady P sources)
variable {r : Resolver σ} (g : r.Regular P) (m : MetaKeys)

lemma mem_visible {key : String} :
    (key ∈ v.keys.filter fun key => !m.isMeta key) ↔ v.Lists key ∧ m.isMeta key = false := by
  simp [v.mem_keys]

def combined (key : String) : Except Failure (Option Entry) :=
  let snapshots := (Source.inOrder sources).map (v.fetched (lookups m v.keys))
  g.outcome key ((Merge.metadata m snapshots).at key) (v.holders key)

lemma named_fetched {key : String} (hlists : v.Lists key) (hvisible : m.isMeta key = false) :
    Merge.named key ((Source.inOrder sources).map (v.fetched (lookups m v.keys))) = v.holders key :=
  (v.reads_fetched _).named v (v.mem_lookups hlists hvisible key List.mem_cons_self)

lemma bulk_ok {merged : Ledger String Entry} (h : v.bulk g m = .ok merged) {key : String}
    (hlists : v.Lists key) (hvisible : m.isMeta key = false) :
    v.combined g m key = .ok (merged.get? key) := by
  have hbulk := fileAll_ok h key
  rwa [if_pos ((v.mem_visible m).2 ⟨hlists, hvisible⟩), v.named_fetched m hlists hvisible] at hbulk

lemma bulk_get?_eq_none {merged : Ledger String Entry} (h : v.bulk g m = .ok merged) {key : String}
    (hkey : ¬ (v.Lists key ∧ m.isMeta key = false)) : merged.get? key = none := by
  have hbulk := fileAll_ok h key
  rwa [if_neg fun hm => hkey ((v.mem_visible m).1 hm)] at hbulk

lemma bulk_error {failure : Failure} (h : v.bulk g m = .error failure) :
    ∃ key, v.Lists key ∧ m.isMeta key = false ∧ v.combined g m key = .error failure := by
  obtain ⟨key, hkey, ho⟩ := exists_of_fileAll_error h
  obtain ⟨hlists, hvisible⟩ := (v.mem_visible m).1 hkey
  rw [v.named_fetched m hlists hvisible] at ho
  exact ⟨key, hlists, hvisible, ho⟩

lemma bulk_wellKeyed {merged : Ledger String Entry} (h : v.bulk g m = .ok merged) {key : String}
    {e : Entry} (he : merged.get? key = some e) :
    (v.Lists key ∧ m.isMeta key = false) ∧ e.key = key ∧ e.value.isSome = true := by
  by_cases hkey : v.Lists key ∧ m.isMeta key = false
  · have hcombined := v.bulk_ok g m h hkey.1 hkey.2
    rw [he] at hcombined
    exact ⟨hkey, g.outcome_some hcombined⟩
  · rw [v.bulk_get?_eq_none g m h hkey] at he
    cases he

lemma single_same {key : String} (hlists : v.Lists key) (hvisible : m.isMeta key = false) :
    SameOutcome (v.single g m key) (v.combined g m key) := by
  simp only [single, hvisible]
  refine g.outcome_same (fun name => ?_) _
  rw [v.metadata_asked, v.metadata_fetched hlists hvisible]

lemma single_of_bulk {merged : Ledger String Entry} (h : v.bulk g m = .ok merged) {key : String}
    (hlists : v.Lists key) (hvisible : m.isMeta key = false) :
    ∃ found, v.single g m key = .ok found ∧ Option.Rel Entry.Same found (merged.get? key) := by
  have hsame := v.single_same g m hlists hvisible
  rw [v.bulk_ok g m h hlists hvisible] at hsame
  generalize v.single g m key = outcome at hsame
  cases hsame with
  | ok hrel => exact ⟨_, rfl, hrel⟩

lemma single_of_bulk_error {failure : Failure} (h : v.bulk g m = .error failure) :
    ∃ key, v.Lists key ∧ m.isMeta key = false ∧ v.single g m key = .error failure := by
  obtain ⟨key, hlists, hvisible, ho⟩ := v.bulk_error g m h
  have hsame := v.single_same g m hlists hvisible
  rw [ho] at hsame
  refine ⟨key, hlists, hvisible, ?_⟩
  generalize v.single g m key = outcome at hsame
  cases hsame with
  | error => rfl

lemma single_ok (h : g.Total) {key : String} (hne : key ≠ "") :
    ∃ found, v.single g m key = .ok found := by
  rw [single]
  split
  · exact ⟨none, rfl⟩
  · exact g.outcome_ok h hne _ _

/-- The merge of a single key gives an entry exactly when the pass over all keys has one, and then
the same entry. The pass fails only as the merge of one of its keys does, which takes a policy that
fails or the empty key. -/
theorem resolve_agrees_with_resolveAll :
    ∃ (single : String → Except Failure (Option Entry)) (bulk : Except Failure (Ledger String Entry)),
      (∀ key, Yields g.memory ((⟨r, m⟩ : Merge σ).resolve key sources) (single key)) ∧
      Yields g.memory ((⟨r, m⟩ : Merge σ).resolveAll sources) bulk ∧
      (∀ merged, bulk = .ok merged → ∀ key, m.isMeta key = false → v.Lists key →
        ∃ found, single key = .ok found ∧ Option.Rel Entry.Same found (merged.get? key)) ∧
      (∀ failure, bulk = .error failure →
        ∃ key, m.isMeta key = false ∧ v.Lists key ∧ single key = .error failure) ∧
      (g.Total → ∀ key, key ≠ "" → ∃ found, single key = .ok found) := by
  refine ⟨v.single g m, v.bulk g m, v.resolve_yields g m, v.resolveAll_yields g m, ?_, ?_, ?_⟩
  · exact fun merged h key hvisible hlists => v.single_of_bulk g m h hlists hvisible
  · intro failure h
    obtain ⟨key, hlists, hvisible, hsingle⟩ := v.single_of_bulk_error g m h
    exact ⟨key, hvisible, hlists, hsingle⟩
  · exact fun h key hne => v.single_ok g m h hne

def earliestRule : Rule := fun _ current entry _ => .ok (current.or (entry.bind (·.value)))

def earliest : Policy Unit where
  label := "earliest"
  combine current key source _ := do
    let entry ← source.get key
    return current.or (entry.bind (·.value))

lemma earliest_obeys : earliest.Obeys .always earliestRule :=
  fun _ _ _ _ _ h => h.bind_ok (Yields.pure _)

def earliestFactory : Factory Unit := ⟨0, pure 1, fun _ => earliest⟩

def brokenFactory : Factory Unit :=
  ⟨1, throw (.foreign "RuntimeError" "no resources"), fun _ => earliest⟩

def twoPolicies : Resolver Unit :=
  ⟨0, .ofList [("earliest", earliestFactory), ("broken", brokenFactory)], .standard⟩

lemma forall_mem_twoPolicies {p : Factory Unit → Prop} (hearliest : p earliestFactory)
    (hbroken : p brokenFactory) : ∀ f ∈ twoPolicies.factories.values, p f :=
  List.forall_mem_cons.2 ⟨hearliest, List.forall_mem_singleton.2 hbroken⟩

def regularTwoPolicies : twoPolicies.Regular .always where
  rule f := if f.id = 0 then some earliestRule else none
  identity := forall_mem_twoPolicies
    (forall_mem_twoPolicies (fun _ => rfl) fun h => absurd h (by decide))
    (forall_mem_twoPolicies (fun h => absurd h (by decide)) fun _ => rfl)
  fails := forall_mem_twoPolicies (fun h => absurd h (by simp [earliestFactory]))
    fun _ => Ensures.pure ⟨_, rfl⟩
  builds := forall_mem_twoPolicies (fun _ _ => Ensures.pure ⟨_, rfl⟩)
    fun _ h => absurd h (by simp [brokenFactory])
  obeys := forall_mem_twoPolicies (fun _ h _ => by cases h; exact earliest_obeys)
    fun _ h => absurd h (by simp [brokenFactory])

def scannedEntries : Ledger String Entry :=
  ⟨[("queue", ⟨"queue", some "1", "scanned", .empty, by decide⟩),
    ("queue.combination-policy",
      ⟨"queue.combination-policy", some "broken", "scanned", .empty, by decide⟩),
    ("retries", ⟨"retries", some "2", "scanned", .empty, by decide⟩),
    ("retries.combination-policy",
      ⟨"retries.combination-policy", some "earliest", "scanned", .empty, by decide⟩)], by simp⟩

def queriedEntries : Ledger String Entry :=
  ⟨[("queue", ⟨"queue", some "3", "queried", .empty, by decide⟩),
    ("retries", ⟨"retries", some "4", "queried", .empty, by decide⟩)], by simp⟩

def scannedBelowQueried : List (Source Unit) :=
  [.ofEntries 0 "scanned" 0 true scannedEntries, .ofEntries 1 "queried" 10 false queriedEntries]

def steadyScannedBelowQueried : Steady .always scannedBelowQueried :=
  .ofTables .always (fun s => if s.id = 0 then scannedEntries else queriedEntries)
    (List.forall_mem_cons.2 ⟨fun _ => rfl, List.forall_mem_singleton.2 fun _ => rfl⟩)
    (List.forall_mem_cons.2 ⟨fun _ => rfl, List.forall_mem_singleton.2 fun h => by cases h⟩)

theorem resolve_agrees_with_resolveAll_twoPolicies :
    regularTwoPolicies.Total ∧
    ∃ merged, Yields regularTwoPolicies.memory
        ((⟨twoPolicies, .standard⟩ : Merge Unit).resolveAll scannedBelowQueried) (.ok merged) ∧
      (merged.pairs.map fun p => (p.1, p.2.value)) = [("queue", some "3"), ("retries", some "2")] ∧
      ∀ key ∈ ["queue", "retries"], ∃ found, Yields regularTwoPolicies.memory
          ((⟨twoPolicies, .standard⟩ : Merge Unit).resolve key scannedBelowQueried) (.ok found) ∧
        Option.Rel Entry.Same found (merged.get? key) := by
  have htotal : regularTwoPolicies.Total :=
    forall_mem_twoPolicies (fun _ h _ _ _ _ => by cases h; exact ⟨_, rfl⟩)
      fun _ h => absurd h (by simp [regularTwoPolicies, brokenFactory])
  obtain ⟨single, bulk, hsingle, hbulk, hagree, -, -⟩ :=
    steadyScannedBelowQueried.resolve_agrees_with_resolveAll regularTwoPolicies .standard
  have hstart : regularTwoPolicies.memory (.initial .error ()) :=
    ⟨trivial, forall_mem_twoPolicies (fun _ => rfl) fun _ => rfl⟩
  have hinOrder : Source.inOrder scannedBelowQueried = scannedBelowQueried :=
    List.mergeSort_of_pairwise (by decide)
  -- Whatever `resolveAll` comes to from a fresh memory is `bulk`, so one run tells its entries.
  have hrun : (bulk.toOption.map fun merged => merged.pairs.map fun p => (p.1, p.2.value)) =
      some [("queue", some "3"), ("retries", some "2")] := by
    rw [← (hbulk _ hstart).1, resolveAll, hinOrder]
    decide +kernel
  obtain ⟨merged, hmerged, hvalues⟩ := Option.map_eq_some_iff.1 hrun
  obtain rfl : bulk = .ok merged := by
    cases bulk <;> cases hmerged
    rfl
  have hlisted : ∀ key ∈ ["queue", "retries"], key ∈ scannedEntries.keys := by decide
  have hvisible : ∀ key ∈ ["queue", "retries"], MetaKeys.standard.isMeta key = false := by decide
  refine ⟨htotal, merged, hbulk, hvalues, fun key hkey => ?_⟩
  have hlists : steadyScannedBelowQueried.Lists key :=
    ⟨_, List.mem_cons_self, rfl, hlisted key hkey⟩
  obtain ⟨found, hfound, hsame⟩ := hagree merged rfl key (hvisible key hkey) hlists
  exact ⟨found, hfound ▸ hsingle key, hsame⟩

end LayeredConfig.Steady
