import LayeredConfig.Proofs.Metadata
import LayeredConfig.Proofs.Selection

/-! The outcome of a merge. A pass over all keys and the merge of a single key run the same rule
over the same entries with the same values in effect, so they agree on every key. -/

namespace LayeredConfig

variable {σ : Type} {P : Circumstance σ}

inductive SameOutcome : Except Failure (Option Entry) → Except Failure (Option Entry) → Prop
  | ok {found found' : Option Entry} :
    Option.Rel Entry.Same found found' → SameOutcome (.ok found) (.ok found')
  | error (failure : Failure) : SameOutcome (.error failure) (.error failure)

namespace Rule

def advance (φ : Rule) (key : String) (metadata : String → Option String) (running : Merge.Running)
    (holder : String × Entry) : Except Failure Merge.Running := do
  let value ← φ key running.value (some holder.2) metadata
  return ⟨value, if holder.2.value.isSome then some holder else running.contributor⟩

def run (φ : Rule) (key : String) (metadata : String → Option String)
    (holders : List (String × Entry)) : Except Failure Merge.Running :=
  holders.foldlM (φ.advance key metadata) ⟨none, none⟩

lemma Total.run {φ : Rule} (h : φ.Total) (key : String) (metadata : String → Option String)
    (holders : List (String × Entry)) : ∃ running, φ.run key metadata holders = .ok running := by
  rw [Rule.run]
  generalize (⟨none, none⟩ : Merge.Running) = start
  induction holders generalizing start with
  | nil => exact ⟨start, rfl⟩
  | cons holder holders ih =>
    obtain ⟨value, hv⟩ := h key start.value (some holder.2) metadata
    rw [List.foldlM_cons, advance, hv]
    exact ih _

end Rule

namespace Merge

lemma combineAll_yields {policy : Policy σ} {φ : Rule} (hp : policy.Obeys P φ) (key : String)
    (metadata : Ledger String String) (running : Running) {holders : List (Snapshot × Entry)}
    (h : ∀ p ∈ holders, p.1.entries.get? key = some p.2) :
    Yields P.world (combineAll policy key metadata running holders)
      ((holders.map fun p => (p.1.name, p.2)).foldlM (φ.advance key metadata.get?) running) := by
  induction holders generalizing running with
  | nil => exact Yields.pure running
  | cons p holders ih =>
    have hget : Yields P.world ((p.1.toSource : Source σ).get key) (.ok (some p.2)) := by
      rw [← h p (by simp)]
      exact Yields.pure _
    rw [List.map_cons, List.foldlM_cons, Rule.advance, bind_assoc]
    exact (hp running.value key _ _ metadata hget).bind fun value _ =>
      ih _ fun q hq => h q (by simp [hq])

lemma get?_of_mem_holders {key : String} {snapshots : List Snapshot} {p : Snapshot × Entry}
    (h : p ∈ holders key snapshots) : p.1.entries.get? key = some p.2 := by
  obtain ⟨s, _, hs⟩ := List.mem_filterMap.1 h
  obtain ⟨entry, he, rfl⟩ := Option.map_eq_some_iff.1 hs
  exact he

def named (key : String) (snapshots : List Snapshot) : List (String × Entry) :=
  (holders key snapshots).map fun p => (p.1.name, p.2)

def file (outcome : String → Except Failure (Option Entry)) (merged : Ledger String Entry)
    (key : String) : Except Failure (Ledger String Entry) := do
  match ← outcome key with
  | some entry => return merged.put key entry
  | none => return merged

def fileAll (outcome : String → Except Failure (Option Entry)) (keys : List String) :
    Except Failure (Ledger String Entry) :=
  keys.foldlM (file outcome) .empty

lemma get?_of_file {outcome : String → Except Failure (Option Entry)}
    {merged next : Ledger String Entry} {key : String} (h : file outcome merged key = .ok next) :
    ∃ found, outcome key = .ok found ∧
      ∀ k, next.get? k = if k = key then found.or (merged.get? k) else merged.get? k := by
  rw [file] at h
  cases ho : outcome key with
  | error failure => rw [ho] at h; cases h
  | ok found =>
    rw [ho] at h
    refine ⟨found, rfl, fun k => ?_⟩
    cases found <;> cases h
    · simp
    · simp [Ledger.get?_put]

lemma get?_of_foldlM_file {outcome : String → Except Failure (Option Entry)} {keys : List String}
    {start merged : Ledger String Entry} (h : keys.foldlM (file outcome) start = .ok merged)
    (key : String) :
    if key ∈ keys then ∃ found, outcome key = .ok found ∧ merged.get? key = found.or (start.get? key)
    else merged.get? key = start.get? key := by
  induction keys generalizing start with
  | nil => cases h; simp
  | cons k keys ih =>
    rw [List.foldlM_cons] at h
    cases hfile : file outcome start k with
    | error failure => rw [hfile] at h; cases h
    | ok next =>
      rw [hfile] at h
      obtain ⟨found, ho, hnext⟩ := get?_of_file hfile
      have hrest := ih h
      rw [hnext key] at hrest
      by_cases hk : key = k
      · subst hk
        by_cases hm : key ∈ keys
        · simpa [hm, ho, ← Option.or_assoc] using hrest
        · simpa [hm, ho] using hrest
      · simpa [hk] using hrest

lemma fileAll_ok {outcome : String → Except Failure (Option Entry)} {keys : List String}
    {merged : Ledger String Entry} (h : fileAll outcome keys = .ok merged) (key : String) :
    if key ∈ keys then outcome key = .ok (merged.get? key) else merged.get? key = none := by
  have hkey := get?_of_foldlM_file h key
  split
  · rename_i hm
    rw [if_pos hm] at hkey
    obtain ⟨found, ho, hg⟩ := hkey
    rw [ho, hg, Ledger.get?_empty, Option.or_none]
  · rename_i hm
    rwa [if_neg hm, Ledger.get?_empty] at hkey

lemma exists_of_fileAll_error {outcome : String → Except Failure (Option Entry)}
    {keys : List String} {failure : Failure} (h : fileAll outcome keys = .error failure) :
    ∃ key ∈ keys, outcome key = .error failure := by
  rw [fileAll] at h
  generalize Ledger.empty = start at h
  induction keys generalizing start with
  | nil => cases h
  | cons k keys ih =>
    rw [List.foldlM_cons, file] at h
    cases ho : outcome k with
    | error failure' =>
      rw [ho] at h
      cases h
      exact ⟨k, by simp, ho⟩
    | ok found =>
      rw [ho] at h
      cases found <;>
      · obtain ⟨key, hk, he⟩ := ih _ h
        exact ⟨key, by simp [hk], he⟩

lemma Running.entry?_some {running : Running} {key : String} {metadata : Ledger String String} {e : Entry}
    (h : running.entry? key metadata = .ok (some e)) : e.key = key ∧ e.value.isSome = true := by
  rw [Running.entry?] at h
  split at h
  · rename_i value name entry _ _
    cases hmake : Entry.make key (some value) name (entry.metadata.union metadata) with
    | error failure => rw [hmake] at h; cases h
    | ok made =>
      rw [hmake] at h
      cases h
      obtain ⟨hkey, hvalue, _⟩ := Entry.make_eq_ok_iff.1 hmake
      exact ⟨hkey, by rw [hvalue]; rfl⟩
  · cases h

lemma mergeKeys_gives {e : Merge σ} {snapshots : List Snapshot} {grouped : MetaKeys.Grouped}
    {keys : List String} {Q : String → Entry → Prop}
    (h : ∀ key ∈ keys, Gives (e.mergeKey key snapshots (grouped.at key)) fun found =>
      ∀ entry ∈ found, Q key entry) :
    Gives (e.mergeKeys snapshots grouped keys) fun merged =>
      ∀ key entry, merged.get? key = some entry → Q key entry := by
  refine Gives.foldlM (fun merged key hkey hmerged => ?_) fun _ _ hnone => (nomatch hnone)
  refine (h key hkey).bind fun found hfound => ?_
  cases found with
  | none => exact Gives.pure hmerged
  | some entry =>
    refine Gives.pure fun k e' hget => ?_
    rw [Ledger.get?_put] at hget
    split at hget
    · rename_i hk
      cases hget
      exact hk ▸ hfound entry rfl
    · exact hmerged k e' hget

end Merge

namespace Resolver.Regular

open Merge

variable {r : Resolver σ} (g : r.Regular P)

def outcome (key : String) (metadata : Ledger String String) (holders : List (String × Entry)) :
    Except Failure (Option Entry) := do
  let running ← (g.chosen key metadata.get?).run key metadata.get? holders
  running.entry? key metadata

lemma mergeKey_yields (m : MetaKeys) (key : String) (snapshots : List Snapshot)
    (metadata : Ledger String String) :
    Yields g.memory ((⟨r, m⟩ : Merge σ).mergeKey key snapshots metadata)
      (g.outcome key metadata (named key snapshots)) := by
  rw [mergeKey, named]
  have hholders := fun p (hp : p ∈ holders key snapshots) => get?_of_mem_holders hp
  cases hs : holders key snapshots with
  | nil => exact Yields.pure none
  | cons p rest =>
    rw [hs] at hholders
    refine Yields.lift (g.resolve_ensures key metadata) fun choice hobeys => ?_
    exact (Yields.call g.within (combineAll_yields hobeys key metadata ⟨none, none⟩ hholders)).bind
      fun running _ => Yields.make _

lemma mergeKeys_yields (m : MetaKeys) (snapshots : List Snapshot) (grouped : MetaKeys.Grouped)
    (keys : List String) :
    Yields g.memory ((⟨r, m⟩ : Merge σ).mergeKeys snapshots grouped keys)
      (fileAll (fun key => g.outcome key (grouped.at key) (named key snapshots)) keys) := by
  refine Yields.foldlM (fun merged key _ => ?_) Ledger.empty
  refine (g.mergeKey_yields m key snapshots (grouped.at key)).bind fun found _ => ?_
  cases found <;> exact Yields.pure _

lemma outcome_ok (h : g.Total) {key : String} (hne : key ≠ "") (metadata : Ledger String String)
    (holders : List (String × Entry)) : ∃ found, g.outcome key metadata holders = .ok found := by
  obtain ⟨running, hr⟩ := (g.chosen_total h key metadata.get?).run key metadata.get? holders
  rw [outcome, hr]
  change ∃ found, running.entry? key metadata = .ok found
  simp only [Running.entry?, Entry.make]
  split
  · rw [dif_pos hne]
    exact ⟨_, rfl⟩
  · exact ⟨none, rfl⟩

lemma entry?_same {key : String} {metadata metadata' : Ledger String String}
    (hm : ∀ name, metadata.get? name = metadata'.get? name) (running : Running) :
    SameOutcome (running.entry? key metadata) (running.entry? key metadata') := by
  simp only [Running.entry?]
  cases running.value with
  | none => exact .ok .none
  | some value =>
    cases running.contributor with
    | none => exact .ok .none
    | some holder =>
      by_cases hk : key = ""
      · simp only [Entry.make, hk]
        exact .error .emptyKey
      · simp only [Entry.make, hk, ne_eq, not_false_eq_true, dif_pos]
        refine .ok (.some ⟨rfl, rfl, rfl, fun name => ?_⟩)
        simp only [Ledger.get?_union, hm]

lemma outcome_some {key : String} {metadata : Ledger String String}
    {holders : List (String × Entry)} {e : Entry}
    (h : g.outcome key metadata holders = .ok (some e)) : e.key = key ∧ e.value.isSome = true := by
  rw [outcome] at h
  cases hrun : (g.chosen key metadata.get?).run key metadata.get? holders with
  | error failure => rw [hrun] at h; cases h
  | ok running =>
    rw [hrun] at h
    exact Running.entry?_some h

lemma outcome_same {key : String} {metadata metadata' : Ledger String String}
    (hm : ∀ name, metadata.get? name = metadata'.get? name) (holders : List (String × Entry)) :
    SameOutcome (g.outcome key metadata holders) (g.outcome key metadata' holders) := by
  simp only [outcome]
  rw [show metadata.get? = metadata'.get? from funext hm]
  cases (g.chosen key metadata'.get?).run key metadata'.get? holders with
  | error failure => exact .error failure
  | ok running => exact entry?_same hm running

end Resolver.Regular

namespace Steady

open Merge

variable {sources : List (Source σ)} (v : Steady P sources) {r : Resolver σ} (g : r.Regular P)

def holders (key : String) : List (String × Entry) :=
  (Source.inOrder sources).filterMap fun s => (v.held s key).map (s.name, ·)

lemma Reads.named {wanted : List String} {f : Source σ → Snapshot} (h : v.Reads wanted f)
    {key : String} (hkey : key ∈ wanted) :
    Merge.named key ((Source.inOrder sources).map f) = v.holders key := by
  rw [Merge.named, Merge.holders, List.filterMap_map, List.map_filterMap]
  refine List.filterMap_congr fun s hs => ?_
  have hs' := mem_inOrder.1 hs
  simp [h.entries s hs' key hkey, h.name s hs', Function.comp_def]

def single (m : MetaKeys) (key : String) : Except Failure (Option Entry) :=
  if m.isMeta key then .ok none
  else
    let snapshots := (Source.inOrder sources).map (v.asked (key :: candidates m key))
    g.outcome key ((Merge.metadata m snapshots).at key) (v.holders key)

def bulk (m : MetaKeys) : Except Failure (Ledger String Entry) :=
  let snapshots := (Source.inOrder sources).map (v.fetched (lookups m v.keys))
  fileAll (fun key => g.outcome key ((Merge.metadata m snapshots).at key) (Merge.named key snapshots))
    (v.keys.filter fun key => !m.isMeta key)

lemma resolve_yields (m : MetaKeys) (key : String) :
    Yields g.memory ((⟨r, m⟩ : Merge σ).resolve key sources) (v.single g m key) := by
  rw [Merge.resolve, single]
  split
  · exact Yields.pure none
  · refine (Yields.call g.within (v.ask_yields _)).bind_ok ?_
    rw [← (v.reads_asked (key :: candidates m key)).named v List.mem_cons_self]
    exact g.mergeKey_yields m key _ _

lemma resolveAll_yields (m : MetaKeys) :
    Yields g.memory ((⟨r, m⟩ : Merge σ).resolveAll sources) (v.bulk g m) := by
  refine (Yields.call g.within (v.fetch_yields m)).bind_ok ?_
  have hkeys := g.mergeKeys_yields m ((Source.inOrder sources).map (v.fetched (lookups m v.keys)))
    (Merge.metadata m ((Source.inOrder sources).map (v.fetched (lookups m v.keys))))
    (v.keys.filter fun key => !m.isMeta key)
  change Yields g.memory _ (v.bulk g m) at hkeys
  have hreport := hkeys.bind (g := Except.ok) fun merged _ =>
    Yields.report_act (f := pure merged) g.within .debug "merge_complete" none none
      [("sources", .integer sources.length), ("keys", .integer merged.size)] (Yields.pure merged)
  have hsame : (v.bulk g m >>= Except.ok) = v.bulk g m := by cases v.bulk g m <;> rfl
  rw [hsame] at hreport
  exact hreport

end Steady

end LayeredConfig
