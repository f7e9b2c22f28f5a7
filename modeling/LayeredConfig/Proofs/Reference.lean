import LayeredConfig.Proofs.Agreement

/-! What a merge leaves under a key, told by what the sources hold: the values in effect for the
names of the key, and with built-in policies the whole entry. -/

namespace LayeredConfig

variable {σ : Type} {P : Circumstance σ}

namespace Steady

open Merge

variable {sources : List (Source σ)} (v : Steady P sources)

def effective (m : MetaKeys) (ordered : List (Source σ)) (key name : String) : Option String :=
  if name ∈ m.names then
    (v.values ordered (MetaKeys.keyFor key name)).getLast?.or
      (v.values ordered (m.lead ++ MetaKeys.keyFor key name)).getLast?
  else none

lemma inEffect_last {m : MetaKeys} (hlead : m.lead.length ≤ 1) (hnames : m.Separate) {key : String}
    (hne : key ≠ "") (hvisible : m.isMeta key = false) (name : String) :
    m.inEffect v.last key name = v.effective m (Source.inOrder sources) key name := by
  rw [effective]
  split
  · rename_i hname
    exact MetaKeys.inEffect_eq hlead hnames hne hvisible hname v.last
  · rename_i hname
    exact MetaKeys.inEffect_eq_none hname

end Steady

structure Contribution where
  name : String
  entry : Entry
  text : String

def Contribution.holder (c : Contribution) : String × Entry := (c.name, c.entry)

def contributions (holders : List (String × Entry)) : List Contribution :=
  holders.filterMap fun h => h.2.value.map fun text => ⟨h.1, h.2, text⟩

namespace Rule

lemma run_eq {φ : Rule} {key : String} {metadata : String → Option String}
    {f : Option String → Option String → Option String}
    (hφ : ∀ current entry, φ key current (some entry) metadata = .ok (f current entry.value))
    (hf : ∀ current, f current none = current) (holders : List (String × Entry)) :
    φ.run key metadata holders =
      .ok ⟨(contributions holders).foldl (fun current c => f current (some c.text)) none,
        (contributions holders).getLast?.map Contribution.holder⟩ := by
  -- From any running state on, what the state brings stays unless a value follows.
  suffices h : ∀ start : Merge.Running, holders.foldlM (φ.advance key metadata) start =
      .ok ⟨(contributions holders).foldl (fun current c => f current (some c.text)) start.value,
        ((contributions holders).getLast?.map Contribution.holder).or start.contributor⟩ by
    simpa [Rule.run] using h ⟨none, none⟩
  induction holders with
  | nil => intro start; rfl
  | cons holder holders ih =>
    intro start
    rw [List.foldlM_cons, advance, hφ]
    change holders.foldlM (φ.advance key metadata) _ = _
    rw [ih, contributions, contributions, List.filterMap_cons]
    cases hv : holder.2.value with
    | none => simp [hf]
    | some text =>
      simp only [Option.map_some, List.foldl_cons, List.getLast?_cons, Option.isSome_some, if_true]
      cases (holders.filterMap fun h => h.2.value.map fun text =>
        (⟨h.1, h.2, text⟩ : Contribution)).getLast? <;> rfl

lemma run_override (key : String) (metadata : String → Option String)
    (holders : List (String × Entry)) :
    Rule.override.run key metadata holders =
      .ok ⟨(contributions holders).getLast?.map (·.text),
        (contributions holders).getLast?.map Contribution.holder⟩ := by
  rw [run_eq (f := fun current value => value.or current) (fun _ _ => rfl) (fun _ => rfl)]
  congr 2
  obtain he | ⟨front, c, he⟩ := List.eq_nil_or_concat (contributions holders) <;> simp [he]

lemma foldl_joined (metadata : String → Option String) (start : String) (texts : List String) :
    texts.foldl (fun current text => joined metadata current (some text)) (some start) =
      some (Text.join ((metadata MetaKeys.itemSeparator).getD Policy.defaultSeparator)
        (start :: texts)) := by
  induction texts generalizing start with
  | nil => rfl
  | cons text texts ih =>
    rw [List.foldl_cons, joined, ih, Text.join_append_cons]

lemma run_collect (key : String) (metadata : String → Option String)
    (holders : List (String × Entry)) :
    Rule.collect.run key metadata holders =
      .ok ⟨if (contributions holders).isEmpty then none
          else some (Text.join ((metadata MetaKeys.itemSeparator).getD Policy.defaultSeparator)
            ((contributions holders).map (·.text))),
        (contributions holders).getLast?.map Contribution.holder⟩ := by
  rw [run_eq (f := joined metadata) (fun _ _ => rfl) (fun _ => by cases ‹Option String› <;> rfl)]
  congr 2
  cases contributions holders with
  | nil => rfl
  | cons c cs =>
    rw [← List.foldl_map (f := Contribution.text)
      (g := fun current text => joined metadata current (some text)), List.map_cons, List.foldl_cons]
    exact foldl_joined metadata c.text (cs.map (·.text))

lemma contributor_of_nil {φ : Rule} {key : String} {metadata : String → Option String}
    {holders : List (String × Entry)} (hnil : contributions holders = []) {running : Merge.Running}
    (h : φ.run key metadata holders = .ok running) : running.contributor = none := by
  rw [Rule.run] at h
  have hstart : (⟨none, none⟩ : Merge.Running).contributor = none := rfl
  generalize (⟨none, none⟩ : Merge.Running) = start at h hstart
  induction holders generalizing start with
  | nil =>
    cases h
    exact hstart
  | cons holder holders ih =>
    obtain ⟨hvalue, hrest⟩ : holder.2.value = none ∧ contributions holders = [] := by
      simpa [contributions] using hnil
    rw [List.foldlM_cons, advance] at h
    cases hφ : φ key start.value (some holder.2) metadata with
    | error failure =>
      rw [hφ] at h
      cases h
    | ok value =>
      rw [hφ] at h
      exact ih hrest _ h (by simp [hvalue, hstart])

end Rule

def collects (metadata : String → Option String) : Bool :=
  (metadata MetaKeys.combinationPolicy).any fun text =>
    Text.lower (Text.strip text) = Policy.collectName

def combinedText (metadata : String → Option String) (cs : List Contribution) (last : Contribution) :
    String :=
  if collects metadata then
    Text.join ((metadata MetaKeys.itemSeparator).getD Policy.defaultSeparator) (cs.map (·.text))
  else last.text

/-- The entry that is left of the contributions to a key, the last of them given, under the
meta-entries in effect. -/
structure Left (effective : String → Option String) (key : String) (cs : List Contribution)
    (last : Contribution) (entry : Entry) : Prop where
  key : entry.key = key
  value : entry.value = some (combinedText effective cs last)
  source : entry.source = last.name
  metadata : ∀ name, entry.metadata.get? name = (effective name).or (last.entry.metadata.get? name)

namespace Resolver.Regular

section Total

variable {r : Resolver σ} (g : r.Regular P)

lemma outcome_exists (h : g.Total) {key : String} {holders : List (String × Entry)}
    (hnil : key = "" → contributions holders = []) (metadata : Ledger String String) :
    ∃ found, g.outcome key metadata holders = .ok found := by
  by_cases hne : key = ""
  · obtain ⟨running, hrun⟩ :=
      (g.chosen_total h key metadata.get?).run key metadata.get? holders
    have hcontributor := Rule.contributor_of_nil (hnil hne) hrun
    rw [outcome, hrun]
    change ∃ found, running.entry? key metadata = .ok found
    rw [Merge.Running.entry?, hcontributor]
    exact ⟨none, by cases running.value <;> rfl⟩
  · exact g.outcome_ok h hne metadata holders

end Total

def builtIn (P : Circumstance σ) (slot : Nat) (m : MetaKeys) :
    (⟨slot, .empty, m⟩ : Resolver σ).Regular P where
  rule _ := none
  identity _ hf := by cases hf
  fails _ hf := by cases hf
  builds _ hf := by cases hf
  obeys _ hf := by cases hf

variable (slot : Nat) {m : MetaKeys}

lemma builtIn_memory (memory : Memory σ) : (builtIn P slot m).memory memory ↔ P.memory memory :=
  ⟨fun h => h.1, fun h => ⟨h, fun _ hf => by cases hf⟩⟩

lemma builtIn_total : (builtIn P slot m).Total := fun _ hf => by cases hf

lemma builtIn_chosen {key : String} (hvisible : m.isMeta key = false)
    (metadata : String → Option String) :
    (builtIn P slot m).chosen key metadata =
      if collects metadata then Rule.collect else Rule.override := by
  rw [chosen, collects]
  rw [if_neg (by simp [hvisible])]
  cases metadata MetaKeys.combinationPolicy with
  | none => rfl
  | some text =>
    simp only [Option.any_some, decide_eq_true_eq]
    by_cases ho : Text.lower (Text.strip text) = Policy.overrideName
    · have hc : ¬ Policy.overrideName = Policy.collectName := by decide
      simp [ho, hc]
    · rw [if_neg ho]
      rfl

lemma builtIn_outcome {key : String} (hvisible : m.isMeta key = false)
    (metadata : Ledger String String) (holders : List (String × Entry)) :
    (builtIn P slot m).outcome key metadata holders =
      match (contributions holders).getLast? with
      | none => .ok none
      | some last =>
        some <$> Entry.make key (some (combinedText metadata.get? (contributions holders) last))
          last.name (last.entry.metadata.union metadata) := by
  simp only [outcome, combinedText]
  rw [builtIn_chosen slot hvisible]
  cases collects metadata.get? with
  | false =>
    simp only [Bool.false_eq_true, if_false, Rule.run_override]
    cases (contributions holders).getLast? <;> rfl
  | true =>
    simp only [if_true, Rule.run_collect]
    obtain he | ⟨front, c, he⟩ := List.eq_nil_or_concat (contributions holders)
    · rw [he]
      rfl
    · simp only [he, List.concat_eq_append, List.getLast?_concat]
      rw [if_neg (by simp)]
      rfl

lemma builtIn_outcome_nil {key : String} (hvisible : m.isMeta key = false)
    (metadata : Ledger String String) {holders : List (String × Entry)}
    (h : contributions holders = []) :
    (builtIn P slot m).outcome key metadata holders = .ok none := by
  rw [builtIn_outcome slot hvisible, h]
  rfl

lemma builtIn_outcome_some {key : String} (hvisible : m.isMeta key = false) (hne : key ≠ "")
    (metadata : Ledger String String) {holders : List (String × Entry)}
    (h : contributions holders ≠ []) :
    ∃ last entry, (contributions holders).getLast? = some last ∧
      (builtIn P slot m).outcome key metadata holders = .ok (some entry) ∧
        Left metadata.get? key (contributions holders) last entry := by
  have hlast := List.getLast?_eq_some_getLast h
  rw [builtIn_outcome slot hvisible, hlast]
  simp only [Entry.make, ne_eq, hne, not_false_eq_true, dif_pos]
  exact ⟨_, _, rfl, rfl, rfl, rfl, rfl, Ledger.get?_union _ _⟩

lemma builtIn_outcome_error {key : String} (hvisible : m.isMeta key = false)
    {metadata : Ledger String String} {holders : List (String × Entry)} {failure : Failure}
    (h : (builtIn P slot m).outcome key metadata holders = .error failure) :
    key = "" ∧ contributions holders ≠ [] ∧ failure = .emptyKey := by
  have hcs : contributions holders ≠ [] := by
    intro hcs
    rw [builtIn_outcome_nil slot hvisible metadata hcs] at h
    cases h
  by_cases hne : key = ""
  · rw [builtIn_outcome slot hvisible] at h
    rw [List.getLast?_eq_some_getLast hcs] at h
    simp only [Entry.make, ne_eq, hne, not_true_eq_false, dif_neg, not_false_eq_true] at h
    cases h
    exact ⟨hne, hcs, rfl⟩
  · obtain ⟨_, _, _, hok, _⟩ := builtIn_outcome_some (P := P) slot hvisible hne metadata hcs
    rw [hok] at h
    cases h

end Resolver.Regular

namespace Steady

open Merge Resolver.Regular

variable {sources : List (Source σ)} (v : Steady P sources)

def brought (ordered : List (Source σ)) (key : String) : List Contribution :=
  contributions (ordered.filterMap fun s => (v.held s key).map (s.name, ·))

lemma brought_inOrder (key : String) :
    v.brought (Source.inOrder sources) key = contributions (v.holders key) := rfl

lemma map_text_brought (ordered : List (Source σ)) (key : String) :
    (v.brought ordered key).map (·.text) = v.values ordered key := by
  rw [brought, contributions, List.filterMap_filterMap, List.map_filterMap, values]
  refine List.filterMap_congr fun s _ => ?_
  cases v.held s key with
  | none => rfl
  | some e => simp [Function.comp_def]

lemma held_of_mem_brought {ordered : List (Source σ)} {key : String} {c : Contribution}
    (h : c ∈ v.brought ordered key) : ∃ s ∈ ordered, v.held s key = some c.entry := by
  obtain ⟨holder, hholder, hc⟩ := List.mem_filterMap.1 h
  obtain ⟨text, -, rfl⟩ := Option.map_eq_some_iff.1 hc
  obtain ⟨s, hs, hheld⟩ := List.mem_filterMap.1 hholder
  obtain ⟨e, he, rfl⟩ := Option.map_eq_some_iff.1 hheld
  exact ⟨s, hs, he⟩

/-- There is something to merge under the key, and the pass does so. -/
def Remains (m : MetaKeys) (ordered : List (Source σ)) (key : String) : Prop :=
  m.isMeta key = false ∧ v.Lists key ∧ v.brought ordered key ≠ []

lemma exists_bulk {r : Resolver σ} (g : r.Regular P) (htotal : g.Total) {m : MetaKeys}
    (hempty : ¬ v.Remains m (Source.inOrder sources) "") :
    ∃ merged, v.bulk g m = .ok merged := by
  cases hbulk : v.bulk g m with
  | ok merged => exact ⟨merged, rfl⟩
  | error failure =>
    obtain ⟨key, hlists, hvisible, ho⟩ := v.bulk_error g m hbulk
    have hnil : key = "" → contributions (v.holders key) = [] := by
      rintro rfl
      by_contra hbrought
      exact hempty ⟨hvisible, hlists, hbrought⟩
    obtain ⟨found, hfound⟩ := g.outcome_exists htotal hnil _
    rw [combined, hfound] at ho
    cases ho

variable (slot : Nat)

lemma remains_empty_of_bulk_error {m : MetaKeys} {failure : Failure}
    (h : v.bulk (builtIn P slot m) m = .error failure) :
    v.Remains m (Source.inOrder sources) "" ∧ failure = .emptyKey := by
  obtain ⟨key, hlists, hvisible, ho⟩ := v.bulk_error _ m h
  obtain ⟨rfl, hbrought, hfailure⟩ := builtIn_outcome_error slot hvisible ho
  exact ⟨⟨hvisible, hlists, hbrought⟩, hfailure⟩

lemma bulk_of_remains_empty {m : MetaKeys} (h : v.Remains m (Source.inOrder sources) "") :
    v.bulk (builtIn P slot m) m = .error .emptyKey := by
  obtain ⟨hvisible, hlists, hbrought⟩ := h
  cases hbulk : v.bulk (builtIn P slot m) m with
  | error failure => rw [(v.remains_empty_of_bulk_error slot hbulk).2]
  | ok merged =>
    have ho := v.bulk_ok _ m hbulk hlists hvisible
    rw [brought_inOrder] at hbrought
    rw [combined, builtIn_outcome slot hvisible] at ho
    rw [List.getLast?_eq_some_getLast hbrought] at ho
    cases ho

lemma bulk_leaves {m : MetaKeys} {merged : Ledger String Entry}
    (h : v.bulk (builtIn P slot m) m = .ok merged) {key : String} (hne : key ≠ "")
    (hremains : v.Remains m (Source.inOrder sources) key) :
    ∃ last entry, (v.brought (Source.inOrder sources) key).getLast? = some last ∧
      merged.get? key = some entry ∧
        Left (m.inEffect v.last key) key (v.brought (Source.inOrder sources) key) last entry := by
  obtain ⟨hvisible, hlists, hbrought⟩ := hremains
  have ho := v.bulk_ok _ m h hlists hvisible
  obtain ⟨last, entry, hlast, hok, hleft⟩ :=
    builtIn_outcome_some (P := P) slot hvisible hne _ hbrought
  rw [show Ledger.get? _ = m.inEffect v.last key from
    funext (v.metadata_fetched hlists hvisible)] at hleft
  exact ⟨last, entry, hlast, by simpa using ho.symm.trans hok, hleft⟩

lemma mem_keys_bulk {m : MetaKeys} (hempty : ¬ v.Remains m (Source.inOrder sources) "")
    {merged : Ledger String Entry} (h : v.bulk (builtIn P slot m) m = .ok merged) (key : String) :
    key ∈ merged.keys ↔ v.Remains m (Source.inOrder sources) key := by
  rw [Ledger.mem_keys_iff]
  constructor
  · rintro ⟨entry, hentry⟩
    by_cases hkey : v.Lists key ∧ m.isMeta key = false
    · refine ⟨hkey.2, hkey.1, fun hnil => ?_⟩
      rw [brought_inOrder] at hnil
      have ho := v.bulk_ok _ m h hkey.1 hkey.2
      rw [combined, builtIn_outcome_nil slot hkey.2 _ hnil, hentry] at ho
      cases ho
    · rw [v.bulk_get?_eq_none _ m h hkey] at hentry
      cases hentry
  · intro hremains
    obtain ⟨_, entry, _, hentry, _⟩ := v.bulk_leaves slot h (fun he => hempty (he ▸ hremains)) hremains
    exact ⟨entry, hentry⟩

/-- With built-in policies a pass leaves exactly the visible keys that some source enumerates and
some source has a value for, each with what the values come to under the meta-entries in effect.
Only a value under the empty key makes it fail. -/
theorem resolveAll_leaves :
    ∃ ordered bulk, Source.Ascending sources ordered ∧
      Yields P.memory ((⟨⟨slot, .empty, .standard⟩, .standard⟩ : Merge σ).resolveAll sources) bulk ∧
      (v.Remains .standard ordered "" → bulk = .error .emptyKey) ∧
      (¬ v.Remains .standard ordered "" → ∃ merged, bulk = .ok merged ∧ ∀ key,
        (key ∈ merged.keys ↔ v.Remains .standard ordered key) ∧
        ∀ entry, merged.get? key = some entry → ∃ last,
          (v.brought ordered key).getLast? = some last ∧
          Left (v.effective .standard ordered key) key (v.brought ordered key) last entry) := by
  refine ⟨Source.inOrder sources, v.bulk (builtIn P slot .standard) .standard,
    Source.ascending_inOrder sources,
    (v.resolveAll_yields (builtIn P slot .standard) .standard).on (builtIn_memory slot),
    v.bulk_of_remains_empty slot, fun hempty => ?_⟩
  cases hbulk : v.bulk (builtIn P slot .standard) .standard with
  | error failure => exact absurd (v.remains_empty_of_bulk_error slot hbulk).1 hempty
  | ok merged =>
    refine ⟨merged, rfl, fun key => ⟨v.mem_keys_bulk slot hempty hbulk key, fun entry hentry => ?_⟩⟩
    have hremains := (v.mem_keys_bulk slot hempty hbulk key).1 (Ledger.mem_keys_of_get? hentry)
    have hne : key ≠ "" := fun he => hempty (he ▸ hremains)
    obtain ⟨last, entry', hlast, hentry', hleft⟩ := v.bulk_leaves slot hbulk hne hremains
    rw [hentry] at hentry'
    cases hentry'
    have heffective := v.inEffect_last (by decide) (by decide) hne hremains.1
    rw [funext heffective] at hleft
    exact ⟨last, hlast, hleft⟩

def lowEntries : Ledger String Entry :=
  ⟨[("k", ⟨"k", some "v", "low", .empty, by decide⟩),
    ("k.item-separator", ⟨"k.item-separator", some "-", "low", .empty, by decide⟩)], by decide⟩

def highEntries : Ledger String Entry :=
  ⟨[("_k.item-separator", ⟨"_k.item-separator", some ";", "high", .empty, by decide⟩)], by decide⟩

def spelledTwice : List (Source Unit) :=
  [.ofEntries 1 "high" 10 false highEntries, .ofEntries 0 "low" 0 true lowEntries]

def steadySpelledTwice : Steady .always spelledTwice :=
  .ofTables .always (fun s => if s.id = 0 then lowEntries else highEntries)
    (List.forall_mem_cons.2 ⟨fun _ => rfl, List.forall_mem_singleton.2 fun _ => rfl⟩)
    (List.forall_mem_cons.2 ⟨fun h => (by cases h), List.forall_mem_singleton.2 fun _ => rfl⟩)

lemma steadySpelledTwice_lists {key : String} :
    steadySpelledTwice.Lists key ↔ key ∈ lowEntries.keys := by
  constructor
  · rintro ⟨s, hs, hscan, hkey⟩
    obtain rfl | hs := List.mem_cons.1 hs
    · cases hscan
    · rwa [List.mem_singleton.1 hs] at hkey
  · exact fun hkey => ⟨_, List.mem_cons_of_mem _ List.mem_cons_self, rfl, hkey⟩

lemma brought_spelledTwice {ordered : List (Source Unit)} (h : ordered.Perm spelledTwice) :
    (steadySpelledTwice.brought ordered "k").map (·.text) = ["v"] := by
  rw [map_text_brought]
  exact List.perm_singleton.1 (h.filterMap _)

lemma separator_spelledTwice {ordered : List (Source Unit)} (h : ordered.Perm spelledTwice) :
    steadySpelledTwice.effective .standard ordered "k" MetaKeys.itemSeparator = some "-" := by
  have hplain :
      steadySpelledTwice.values ordered (MetaKeys.keyFor "k" MetaKeys.itemSeparator) = ["-"] :=
    List.perm_singleton.1 (h.filterMap _)
  rw [effective, if_pos (by decide), hplain]
  rfl

lemma policy_spelledTwice {ordered : List (Source Unit)} (h : ordered.Perm spelledTwice) :
    steadySpelledTwice.effective .standard ordered "k" MetaKeys.combinationPolicy = none := by
  have hplain :
      steadySpelledTwice.values ordered (MetaKeys.keyFor "k" MetaKeys.combinationPolicy) = [] :=
    List.perm_nil.1 (h.filterMap _)
  have hreserved : steadySpelledTwice.values ordered
      (MetaKeys.standard.lead ++ MetaKeys.keyFor "k" MetaKeys.combinationPolicy) = [] :=
    List.perm_nil.1 (h.filterMap _)
  rw [effective, if_pos (by decide), hplain, hreserved]
  rfl

theorem resolveAll_leaves_spelledTwice :
    ∃ ordered merged, Source.Ascending spelledTwice ordered ∧
      Yields (Circumstance.always.memory)
        ((⟨⟨0, .empty, .standard⟩, .standard⟩ : Merge Unit).resolveAll spelledTwice) (.ok merged) ∧
      (∀ key, key ∈ merged.keys ↔ steadySpelledTwice.Remains .standard ordered key) ∧
      ∃ entry, merged.get? "k" = some entry ∧ entry.value = some "v" ∧
        entry.metadata.get? MetaKeys.itemSeparator = some "-" := by
  obtain ⟨ordered, bulk, hordered, hbulk, -, hleaves⟩ := steadySpelledTwice.resolveAll_leaves 0
  have hbrought := brought_spelledTwice hordered.perm
  have hempty : ¬ steadySpelledTwice.Remains .standard ordered "" := by
    rintro ⟨-, hlists, -⟩
    exact absurd (steadySpelledTwice_lists.1 hlists) (by decide)
  -- The key is listed and has a value, whichever way round the sources are.
  have hremains : steadySpelledTwice.Remains .standard ordered "k" := by
    refine ⟨by decide, steadySpelledTwice_lists.2 (by decide), fun hnil => ?_⟩
    rw [hnil] at hbrought
    cases hbrought
  obtain ⟨merged, rfl, hkeys⟩ := hleaves hempty
  obtain ⟨entry, hentry⟩ := Ledger.mem_keys_iff.1 ((hkeys "k").1.2 hremains)
  obtain ⟨last, hlast, hleft⟩ := (hkeys "k").2 entry hentry
  refine ⟨ordered, merged, hordered, hbulk, fun key => (hkeys key).1, entry, hentry, ?_, ?_⟩
  · have htext : some last.text = some "v" := by
      rw [← Option.map_some, ← hlast, ← List.getLast?_map, hbrought]
      rfl
    rw [hleft.value, combinedText, collects, policy_spelledTwice hordered.perm]
    exact htext
  · rw [hleft.metadata, separator_spelledTwice hordered.perm]
    rfl

/-- For every name of a visible key that a source enumerates, both ways of merging combine the key
under the last value of the plain spelling, or else the last value of the reserved one. -/
theorem metadata_in_effect {r : Resolver σ} (g : r.Regular P) {m : MetaKeys}
    (hlead : m.lead.length ≤ 1) (hnames : m.Separate) {key : String} (hne : key ≠ "")
    (hvisible : m.isMeta key = false) (hlists : v.Lists key) :
    ∃ ordered, Source.Ascending sources ordered ∧
      ∃ (fetched asked : List Snapshot) (keys : List String)
        (bulk : Except Failure (Ledger String Entry)),
        Yields P.world (fetch m (Source.inOrder sources)) (.ok (fetched, keys)) ∧
        Yields P.world (ask (key :: candidates m key) (Source.inOrder sources)) (.ok asked) ∧
        (∀ name, ((Merge.metadata m fetched).at key).get? name = v.effective m ordered key name) ∧
        (∀ name, ((Merge.metadata m asked).at key).get? name = v.effective m ordered key name) ∧
        Yields g.memory ((⟨r, m⟩ : Merge σ).resolveAll sources) bulk ∧
        (∀ merged, bulk = .ok merged →
          g.outcome key ((Merge.metadata m fetched).at key) (v.holders key) =
            .ok (merged.get? key)) ∧
        Yields g.memory ((⟨r, m⟩ : Merge σ).resolve key sources)
          (g.outcome key ((Merge.metadata m asked).at key) (v.holders key)) := by
  refine ⟨Source.inOrder sources, Source.ascending_inOrder sources, _, _, _, v.bulk g m,
    v.fetch_yields m, v.ask_yields _, fun name => ?_, fun name => ?_, v.resolveAll_yields g m,
    fun merged hmerged => ?_, ?_⟩
  · rw [v.metadata_fetched hlists hvisible, v.inEffect_last hlead hnames hne hvisible]
  · rw [v.metadata_asked, v.inEffect_last hlead hnames hne hvisible]
  · exact v.bulk_ok g m hmerged hlists hvisible
  · have hsingle := v.resolve_yields g m key
    simpa [single, hvisible] using hsingle

theorem metadata_in_effect_spelledTwice :
    (MetaKeys.standard.lead.length ≤ 1 ∧ MetaKeys.standard.Separate ∧ "k" ≠ "" ∧
      MetaKeys.standard.isMeta "k" = false ∧ steadySpelledTwice.Lists "k") ∧
    (∃ ordered, Source.Ascending spelledTwice ordered ∧
      ∃ (fetched : List Snapshot) (keys : List String),
        Yields (Circumstance.world fun _ _ => True)
          (fetch .standard (Source.inOrder spelledTwice)) (.ok (fetched, keys)) ∧
        ∀ name, ((Merge.metadata .standard fetched).at "k").get? name =
          steadySpelledTwice.effective .standard ordered "k" name) ∧
    steadySpelledTwice.effective .standard spelledTwice.reverse "k" MetaKeys.itemSeparator =
      some "-" := by
  have hlists : steadySpelledTwice.Lists "k" :=
    ⟨.ofEntries 0 "low" 0 true lowEntries, by simp [spelledTwice], rfl, by decide⟩
  obtain ⟨ordered, hordered, fetched, _, keys, _, hfetched, _, heffective, _⟩ :=
    steadySpelledTwice.metadata_in_effect (m := .standard)
      (Resolver.Regular.builtIn _ 0 .standard) (by decide) (by decide) (by decide) (by decide) hlists
  exact ⟨⟨by decide, by decide, by decide, by decide, hlists⟩,
    ⟨ordered, hordered, fetched, keys, hfetched, heffective⟩, by decide⟩

end Steady

end LayeredConfig
