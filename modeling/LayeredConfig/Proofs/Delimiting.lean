import LayeredConfig.Conversion.Registry
import LayeredConfig.Proofs.Fallback
import LayeredConfig.Proofs.Reference

/-! Two separators of one key. The values of the key are joined with what the meta-entries in effect
say. The joined text is split at what its entry says, where the last value may have brought a separator
of its own. Meta-entries come first there too, so only that value can set the two apart. -/

namespace LayeredConfig

open Conversion

variable {σ : Type}

lemma exists_of_run_call {α β : Type} {x : Call σ α} {f : α → Act σ β} {m m' : Memory σ} {b : β}
    (h : ((liftM x : Act σ α) >>= f).run.run m = (.ok b, m')) :
    ∃ a w, x.run.run m.world = (.ok a, w) ∧ (f a).run.run { m with world := w } = (.ok b, m') := by
  cases hx : x.run.run m.world with
  | mk result w =>
    cases result with
    | error failure =>
      rw [run_bind_error (run_liftM hx)] at h
      cases h
    | ok a => exact ⟨a, w, rfl, (run_bind_ok (run_liftM hx)).symm.trans h⟩

namespace Resolver

variable {r : Resolver σ} {key : String} {metadata : Ledger String String}

lemma custom_gives (r : Resolver σ) (name : String) :
    Gives (r.custom name) fun choice => ∃ f serial, choice = .custom f serial := by
  rw [custom]
  split
  · exact Gives.throw _
  · rename_i f _
    refine Gives.after fun remembered => ?_
    cases remembered with
    | some serial => exact Gives.pure ⟨f, serial, rfl⟩
    | none =>
      refine Gives.after fun built => ?_
      cases built with
      | error cause => exact Gives.throw _
      | ok serial => exact Gives.after fun _ => Gives.pure ⟨f, serial, rfl⟩

lemma plain_eq_collect_iff :
    r.plain key metadata = .collect ↔
      r.metaKeys.isMeta key = false ∧ collects metadata.get? = true := by
  rw [plain, collects]
  cases r.metaKeys.isMeta key with
  | true => simp
  | false => cases metadata.get? MetaKeys.combinationPolicy <;> simp

lemma resolve_eq_collect_iff (m : Memory σ) :
    (r.resolve key metadata m).1 = .collect ↔
      r.metaKeys.isMeta key = false ∧ collects metadata.get? = true := by
  cases hname : r.customName? key metadata with
  | none =>
    obtain ⟨journal, -, hplain⟩ := resolve_plain hname m
    rw [hplain, plain_eq_collect_iff]
  | some name =>
    -- The name is none of the two built in, so neither side of the equivalence holds.
    have hbuiltIn : collects metadata.get? = false := by
      rw [customName?] at hname
      split at hname
      · cases hname
      · obtain ⟨hstrip, hcustom⟩ := Option.filter_eq_some_iff.1 hname
        obtain ⟨text, htext, rfl⟩ := Option.map_eq_some_iff.1 hstrip
        simp only [Policy.isBuiltIn, Bool.not_eq_true', decide_eq_false_iff_not, not_or] at hcustom
        simp [collects, htext, hcustom.2]
    have hchoice : (r.resolve key metadata m).1 ≠ .collect := by
      rw [resolve_custom hname]
      cases hrun : (r.custom name).run.run m with
      | mk result m' =>
        cases result with
        | error failure => simp
        | ok choice =>
          obtain ⟨f, serial, rfl⟩ := (r.custom_gives name).of_run (congrArg Prod.fst hrun)
          simp
    simp [hbuiltIn, hchoice]

end Resolver

namespace Merge

open Converter

variable {e : Merge σ} {key : String} {metadata : Ledger String String}

structure Joined (metadata : Ledger String String) (cs : List Contribution) (last : Contribution)
    (entry : Entry) : Prop where
  ends : cs.getLast? = some last
  value : entry.value = some (Text.join (Policy.separator metadata) (cs.map (·.text)))
  separator : ∀ q : Request σ, q.subject.metadata = entry.metadata → itemSeparator q =
    (metadata.get? MetaKeys.itemSeparator).getD
      (last.entry.metadata.getD MetaKeys.itemSeparator Tokens.defaultItemSeparator)

lemma joined_of_outcome {holders : List (String × Entry)} {entry : Entry}
    (h : Rule.collect.outcome key metadata holders = .ok (some entry)) :
    ∃ last, Joined (σ := σ) metadata (contributions holders) last entry := by
  rw [Rule.outcome, Rule.run_collect] at h
  obtain hcs | ⟨front, last, hcs⟩ := List.eq_nil_or_concat (contributions holders)
  · rw [hcs] at h
    cases h
  · rw [List.concat_eq_append] at hcs
    have hlast : (contributions holders).getLast? = some last := by rw [hcs, List.getLast?_concat]
    have hsome : ¬ (contributions holders).isEmpty = true := by simp [hcs]
    rw [if_neg hsome, hlast] at h
    change some <$> Entry.make key (some (Text.join (Policy.separator metadata)
      ((contributions holders).map (·.text)))) last.name (last.entry.metadata.union metadata) = _ at h
    generalize hmake : Entry.make _ _ _ _ = made at h
    cases made with
    | error failure => cases h
    | ok made =>
      cases h
      obtain ⟨-, hvalue, -, hmetadata⟩ := Entry.make_eq_ok_iff.1 hmake
      refine ⟨last, hlast, hvalue, fun q hq => ?_⟩
      rw [itemSeparator, hq, hmetadata, Ledger.getD, Ledger.get?_union, Option.getD_or]
      rfl

lemma Joined.agrees_iff {cs : List Contribution} {last : Contribution} {entry : Entry}
    (h : Joined (σ := σ) metadata cs last entry) {q : Request σ}
    (hq : q.subject.metadata = entry.metadata) :
    itemSeparator q = Policy.separator metadata ↔
      (metadata.get? MetaKeys.itemSeparator).isSome = true ∨
        last.entry.metadata.getD MetaKeys.itemSeparator Tokens.defaultItemSeparator =
          Policy.defaultSeparator := by
  rw [h.separator q hq, Policy.separator]
  simp only [Ledger.getD]
  cases metadata.get? MetaKeys.itemSeparator <;> simp

lemma mergeKey_of_collects (hvisible : e.resolver.metaKeys.isMeta key = false)
    (hcollects : collects metadata.get? = true) (snapshots : List Snapshot) :
    Yields (Circumstance.memory (σ := σ) fun _ _ => True) (e.mergeKey key snapshots metadata)
      (Rule.collect.outcome key metadata (named key snapshots)) := by
  rw [mergeKey, Rule.outcome, named]
  have hholders := fun p (hp : p ∈ holders key snapshots) => get?_of_mem_holders hp
  cases hs : holders key snapshots with
  | nil => exact Yields.pure none
  | cons p rest =>
    rw [hs] at hholders
    have hchoice : Ensures (Circumstance.memory fun _ _ => True) (e.resolver.resolve key metadata)
        (· = .collect) :=
      fun m _ => ⟨(Resolver.resolve_eq_collect_iff m).2 ⟨hvisible, hcollects⟩, trivial⟩
    refine Yields.lift hchoice ?_
    rintro _ rfl
    exact (Yields.call (Circumstance.within_memory _)
      (combineAll_yields Policy.collect_obeys key metadata ⟨none, none⟩ hholders)).bind
      fun running _ => Yields.make _

/-- How the entry of a key stands to the snapshots it was merged from, if the values of the key are
joined: the text is split where it was joined exactly if the meta-entries name a separator, or the
last value has brought none but the stock one. -/
def Delimited (e : Merge σ) (snapshots : List Snapshot) (key : String) (entry : Entry) : Prop :=
  ∀ m metadata, metadata = (Merge.metadata e.metaKeys snapshots).at key →
    (e.resolver.resolve key metadata m).1 = .collect →
    ∃ last, Joined (σ := σ) metadata (contributions (named key snapshots)) last entry ∧
      ∀ q : Request σ, q.subject.metadata = entry.metadata →
        (itemSeparator q = Policy.separator metadata ↔
          (metadata.get? MetaKeys.itemSeparator).isSome = true ∨
            last.entry.metadata.getD MetaKeys.itemSeparator Tokens.defaultItemSeparator =
              Policy.defaultSeparator)

lemma mergeKey_delimited (e : Merge σ) (key : String) (snapshots : List Snapshot) :
    Gives (e.mergeKey key snapshots ((Merge.metadata e.metaKeys snapshots).at key)) fun found =>
      ∀ entry ∈ found, e.Delimited snapshots key entry := by
  intro m _
  refine ⟨fun found hfound entry hentry m' metadata hmetadata hchoice => ?_, trivial⟩
  obtain rfl := hentry
  obtain ⟨hvisible, hcollects⟩ := (Resolver.resolve_eq_collect_iff m').1 hchoice
  have hrun := (mergeKey_of_collects hvisible hcollects snapshots m trivial).1
  rw [hmetadata, hfound] at hrun
  obtain ⟨last, hjoined⟩ := joined_of_outcome (σ := σ) hrun.symm
  rw [← hmetadata] at hjoined
  exact ⟨last, hjoined, fun q hq => hjoined.agrees_iff hq⟩

/-- Wherever a pass comes to an entry whose values were joined, over all keys or over one, the entry
is split where it was joined exactly if the meta-entries name a separator or the last value that was
joined has brought none but the stock one. -/
theorem separators_agree_iff (e : Merge σ) (sources : List (Source σ)) (m : Memory σ) :
    (∀ merged m', (e.resolveAll sources).run.run m = (.ok merged, m') →
      ∃ snapshots keys w,
        (fetch e.metaKeys (Source.inOrder sources)).run.run m.world = (.ok (snapshots, keys), w) ∧
        ∀ key entry, merged.get? key = some entry → e.Delimited snapshots key entry) ∧
    ∀ key entry m', (e.resolve key sources).run.run m = (.ok (some entry), m') →
      ∃ snapshots w,
        (ask (key :: candidates e.metaKeys key) (Source.inOrder sources)).run.run m.world =
          (.ok snapshots, w) ∧
        e.Delimited snapshots key entry := by
  constructor
  · intro merged m' h
    rw [resolveAll] at h
    obtain ⟨⟨snapshots, keys⟩, w, hfetch, hrest⟩ := exists_of_run_call h
    refine ⟨snapshots, keys, w, hfetch, ?_⟩
    refine Gives.of_run (Q := fun merged : Ledger String Entry => ∀ key entry,
      merged.get? key = some entry → e.Delimited snapshots key entry) ?_ (congrArg Prod.fst hrest)
    refine Gives.bind (mergeKeys_gives fun key _ => e.mergeKey_delimited key snapshots)
      fun merged hmerged => ?_
    exact Gives.after fun _ => Gives.pure hmerged
  · intro key entry m' h
    rw [resolve] at h
    split at h
    · cases h
    · obtain ⟨snapshots, w, hask, hrest⟩ := exists_of_run_call h
      exact ⟨snapshots, w, hask,
        (e.mergeKey_delimited key snapshots).of_run (congrArg Prod.fst hrest) entry rfl⟩

def stock : Merge Unit := ⟨⟨0, .empty, .standard⟩, .standard⟩

def mirrored (low : Ledger String Entry) : List (Source Unit) :=
  [.ofEntries 0 "low" 0 true low,
    .ofEntries 1 "high" 10 true (.ofList [("mirrors",
      ⟨"mirrors", some "b", "high", .ofList [("item-separator", ";")], by decide⟩)])]

lemma inOrder_mirrored (low : Ledger String Entry) : Source.inOrder (mirrored low) = mirrored low :=
  List.mergeSort_of_pairwise (by simp [mirrored, Source.ofEntries])

lemma exists_entry {τ β : Type} (run : Except Failure (Ledger String Entry) × τ) (key : String)
    (f : Entry → β) {b : β} (h : (run.1.toOption.bind (·.get? key)).map f = some b) :
    ∃ merged t entry, run = (.ok merged, t) ∧ merged.get? key = some entry ∧ f entry = b := by
  obtain ⟨entry, hentry, hf⟩ := Option.map_eq_some_iff.1 h
  obtain ⟨merged, hmerged, hget⟩ := Option.bind_eq_some_iff.1 hentry
  obtain ⟨result, t⟩ := run
  cases result with
  | error failure => cases hmerged
  | ok found =>
    cases hmerged
    exact ⟨merged, t, entry, rfl, hget, hf⟩

lemma exists_fetched {τ β : Type} (run : Except Failure (List Snapshot × List String) × τ)
    (f : List Snapshot → β) {b : β} (h : run.1.toOption.map (f ·.1) = some b) :
    ∃ snapshots keys t, run = (.ok (snapshots, keys), t) ∧ f snapshots = b := by
  obtain ⟨fetched, hfetched, hf⟩ := Option.map_eq_some_iff.1 h
  obtain ⟨result, t⟩ := run
  cases result with
  | error failure => cases hfetched
  | ok found =>
    cases hfetched
    exact ⟨_, _, t, rfl, hf⟩

def joining (snapshots : List Snapshot) : Bool × Option String :=
  let metadata := (Merge.metadata .standard snapshots).at "mirrors"
  (collects metadata.get?, metadata.get? MetaKeys.itemSeparator)

def namedLow : Ledger String Entry :=
  .ofList [("mirrors", ⟨"mirrors", some "a", "low", .empty, by decide⟩),
    ("mirrors.combination-policy",
      ⟨"mirrors.combination-policy", some "collect", "low", .empty, by decide⟩),
    ("mirrors.item-separator", ⟨"mirrors.item-separator", some "|", "low", .empty, by decide⟩)]

theorem separators_agree_named :
    ∃ merged m' entry,
      (stock.resolveAll (mirrored namedLow)).run.run (.initial .error ()) = (.ok merged, m') ∧
      merged.get? "mirrors" = some entry ∧ entry.value = some "a|b" ∧
      ∀ q : Request Unit, q.subject.metadata = entry.metadata → itemSeparator q = "|" := by
  obtain ⟨merged, m', entry, hrun, hget, hvalue⟩ := exists_entry
    ((stock.resolveAll (mirrored namedLow)).run.run (.initial .error ())) "mirrors" (·.value)
    (b := some "a|b") (by rw [resolveAll, inOrder_mirrored]; decide +kernel)
  obtain ⟨snapshots, keys, w, hfetch, hjoining⟩ := exists_fetched
    ((fetch .standard (Source.inOrder (mirrored namedLow))).run.run (.initial .error ())) joining
    (b := (true, some "|")) (by rw [inOrder_mirrored]; decide +kernel)
  obtain ⟨hcollects, hname⟩ := Prod.mk.inj hjoining
  obtain ⟨snapshots', keys', w', hfetch', hdelimited⟩ :=
    (separators_agree_iff stock (mirrored namedLow) (.initial .error ())).1 merged m' hrun
  cases hfetch.symm.trans hfetch'
  have hchoice : (stock.resolver.resolve "mirrors" ((Merge.metadata .standard snapshots).at "mirrors")
      (.initial .error ())).1 = .collect :=
    (Resolver.resolve_eq_collect_iff _).2 ⟨by decide, hcollects⟩
  obtain ⟨last, -, hagree⟩ := hdelimited "mirrors" entry hget (.initial .error ())
    ((Merge.metadata .standard snapshots).at "mirrors") rfl hchoice
  refine ⟨merged, m', entry, hrun, hget, hvalue, fun q hq => ?_⟩
  rw [(hagree q hq).2 (.inl (Option.isSome_of_eq_some hname)), Policy.separator, Ledger.getD, hname]
  rfl

def unnamedLow : Ledger String Entry :=
  .ofList [("mirrors", ⟨"mirrors", some "a", "low", .empty, by decide⟩),
    ("mirrors.combination-policy",
      ⟨"mirrors.combination-policy", some "collect", "low", .empty, by decide⟩)]

theorem separators_apart :
    (∃ snapshots keys w,
      (fetch .standard (Source.inOrder (mirrored unnamedLow))).run.run (.initial .error ()) =
        (.ok (snapshots, keys), w) ∧
      (∀ m, (stock.resolver.resolve "mirrors" ((Merge.metadata .standard snapshots).at "mirrors") m).1 =
        .collect) ∧
      Policy.separator ((Merge.metadata .standard snapshots).at "mirrors") = ",") ∧
    ∃ merged m' entry,
      (stock.resolveAll (mirrored unnamedLow)).run.run (.initial .error ()) = (.ok merged, m') ∧
      merged.get? "mirrors" = some entry ∧ entry.value = some "a,b" ∧
      ∀ q : Request Unit, q.subject.metadata = entry.metadata → itemSeparator q = ";" := by
  obtain ⟨snapshots, keys, w, hfetch, hjoining⟩ := exists_fetched
    ((fetch .standard (Source.inOrder (mirrored unnamedLow))).run.run (.initial .error ())) joining
    (b := (true, none)) (by rw [inOrder_mirrored]; decide +kernel)
  obtain ⟨hcollects, hname⟩ := Prod.mk.inj hjoining
  obtain ⟨merged, m', entry, hrun, hget, hentry⟩ := exists_entry
    ((stock.resolveAll (mirrored unnamedLow)).run.run (.initial .error ())) "mirrors"
    (fun e => (e.value, e.metadata.getD MetaKeys.itemSeparator Tokens.defaultItemSeparator))
    (b := (some "a,b", ";")) (by rw [resolveAll, inOrder_mirrored]; decide +kernel)
  obtain ⟨hvalue, hreads⟩ := Prod.mk.inj hentry
  refine ⟨⟨snapshots, keys, w, hfetch, fun m => ?_, ?_⟩, merged, m', entry, hrun, hget, hvalue,
    fun q hq => ?_⟩
  · exact (Resolver.resolve_eq_collect_iff m).2 ⟨by decide, hcollects⟩
  · rw [Policy.separator, Ledger.getD, hname]
    rfl
  · rw [itemSeparator, hq, hreads]

end Merge

end LayeredConfig
