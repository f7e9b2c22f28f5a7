import LayeredConfig.Proofs.Collections
import LayeredConfig.Proofs.Publication
import LayeredConfig.Proofs.Segments

/-! Values joined by the collect policy and split again. A separator is found in the joined text
exactly where it was put, so the items of every value come back and no others. -/

namespace LayeredConfig

namespace Tokens

/-- A separator that no other text helps to complete. -/
structure Clear (sep : String) : Prop where
  ne_empty : sep ≠ ""
  no_escape : escape ∉ sep.toList
  unbordered : Text.Unbordered sep.toList

structure Extensible (sep value : String) : Prop where
  ne_empty : value ≠ ""
  no_escape : value.toList.getLast? ≠ some escape
  no_separator : ¬ EndsInSeparator sep.toList value.toList

namespace Clear

variable {sep : String} (h : Clear sep)
include h

lemma toList_ne : sep.toList ≠ [] := by simpa using h.ne_empty

lemma getLast?_ne : sep.toList.getLast? ≠ some escape :=
  fun hlast => h.no_escape (List.mem_of_mem_getLast? hlast)

lemma splitFrom_append {value : String} (hvalue : Extensible sep value) (more : List Char) :
    splitFrom sep.toList h.toList_ne none (value.toList ++ (sep.toList ++ more)) =
      splitFrom sep.toList h.toList_ne none value.toList ++
        splitFrom sep.toList h.toList_ne none more := by
  have hsplit := fun cs => @splitFrom_eq _ h.toList_ne h.getLast?_ne none (by simp) cs
  have hend : (segments sep.toList h.toList_ne value.toList).getLast? ≠ some [] := by
    intro hend
    exact hvalue.no_separator
      (endsInSeparator_of_segments h.getLast?_ne (by simpa using hvalue.ne_empty) hend)
  rw [hsplit, hsplit, hsplit, segments_append h.unbordered h.getLast?_ne hvalue.no_escape,
    dropEmptyEnd_append _ (segments_ne_nil more)]
  rw [dropEmptyEnd, dropEmptyEnd, if_neg hend]

end Clear

def items (sep value : String) : List String := (split? value sep).getD []

lemma split?_eq_items {sep : String} (h : sep ≠ "") (value : String) :
    split? value sep = some (items sep value) := by
  have hsep : sep.toList ≠ [] := by simpa using h
  simp [items, split?, hsep]

lemma items_eq {sep : String} (h : sep.toList ≠ []) (value : String) :
    items sep value = (splitFrom sep.toList h none value.toList).map String.ofList := by
  rw [items, split?, dif_pos h, Option.getD_some]

lemma items_empty (sep : String) : items sep "" = [] := by
  by_cases h : sep.toList = []
  · simp [items, split?, h]
  · have hcut : Text.cut? sep.toList [] = none := by simp [Text.cut?, h]
    rw [items_eq h, String.toList_empty, splitFrom]
    split
    · rfl
    · simp [hcut] at *

lemma items_join {sep : String} (hsep : Clear sep) {values : List String}
    (h : ∀ value ∈ values.dropLast, Extensible sep value) :
    items sep (Text.join sep values) = values.flatMap (items sep) := by
  induction values with
  | nil => exact items_empty sep
  | cons value values ih =>
    cases values with
    | nil => simp [Text.join]
    | cons next rest =>
      have hvalue : Extensible sep value := h value (by simp)
      have hrest := ih fun other hother => h other (by simp [hother])
      rw [List.flatMap_cons, ← hrest]
      simp only [items_eq hsep.toList_ne, Text.join, String.toList_append, List.append_assoc]
      rw [hsep.splitFrom_append hvalue, List.map_append]

end Tokens

namespace Config

open Conversion

variable {σ : Type}

def textList : Target := .generic .list [.bare .text]

structure Splits (sep : String) (metadata : String → Option String) : Prop where
  separator : metadata MetaKeys.itemSeparator = some sep
  kind : metadata MetaKeys.collectionType = none
  readOnly : metadata MetaKeys.readOnly = none

def itemValues (sep value : String) : List Value :=
  (Tokens.items sep value).map fun item => .text (Text.strip item)

lemma itemValues_join {sep : String} (hsep : Tokens.Clear sep) {values : List String}
    (h : ∀ value ∈ values.dropLast, Tokens.Extensible sep value) :
    itemValues sep (Text.join sep values) = (values.map (itemValues sep)).flatten := by
  rw [itemValues, Tokens.items_join hsep h, List.map_flatMap, List.flatMap]
  rfl

lemma getAs_itemValues {runtime : Conversion.Runtime} {c : Config σ}
    (hconverters : c.converters = some (.standard runtime)) {key value sep : String} {e : Entry}
    (he : c.entry? key = some e) (hvalue : e.value = some value) (hne : sep ≠ "")
    (hsep : e.metadata.getD MetaKeys.itemSeparator Tokens.defaultItemSeparator = sep)
    (hkind : e.metadata.get? MetaKeys.collectionType = none)
    (hreadOnly : e.metadata.get? MetaKeys.readOnly = none) :
    c.getAs key textList none none = pure (some (.collection .list (itemValues sep value))) := by
  -- No kind of collection is requested, so the list that was asked for is built.
  have hbuilder : Builder.choose .list e.metadata = .cls .list := by
    have hword : ¬ Text.lower (Text.strip "false") = "true" := by decide
    simp [Builder.choose, Builder.isReadOnly, Ledger.getD, hkind, hreadOnly, hword]
  have hread : Reads (Registry.standard runtime : Registry σ)
      ⟨e.key, some c.entries, none, e.metadata⟩ textList value
      (.collection .list (itemValues sep value)) := by
    have hsplit : Tokens.split? value
        (e.metadata.getD MetaKeys.itemSeparator Tokens.defaultItemSeparator) =
          some (Tokens.items sep value) := by
      rw [hsep]
      exact Tokens.split?_eq_items hne value
    refine Reads.list hsplit ?_ hbuilder (Registry.standard_list runtime)
    rw [itemValues, List.forall₂_map_right_iff, List.forall₂_same]
    exact fun token _ => readsItem_text (Text.strip token)
  obtain ⟨formats, hconvert⟩ := hread
  rw [getAs, he]
  simp only [hvalue]
  rw [convert, hconverters]
  simp only [hconvert]
  rfl

lemma getAs_textList {runtime : Conversion.Runtime} {c : Config σ}
    (hconverters : c.converters = some (.standard runtime)) {key value sep : String} {e : Entry}
    (he : c.entry? key = some e) (hvalue : e.value = some value) (hsep : sep ≠ "")
    (hmetadata : Splits sep e.metadata.get?) :
    c.getAs key textList none none = pure (some (.collection .list (itemValues sep value))) := by
  refine getAs_itemValues hconverters he hvalue hsep ?_ hmetadata.kind hmetadata.readOnly
  rw [Ledger.getD, hmetadata.separator]
  rfl

end Config

open Merge Resolver.Regular

variable {σ : Type} {P : Circumstance σ}

namespace Resolver.Regular

variable {r : Resolver σ} (g : r.Regular P)

lemma chosen_of_collects {key : String} (hvisible : r.metaKeys.isMeta key = false)
    {metadata : String → Option String} (h : collects metadata = true) :
    g.chosen key metadata = Rule.collect := by
  have hpolicies : ¬ Policy.collectName = Policy.overrideName := by decide
  rw [collects] at h
  cases htext : metadata MetaKeys.combinationPolicy with
  | none =>
    rw [htext] at h
    cases h
  | some text =>
    have hname : Text.lower (Text.strip text) = Policy.collectName := by simpa [htext] using h
    rw [chosen, if_neg (by simp [hvisible]), htext]
    simp only
    -- The built-in names come first, so no custom policy is asked for.
    rw [if_neg (by rwa [hname]), if_pos hname]

lemma outcome_of_collects {key : String} (hvisible : r.metaKeys.isMeta key = false)
    {metadata : Ledger String String} (h : collects metadata.get? = true)
    (holders : List (String × Entry)) :
    g.outcome key metadata holders =
      (builtIn P r.slot r.metaKeys).outcome key metadata holders := by
  rw [outcome, outcome, g.chosen_of_collects hvisible h,
    (builtIn P r.slot r.metaKeys).chosen_of_collects hvisible h]

end Resolver.Regular

namespace Steady

variable {sources : List (Source σ)} (v : Steady P sources)

/-- The values of the key are joined with a separator, and nothing else is said of the key, by
meta-entries or by the entries themselves. -/
structure Joins (m : MetaKeys) (key sep : String) : Prop where
  visible : m.isMeta key = false
  policy : collects (m.inEffect v.last key) = true
  separator : m.inEffect v.last key MetaKeys.itemSeparator = some sep
  others : ∀ name, name ≠ MetaKeys.combinationPolicy → name ≠ MetaKeys.itemSeparator →
    m.inEffect v.last key name = none
  bare : ∀ s ∈ sources, ∀ e, v.held s key = some e → e.metadata = .empty

lemma Joins.of_names {m : MetaKeys} {key sep : String} (hvisible : m.isMeta key = false)
    (hpolicy : collects (m.inEffect v.last key) = true)
    (hseparator : m.inEffect v.last key MetaKeys.itemSeparator = some sep)
    (hothers : ∀ name ∈ m.names, name ≠ MetaKeys.combinationPolicy →
      name ≠ MetaKeys.itemSeparator → m.inEffect v.last key name = none)
    (hbare : ∀ s ∈ sources, ∀ e, v.held s key = some e → e.metadata = .empty) :
    v.Joins m key sep := by
  refine ⟨hvisible, hpolicy, hseparator, fun name hne hne' => ?_, hbare⟩
  by_cases hname : name ∈ m.names
  · exact hothers name hname hne hne'
  · exact MetaKeys.inEffect_eq_none hname

lemma Joins.splits {m : MetaKeys} {key sep : String} (h : v.Joins m key sep) :
    Config.Splits sep (m.inEffect v.last key) where
  separator := h.separator
  kind := h.others _ (by decide) (by decide)
  readOnly := h.others _ (by decide) (by decide)

lemma map_text_contributions (key : String) :
    (contributions (v.holders key)).map (·.text) = v.values (Source.inOrder sources) key :=
  v.map_text_brought (Source.inOrder sources) key

lemma bulk_joins {r : Resolver σ} (g : r.Regular P) {merged : Ledger String Entry}
    (hbulk : v.bulk g r.metaKeys = .ok merged) {key sep : String} (h : v.Joins r.metaKeys key sep)
    (hne : key ≠ "") (hlists : v.Lists key) (hvalues : v.values (Source.inOrder sources) key ≠ []) :
    ∃ entry, merged.get? key = some entry ∧
      entry.value = some (Text.join sep (v.values (Source.inOrder sources) key)) ∧
      ∀ name, entry.metadata.get? name = r.metaKeys.inEffect v.last key name := by
  have hmetadata := funext (v.metadata_fetched hlists h.visible)
  have ho := v.bulk_ok g r.metaKeys hbulk hlists h.visible
  have hcontributions : contributions (v.holders key) ≠ [] := by
    intro hnil
    rw [← map_text_contributions, hnil] at hvalues
    exact hvalues rfl
  rw [combined, g.outcome_of_collects h.visible (hmetadata ▸ h.policy)] at ho
  obtain ⟨last, entry, hlast, hok, hleft⟩ :=
    builtIn_outcome_some (P := P) r.slot h.visible hne _ hcontributions
  obtain ⟨s, hs, hheld⟩ := v.held_of_mem_brought (List.mem_of_getLast? hlast)
  rw [show Ledger.get? _ = r.metaKeys.inEffect v.last key from hmetadata] at hleft
  refine ⟨entry, by simpa using ho.symm.trans hok, ?_, fun name => ?_⟩
  · rw [hleft.value, combinedText, if_pos h.policy, h.separator, map_text_contributions]
    rfl
  · rw [hleft.metadata, h.bare s (mem_inOrder.1 hs) _ hheld, Ledger.get?_empty, Option.or_none]

end Steady

namespace Context

open Config Conversion

/-- Joining the values of a key and splitting the result gives the items of all values, in the
order of the sources, and none besides. -/
theorem getAs_collected {runtime : Conversion.Runtime} (c : Context σ) (hfilters : c.filters = [])
    (hconverters : c.converters = .standard runtime) (v : Steady P c.sources)
    (g : c.resolver.Regular P) (htotal : g.Total)
    (hempty : ¬ v.Remains c.resolver.metaKeys (Source.inOrder c.sources) "") {key sep : String}
    (hjoins : v.Joins c.resolver.metaKeys key sep) (hsep : Tokens.Clear sep)
    (hlists : v.Lists key) (hvalues : v.values (Source.inOrder c.sources) key ≠ [])
    (hextensible : ∀ value ∈ (v.values (Source.inOrder c.sources) key).dropLast,
      Tokens.Extensible sep value) :
    Source.Ascending c.sources (Source.inOrder c.sources) ∧
    ∃ (config : Config σ) (lists : List (List Value)),
      Yields g.memory c.resolve (.ok config) ∧
      config.getAs key textList none none = pure (some (.collection .list lists.flatten)) ∧
      List.Forall₂ (fun value list => ∀ (alone : Config σ) (e : Entry),
          alone.converters = some c.converters → alone.entry? key = some e →
          e.value = some value →
          (∀ name, e.metadata.get? name = c.resolver.metaKeys.inEffect v.last key name) →
          alone.getAs key textList none none = pure (some (.collection .list list)))
        (v.values (Source.inOrder c.sources) key) lists := by
  -- Nothing may remain under the empty key, and under this one something does.
  have hne : key ≠ "" := by
    rintro rfl
    refine hempty ⟨hjoins.visible, hlists, fun hnil => hvalues ?_⟩
    rw [Steady.brought_inOrder] at hnil
    rw [← v.map_text_contributions, hnil]
    rfl
  obtain ⟨merged, hmerged⟩ := v.exists_bulk g htotal hempty
  obtain ⟨entry, hentry, hvalue, hmetadata⟩ := v.bulk_joins g hmerged hjoins hne hlists hvalues
  have hgetAs : ∀ (config : Config σ) (e : Entry) (value : String),
      config.converters = some c.converters → config.entry? key = some e → e.value = some value →
      (∀ name, e.metadata.get? name = c.resolver.metaKeys.inEffect v.last key name) →
      config.getAs key textList none none =
        pure (some (.collection .list (itemValues sep value))) := by
    intro config e value hconfig he hvalue hmetadata
    rw [hconverters] at hconfig
    exact getAs_textList hconfig he hvalue hsep.ne_empty (funext hmetadata ▸ hjoins.splits)
  refine ⟨Source.ascending_inOrder _, ⟨merged, some c.converters⟩,
    (v.values (Source.inOrder c.sources) key).map (itemValues sep),
    c.resolve_of_bulk hfilters v g hmerged, ?_, ?_⟩
  · rw [← itemValues_join hsep hextensible]
    exact hgetAs _ entry _ rfl hentry hvalue hmetadata
  · rw [List.forall₂_map_right_iff, List.forall₂_same]
    exact fun value _ alone e hconfig he hvalue hmetadata =>
      hgetAs alone e value hconfig he hvalue hmetadata

def arrowLow : Ledger String Entry :=
  ⟨[("route", ⟨"route", some "x-", "low", .empty, by decide⟩),
    ("route.combination-policy",
      ⟨"route.combination-policy", some " Collect", "low", .empty, by decide⟩),
    ("route.item-separator",
      ⟨"route.item-separator", some "->", "low", .empty, by decide⟩)], by simp⟩

def arrowHigh : Ledger String Entry :=
  ⟨[("route", ⟨"route", some "y->z", "high", .empty, by decide⟩)], by simp⟩

def arrows : Context Unit where
  sources := [.ofEntries 0 "low" 0 true arrowLow, .ofEntries 1 "high" 10 false arrowHigh]
  filters := []
  converters := .standard .silent
  resolver := ⟨0, .empty, .standard⟩

def steadyArrows : Steady (fun _ _ => True) arrows.sources where
  held s := (if s.id = 0 then arrowLow else arrowHigh).get?
  listed _ := arrowLow
  get s hs key := by
    simp only [arrows, List.mem_cons, List.not_mem_nil, or_false] at hs
    rcases hs with rfl | rfl <;> exact Yields.pure _
  properties s hs hscan := by
    simp only [arrows, List.mem_cons, List.not_mem_nil, or_false] at hs
    rcases hs with rfl | rfl
    · exact Yields.pure _
    · cases hscan
  held_eq s hs hscan key := by
    simp only [arrows, List.mem_cons, List.not_mem_nil, or_false] at hs
    rcases hs with rfl | rfl
    · rfl
    · cases hscan

lemma inOrder_arrows : Source.inOrder arrows.sources = arrows.sources :=
  List.mergeSort_of_pairwise (by simp [arrows, Source.ofEntries])

lemma last_arrows :
    steadyArrows.last = fun key => (steadyArrows.values arrows.sources key).getLast? := by
  funext key
  change (steadyArrows.values (Source.inOrder arrows.sources) key).getLast? = _
  rw [inOrder_arrows]

lemma joins_arrows : steadyArrows.Joins .standard "route" "->" := by
  refine .of_names _ (by decide) ?_ ?_ ?_ ?_
  · rw [last_arrows]
    decide +kernel
  · rw [last_arrows]
    decide +kernel
  · rw [last_arrows]
    decide +kernel
  · intro s hs e he
    simp only [arrows, List.mem_cons, List.not_mem_nil, or_false] at hs
    rcases hs with rfl | rfl
    all_goals
      cases he
      rfl

theorem getAs_collected_arrows :
    (steadyArrows.Joins .standard "route" "->" ∧ Tokens.Clear "->" ∧ steadyArrows.Lists "route" ∧
      steadyArrows.values (Source.inOrder arrows.sources) "route" = ["x-", "y->z"] ∧
      Tokens.Extensible "->" "x-") ∧
    Source.Ascending arrows.sources (Source.inOrder arrows.sources) ∧
    ∃ (config : Config Unit) (lists : List (List Value)),
      Yields (builtIn (fun _ _ => True) 0 .standard).memory arrows.resolve (.ok config) ∧
      config.getAs "route" textList none none = pure (some (.collection .list lists.flatten)) ∧
      List.Forall₂ (fun value list => ∀ (alone : Config Unit) (e : Entry),
          alone.converters = some arrows.converters → alone.entry? "route" = some e →
          e.value = some value →
          (∀ name, e.metadata.get? name =
            MetaKeys.standard.inEffect steadyArrows.last "route" name) →
          alone.getAs "route" textList none none = pure (some (.collection .list list)))
        (steadyArrows.values (Source.inOrder arrows.sources) "route") lists := by
  have hclear : Tokens.Clear "->" := ⟨by decide, by decide, by decide⟩
  have hlists : steadyArrows.Lists "route" :=
    ⟨.ofEntries 0 "low" 0 true arrowLow, by simp [arrows], rfl, by decide⟩
  have hvalues : steadyArrows.values (Source.inOrder arrows.sources) "route" = ["x-", "y->z"] := by
    rw [inOrder_arrows]
    rfl
  have hextensible : Tokens.Extensible "->" "x-" := by
    refine ⟨by decide, by decide, ?_⟩
    rintro ⟨a, ha, -⟩
    have hlast := congrArg List.getLast? ha
    rw [List.getLast?_append_of_ne_nil _ (by decide)] at hlast
    exact absurd hlast (by decide)
  have hempty : ¬ steadyArrows.Remains .standard (Source.inOrder arrows.sources) "" := by
    rintro ⟨-, ⟨s, hs, hscan, hkey⟩, -⟩
    exact absurd (show "" ∈ arrowLow.keys from hkey) (by decide)
  refine ⟨⟨joins_arrows, hclear, hlists, hvalues, hextensible⟩, ?_⟩
  refine arrows.getAs_collected rfl rfl steadyArrows (builtIn (fun _ _ => True) 0 .standard)
    (builtIn_total 0) hempty joins_arrows hclear hlists (by simp [hvalues]) ?_
  rw [hvalues]
  simpa using hextensible

def vault : Ledger String Entry :=
  ⟨[("route", ⟨"route", some "a", "vault", .empty, by decide⟩),
    ("route.combination-policy",
      ⟨"route.combination-policy", some "collect", "vault", .empty, by decide⟩),
    ("route.item-separator",
      ⟨"route.item-separator", some ";", "vault", .empty, by decide⟩)], by simp⟩

def unlisted : Context Unit where
  sources := [.ofEntries 0 "vault" 0 false vault]
  filters := []
  converters := .standard .silent
  resolver := ⟨0, .empty, .standard⟩

def steadyUnlisted : Steady (fun _ _ => True) unlisted.sources where
  held _ := vault.get?
  listed _ := .empty
  get s hs key := by
    obtain rfl := List.mem_singleton.1 hs
    exact Yields.pure _
  properties s hs hscan := by
    obtain rfl := List.mem_singleton.1 hs
    cases hscan
  held_eq s hs hscan := by
    obtain rfl := List.mem_singleton.1 hs
    cases hscan

lemma inOrder_unlisted : Source.inOrder unlisted.sources = unlisted.sources :=
  List.mergeSort_singleton _

lemma joins_unlisted : steadyUnlisted.Joins .standard "route" ";" := by
  have hlast : steadyUnlisted.last =
      fun key => (steadyUnlisted.values unlisted.sources key).getLast? := by
    funext key
    change (steadyUnlisted.values (Source.inOrder unlisted.sources) key).getLast? = _
    rw [inOrder_unlisted]
  refine .of_names _ (by decide) ?_ ?_ ?_ ?_
  · rw [hlast]
    decide +kernel
  · rw [hlast]
    decide +kernel
  · rw [hlast]
    decide +kernel
  · intro s _ e he
    cases he
    rfl

/-- A key that only sources without an enumeration hold is left out of the snapshot, although its
value by itself would be a list. -/
theorem getAs_not_collected_unlisted :
    (unlisted.filters = [] ∧ unlisted.converters = .standard .silent ∧
      steadyUnlisted.Joins .standard "route" ";" ∧ Tokens.Clear ";" ∧
      steadyUnlisted.values (Source.inOrder unlisted.sources) "route" = ["a"]) ∧
    ∃ config : Config Unit,
      Yields (builtIn (fun _ _ => True) 0 .standard).memory unlisted.resolve (.ok config) ∧
      config.getAs "route" textList none none = pure none ∧
      ∀ (alone : Config Unit) (e : Entry), alone.converters = some unlisted.converters →
        alone.entry? "route" = some e → e.value = some "a" →
        (∀ name, e.metadata.get? name =
          MetaKeys.standard.inEffect steadyUnlisted.last "route" name) →
        alone.getAs "route" textList none none = pure (some (.collection .list [.text "a"])) := by
  have hclear : Tokens.Clear ";" := ⟨by decide, by decide, by decide⟩
  have hlists : ∀ key, ¬ steadyUnlisted.Lists key := by
    rintro key ⟨s, hs, hscan, -⟩
    obtain rfl := List.mem_singleton.1 hs
    cases hscan
  let g := builtIn (fun _ _ => True : Circumstance Unit) 0 .standard
  obtain ⟨merged, hmerged⟩ := steadyUnlisted.exists_bulk g (builtIn_total 0)
    (m := .standard) fun hremains => hlists "" hremains.2.1
  have habsent : merged.get? "route" = none :=
    steadyUnlisted.bulk_get?_eq_none g .standard hmerged fun hkey => hlists "route" hkey.1
  have hvalues : steadyUnlisted.values (Source.inOrder unlisted.sources) "route" = ["a"] := by
    rw [inOrder_unlisted]
    rfl
  have hitems : Tokens.items ";" "a" = ["a"] := by
    rw [Tokens.items_eq (by decide), Tokens.splitFrom_eq (by decide) (by decide),
      Tokens.segments_of_none (by decide)]
    rfl
  refine ⟨⟨rfl, rfl, joins_unlisted, hclear, hvalues⟩, ⟨merged, some unlisted.converters⟩,
    unlisted.resolve_of_bulk rfl steadyUnlisted g hmerged, ?_, ?_⟩
  · rw [getAs, entry?, habsent]
  · intro alone e hconverters he hvalue hmetadata
    have hget := getAs_textList hconverters he hvalue (by decide)
      (funext hmetadata ▸ joins_unlisted.splits)
    rw [hget, itemValues, hitems]
    rfl

end Context

end LayeredConfig
