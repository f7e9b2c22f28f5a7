import LayeredConfig.Proofs.Collecting
import LayeredConfig.Proofs.Pieces
import LayeredConfig.Proofs.Sequences
import Mathlib.Data.List.Chain

/-! Lists that a mapping source holds, read back. The list is joined with commas when the source is
made, and split at the separator that is in effect when the value is read. With a separator of its
own a list comes back only if it has one item and neither of the two separators is in it. -/

namespace LayeredConfig

namespace Text

variable {c s : Char}

lemma count_pieces (hne : c ≠ s) (cs : List Char) :
    (pieces [s] (by simp) cs).flatten.count c = cs.count c := by
  fun_induction pieces [s] (by simp) cs with
  | case1 cs hcut => simp
  | case2 cs a b hcut ih =>
    have hs : [s].count c = 0 := List.count_eq_zero.2 (by simpa using hne)
    rw [List.flatten_cons, List.count_append, ih, eq_of_cut? hcut, List.count_append,
      List.count_append, hs, Nat.add_zero]

lemma count_dropWhile_isBlank (h : isBlank c = false) (cs : List Char) :
    (cs.dropWhile isBlank).count c = cs.count c := by
  induction cs with
  | nil => rfl
  | cons d cs ih =>
    rw [List.dropWhile_cons]
    split
    · rename_i hd
      have hne : d ≠ c := by
        rintro rfl
        rw [h] at hd
        cases hd
      rw [ih, List.count_cons_of_ne hne]
    · rfl

lemma count_trim (h : isBlank c = false) (cs : List Char) : (trim cs).count c = cs.count c := by
  rw [trim, trimEnd, trimStart, List.count_reverse, count_dropWhile_isBlank h, List.count_reverse,
    count_dropWhile_isBlank h]

lemma mem_of_mem_trim {cs : List Char} (h : c ∈ trim cs) : c ∈ cs := by
  rw [trim, trimEnd, trimStart, List.mem_reverse] at h
  have hend := (List.dropWhile_suffix isBlank).subset h
  exact (List.dropWhile_suffix isBlank).subset (List.mem_reverse.1 hend)

lemma toList_strip (x : String) : (strip x).toList = trim x.toList := String.toList_ofList

end Text

namespace Tokens

open Text

variable {s : Char}

lemma segments_eq_pieces {cs : List Char}
    (h : ∀ a b, cs = a ++ s :: b → a.getLast? ≠ some escape) :
    segments [s] (by simp) cs = pieces [s] (by simp) cs := by
  fun_induction pieces [s] (by simp) cs with
  | case1 cs hcut => exact segments_of_none hcut
  | case2 cs a b hcut ih =>
    have hcs : cs = a ++ s :: b := by simpa using eq_of_cut? hcut
    rw [segments_of_some hcut, if_neg (h a b hcs), ih fun a' b' hb hlast => ?_]
    have hfront : (a ++ s :: a').getLast? ≠ some escape := h _ b' (by simp [hcs, hb])
    rw [List.getLast?_append_of_ne_nil _ (by simp)] at hfront
    cases a' with
    | nil => cases hlast
    | cons d a' => exact hfront (by rwa [List.getLast?_cons_cons])

lemma flatten_dropEmptyEnd (items : List (List Char)) : (dropEmptyEnd items).flatten = items.flatten := by
  rw [dropEmptyEnd]
  split
  · rename_i hlast
    obtain ⟨front, rfl⟩ := List.getLast?_eq_some_iff.1 hlast
    simp
  · rfl

lemma mem_of_mem_dropEmptyEnd {item : List Char} {items : List (List Char)}
    (h : item ∈ dropEmptyEnd items) : item ∈ items := by
  rw [dropEmptyEnd] at h
  split at h
  · exact List.mem_of_mem_dropLast h
  · exact h

def occurrences (c : Char) (items : List String) : Nat := (items.flatMap String.toList).count c

lemma occurrences_cons (c : Char) (x : String) (xs : List String) :
    occurrences c (x :: xs) = x.toList.count c + occurrences c xs := by
  rw [occurrences, List.flatMap_cons, List.count_append]
  rfl

lemma occurrences_singleton (c : Char) (x : String) : occurrences c [x] = x.toList.count c := by
  rw [occurrences, List.flatMap_singleton]

lemma occurrences_eq_zero_iff {c : Char} {items : List String} :
    occurrences c items = 0 ↔ ∀ x ∈ items, c ∉ x.toList := by
  simp [occurrences, List.count_eq_zero]

def readItems (sep value : String) : List String := (items sep value).map strip

lemma items_singleton (hs : s ≠ escape) {value : String}
    (h : ∀ a b, value.toList = a ++ s :: b → a.getLast? ≠ some escape) :
    items (String.singleton s) value =
      (dropEmptyEnd (pieces [s] (by simp) value.toList)).map String.ofList := by
  rw [items, split?_eq hs, segments_eq_pieces h, Option.getD_some]

lemma occurrences_readItems (hs : s ≠ escape) {value : String}
    (h : ∀ a b, value.toList = a ++ s :: b → a.getLast? ≠ some escape) {c : Char} (hne : c ≠ s)
    (hblank : isBlank c = false) :
    occurrences c (readItems (String.singleton s) value) = value.toList.count c := by
  have hcount := count_pieces hne value.toList
  rw [← flatten_dropEmptyEnd, List.count_flatten] at hcount
  rw [readItems, occurrences, items_singleton hs h, List.map_map, List.flatMap_map, List.count_flatMap,
    ← hcount]
  refine congrArg List.sum (List.map_congr_left fun piece _ => ?_)
  simp [toList_strip, count_trim hblank]

lemma not_mem_of_mem_readItems (hs : s ≠ escape) {value x : String}
    (h : ∀ a b, value.toList = a ++ s :: b → a.getLast? ≠ some escape)
    (hx : x ∈ readItems (String.singleton s) value) : s ∉ x.toList := by
  obtain ⟨item, hitem, rfl⟩ := List.mem_map.1 hx
  rw [items_singleton hs h] at hitem
  obtain ⟨piece, hpiece, rfl⟩ := List.mem_map.1 hitem
  rw [toList_strip, String.toList_ofList]
  exact fun hmem => not_mem_of_mem_pieces (mem_of_mem_dropEmptyEnd hpiece) (mem_of_mem_trim hmem)

end Tokens

namespace Data

open Tokens

/-- An item that a list can hold and still be read: some text, without an escape in it and without
blanks around it. -/
structure Plain (x : String) : Prop where
  ne_empty : x ≠ ""
  no_escape : escape ∉ x.toList
  stripped : Text.strip x = x

lemma recoverable_of_plain {xs : List String} (hxs : xs ≠ []) (h : ∀ x ∈ xs, Plain x) :
    Recoverable xs := by
  refine ⟨⟨xs.getLast hxs, List.getLast?_eq_some_getLast hxs, ?_⟩, fun x hx hends => ?_⟩
  · exact (h _ (List.getLast_mem hxs)).ne_empty
  · exact (h x (List.mem_of_mem_dropLast hx)).no_escape (List.mem_of_mem_getLast? hends)

def Escaping (cs : List Char) : Prop := cs.IsChain fun a b => a = escape → b = itemSeparator

lemma escaping_escapeItem {x : String} (h : escape ∉ x.toList) : Escaping (escapeItem x).toList := by
  rw [toList_escapeItem]
  generalize x.toList = cs at h
  induction cs with
  | nil => exact List.isChain_nil
  | cons c cs ih =>
    obtain ⟨hc, hcs⟩ : escape ≠ c ∧ escape ∉ cs := by simpa using h
    have hrest := ih hcs
    change Escaping ((if c = itemSeparator then [escape, itemSeparator] else [c]) ++
      Text.substitute itemSeparator [escape, itemSeparator] cs)
    refine List.isChain_append.2 ⟨?_, hrest, fun a ha b _ hescape => ?_⟩
    · split
      · simp
      · exact List.isChain_singleton c
    · split at ha
      · obtain rfl : itemSeparator = a := by simpa using ha
        cases hescape
      · obtain rfl : c = a := by simpa using ha
        exact absurd hescape.symm hc

lemma escaping_joinItems {xs : List String} (h : ∀ x ∈ xs, escape ∉ x.toList) :
    Escaping (joinItems xs).toList := by
  induction xs with
  | nil => exact List.isChain_nil
  | cons x xs ih =>
    have hx := escaping_escapeItem (h x (by simp))
    cases xs with
    | nil => exact hx
    | cons y ys =>
      have hrest := ih fun z hz => h z (by simp [hz])
      rw [joinItems_cons]
      refine List.isChain_append.2 ⟨hx, List.isChain_append.2 ⟨List.isChain_singleton _, hrest, ?_⟩, ?_⟩
      · intro a ha _ _ hescape
        obtain rfl : itemSeparator = a := by simpa using ha
        cases hescape
      · intro _ _ b hb _
        simpa [eq_comm] using hb

lemma getLast?_ne_of_escaping {s : Char} (hs : s ≠ itemSeparator) {cs : List Char}
    (h : Escaping cs) (a b : List Char) (hcs : cs = a ++ s :: b) : a.getLast? ≠ some escape := by
  intro hlast
  rw [hcs] at h
  exact hs ((List.isChain_append.1 h).2.2 escape hlast s rfl rfl)

lemma count_escapeItem_separator (x : String) :
    (escapeItem x).toList.count itemSeparator = x.toList.count itemSeparator := by
  rw [toList_escapeItem]
  induction x.toList with
  | nil => rfl
  | cons c cs ih =>
    change ((if c = itemSeparator then [escape, itemSeparator] else [c]) ++
      Text.substitute itemSeparator [escape, itemSeparator] cs).count itemSeparator = _
    rw [List.count_append, ih, List.count_cons]
    split
    · rename_i hc
      have hpair : [escape, itemSeparator].count itemSeparator = 1 := by decide
      simp [hc, hpair, Nat.add_comm]
    · rename_i hc
      simp [hc]

lemma count_escapeItem_escape (x : String) :
    (escapeItem x).toList.count escape = x.toList.count escape + x.toList.count itemSeparator := by
  rw [toList_escapeItem]
  induction x.toList with
  | nil => rfl
  | cons c cs ih =>
    change ((if c = itemSeparator then [escape, itemSeparator] else [c]) ++
      Text.substitute itemSeparator [escape, itemSeparator] cs).count escape = _
    rw [List.count_append, ih, List.count_cons, List.count_cons]
    split
    · rename_i hc
      have hpair : [escape, itemSeparator].count escape = 1 := by decide
      have hne : ¬ itemSeparator = escape := by decide
      simp [hc, hpair, hne]
      omega
    · rename_i hc
      have hnot : ¬ (c == itemSeparator) = true := by simpa using hc
      rw [if_neg hnot, List.count_singleton]
      omega

lemma count_joinItems_separator {xs : List String} (h : xs ≠ []) :
    (joinItems xs).toList.count itemSeparator + 1 = occurrences itemSeparator xs + xs.length := by
  induction xs with
  | nil => exact absurd rfl h
  | cons x xs ih =>
    cases xs with
    | nil => rw [joinItems_singleton, count_escapeItem_separator, occurrences_singleton]; rfl
    | cons y ys =>
      have hrest := ih (by simp)
      have hsep : [itemSeparator].count itemSeparator = 1 := by decide
      rw [joinItems_cons, List.count_append, List.count_append, count_escapeItem_separator, hsep]
      rw [occurrences_cons, List.length_cons]
      omega

lemma count_joinItems_escape (xs : List String) :
    (joinItems xs).toList.count escape = occurrences escape xs + occurrences itemSeparator xs := by
  induction xs with
  | nil => rfl
  | cons x xs ih =>
    cases xs with
    | nil => rw [joinItems_singleton, count_escapeItem_escape, occurrences_singleton, occurrences_singleton]
    | cons y ys =>
      have hsep : [itemSeparator].count escape = 0 := by decide
      rw [joinItems_cons, List.count_append, List.count_append, count_escapeItem_escape, hsep, ih]
      rw [occurrences_cons escape x, occurrences_cons itemSeparator x]
      omega

lemma escapeItem_eq_self {x : String} (h : itemSeparator ∉ x.toList) : escapeItem x = x := by
  rw [escapeItem, substitute_eq_self h, String.ofList_toList]

lemma readItems_joined {xs : List String} (hxs : xs ≠ []) (h : ∀ x ∈ xs, Plain x) :
    readItems (String.singleton itemSeparator) (joinItems xs) = xs := by
  have hsplit : split? (joinItems xs) (String.singleton itemSeparator) = some xs :=
    split?_of_recoverable (recoverable_of_plain hxs h)
  rw [readItems, items, hsplit, Option.getD_some]
  exact (List.map_congr_left fun x hx => (h x hx).stripped).trans (List.map_id xs)

lemma readItems_single {x : String} (hx : Plain x) {s : Char} (hs : s ≠ escape)
    (hmem : s ∉ x.toList) : readItems (String.singleton s) x = [x] := by
  have hpieces : Text.pieces [s] (by simp) x.toList = [x.toList] := by
    rw [Text.pieces]
    split
    · rfl
    · rename_i hcut
      rw [Text.cut?_singleton hmem] at hcut
      cases hcut
  have hend : dropEmptyEnd [x.toList] = [x.toList] := if_neg (by simpa using hx.ne_empty)
  rw [readItems, items_singleton hs fun a b hab => absurd (by simp [hab]) hmem, hpieces, hend]
  simp [hx.stripped]

lemma readItems_joinItems_eq_iff {xs : List String} (hxs : xs ≠ []) (h : ∀ x ∈ xs, Plain x)
    {s : Char} (hs : s ≠ escape) :
    readItems (String.singleton s) (joinItems xs) = xs ↔
      s = itemSeparator ∨ ∃ x, xs = [x] ∧ itemSeparator ∉ x.toList ∧ s ∉ x.toList := by
  have hescape : ∀ x ∈ xs, escape ∉ x.toList := fun x hx => (h x hx).no_escape
  constructor
  · intro hread
    by_cases hcomma : s = itemSeparator
    · exact .inl hcomma
    have hbare := getLast?_ne_of_escaping hcomma (escaping_joinItems hescape)
    -- Commas and escapes that the joining put in are still there after the splitting.
    have hseparators := occurrences_readItems hs hbare (Ne.symm hcomma) (by decide)
    have hescapes := occurrences_readItems hs hbare (Ne.symm hs) (by decide)
    rw [hread] at hseparators hescapes
    have hjoined := count_joinItems_separator hxs
    have hescaped := count_joinItems_escape xs
    obtain ⟨x, rfl⟩ := List.length_eq_one_iff.1 (show xs.length = 1 by omega)
    have hnone : occurrences itemSeparator [x] = 0 := by omega
    refine .inr ⟨x, rfl, occurrences_eq_zero_iff.1 hnone x (by simp), ?_⟩
    exact not_mem_of_mem_readItems hs hbare (by rw [hread]; simp)
  · rintro (rfl | ⟨x, rfl, hcomma, hmem⟩)
    · exact readItems_joined hxs h
    · rw [joinItems_singleton, escapeItem_eq_self hcomma]
      exact readItems_single (h x (by simp)) hs hmem

end Data

lemma Entry.metadata_of_all {source : String} {metadata : Ledger String String}
    {values : Ledger String (Option String)} {entries : Ledger String Entry}
    (h : all source metadata values = .ok entries) {key : String} {e : Entry}
    (he : entries.get? key = some e) : e.metadata = metadata :=
  (make_eq_ok_iff.1 (make_of_all h he)).2.2.2

open Merge Resolver.Regular

variable {σ : Type} {P : Circumstance σ}

namespace Resolver.Regular

variable {r : Resolver σ} (g : r.Regular P)

lemma outcome_of_no_policy {key : String} {metadata : Ledger String String}
    (h : metadata.get? MetaKeys.combinationPolicy = none) (holders : List (String × Entry)) :
    g.outcome key metadata holders =
      (builtIn P r.slot r.metaKeys).outcome key metadata holders := by
  have hchosen (g' : (⟨r.slot, .empty, r.metaKeys⟩ : Resolver σ).Regular P) :
      g.chosen key metadata.get? = g'.chosen key metadata.get? := by
    rw [chosen, chosen, h]
  rw [outcome, outcome, hchosen]

end Resolver.Regular

namespace Steady

variable {sources : List (Source σ)} (v : Steady P sources)

lemma value_of_mem_brought {ordered : List (Source σ)} {key : String} {c : Contribution}
    (h : c ∈ v.brought ordered key) : c.entry.value = some c.text := by
  obtain ⟨holder, -, hc⟩ := List.mem_filterMap.1 h
  obtain ⟨text, htext, rfl⟩ := Option.map_eq_some_iff.1 hc
  exact htext

lemma bulk_alone {r : Resolver σ} (g : r.Regular P) {merged : Ledger String Entry}
    (hbulk : v.bulk g r.metaKeys = .ok merged) {key text : String} (hne : key ≠ "")
    (hvisible : r.metaKeys.isMeta key = false) (hlists : v.Lists key)
    (hpolicy : r.metaKeys.inEffect v.last key MetaKeys.combinationPolicy = none)
    (hheld : ∃ s ∈ sources, ∃ e, v.held s key = some e)
    (hvalue : ∀ s ∈ sources, ∀ e, v.held s key = some e → e.value = some text ∧ e.metadata = .empty) :
    ∃ entry, merged.get? key = some entry ∧ entry.value = some text ∧
      ∀ name, entry.metadata.get? name = r.metaKeys.inEffect v.last key name := by
  have hmetadata := funext (v.metadata_fetched hlists hvisible)
  have ho := v.bulk_ok g r.metaKeys hbulk hlists hvisible
  have hcontributions : contributions (v.holders key) ≠ [] := by
    obtain ⟨s, hs, e, he⟩ := hheld
    have hmem : (s.name, e) ∈ v.holders key :=
      List.mem_filterMap.2 ⟨s, mem_inOrder.2 hs, by rw [he]; rfl⟩
    refine List.ne_nil_of_mem (a := ⟨s.name, e, text⟩) (List.mem_filterMap.2 ⟨_, hmem, ?_⟩)
    rw [(hvalue s hs e he).1]
    rfl
  rw [combined, g.outcome_of_no_policy (congrFun hmetadata _ |>.trans hpolicy)] at ho
  obtain ⟨last, entry, hlast, hok, hleft⟩ :=
    builtIn_outcome_some (P := P) r.slot hvisible hne _ hcontributions
  -- The last contribution comes from one of the sources, and all that hold the key hold the same.
  have hmem : last ∈ v.brought (Source.inOrder sources) key := List.mem_of_getLast? hlast
  obtain ⟨s, hs, hlastHeld⟩ := v.held_of_mem_brought hmem
  obtain ⟨htext, hbare⟩ := hvalue s (mem_inOrder.1 hs) _ hlastHeld
  have hcollects : collects (r.metaKeys.inEffect v.last key) = false := by
    rw [collects, hpolicy]
    rfl
  rw [show Ledger.get? _ = r.metaKeys.inEffect v.last key from hmetadata] at hleft
  refine ⟨entry, by simpa using ho.symm.trans hok, ?_, fun name => ?_⟩
  · rw [hleft.value, combinedText, hcollects, ← htext, v.value_of_mem_brought hmem]
    rfl
  · rw [hleft.metadata, hbare, Ledger.get?_empty, Option.or_none]

end Steady

namespace Context

open Config Conversion Data Tokens

lemma render_texts (xs : List String) :
    (Data.collection .list (xs.map .text)).render = some (joinItems xs) := by
  have htexts : (xs.map Data.text).map itemText = xs := by
    rw [List.map_map]
    exact (List.map_congr_left fun x _ => rfl).trans (List.map_id xs)
  rw [render, renderItems_eq_map, htexts]

lemma getAs_alone {runtime : Conversion.Runtime} (c : Context σ) (hfilters : c.filters = [])
    (hconverters : c.converters = .standard runtime) (v : Steady P c.sources)
    (g : c.resolver.Regular P) (htotal : g.Total)
    (hempty : ¬ v.Remains c.resolver.metaKeys (Source.inOrder c.sources) "") {key text sep : String}
    (hne : key ≠ "") (hvisible : c.resolver.metaKeys.isMeta key = false) (hlists : v.Lists key)
    (hothers : ∀ name, name ≠ MetaKeys.itemSeparator →
      c.resolver.metaKeys.inEffect v.last key name = none)
    (hheld : ∃ s ∈ c.sources, ∃ e, v.held s key = some e)
    (hvalue : ∀ s ∈ c.sources, ∀ e, v.held s key = some e → e.value = some text ∧ e.metadata = .empty)
    (hcuts : sep ≠ "") (hsep : (c.resolver.metaKeys.inEffect v.last key MetaKeys.itemSeparator).getD
      defaultItemSeparator = sep) :
    ∃ config : Config σ, Yields g.memory c.resolve (.ok config) ∧
      config.getAs key textList none none =
        pure (some (.collection .list ((readItems sep text).map .text))) := by
  obtain ⟨merged, hmerged⟩ := v.exists_bulk g htotal hempty
  obtain ⟨entry, hentry, htext, hmetadata⟩ := v.bulk_alone g hmerged hne hvisible hlists
    (hothers _ (by decide)) hheld hvalue
  refine ⟨⟨merged, some c.converters⟩, c.resolve_of_bulk hfilters v g hmerged, ?_⟩
  have hstandard : (⟨merged, some c.converters⟩ : Config σ).converters = some (.standard runtime) := by
    rw [hconverters]
  have hseparator : entry.metadata.getD MetaKeys.itemSeparator defaultItemSeparator = sep := by
    rw [Ledger.getD, hmetadata, hsep]
  have hget := getAs_itemValues hstandard hentry htext hcuts hseparator
    ((hmetadata _).trans (hothers _ (by decide))) ((hmetadata _).trans (hothers _ (by decide)))
  rw [hget, itemValues, readItems, List.map_map]
  rfl

/-- A list of plain items that a mapping source holds is joined with commas and read back with the
separator in effect. It comes back as it was exactly if the separator is the comma, or it has a
single item with neither a comma nor the separator in it. -/
theorem getAs_joined_eq_iff {runtime : Conversion.Runtime} (c : Context σ) (hfilters : c.filters = [])
    (hconverters : c.converters = .standard runtime) (v : Steady P c.sources)
    (g : c.resolver.Regular P) (htotal : g.Total)
    (hempty : ¬ v.Remains c.resolver.metaKeys (Source.inOrder c.sources) "") {w : World σ}
    (hw : P.world w) {name key : String} {data : List (Data × Data)} {ordinal : Int} {id : Nat}
    {mapping : Source.Mapping}
    (hmapping : Source.Mapping.make name data ordinal true .empty = .ok mapping)
    (hmem : mapping.toSource id ∈ c.sources) {xs : List String} (hxs : xs ≠ [])
    (hplain : ∀ x ∈ xs, Plain x)
    (hdata : (flatten "" data).get? key = (Data.collection .list (xs.map .text)).render)
    (halone : ∀ s ∈ c.sources, s ≠ mapping.toSource id → v.held s key = none)
    (hvisible : c.resolver.metaKeys.isMeta key = false)
    (hothers : ∀ name, name ≠ MetaKeys.itemSeparator →
      c.resolver.metaKeys.inEffect v.last key name = none)
    {s : Char} (hs : s ≠ escape)
    (hsep : (c.resolver.metaKeys.inEffect v.last key MetaKeys.itemSeparator).getD
      defaultItemSeparator = String.singleton s) :
    ∃ (config : Config σ) (ys : List String), Yields g.memory c.resolve (.ok config) ∧
      config.getAs key textList none none = pure (some (.collection .list (ys.map .text))) ∧
      (ys = xs ↔ s = ',' ∨ ∃ x, xs = [x] ∧ ',' ∉ x.toList ∧ s ∉ x.toList) := by
  obtain ⟨-, entries, hall, rfl⟩ := Source.Mapping.make_eq_ok_iff.1 hmapping
  generalize hsource : (⟨name, ordinal, true, entries⟩ : Source.Mapping).toSource id = source
    at hmem halone
  have hheld : v.held source key = entries.get? key := by
    subst hsource
    exact Except.ok.inj ((v.get _ hmem key).unique (Yields.pure _) hw)
  -- The entry of the mapping has the joined text for its value.
  have hvalues := Entry.value_of_all hall key
  rw [Ledger.get?_map, hdata, render_texts, Option.map_some, Option.map_eq_some_iff] at hvalues
  obtain ⟨e, he, hvalue⟩ := hvalues
  have hne : key ≠ "" := by
    rintro rfl
    exact Entry.empty_not_mem_keys_of_all hall (Ledger.mem_keys_of_get? he)
  have hlists : v.Lists key := by
    have hscan : source.scannable = true := by
      subst hsource
      rfl
    refine ⟨source, hmem, hscan, Ledger.mem_keys_of_get? (v := e) ?_⟩
    rw [← v.held_eq source hmem hscan, hheld, he]
  have hvalue' : ∀ s ∈ c.sources, ∀ d, v.held s key = some d →
      d.value = some (joinItems xs) ∧ d.metadata = .empty := by
    intro s hs d hd
    by_cases hsame : s = source
    · rw [hsame, hheld, he] at hd
      cases hd
      exact ⟨hvalue, Entry.metadata_of_all hall he⟩
    · rw [halone s hs hsame] at hd
      cases hd
  obtain ⟨config, hresolve, hget⟩ := c.getAs_alone hfilters hconverters v g htotal hempty hne hvisible
    hlists hothers ⟨source, hmem, e, hheld.trans he⟩ hvalue' (by simp) hsep
  exact ⟨config, _, hresolve, hget, readItems_joinItems_eq_iff hxs hplain hs⟩

def served (entries : Ledger String Entry) : Context Unit where
  sources := [(⟨"site", 0, true, entries⟩ : Source.Mapping).toSource 0]
  filters := []
  converters := .standard .silent
  resolver := ⟨0, .empty, .standard⟩

def steadyServed (entries : Ledger String Entry) :
    Steady (fun _ _ => True) (served entries).sources where
  held _ := entries.get?
  listed _ := entries
  get s hs key := by
    obtain rfl := List.mem_singleton.1 hs
    exact Yields.pure _
  properties s hs _ := by
    obtain rfl := List.mem_singleton.1 hs
    exact Yields.pure _
  held_eq _ _ _ _ := rfl

lemma last_served (entries : Ledger String Entry) :
    (steadyServed entries).last = fun key => (entries.get? key).bind (·.value) := by
  funext key
  have horder : Source.inOrder (served entries).sources = (served entries).sources :=
    List.mergeSort_singleton _
  change ((steadyServed entries).values (Source.inOrder (served entries).sources) key).getLast? = _
  rw [horder]
  change (List.filterMap (fun _ => (entries.get? key).bind (·.value)) (served entries).sources).getLast? = _
  cases (entries.get? key).bind (·.value) <;> rfl

lemma not_remains_served {entries : Ledger String Entry} (h : "" ∉ entries.keys) :
    ¬ (steadyServed entries).Remains .standard (Source.inOrder (served entries).sources) "" :=
  fun ⟨_, ⟨_, _, _, hlisted⟩, _⟩ => h hlisted

lemma effective_served {entries : Ledger String Entry} {key : String}
    (h : ∀ name ∈ MetaKeys.standard.names, name ≠ MetaKeys.itemSeparator →
      MetaKeys.standard.inEffect (fun key => (entries.get? key).bind (·.value)) key name = none)
    (name : String) (hne : name ≠ MetaKeys.itemSeparator) :
    MetaKeys.standard.inEffect (steadyServed entries).last key name = none := by
  by_cases hname : name ∈ MetaKeys.standard.names
  · rw [last_served]
    exact h name hname hne
  · exact MetaKeys.inEffect_eq_none hname

def commas : Ledger String Entry :=
  ⟨[("hosts", ⟨"hosts", some "a\\,x,b", "site", .empty, by decide⟩)], by simp⟩

theorem getAs_joined_commas :
    (Source.Mapping.make "site" [(.text "hosts", .collection .list [.text "a,x", .text "b"])] 0 true
        .empty = .ok ⟨"site", 0, true, commas⟩ ∧
      (∀ x ∈ ["a,x", "b"], Plain x) ∧
      MetaKeys.standard.inEffect (steadyServed commas).last "hosts" MetaKeys.itemSeparator = none) ∧
    ∃ (config : Config Unit) (ys : List String),
      Yields (builtIn (fun _ _ => True) 0 .standard).memory (served commas).resolve (.ok config) ∧
      config.getAs "hosts" textList none none = pure (some (.collection .list (ys.map .text))) ∧
      ys = ["a,x", "b"] := by
  have hmake : Source.Mapping.make "site"
      [(.text "hosts", .collection .list [.text "a,x", .text "b"])] 0 true .empty =
        .ok ⟨"site", 0, true, commas⟩ := by
    simp only [Source.Mapping.make, flatten, flattenOnto, dotted, display, render, renderItems]
    rfl
  have hplain : ∀ x ∈ ["a,x", "b"], Plain x :=
    List.forall_mem_cons.2 ⟨⟨by decide, by decide, by decide⟩,
      List.forall_mem_singleton.2 ⟨by decide, by decide, by decide⟩⟩
  have hsep : MetaKeys.standard.inEffect (steadyServed commas).last "hosts"
      MetaKeys.itemSeparator = none := by
    rw [last_served]
    decide +kernel
  obtain ⟨config, ys, hresolve, hget, hsame⟩ := (served commas).getAs_joined_eq_iff rfl rfl
    (steadyServed commas) (builtIn _ 0 .standard) (builtIn_total 0)
    (not_remains_served (by decide)) (w := .initial .debug ()) trivial hmake
    (List.mem_singleton_self _) (by simp) hplain
    (by
      simp only [flatten, flattenOnto, dotted, display, List.map_cons, List.map_nil, render, renderItems]
      rfl)
    (fun s hs hne => absurd (List.mem_singleton.1 hs) hne) (by decide)
    (effective_served (by decide +kernel)) (s := ',') (by decide)
    (congrArg (Option.getD · defaultItemSeparator) hsep)
  exact ⟨⟨hmake, hplain, hsep⟩, config, ys, hresolve, hget, hsame.2 (.inl rfl)⟩

def semicolons : Ledger String Entry :=
  ⟨[("hosts", ⟨"hosts", some "a,b", "site", .empty, by decide⟩),
    ("hosts.item-separator", ⟨"hosts.item-separator", some ";", "site", .empty, by decide⟩)], by simp⟩

theorem getAs_joined_semicolons :
    (Source.Mapping.make "site" [(.text "hosts", .collection .list [.text "a", .text "b"]),
      (.text "hosts.item-separator", .text ";")] 0 true .empty = .ok ⟨"site", 0, true, semicolons⟩ ∧
      (∀ x ∈ ["a", "b"], Plain x) ∧ ';' ≠ escape ∧ Text.isBlank ';' = false) ∧
    ∃ config : Config Unit,
      Yields (builtIn (fun _ _ => True) 0 .standard).memory (served semicolons).resolve (.ok config) ∧
      config.getAs "hosts" textList none none = pure (some (.collection .list [.text "a,b"])) ∧
      config.getAs "hosts" textList none none ≠
        pure (some (.collection .list [.text "a", .text "b"])) := by
  have hmake : Source.Mapping.make "site" [(.text "hosts", .collection .list [.text "a", .text "b"]),
      (.text "hosts.item-separator", .text ";")] 0 true .empty = .ok ⟨"site", 0, true, semicolons⟩ := by
    simp only [Source.Mapping.make, flatten, flattenOnto, dotted, display, render, renderItems]
    rfl
  have hplain : ∀ x ∈ ["a", "b"], Plain x :=
    List.forall_mem_cons.2 ⟨⟨by decide, by decide, by decide⟩,
      List.forall_mem_singleton.2 ⟨by decide, by decide, by decide⟩⟩
  have hempty : ¬ (steadyServed semicolons).Remains .standard
      (Source.inOrder (served semicolons).sources) "" := not_remains_served (by decide)
  have hothers : ∀ name, name ≠ MetaKeys.itemSeparator →
      MetaKeys.standard.inEffect (steadyServed semicolons).last "hosts" name = none :=
    effective_served (by decide +kernel)
  let g := builtIn (fun _ _ => True : Circumstance Unit) 0 .standard
  have hlists : (steadyServed semicolons).Lists "hosts" :=
    ⟨_, List.mem_singleton_self _, rfl, by decide⟩
  have halone : ∀ s ∈ (served semicolons).sources, ∀ e,
      (steadyServed semicolons).held s "hosts" = some e → e.value = some "a,b" ∧ e.metadata = .empty := by
    intro s _ e he
    cases he
    exact ⟨rfl, rfl⟩
  have hsep : (MetaKeys.standard.inEffect (steadyServed semicolons).last "hosts"
      MetaKeys.itemSeparator).getD defaultItemSeparator = ";" := by
    rw [last_served]
    decide +kernel
  obtain ⟨config, hresolve, hget⟩ := (served semicolons).getAs_alone rfl rfl (steadyServed semicolons) g
    (builtIn_total 0) hempty (by decide) (by decide) hlists hothers
    ⟨_, List.mem_singleton_self _, _, rfl⟩ halone (by decide) hsep
  have hitems : readItems ";" "a,b" = ["a,b"] := by
    rw [readItems, items_eq (by decide), splitFrom_eq (by decide) (by decide),
      segments_of_none (by decide)]
    decide +kernel
  rw [hitems] at hget
  refine ⟨⟨hmake, hplain, by decide, by decide⟩, config, hresolve, hget, fun hsame => ?_⟩
  rw [hget] at hsame
  have hanswer : some (Value.collection .list [.text "a,b"]) =
      some (Value.collection .list [.text "a", .text "b"]) :=
    congrArg (fun x : Note Unit (Option Value) => (x.run (.initial .debug ())).1) hsame
  simp at hanswer

end Context

end LayeredConfig
