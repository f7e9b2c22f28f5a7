import LayeredConfig.Filter
import LayeredConfig.Proofs.Settling
import Mathlib.Data.List.Basic

/-! What a chain of filters leaves of a pass. An entry that keeps its key stays under it; of the
entries renamed to a key that is free, the one with the smallest former key gets it. -/

namespace LayeredConfig

variable {σ : Type}

namespace Filter

structure Settled (M : Memory σ → Prop) (f : Filter σ) (outcome : Entry → Option Entry) : Prop where
  run : ∀ e context, Yields M (f.run e context) (.ok (outcome e))
  same : ∀ a b : Entry, a.Same b → Option.Rel Entry.Same (outcome a) (outcome b)

def passed (outcome : Filter σ → Entry → Option Entry) (filters : List (Filter σ)) (e : Entry) :
    Option Entry :=
  filters.foldlM (fun e f => outcome f e) e

variable {P : Circumstance σ} {M : Memory σ → Prop} {outcome : Filter σ → Entry → Option Entry}
  {filters : List (Filter σ)}

lemma runAll_ensures (h : ∀ f ∈ filters, f.Settled M (outcome f)) (e : Entry)
    (context : FilterContext) :
    Ensures M (runAll context e filters).run fun r =>
      ∃ rest : Except String Entry, r = .ok rest ∧ rest.toOption = passed outcome filters e := by
  induction filters generalizing e with
  | nil => exact Ensures.pure ⟨.ok e, rfl, rfl⟩
  | cons f filters ih =>
    have hrun := (h f (by simp)).run e context
    rw [passed, List.foldlM_cons]
    rw [runAll]
    change Ensures M ((f.run e context).run >>= ExceptT.bindCont _) _
    refine Ensures.bind hrun ?_
    rintro _ rfl
    cases outcome f e with
    | none => exact Ensures.pure ⟨.error f.name, rfl, rfl⟩
    | some next => exact ih (fun f hf => h f (by simp [hf])) next

lemma apply_yields (hM : P.Within M) (h : ∀ f ∈ filters, f.Settled M (outcome f)) (e : Entry)
    (context : FilterContext) :
    Yields M (apply filters e context) (.ok (passed outcome filters e)) := by
  rw [apply]
  change Ensures M ((runAll context e filters).run >>= ExceptT.bindCont _) _
  refine Ensures.bind (runAll_ensures h e context) ?_
  rintro _ ⟨rest, rfl, hrest⟩
  rw [← hrest]
  cases rest with
  | ok filtered => exact Yields.pure _
  | error name => exact Yields.report_act hM _ _ _ _ _ (Yields.pure _)

lemma passed_same (h : ∀ f ∈ filters, f.Settled M (outcome f)) {a b : Entry} (hab : a.Same b) :
    Option.Rel Entry.Same (passed outcome filters a) (passed outcome filters b) := by
  induction filters generalizing a b with
  | nil => exact .some hab
  | cons f filters ih =>
    have hsame := (h f (by simp)).same a b hab
    simp only [passed, List.foldlM_cons]
    generalize outcome f a = x at hsame
    generalize outcome f b = y at hsame
    cases hsame with
    | none => exact .none
    | some hnext => exact ih (fun f hf => h f (by simp [hf])) hnext

def valued (found : Option Entry) : Option Entry := found.filter (·.value.isSome)

def keptUnder (key : String) (found : Option Entry) : Option Entry :=
  (valued found).filter (·.key = key)

def renamedFrom (key : String) (found : Option Entry) : Option Entry :=
  (valued found).filter (·.key ≠ key)

lemma get?_kept_file (s : Sorted) (former : String) (found : Option Entry) (key : String) :
    (s.file former found).kept.get? key =
      if key = former then (keptUnder former found).or (s.kept.get? key) else s.kept.get? key := by
  simp only [Sorted.file, keptUnder, valued]
  cases found with
  | none => simp
  | some e =>
    cases hv : e.value with
    | none => simp [Option.filter, hv]
    | some value =>
      by_cases he : e.key = former
      · by_cases hk : key = former <;> simp [Option.filter, hv, he, hk, Ledger.get?_put]
      · simp [Option.filter, hv, he]

lemma renamed_file (s : Sorted) (former : String) (found : Option Entry) :
    (s.file former found).renamed =
      s.renamed ++ ((renamedFrom former found).map (former, ·)).toList := by
  simp only [Sorted.file, renamedFrom, valued]
  cases found with
  | none => simp
  | some e =>
    cases hv : e.value with
    | none => simp [Option.filter, hv]
    | some value => by_cases he : e.key = former <;> simp [Option.filter, hv, he]

def sortOut (chain : Entry → Option Entry) (start : Sorted) (entries : List (String × Entry)) :
    Sorted :=
  entries.foldl (fun s p => s.file p.1 (chain p.2)) start

variable (chain : Entry → Option Entry)

lemma get?_kept_sortOut (start : Sorted) {entries : List (String × Entry)}
    (h : (entries.map Prod.fst).Nodup) (key : String) :
    (sortOut chain start entries).kept.get? key =
      ((Ledger.lookup key entries).bind fun e => keptUnder key (chain e)).or
        (start.kept.get? key) := by
  induction entries generalizing start with
  | nil => rfl
  | cons p entries ih =>
    obtain ⟨hp, hentries⟩ := List.nodup_cons.1 h
    rw [sortOut, List.foldl_cons, ← sortOut, ih _ hentries, get?_kept_file, Ledger.lookup]
    by_cases hk : p.1 = key
    · subst hk
      simp [Ledger.lookup_eq_none_iff.2 hp]
    · simp [hk, Ne.symm hk]

lemma renamed_sortOut (start : Sorted) (entries : List (String × Entry)) :
    (sortOut chain start entries).renamed = start.renamed ++
      entries.filterMap fun p => (renamedFrom p.1 (chain p.2)).map (p.1, ·) := by
  induction entries generalizing start with
  | nil => simp [sortOut]
  | cons p entries ih =>
    rw [sortOut, List.foldl_cons, ← sortOut, ih, renamed_file, List.append_assoc,
      List.filterMap_cons]
    cases renamedFrom p.1 (chain p.2) <;> rfl

def byFormer (renamed : List (String × Entry)) : List (String × Entry) :=
  renamed.mergeSort fun a b => a.1 ≤ b.1

def settled (result : Ledger String Entry) (renamed : List (String × Entry)) :
    Ledger String Entry :=
  renamed.foldl (fun result p => result.putNew p.2.key p.2) result

lemma get?_settled (result : Ledger String Entry) (renamed : List (String × Entry)) (key : String) :
    (settled result renamed).get? key =
      (result.get? key).or ((renamed.find? (·.2.key = key)).map Prod.snd) := by
  induction renamed generalizing result with
  | nil => simp [settled]
  | cons p renamed ih =>
    rw [settled, List.foldl_cons, ← settled, ih, Ledger.get?_putNew, List.find?_cons, Option.or_assoc]
    by_cases hk : p.2.key = key
    · simp [hk]
    · simp [hk, Ne.symm hk]

lemma byFormer_perm (renamed : List (String × Entry)) : (byFormer renamed).Perm renamed :=
  List.mergeSort_perm _ _

lemma byFormer_sorted (renamed : List (String × Entry)) :
    (byFormer renamed).Pairwise fun a b => a.1 ≤ b.1 := by
  refine List.Pairwise.imp (fun hab => by simpa using hab)
    (List.pairwise_mergeSort (fun a b c hab hbc => ?_) (fun a b => ?_) renamed)
  · simpa using String.le_trans (by simpa using hab) (by simpa using hbc)
  · simpa using String.le_total a.1 b.1

lemma le_of_find?_byFormer {renamed : List (String × Entry)} {key : String} {p : String × Entry}
    (h : (byFormer renamed).find? (·.2.key = key) = some p) :
    (p ∈ renamed ∧ p.2.key = key) ∧ ∀ q ∈ renamed, q.2.key = key → p.1 ≤ q.1 := by
  have hperm := byFormer_perm renamed
  have hsorted := byFormer_sorted renamed
  obtain ⟨hp, front, rest, hsplit, hfront⟩ := List.find?_eq_some_iff_append.1 h
  refine ⟨⟨?_, by simpa using hp⟩, fun q hq hkey => ?_⟩
  · rw [← hperm.mem_iff, hsplit]
    simp
  · rw [← hperm.mem_iff, hsplit, List.mem_append, List.mem_cons] at hq
    rcases hq with hq | rfl | hq
    · simpa [hkey] using hfront q hq
    · exact String.le_refl _
    · rw [hsplit, List.pairwise_append] at hsorted
      exact (List.pairwise_cons.1 hsorted.2.1).1 q hq

lemma settle_yields (hM : P.Within M) (result : Ledger String Entry)
    (renamed : List (String × Entry)) :
    Yields M (settle result renamed) (.ok (settled result renamed)) := by
  induction renamed generalizing result with
  | nil => exact Yields.pure _
  | cons p renamed ih =>
    rw [settle]
    rw [settled, List.foldl_cons, ← settled, Ledger.putNew]
    split
    · exact Yields.report_act hM _ _ _ _ _ (ih result)
    · exact ih _

def rest (chain : Entry → Option Entry) (entries : Ledger String Entry) : Ledger String Entry :=
  let sorted := sortOut chain ⟨.empty, []⟩ entries.pairs
  settled sorted.kept (byFormer sorted.renamed)

lemma applyAll_yields (hM : P.Within M) (h : ∀ f ∈ filters, f.Settled M (outcome f))
    (entries : Ledger String Entry) :
    Yields M (applyAll (pure filters) entries)
      (.ok (if filters.isEmpty then entries else rest (passed outcome filters) entries)) := by
  refine (Yields.pure filters).bind_ok ?_
  cases filters.isEmpty with
  | true => exact Yields.pure _
  | false =>
    refine Yields.bind_ok (a := sortOut (passed outcome filters) ⟨.empty, []⟩ entries.pairs) ?_
      (settle_yields hM _ _)
    refine Yields.foldlM_ok (fun s p _ => ?_) _
    refine (Yields.pure filters).bind_ok ?_
    exact (apply_yields hM h p.2 _).bind_ok (Yields.pure _)

/-- What is filed under `key` when `single` gives the filtered entry of each key: the entry of the
key itself if it still has that key, or else that of the smallest key whose entry got it. -/
inductive Filed (keys : List String) (single : String → Option Entry) (key : String) :
    Option Entry → Prop
  | kept {e : Entry} : key ∈ keys → single key = some e → e.key = key → Filed keys single key (some e)
  | renamed {former : String} {e : Entry} :
    ¬ (key ∈ keys ∧ ∃ e, single key = some e ∧ e.key = key) →
    former ∈ keys → single former = some e → e.key = key →
    (∀ other ∈ keys, ∀ e, single other = some e → e.key = key → former ≤ other) →
    Filed keys single key (some e)
  | absent : (∀ former ∈ keys, ∀ e, single former = some e → e.key ≠ key) →
    Filed keys single key none

lemma Filed.congr {keys : List String} {single single' : String → Option Entry} {key : String}
    {found : Option Entry} (h : Filed keys single key found)
    (hsame : ∀ k ∈ keys, Option.Rel Entry.Same (single k) (single' k)) :
    ∃ found', Filed keys single' key found' ∧ Option.Rel Entry.Same found found' := by
  -- Related entries have one key, so what the one function finds under it the other one finds too.
  have hto {k : String} {e : Entry} (hk : k ∈ keys) (he : single k = some e) :
      ∃ e', single' k = some e' ∧ e.Same e' := by
    have := hsame k hk
    rw [he] at this
    generalize single' k = x at this
    cases this with
    | some hs => exact ⟨_, rfl, hs⟩
  have hof {k : String} {e' : Entry} (hk : k ∈ keys) (he : single' k = some e') :
      ∃ e, single k = some e ∧ e.key = e'.key := by
    have := hsame k hk
    rw [he] at this
    generalize single k = x at this
    cases this with
    | some hs => exact ⟨_, rfl, hs.key⟩
  cases h with
  | kept hkey he hek =>
    obtain ⟨e', he', hs⟩ := hto hkey he
    exact ⟨some e', .kept hkey he' (hs.key ▸ hek), .some hs⟩
  | renamed hnot hformer he hek hleast =>
    obtain ⟨e', he', hs⟩ := hto hformer he
    refine ⟨some e', .renamed ?_ hformer he' (hs.key ▸ hek) ?_, .some hs⟩
    · rintro ⟨hkey, d', hd', hdk⟩
      obtain ⟨d, hd, hdd⟩ := hof hkey hd'
      exact hnot ⟨hkey, d, hd, hdd.trans hdk⟩
    · intro other hother d' hd' hdk
      obtain ⟨d, hd, hdd⟩ := hof hother hd'
      exact hleast other hother d hd (hdd.trans hdk)
  | absent hnone =>
    refine ⟨none, .absent fun former hformer e' he' hek => ?_, .none⟩
    obtain ⟨e, he, hee⟩ := hof hformer he'
    exact hnone former hformer e he (hee.trans hek)

lemma Filed.unique {keys keys' : List String} {single : String → Option Entry} {key : String}
    {found found' : Option Entry} (h : Filed keys single key found)
    (h' : Filed keys' single key found') (hkeys : ∀ k, k ∈ keys ↔ k ∈ keys') : found = found' := by
  cases h with
  | kept hkey he hek =>
    cases h' with
    | kept _ he' _ => rw [← he, he']
    | renamed hnot _ _ _ _ => exact absurd ⟨(hkeys key).1 hkey, _, he, hek⟩ hnot
    | absent hnone => exact absurd hek (hnone key ((hkeys key).1 hkey) _ he)
  | renamed hnot hformer he hek hleast =>
    cases h' with
    | kept hkey he' hek' => exact absurd ⟨(hkeys key).2 hkey, _, he', hek'⟩ hnot
    | renamed _ hformer' he' hek' hleast' =>
      have hsame := String.le_antisymm (hleast _ ((hkeys _).2 hformer') _ he' hek')
        (hleast' _ ((hkeys _).1 hformer) _ he hek)
      rw [← he, hsame, he']
    | absent hnone => exact absurd hek (hnone _ ((hkeys _).1 hformer) _ he)
  | absent hnone =>
    cases h' with
    | kept hkey he' hek' => exact absurd hek' (hnone key ((hkeys key).2 hkey) _ he')
    | renamed _ hformer' he' hek' _ => exact absurd hek' (hnone _ ((hkeys _).2 hformer') _ he')
    | absent _ => rfl

def filtered (chain : Entry → Option Entry) (entries : Ledger String Entry) (key : String) :
    Option Entry :=
  (entries.get? key).bind fun e => valued (chain e)

def rekeyed (entries : Ledger String Entry) : List (String × Entry) :=
  entries.pairs.filterMap fun p => (renamedFrom p.1 (chain p.2)).map (p.1, ·)

lemma mem_rekeyed_iff {entries : Ledger String Entry} {former : String} {e : Entry} :
    (former, e) ∈ rekeyed chain entries ↔
      filtered chain entries former = some e ∧ e.key ≠ former := by
  simp only [rekeyed, filtered, renamedFrom]
  simp only [List.mem_filterMap, Option.map_eq_some_iff, Option.filter_eq_some_iff,
    Option.bind_eq_some_iff]
  constructor
  · rintro ⟨⟨k, e₀⟩, hmem, e', ⟨he', hne⟩, hp⟩
    cases hp
    exact ⟨⟨e₀, Ledger.mem_pairs_iff.1 hmem, he'⟩, by simpa using hne⟩
  · rintro ⟨⟨e₀, he₀, he⟩, hne⟩
    exact ⟨(former, e₀), Ledger.mem_pairs_iff.2 he₀, e, ⟨he, by simpa using hne⟩, rfl⟩

lemma mem_keys_of_filtered {entries : Ledger String Entry} {key : String} {e : Entry}
    (h : filtered chain entries key = some e) : key ∈ entries.keys := by
  obtain ⟨e₀, he₀, _⟩ := Option.bind_eq_some_iff.1 h
  exact Ledger.mem_keys_of_get? he₀

lemma get?_kept (entries : Ledger String Entry) (key : String) :
    (sortOut chain ⟨.empty, []⟩ entries.pairs).kept.get? key =
      (filtered chain entries key).filter (·.key = key) := by
  have hkept : (filtered chain entries key).filter (·.key = key) =
      (entries.get? key).bind fun e => keptUnder key (chain e) := by
    simp only [filtered, keptUnder]
    cases entries.get? key <;> rfl
  rw [get?_kept_sortOut chain _ entries.nodup, hkept]
  exact Option.or_none

lemma get?_rest (entries : Ledger String Entry) (key : String) :
    (rest chain entries).get? key =
      ((filtered chain entries key).filter (·.key = key)).or
        (((byFormer (rekeyed chain entries)).find? (·.2.key = key)).map Prod.snd) := by
  rw [rest, get?_settled, get?_kept, renamed_sortOut]
  rfl

lemma filed_rest (entries : Ledger String Entry) (key : String) :
    Filed entries.keys (filtered chain entries) key ((rest chain entries).get? key) := by
  rw [get?_rest]
  cases hkept : (filtered chain entries key).filter (·.key = key) with
  | some e =>
    rw [Option.filter_eq_some_iff, decide_eq_true_eq] at hkept
    exact .kept (mem_keys_of_filtered chain hkept.1) hkept.1 hkept.2
  | none =>
    -- No entry has kept the key, so every entry that has it was renamed.
    have hnot : ∀ e, filtered chain entries key = some e → e.key ≠ key := by
      simpa [Option.filter_eq_none_iff] using hkept
    have hmem : ∀ former e, filtered chain entries former = some e → e.key = key →
        (former, e) ∈ rekeyed chain entries := by
      intro former e he hek
      refine (mem_rekeyed_iff chain).2 ⟨he, fun hf => ?_⟩
      obtain rfl : former = key := hf.symm.trans hek
      exact hnot e he hek
    rw [Option.none_or]
    cases hfind : (byFormer (rekeyed chain entries)).find? (·.2.key = key) with
    | some p =>
      obtain ⟨⟨hp, hpk⟩, hleast⟩ := le_of_find?_byFormer hfind
      have hfiltered := ((mem_rekeyed_iff chain).1 hp).1
      refine .renamed ?_ (mem_keys_of_filtered chain hfiltered) hfiltered hpk ?_
      · rintro ⟨_, e, he, hek⟩
        exact hnot e he hek
      · exact fun other _ e he hek => hleast _ (hmem other e he hek) hek
    | none =>
      refine .absent fun former _ e he hek => ?_
      have hin : (former, e) ∈ byFormer (rekeyed chain entries) :=
        (List.mergeSort_perm _ _).mem_iff.2 (hmem former e he hek)
      simpa [hek] using List.find?_eq_none.1 hfind _ hin

lemma get?_rest_congr {entries entries' : Ledger String Entry}
    (h : ∀ key, entries.get? key = entries'.get? key) (key : String) :
    (rest chain entries).get? key = (rest chain entries').get? key := by
  have hfiltered : filtered chain entries = filtered chain entries' := by
    funext k
    rw [filtered, filtered, h]
  have hrest := filed_rest chain entries key
  rw [hfiltered] at hrest
  refine hrest.unique (filed_rest chain entries' key) fun k => ?_
  rw [Ledger.mem_keys_iff, Ledger.mem_keys_iff, h]

lemma get?_rest_of_kept {entries : Ledger String Entry} {key : String} {e kept : Entry}
    (he : entries.get? key = some e) (hkept : chain e = some kept) (hkey : kept.key = key)
    (hvalue : kept.value.isSome = true) : (rest chain entries).get? key = some kept := by
  have hfiltered : filtered chain entries key = some kept := by
    rw [filtered, he, Option.bind_some, hkept, valued, Option.filter_some, if_pos hvalue]
  rw [get?_rest, hfiltered, Option.filter_some, if_pos (by simpa using hkey), Option.some_or]

lemma filed_self {entries : Ledger String Entry}
    (h : ∀ key e, entries.get? key = some e → e.key = key ∧ e.value.isSome = true) (key : String) :
    Filed entries.keys (filtered some entries) key (entries.get? key) := by
  have hfiltered (former : String) : filtered some entries former = entries.get? former := by
    rw [filtered]
    cases he : entries.get? former with
    | none => rfl
    | some e => simp [valued, Option.filter, (h former e he).2]
  cases he : entries.get? key with
  | some e => exact .kept (Ledger.mem_keys_of_get? he) (by rw [hfiltered, he]) (h key e he).1
  | none =>
    refine .absent fun former _ e hformer hek => ?_
    rw [hfiltered] at hformer
    rw [← (h former e hformer).1, hek, he] at hformer
    cases hformer

lemma valued_same {a b : Option Entry} (h : Option.Rel Entry.Same a b) :
    Option.Rel Entry.Same (valued a) (valued b) := by
  cases h with
  | none => exact .none
  | @some a b hab =>
    simp only [valued]
    rw [Option.filter_some, Option.filter_some, hab.value]
    split
    · exact .some hab
    · exact .none

lemma bind_valued_same (h : ∀ a b : Entry, a.Same b → Option.Rel Entry.Same (chain a) (chain b))
    {a b : Option Entry} (hab : Option.Rel Entry.Same a b) :
    Option.Rel Entry.Same (a.bind fun e => valued (chain e)) (b.bind fun e => valued (chain e)) := by
  cases hab with
  | none => exact .none
  | some hab => exact valued_same (h _ _ hab)

lemma filed_passed (outcome : Filter σ → Entry → Option Entry) (filters : List (Filter σ))
    {entries : Ledger String Entry}
    (h : ∀ key e, entries.get? key = some e → e.key = key ∧ e.value.isSome = true) (key : String) :
    Filed entries.keys (filtered (passed outcome filters) entries) key
      ((if filters.isEmpty then entries else rest (passed outcome filters) entries).get? key) := by
  cases filters with
  | nil => exact filed_self h key
  | cons f filters => exact filed_rest (passed outcome (f :: filters)) entries key

end Filter

end LayeredConfig
