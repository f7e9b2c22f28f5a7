import LayeredConfig.Proofs.Courses
import LayeredConfig.Proofs.StockFilters
import Mathlib.Data.List.Nodup

/-! What becomes of each entry of a pass. It is dropped, kept under its key, moved to another one, or
it loses that key to an entry that has a better claim, and then the journal says so. -/

namespace LayeredConfig

variable {σ : Type}

def rekeyCollision : String := "property_rekey_collision"

def Event.text? (event : Event) (name : String) : Option String :=
  match event.details.get? name with
  | some (.text s) => some s
  | _ => none

namespace Journal

def collisions (j : Journal) : List (Option String × Option String) :=
  (j.events.filter (·.name = rekeyCollision)).map fun event =>
    (event.text? "key", event.text? "renamed_from")

lemma get?_stamped {name : String} (h : name ≠ "trace_id") (trace : Data) (more : Details) :
    ((Ledger.ofList [("trace_id", trace)]).union more).get? name = more.get? name := by
  have hnone : (Ledger.ofList [("trace_id", trace)]).get? name = none := by
    rw [Ledger.get?_eq_none_iff, Ledger.ofList, Ledger.mem_keys_putAll]
    simpa using h
  rw [Ledger.get?_union, hnone, Option.or_none]

lemma collisions_record {name : String} (h : name ≠ rekeyCollision) (j : Journal)
    (severity : Severity) (details : Details) :
    (j.record severity name details).collisions = j.collisions := by
  unfold record
  split
  · rfl
  · simp [collisions, h]

lemma collisions_record_lost (j : Journal) (source key former : String) :
    (j.record .warning rekeyCollision
        (about (some source) (some key) [("renamed_from", .text former)])).collisions =
      j.collisions ++
        if j.threshold.rank ≤ Severity.warning.rank then [(some key, some former)] else [] := by
  by_cases h : j.threshold.rank ≤ Severity.warning.rank
  · have hkey (trace : Data) : ((Ledger.ofList [("trace_id", trace)]).union
        (about (some source) (some key) [("renamed_from", .text former)])).get? "key" =
          some (.text key) := get?_stamped (by decide) trace _
    have hformer (trace : Data) : ((Ledger.ofList [("trace_id", trace)]).union
        (about (some source) (some key) [("renamed_from", .text former)])).get? "renamed_from" =
          some (.text former) := get?_stamped (by decide) trace _
    rw [record, if_neg (Nat.not_lt.2 h), if_pos h]
    simp [collisions, Event.text?, hkey, hformer]
  · rw [record_below (Nat.not_le.1 h), if_neg h, List.append_nil]

end Journal

def Memory.collisions (m : Memory σ) : List (Option String × Option String) :=
  m.world.journal.collisions

def quiet (σ : Type) : Course (Memory σ) where
  holds _ := True
  later m m' :=
    m'.world.journal.threshold = m.world.journal.threshold ∧ m'.collisions = m.collisions
  refl _ := ⟨rfl, rfl⟩
  trans h h' := ⟨h'.1.trans h.1, h'.2.trans h.2⟩

lemma quiet_report {name : String} (h : name ≠ rekeyCollision) (severity : Severity)
    (source key : Option String) (more : List (String × Data)) :
    (quiet σ).Runs False (report severity name source key more : Act σ Unit) := fun m =>
  Course.Leads.lift fun _ => ⟨trivial,
    ⟨Journal.threshold_record _ _ _ _, Journal.collisions_record h m.world.journal _ _⟩, trivial⟩

namespace Filter

/-- The filter never fails, and what it makes of an entry depends on the entry and on what it is told
with it, not on the state of the program. -/
def Answers (f : Filter σ) (outcome : Entry → FilterContext → Option Entry) : Prop :=
  ∀ e context m, (quiet σ).Leads m (f.run e context) (fun found _ => found = outcome e context)
    fun _ _ => False

variable {outcome : Filter σ → Entry → FilterContext → Option Entry} {filters : List (Filter σ)}

def passedAmong (outcome : Filter σ → Entry → FilterContext → Option Entry)
    (filters : List (Filter σ)) (entries : Ledger String Entry) (e : Entry) : Option Entry :=
  passed (fun f e' => outcome f e' ⟨e.key, entries, false⟩) filters e

section Chain

variable (h : ∀ f ∈ filters, f.Answers (outcome f))

include h in
lemma runAll_answers (context : FilterContext) (e : Entry) (m : Memory σ) :
    (quiet σ).Leads m (runAll context e filters)
      (fun found _ => found.toOption = passed (fun f e => outcome f e context) filters e)
      fun _ _ => False := by
  -- Induction on the filters, for any memory: each answers by its outcome and leaves some later
  -- memory.
  induction filters generalizing e m with
  | nil => exact Course.Leads.pure rfl
  | cons f filters ih =>
    rw [runAll]
    refine (h f List.mem_cons_self e context m).bind fun found m' _ hfound => ?_
    rw [passed, List.foldlM_cons, ← hfound]
    cases found with
    | none => exact Course.Leads.pure rfl
    | some next => exact ih (fun f hf => h f (List.mem_cons_of_mem _ hf)) next m'

include h in
lemma apply_answers (context : FilterContext) (e : Entry) (m : Memory σ) :
    (quiet σ).Leads m (apply filters e context)
      (fun found _ => found = passed (fun f e => outcome f e context) filters e)
      fun _ _ => False := by
  rw [apply]
  refine (runAll_answers h context e m).bind fun found m' _ hfound => ?_
  rw [← hfound]
  cases found with
  | ok filtered => exact Course.Leads.pure rfl
  | error name =>
    refine (quiet_report (by decide) _ _ _ _ m').bind fun _ m'' _ _ => ?_
    exact Course.Leads.pure rfl

end Chain

def losers (result : Ledger String Entry) : List (String × Entry) → List (String × Entry)
  | [] => []
  | p :: renamed =>
    if result.contains p.2.key then p :: losers result renamed
    else losers (result.put p.2.key p.2) renamed

def lost (p : String × Entry) : String × String := (p.2.key, p.1)

def recorded (m : Memory σ) (pairs : List (String × String)) : List (Option String × Option String) :=
  if m.world.journal.threshold.rank ≤ Severity.warning.rank then
    pairs.map fun p => (some p.1, some p.2)
  else []

lemma settle_reports (result : Ledger String Entry) (renamed : List (String × Entry))
    (m : Memory σ) : ∃ m', (settle result renamed).run.run m = (.ok (settled result renamed), m') ∧
      m'.world.journal.threshold = m.world.journal.threshold ∧
      m'.collisions = m.collisions ++ recorded m ((losers result renamed).map lost) := by
  induction renamed generalizing result m with
  | nil =>
    refine ⟨m, rfl, rfl, ?_⟩
    simp [losers, recorded]
  | cons p renamed ih =>
    rw [settle, settled, List.foldl_cons, ← settled, Ledger.putNew, losers]
    split
    · let journal := m.world.journal.record .warning rekeyCollision
        (Journal.about (some p.2.source) (some p.2.key) [("renamed_from", .text p.1)])
      let m₁ : Memory σ := { m with world := { m.world with journal } }
      have hthreshold : m₁.world.journal.threshold = m.world.journal.threshold :=
        Journal.threshold_record _ _ _ _
      obtain ⟨m', hrun, hsame, hcollisions⟩ := ih result m₁
      refine ⟨m', ?_, hsame.trans hthreshold, ?_⟩
      · rw [← hrun]
        exact run_bind_ok rfl
      · have hreport : m₁.collisions = m.collisions ++ recorded m [lost p] :=
          Journal.collisions_record_lost m.world.journal p.2.source p.2.key p.1
        rw [hcollisions, hreport, recorded, recorded, recorded, hthreshold, List.append_assoc]
        split <;> rfl
    · exact ih _ m

lemma size_settled (result : Ledger String Entry) (renamed : List (String × Entry)) :
    (settled result renamed).size + (losers result renamed).length =
      result.size + renamed.length := by
  induction renamed generalizing result with
  | nil => rfl
  | cons p renamed ih =>
    rw [settled, List.foldl_cons, ← settled, Ledger.putNew, losers, List.length_cons]
    split
    · have hrest := ih result
      rw [List.length_cons]
      omega
    · rename_i hfree
      have hrest := ih (result.put p.2.key p.2)
      rw [Ledger.size_put, if_neg hfree] at hrest
      omega

lemma losers_sublist (result : Ledger String Entry) (renamed : List (String × Entry)) :
    (losers result renamed).Sublist renamed := by
  induction renamed generalizing result with
  | nil => exact List.Sublist.slnil
  | cons p renamed ih =>
    rw [losers]
    split
    · exact (ih _).cons_cons p
    · exact (ih _).cons p

lemma mem_losers_iff {result : Ledger String Entry} {renamed : List (String × Entry)}
    (hdistinct : (renamed.map Prod.fst).Nodup) {p : String × Entry} :
    p ∈ losers result renamed ↔ p ∈ renamed ∧ (result.contains p.2.key = true ∨
      ∀ q, renamed.find? (·.2.key = p.2.key) = some q → q.1 ≠ p.1) := by
  induction renamed generalizing result with
  | nil => simp [losers]
  | cons q renamed ih =>
    obtain ⟨hq, hrenamed⟩ := List.nodup_cons.1 hdistinct
    have hother : p ∈ renamed → q.1 ≠ p.1 := fun hmem heq =>
      hq (heq ▸ List.mem_map_of_mem hmem)
    rw [losers, List.mem_cons, List.find?_cons]
    by_cases hkey : q.2.key = p.2.key
    · by_cases htaken : result.contains q.2.key = true
      · rw [if_pos htaken, List.mem_cons, ih hrenamed, ← hkey]
        simp [htaken]
      · rw [if_neg htaken, ih hrenamed, ← hkey, Ledger.contains_put]
        grind
    · by_cases htaken : result.contains q.2.key = true
      · rw [if_pos htaken, List.mem_cons, ih hrenamed]
        grind
      · rw [if_neg htaken, ih hrenamed, Ledger.contains_put]
        grind

lemma mem_keys_file {s : Sorted} {former key : String} {found : Option Entry}
    (h : key ∈ (s.file former found).kept.keys) : key = former ∨ key ∈ s.kept.keys := by
  by_cases hkey : key = former
  · exact .inl hkey
  · obtain ⟨e, he⟩ := Ledger.mem_keys_iff.1 h
    rw [get?_kept_file, if_neg hkey] at he
    exact .inr (Ledger.mem_keys_of_get? he)

lemma size_file {s : Sorted} {former : String} (h : former ∉ s.kept.keys) (found : Option Entry) :
    (s.file former found).kept.size + (s.file former found).renamed.length =
      s.kept.size + s.renamed.length + if (valued found).isNone then 0 else 1 := by
  have hfree : s.kept.contains former = false := by
    rw [← Bool.not_eq_true, Ledger.contains_iff]
    exact h
  cases found with
  | none => rfl
  | some e =>
    rw [Sorted.file, valued, Option.filter_some]
    cases e.value with
    | none => rfl
    | some value =>
      by_cases he : e.key = former
      · simp [he, Ledger.size_put, hfree]
        omega
      · simp [he]
        omega

variable (chain : Entry → Option Entry)

lemma size_sortOut {entries : List (String × Entry)} (hdistinct : (entries.map Prod.fst).Nodup)
    (start : Sorted) (hfresh : ∀ p ∈ entries, p.1 ∉ start.kept.keys) :
    (sortOut chain start entries).kept.size + (sortOut chain start entries).renamed.length +
        entries.countP (fun p => (valued (chain p.2)).isNone) =
      start.kept.size + start.renamed.length + entries.length := by
  induction entries generalizing start with
  | nil => rfl
  | cons p entries ih =>
    obtain ⟨hp, hentries⟩ := List.nodup_cons.1 hdistinct
    -- An entry filed now does not stand in the way of a later one, whose key is another.
    have hnext : ∀ q ∈ entries, q.1 ∉ (start.file p.1 (chain p.2)).kept.keys := by
      intro q hq hmem
      rcases mem_keys_file hmem with heq | hmem
      · exact hp (heq ▸ List.mem_map_of_mem hq)
      · exact hfresh q (List.mem_cons_of_mem _ hq) hmem
    have hrest := ih hentries _ hnext
    have hstep := size_file (hfresh p List.mem_cons_self) (chain p.2)
    rw [sortOut, List.foldl_cons, ← sortOut, List.countP_cons, List.length_cons]
    cases hdropped : (valued (chain p.2)).isNone <;> simp [hdropped] at hstep ⊢ <;> omega

/-- A pass, with the key under which each published entry stood before it, and the keys that were
lost, each with the former key of the loser. -/
structure Pass where
  entries : Ledger String Entry
  outcome : String → Option Entry
  result : Ledger String Entry
  origin : String → String
  lost : List (String × String)

inductive Fate
  | dropped
  | kept
  | moved
  | collided
  deriving DecidableEq

namespace Pass

def Supplies (p : Pass) (former key : String) : Prop :=
  ∃ e, valued (p.outcome former) = some e ∧ e.key = key ∧ p.result.get? key = some e ∧
    p.origin key = former

def Meets (p : Pass) (former : String) : Fate → Prop
  | .dropped => valued (p.outcome former) = none
  | .kept => p.Supplies former former
  | .moved => ∃ key, key ≠ former ∧ p.Supplies former key
  | .collided => ∃ e holder, valued (p.outcome former) = some e ∧ e.key ≠ former ∧
      p.lost.count (e.key, former) = 1 ∧ p.Supplies holder e.key ∧
      (holder = e.key ∨ holder < former)

structure Accounts (p : Pass) : Prop where
  fate : ∀ former ∈ p.entries.keys, ∃! fate, p.Meets former fate
  source : ∀ key ∈ p.result.keys, ∃! former, former ∈ p.entries.keys ∧ p.Supplies former key
  report : ∀ key former, (key, former) ∈ p.lost → former ∈ p.entries.keys ∧
    p.Meets former .collided ∧ (valued (p.outcome former)).map (·.key) = some key
  size : p.entries.size = p.result.size +
    p.entries.keys.countP (fun key => (valued (p.outcome key)).isNone) + p.lost.length

lemma Supplies.origin_eq {p : Pass} {former key : String} (h : p.Supplies former key) :
    p.origin key = former := by
  obtain ⟨e, -, -, -, horigin⟩ := h
  exact horigin

def fateOf (p : Pass) (former : String) : Fate :=
  match valued (p.outcome former) with
  | none => .dropped
  | some e =>
    if e.key = former then .kept else if p.origin e.key = former then .moved else .collided

lemma Meets.eq_fateOf {p : Pass} {former : String} {fate : Fate} (h : p.Meets former fate) :
    fate = p.fateOf former := by
  cases fate with
  | dropped =>
    rw [fateOf, show valued (p.outcome former) = none from h]
  | kept =>
    obtain ⟨e, he, hkey, -, -⟩ := h
    simp [fateOf, he, hkey]
  | moved =>
    obtain ⟨key, hne, e, he, rfl, -, horigin⟩ := h
    simp [fateOf, he, hne, horigin]
  | collided =>
    obtain ⟨e, holder, he, hne, -, hsupplies, hholder⟩ := h
    have hother : p.origin e.key ≠ former := by
      rw [hsupplies.origin_eq]
      rcases hholder with rfl | hlt
      · exact hne
      · exact fun heq => String.lt_irrefl former (heq ▸ hlt)
    simp [fateOf, he, hne, hother]

end Pass

variable {entries : Ledger String Entry}

def origin (entries : Ledger String Entry) (key : String) : String :=
  if (filtered chain entries key).any (·.key = key) then key
  else (((byFormer (rekeyed chain entries)).find? (·.2.key = key)).map Prod.fst).getD key

def beaten (entries : Ledger String Entry) : List (String × Entry) :=
  losers (sortOut chain ⟨.empty, []⟩ entries.pairs).kept (byFormer (rekeyed chain entries))

def accounted (entries : Ledger String Entry) : Pass :=
  ⟨entries, fun key => (entries.get? key).bind chain, rest chain entries, origin chain entries,
    (beaten chain entries).map lost⟩

lemma valued_outcome (key : String) :
    valued ((accounted chain entries).outcome key) = filtered chain entries key := by
  simp only [accounted, filtered]
  cases entries.get? key <;> rfl

lemma nodup_byFormer : ((byFormer (rekeyed chain entries)).map Prod.fst).Nodup := by
  have hdistinct : ((rekeyed chain entries).map Prod.fst).Nodup := by
    have hpairs : entries.pairs.Pairwise fun p q => p.1 ≠ q.1 := List.pairwise_map.1 entries.nodup
    refine List.pairwise_map.2 (List.pairwise_filterMap.2 (hpairs.imp fun {p q} hne c hc d hd => ?_))
    obtain ⟨_, -, rfl⟩ := Option.map_eq_some_iff.1 hc
    obtain ⟨_, -, rfl⟩ := Option.map_eq_some_iff.1 hd
    exact hne
  exact ((byFormer_perm _).map Prod.fst).nodup_iff.2 hdistinct

lemma byFormer_eq {renamed sorted : List (String × Entry)} (hperm : sorted.Perm renamed)
    (hsorted : sorted.Pairwise fun p q => p.1 < q.1) : byFormer renamed = sorted := by
  have hdistinct : (sorted.map Prod.fst).Nodup :=
    List.pairwise_map.2 (hsorted.imp fun {p q} (hlt : p.1 < q.1) (heq : p.1 = q.1) =>
      String.lt_irrefl q.1 (heq ▸ hlt))
  have hsame := (byFormer_perm renamed).trans hperm.symm
  refine List.Perm.eq_of_pairwise (fun p q hp hq hpq hqp => ?_) (byFormer_sorted renamed)
    (hsorted.imp Std.le_of_lt) hsame
  exact List.inj_on_of_nodup_map hdistinct (hsame.mem_iff.1 hp) hq (String.le_antisymm hpq hqp)

lemma mem_byFormer_iff {former : String} {e : Entry} :
    (former, e) ∈ byFormer (rekeyed chain entries) ↔
      filtered chain entries former = some e ∧ e.key ≠ former :=
  (byFormer_perm _).mem_iff.trans (mem_rekeyed_iff chain)

lemma contains_kept (key : String) :
    (sortOut chain ⟨.empty, []⟩ entries.pairs).kept.contains key =
      (filtered chain entries key).any (·.key = key) := by
  rw [Ledger.contains, get?_kept]
  cases filtered chain entries key with
  | none => rfl
  | some e => by_cases h : e.key = key <;> simp [h]

lemma exists_first {former : String} {e : Entry} (he : filtered chain entries former = some e)
    (hne : e.key ≠ former) :
    ∃ q, (byFormer (rekeyed chain entries)).find? (·.2.key = e.key) = some q := by
  rw [← Option.isSome_iff_exists, List.find?_isSome]
  exact ⟨(former, e), (mem_byFormer_iff chain).2 ⟨he, hne⟩, by simp⟩

lemma mem_beaten_iff {former : String} {e : Entry} :
    (former, e) ∈ beaten chain entries ↔ filtered chain entries former = some e ∧ e.key ≠ former ∧
      origin chain entries e.key ≠ former := by
  rw [beaten, mem_losers_iff (nodup_byFormer chain), contains_kept, mem_byFormer_iff, and_assoc]
  refine and_congr_right fun he => and_congr_right fun hne => ?_
  rw [origin]
  split
  · rename_i hkept
    exact ⟨fun _ => hne, fun _ => .inl hkept⟩
  · rename_i hfree
    -- The entry itself is among those that are looked through for its key.
    obtain ⟨q, hfirst⟩ := exists_first chain he hne
    simp [hfree, hfirst]

lemma supplies_kept {key : String} {e : Entry} (he : filtered chain entries key = some e)
    (hkey : e.key = key) : (accounted chain entries).Supplies key key := by
  refine ⟨e, by rw [valued_outcome, he], hkey, ?_, ?_⟩
  · change (rest chain entries).get? key = _
    rw [get?_rest, he, Option.filter_some, if_pos (by simpa using hkey), Option.some_or]
  · change origin chain entries key = key
    rw [origin, he, if_pos (by simpa using hkey)]

lemma supplies_first {key : String} (hfree : ∀ e, filtered chain entries key = some e → e.key ≠ key)
    {former : String} {e : Entry}
    (hfirst : (byFormer (rekeyed chain entries)).find? (·.2.key = key) = some (former, e)) :
    (accounted chain entries).Supplies former key := by
  have hkept : (filtered chain entries key).filter (·.key = key) = none := by
    simpa [Option.filter_eq_none_iff] using hfree
  have hany : ¬ (filtered chain entries key).any (·.key = key) = true := by
    simpa [Option.any_eq_true] using hfree
  have hmem := (mem_byFormer_iff chain).1 (List.mem_of_find?_eq_some hfirst)
  refine ⟨e, by rw [valued_outcome, hmem.1], by simpa using List.find?_some hfirst, ?_, ?_⟩
  · change (rest chain entries).get? key = _
    rw [get?_rest, hkept, hfirst]
    rfl
  · change origin chain entries key = former
    rw [origin, if_neg hany, hfirst]
    rfl

lemma exists_supplies {former : String} {e : Entry}
    (he : filtered chain entries former = some e) :
    ∃ holder, (accounted chain entries).Supplies holder e.key ∧
      (holder = e.key ∨ holder ≤ former) := by
  by_cases hkept : ∃ k, filtered chain entries e.key = some k ∧ k.key = e.key
  · obtain ⟨k, hk, hkey⟩ := hkept
    exact ⟨e.key, supplies_kept chain hk hkey, .inl rfl⟩
  · have hfree : ∀ k, filtered chain entries e.key = some k → k.key ≠ e.key :=
      fun k hk hkey => hkept ⟨k, hk, hkey⟩
    have hne : e.key ≠ former := by
      rintro rfl
      exact hfree e he rfl
    have hmem := (mem_rekeyed_iff chain).2 ⟨he, hne⟩
    obtain ⟨q, hfirst⟩ := exists_first chain he hne
    exact ⟨q.1, supplies_first chain hfree hfirst,
      .inr ((le_of_find?_byFormer hfirst).2 _ hmem rfl)⟩

lemma count_lost {former : String} {e : Entry} (h : (former, e) ∈ beaten chain entries) :
    ((beaten chain entries).map lost).count (e.key, former) = 1 := by
  have hdistinct : ((beaten chain entries).map lost).Nodup := by
    refine List.Nodup.of_map Prod.snd ?_
    rw [List.map_map]
    exact ((losers_sublist _ _).map Prod.fst).nodup (nodup_byFormer chain)
  exact List.count_eq_one_of_mem hdistinct (List.mem_map_of_mem (f := lost) h)

lemma meets_fate (entries : Ledger String Entry) (former : String) :
    ∃ fate, (accounted chain entries).Meets former fate := by
  cases he : filtered chain entries former with
  | none => exact ⟨.dropped, (valued_outcome chain former).trans he⟩
  | some e =>
    by_cases hkey : e.key = former
    · exact ⟨.kept, supplies_kept chain he hkey⟩
    · obtain ⟨holder, hsupplies, hholder⟩ := exists_supplies chain he
      by_cases hself : holder = former
      · exact ⟨.moved, e.key, hkey, hself ▸ hsupplies⟩
      · have hbeaten : (former, e) ∈ beaten chain entries :=
          (mem_beaten_iff chain).2
            ⟨he, hkey, fun horigin => hself (hsupplies.origin_eq.symm.trans horigin)⟩
        exact ⟨.collided, e, holder, (valued_outcome chain former).trans he, hkey,
          count_lost chain hbeaten, hsupplies, hholder.imp_right (Std.lt_of_le_of_ne · hself)⟩

lemma renamed_eq (entries : Ledger String Entry) :
    (sortOut chain ⟨.empty, []⟩ entries.pairs).renamed = rekeyed chain entries :=
  (renamed_sortOut chain _ _).trans (List.nil_append _)

lemma size_accounted (entries : Ledger String Entry) :
    entries.size = (rest chain entries).size +
      entries.keys.countP (fun key => (filtered chain entries key).isNone) +
      (beaten chain entries).length := by
  have hsorted := size_sortOut chain entries.nodup ⟨.empty, []⟩ fun _ _ => by simp
  have hdropped : entries.keys.countP (fun key => (filtered chain entries key).isNone) =
      entries.pairs.countP fun p => (valued (chain p.2)).isNone := by
    rw [Ledger.keys, List.countP_map]
    refine List.countP_congr fun p hp => ?_
    simp [filtered, Ledger.mem_pairs_iff.1 (show (p.1, p.2) ∈ entries.pairs from hp)]
  have hsettled : (rest chain entries).size + (beaten chain entries).length =
      (sortOut chain ⟨.empty, []⟩ entries.pairs).kept.size + (rekeyed chain entries).length := by
    rw [← List.length_mergeSort (rekeyed chain entries), rest, renamed_eq]
    exact size_settled _ _
  rw [renamed_eq] at hsorted
  rw [hdropped]
  change _ = 0 + 0 + entries.size at hsorted
  omega

lemma mem_keys_of_supplies {former key : String}
    (h : (accounted chain entries).Supplies former key) : former ∈ entries.keys := by
  obtain ⟨e, he, -⟩ := h
  exact mem_keys_of_filtered chain ((valued_outcome chain former).symm.trans he)

lemma accounts (entries : Ledger String Entry) : (accounted chain entries).Accounts where
  fate former _ := by
    obtain ⟨fate, h⟩ := meets_fate chain entries former
    exact ⟨fate, h, fun other hother => hother.eq_fateOf.trans h.eq_fateOf.symm⟩
  source key hkey := by
    obtain ⟨found, hfound⟩ := Ledger.mem_keys_iff.1 hkey
    have hsome : ∃ former e, filtered chain entries former = some e ∧ e.key = key := by
      have hfiled := filed_rest chain entries key
      rw [show (rest chain entries).get? key = some found from hfound] at hfiled
      cases hfiled with
      | kept _ he hek => exact ⟨_, _, he, hek⟩
      | renamed _ _ he hek _ => exact ⟨_, _, he, hek⟩
    obtain ⟨former, e, he, rfl⟩ := hsome
    obtain ⟨holder, hsupplies, -⟩ := exists_supplies chain he
    exact ⟨holder, ⟨mem_keys_of_supplies chain hsupplies, hsupplies⟩,
      fun other hother => hother.2.origin_eq.symm.trans hsupplies.origin_eq⟩
  report _ _ hlost := by
    obtain ⟨⟨former, e⟩, hbeaten, hpair⟩ := List.mem_map.1 hlost
    obtain ⟨rfl, rfl⟩ := Prod.mk.inj hpair
    obtain ⟨he, hne, horigin⟩ := (mem_beaten_iff chain).1 hbeaten
    have hvalued := (valued_outcome chain former).trans he
    -- A beaten entry has a value and a new key, and the key went to another entry.
    refine ⟨mem_keys_of_filtered chain he, ?_, by rw [hvalued]; rfl⟩
    obtain ⟨fate, h⟩ := meets_fate chain entries former
    have hcollided : (accounted chain entries).fateOf former = .collided := by
      rw [Pass.fateOf, hvalued]
      exact (if_neg hne).trans (if_neg horigin)
    rwa [h.eq_fateOf, hcollided] at h
  size := by
    have hsize := size_accounted chain entries
    simp only [← valued_outcome] at hsize
    rwa [← List.length_map] at hsize

lemma accounts_untouched {outcome : String → Option Entry}
    (h : ∀ key, outcome key = entries.get? key)
    (hentries : ∀ p ∈ entries.pairs, p.2.key = p.1 ∧ p.2.value.isSome = true) :
    Pass.Accounts ⟨entries, outcome, entries, fun key => key, []⟩ := by
  have hvalued : ∀ key ∈ entries.keys, ∃ e, valued (outcome key) = some e ∧ e.key = key ∧
      entries.get? key = some e := by
    intro key hkey
    obtain ⟨e, he⟩ := Ledger.mem_keys_iff.1 hkey
    obtain ⟨hek, hvalue⟩ := hentries (key, e) (Ledger.mem_pairs_iff.2 he)
    exact ⟨e, by rw [h, he, valued, Option.filter_some, if_pos hvalue], hek, he⟩
  have hsupplies : ∀ key ∈ entries.keys,
      Pass.Supplies ⟨entries, outcome, entries, fun key => key, []⟩ key key := by
    intro key hkey
    obtain ⟨e, he, hek, hget⟩ := hvalued key hkey
    exact ⟨e, he, hek, hget, rfl⟩
  constructor
  · intro former hformer
    have hkept : Pass.Meets ⟨entries, outcome, entries, fun key => key, []⟩ former .kept :=
      hsupplies former hformer
    exact ⟨.kept, hkept, fun other hother => hother.eq_fateOf.trans hkept.eq_fateOf.symm⟩
  · intro key hkey
    exact ⟨key, ⟨hkey, hsupplies key hkey⟩, fun other hother => hother.2.origin_eq.symm⟩
  · intro _ _ hlost
    cases hlost
  · have hnone : entries.keys.countP (fun key => (valued (outcome key)).isNone) = 0 := by
      refine List.countP_eq_zero.2 fun key hkey => ?_
      obtain ⟨e, he, -⟩ := hvalued key hkey
      simp [he]
    change entries.size = entries.size + entries.keys.countP _ + 0
    rw [hnone]
    rfl

section Chain

variable (h : ∀ f ∈ filters, f.Answers (outcome f))

include h in
lemma sort_answers {entries : Ledger String Entry} (hentries : ∀ p ∈ entries.pairs, p.2.key = p.1)
    (m : Memory σ) :
    (quiet σ).Leads m (entries.pairs.foldlM (fun (s : Sorted) (p : String × Entry) => do
        let filtered ← apply (← (pure filters : Act σ _)) p.2 ⟨p.1, entries, false⟩
        return s.file p.1 filtered) ⟨.empty, []⟩)
      (fun sorted _ =>
        sorted = sortOut (passedAmong outcome filters entries) ⟨.empty, []⟩ entries.pairs)
      fun _ _ => False := by
  refine Course.Leads.foldlM (l := []) (R := fun done sorted _ =>
    sorted = sortOut (passedAmong outcome filters entries) ⟨.empty, []⟩ done) ?_ rfl
  rintro done _ p hp m' rfl
  refine (apply_answers h ⟨p.1, entries, false⟩ p.2 m').bind fun found m'' _ hfound => ?_
  have hpassed : passedAmong outcome filters entries p.2 = found := by
    rw [hfound, passedAmong, hentries p hp]
  refine Course.Leads.pure ?_
  rw [sortOut, sortOut, List.foldl_append, List.foldl_cons, List.foldl_nil, hpassed]

end Chain

lemma applyAll_answers (hfilters : ∀ f ∈ filters, f.Answers (outcome f)) (hne : filters ≠ [])
    {entries : Ledger String Entry} (hkeys : ∀ p ∈ entries.pairs, p.2.key = p.1) (m : Memory σ) :
    ∃ m', (applyAll (pure filters) entries).run.run m =
        (.ok (rest (passedAmong outcome filters entries) entries), m') ∧
      m'.collisions =
        m.collisions ++ recorded m ((beaten (passedAmong outcome filters entries) entries).map lost) := by
  obtain ⟨f, filters, rfl⟩ := List.exists_cons_of_ne_nil hne
  obtain ⟨_, m₁, hsort, ⟨hthreshold, hcollisions⟩, rfl⟩ :=
    (sort_answers hfilters hkeys m).exists_ok trivial
  obtain ⟨m', hsettle, -, hreports⟩ := settle_reports
    (sortOut (passedAmong outcome (f :: filters) entries) ⟨.empty, []⟩ entries.pairs).kept
    (byFormer (rekeyed (passedAmong outcome (f :: filters) entries) entries)) m₁
  rw [← renamed_eq] at hsettle
  refine ⟨m', (run_bind_ok hsort).trans hsettle, ?_⟩
  rw [hreports, hcollisions, recorded, recorded, hthreshold]
  rfl

/-- Each entry that goes into a pass meets one fate, each published entry is what became of one, and
each key that an entry loses is reported once. So the entries are as many as those published, those
dropped and the reports together. -/
theorem applyAll_accounts (hfilters : ∀ f ∈ filters, f.Answers (outcome f))
    {entries : Ledger String Entry}
    (hentries : ∀ p ∈ entries.pairs, p.2.key = p.1 ∧ p.2.value.isSome = true) (m : Memory σ) :
    ∃ result origin lost m',
      (applyAll (pure filters) entries).run.run m = (.ok result, m') ∧
      m'.collisions = m.collisions ++ recorded m lost ∧
      Pass.Accounts ⟨entries, fun key => (entries.get? key).bind (passedAmong outcome filters entries),
        result, origin, lost⟩ := by
  by_cases hempty : filters = []
  · subst hempty
    refine ⟨entries, fun key => key, [], m, rfl, by simp [recorded],
      accounts_untouched (fun key => ?_) hentries⟩
    cases entries.get? key <;> rfl
  · obtain ⟨m', hrun, hcollisions⟩ :=
      applyAll_answers hfilters hempty (fun p hp => (hentries p hp).1) m
    exact ⟨_, _, _, m', hrun, hcollisions, accounts (passedAmong outcome filters entries) entries⟩

lemma answers_of_settled {f : Filter σ} {outcome : Entry → Option Entry}
    (h : ∀ M : Memory σ → Prop, f.Settled M outcome) : f.Answers fun e _ => outcome e := by
  intro e context m _
  obtain ⟨hanswer, hm⟩ := (h (· = m)).run e context m rfl
  have hrun : (f.run e context).run.run m = (.ok (outcome e), m) := Prod.ext hanswer hm
  rw [hrun]
  exact ⟨trivial, ⟨rfl, rfl⟩, rfl⟩

def answerIn (m : Memory σ) (f : Filter σ) (e : Entry) (context : FilterContext) : Option Entry :=
  ((f.run e context).run.run m).1.toOption.join

lemma Answers.answerIn {f : Filter σ} {outcome : Entry → FilterContext → Option Entry}
    (h : f.Answers outcome) (m : Memory σ) : f.Answers (f.answerIn m) := by
  have hsame : f.answerIn m = outcome := by
    funext e context
    obtain ⟨found, m', hrun, -, hfound⟩ := (h e context m).exists_ok trivial
    rw [Filter.answerIn, hrun, ← hfound]
    rfl
  rwa [hsame]

def offSwitch : Filter Unit where
  id := 3
  name := "OffSwitch"
  run e context :=
    return some (if context.entries.contains (e.key ++ ".off") then e.withValue none else e)

def crossing : List (Filter Unit) :=
  [(Stock.hide ⟨"secret", (· = "secret")⟩).toFilter 0, offSwitch,
    (Stock.rename none (some "old.") none).toFilter 1, (Stock.rename none (some "x.") none).toFilter 2]

def crossed : Ledger String Entry :=
  ⟨[("x.shape", ⟨"x.shape", some "1", "env", .empty, by decide⟩),
    ("old.color", ⟨"old.color", some "2", "env", .empty, by decide⟩),
    ("color", ⟨"color", some "3", "file", .empty, by decide⟩),
    ("secret", ⟨"secret", some "4", "file", .empty, by decide⟩),
    ("old.shape", ⟨"old.shape", some "5", "file", .empty, by decide⟩),
    ("style", ⟨"style", some "6", "file", .empty, by decide⟩),
    ("style.off", ⟨"style.off", some "", "env", .empty, by decide⟩)], by decide⟩

def crossedStart : Memory Unit := .initial .warning ()

def crossedChain : Entry → Option Entry := passedAmong (answerIn crossedStart) crossing crossed

lemma rekeyed_crossed : byFormer (rekeyed crossedChain crossed) =
    [("old.color", ⟨"color", some "2", "env", .empty, by decide⟩),
      ("old.shape", ⟨"shape", some "5", "file", .empty, by decide⟩),
      ("x.shape", ⟨"shape", some "1", "env", .empty, by decide⟩)] := by
  have hrekeyed : rekeyed crossedChain crossed =
      [("x.shape", ⟨"shape", some "1", "env", .empty, by decide⟩),
        ("old.color", ⟨"color", some "2", "env", .empty, by decide⟩),
        ("old.shape", ⟨"shape", some "5", "file", .empty, by decide⟩)] := by decide +kernel
  rw [hrekeyed]
  exact byFormer_eq (by decide +kernel) (by decide +kernel)

theorem crossed_accounts :
    ((∀ f ∈ crossing, f.Answers (answerIn crossedStart f)) ∧
      ∀ p ∈ crossed.pairs, p.2.key = p.1 ∧ p.2.value.isSome = true) ∧
    ∃ result origin lost m',
      (applyAll (pure crossing) crossed).run.run crossedStart = (.ok result, m') ∧
      result.keys = ["color", "style.off", "shape"] ∧
      m'.collisions = [(some "color", some "old.color"), (some "shape", some "x.shape")] ∧
      Pass.Accounts ⟨crossed, fun key => (crossed.get? key).bind crossedChain, result, origin, lost⟩ := by
  have hswitch : offSwitch.Answers fun e context =>
      some (if context.entries.contains (e.key ++ ".off") then e.withValue none else e) :=
    fun e context m => Course.Leads.pure rfl
  have hfilters : ∀ f ∈ crossing, f.Answers (answerIn crossedStart f) := by
    refine List.forall_mem_cons.2 ⟨?_, List.forall_mem_cons.2 ⟨hswitch.answerIn _,
      List.forall_mem_cons.2 ⟨?_, List.forall_mem_singleton.2 ?_⟩⟩⟩
    · exact (answers_of_settled fun _ => Stock.settled_hide _ 0).answerIn _
    · exact (answers_of_settled fun _ => Stock.settled_rename _ _ _ 1).answerIn _
    · exact (answers_of_settled fun _ => Stock.settled_rename _ _ _ 2).answerIn _
  have hcrossed : ∀ p ∈ crossed.pairs, p.2.key = p.1 ∧ p.2.value.isSome = true := by decide
  obtain ⟨result, origin, lost, m', hrun, -, haccounts⟩ :=
    applyAll_accounts hfilters hcrossed crossedStart
  obtain ⟨_, hrun', hcollisions⟩ :=
    applyAll_answers hfilters (by simp [crossing]) (fun p hp => (hcrossed p hp).1) crossedStart
  obtain ⟨hresult, rfl⟩ := Prod.mk.inj (hrun'.symm.trans hrun)
  obtain rfl := Except.ok.inj hresult
  -- Both theorems speak of one run, so its result can be computed by the second one.
  refine ⟨⟨hfilters, hcrossed⟩, _, origin, lost, _, hrun, ?_, ?_, haccounts⟩
  · change (rest crossedChain crossed).keys = _
    rw [rest, renamed_eq, rekeyed_crossed]
    decide +kernel
  · rw [hcollisions, recorded, if_pos (by decide)]
    change _ ++ ((beaten crossedChain crossed).map _).map _ = _
    rw [beaten, rekeyed_crossed]
    decide +kernel

end Filter

end LayeredConfig
