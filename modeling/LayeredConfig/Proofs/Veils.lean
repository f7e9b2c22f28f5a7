import LayeredConfig.Merge
import LayeredConfig.Proofs.Parallel
import LayeredConfig.Proofs.Ranking

/-! Two passes over sources that differ in nothing but secret texts. Merging tells them apart
nowhere else: the same keys are found, the same meta-entries are in effect, the same sources are
named and the same events recorded. -/

namespace LayeredConfig

variable {σ α : Type}

namespace Ledger

def Matches (R : String → α → α → Prop) (l l' : Ledger String α) : Prop :=
  List.Forall₂ (fun p q => p.1 = q.1 ∧ R p.1 p.2 q.2) l.pairs l'.pairs

namespace Matches

variable {R : String → α → α → Prop} {l l' : Ledger String α}

lemma empty : Matches R .empty .empty := .nil

lemma keys_eq (h : Matches R l l') : l.keys = l'.keys := by
  have hfst : List.Forall₂ Eq (l.pairs.map Prod.fst) (l'.pairs.map Prod.fst) :=
    List.forall₂_map_left_iff.2 (List.forall₂_map_right_iff.2 (h.imp fun _ _ hp => hp.1))
  rwa [List.forall₂_eq_eq_eq] at hfst

lemma size_eq (h : Matches R l l') : l.size = l'.size := List.Forall₂.length_eq h

lemma lookup {ps qs : List (String × α)}
    (h : List.Forall₂ (fun p q => p.1 = q.1 ∧ R p.1 p.2 q.2) ps qs) (key : String) :
    Option.Rel (R key) (Ledger.lookup key ps) (Ledger.lookup key qs) := by
  induction h with
  | nil => exact .none
  | @cons p q _ _ hp _ ih =>
    obtain ⟨hkey, hvalue⟩ := hp
    rw [Ledger.lookup, Ledger.lookup, ← hkey]
    split
    · rename_i heq
      subst heq
      exact .some hvalue
    · exact ih

lemma get? (h : Matches R l l') (key : String) : Option.Rel (R key) (l.get? key) (l'.get? key) :=
  lookup h key

lemma place {ps qs : List (String × α)}
    (h : List.Forall₂ (fun p q => p.1 = q.1 ∧ R p.1 p.2 q.2) ps qs) {key : String} {v w : α}
    (hvw : R key v w) :
    List.Forall₂ (fun p q => p.1 = q.1 ∧ R p.1 p.2 q.2) (Ledger.place key v ps)
      (Ledger.place key w qs) := by
  induction h with
  | nil => exact .cons ⟨rfl, hvw⟩ .nil
  | @cons p q _ _ hp hrest ih =>
    rw [Ledger.place, Ledger.place, ← hp.1]
    split
    · exact .cons ⟨rfl, hvw⟩ hrest
    · exact .cons ⟨rfl, hp.2⟩ ih

lemma put (h : Matches R l l') {key : String} {v w : α} (hvw : R key v w) :
    Matches R (l.put key v) (l'.put key w) :=
  place h hvw

end Matches

end Ledger

abbrev Texts (S : String → Prop) (key : String) : Option String → Option String → Prop :=
  Option.Rel fun s t => ¬ S key → s = t

/-- Entries found under one key that differ at most in a text that is secret there. -/
structure Entry.Veiled (S : String → Prop) (k : String) (e e' : Entry) : Prop where
  key : e.key = e'.key
  source : e.source = e'.source
  metadata : e.metadata = e'.metadata
  value : Texts S k e.value e'.value

lemma Entry.Veiled.value_eq {S : String → Prop} {k : String} {e e' : Entry} (h : e.Veiled S k e')
    (hk : ¬ S k) : e.value = e'.value := by
  have hvalue := h.value
  generalize e.value = v, e'.value = v' at hvalue ⊢
  rcases hvalue with heq | _
  · rw [heq hk]
  · rfl

structure Source.Veiled (S : String → Prop) (s s' : Source σ) : Prop where
  name : s.name = s'.name
  ordinal : s.ordinal = s'.ordinal
  scannable : s.scannable = s'.scannable
  get : ∀ key, Parallel (Option.Rel (Entry.Veiled S key)) (s.get key) (s'.get key)
  properties : Parallel (Ledger.Matches (Entry.Veiled S)) s.properties s'.properties

structure Snapshot.Veiled (S : String → Prop) (s s' : Snapshot) : Prop where
  name : s.name = s'.name
  ordinal : s.ordinal = s'.ordinal
  entries : Ledger.Matches (Entry.Veiled S) s.entries s'.entries

variable {S : String → Prop}

lemma Source.veiled_ofEntries (id id' : Nat) (name : String) (ordinal : Int) (scannable : Bool)
    {entries entries' : Ledger String Entry}
    (h : Ledger.Matches (Entry.Veiled S) entries entries') :
    (Source.ofEntries id name ordinal scannable entries : Source σ).Veiled S
      (.ofEntries id' name ordinal scannable entries') where
  name := rfl
  ordinal := rfl
  scannable := rfl
  get key := Parallel.pure (h.get? key)
  properties := by
    refine Parallel.pure ?_
    cases scannable with
    | true => exact h
    | false => exact .empty

lemma Snapshot.Veiled.toSource {s s' : Snapshot} (h : s.Veiled S s') :
    (s.toSource : Source σ).Veiled S s'.toSource := by
  obtain ⟨name, ordinal, entries⟩ := s
  obtain ⟨name', ordinal', entries'⟩ := s'
  obtain rfl : name = name' := h.name
  obtain rfl : ordinal = ordinal' := h.ordinal
  exact Source.veiled_ofEntries 0 0 name ordinal true h.entries

lemma Source.inOrder_veiled {sources sources' : List (Source σ)}
    (h : List.Forall₂ (Source.Veiled S) sources sources') :
    List.Forall₂ (Source.Veiled S) (inOrder sources) (inOrder sources') :=
  Ranking.forall₂_sort h fun _ _ hs => hs.ordinal

namespace Merge

lemma foldl_eq_of_forall₂ {β γ : Type} {R : α → β → Prop} {f : γ → α → γ} {g : γ → β → γ}
    {xs : List α} {ys : List β} (h : List.Forall₂ R xs ys)
    (hfg : ∀ c a b, R a b → f c a = g c b) (c : γ) : xs.foldl f c = ys.foldl g c := by
  induction h generalizing c with
  | nil => rfl
  | cons hab _ ih => rw [List.foldl_cons, List.foldl_cons, hfg c _ _ hab, ih]

section Reading

variable {s s' : Source σ} {sources sources' : List (Source σ)}

lemma fetchKeys_parallel (h : s.Veiled S s') (keys : List String) :
    Parallel (Ledger.Matches (Entry.Veiled S)) (fetchKeys s keys) (fetchKeys s' keys) := by
  refine Parallel.foldlM (List.forall₂_same.2 fun key _ => Eq.refl key) ?_ .empty
  rintro found found' key _ hfound rfl
  refine Parallel.bind (h.get key) ?_
  rintro _ _ (hentry | _)
  · exact Parallel.pure (hfound.put hentry)
  · exact Parallel.pure hfound

lemma ask_parallel (h : List.Forall₂ (Source.Veiled S) sources sources') (wanted : List String) :
    Parallel (List.Forall₂ (Snapshot.Veiled S)) (ask wanted sources) (ask wanted sources') := by
  refine Parallel.mapM h fun s s' hs => ?_
  exact Parallel.bind (fetchKeys_parallel hs wanted) fun _ _ hentries =>
    Parallel.pure ⟨hs.name, hs.ordinal, hentries⟩

structure ScannedVeiled (S : String → Prop) (p q : Source σ × Option (Ledger String Entry)) :
    Prop where
  source : p.1.Veiled S q.1
  entries : Option.Rel (Ledger.Matches (Entry.Veiled S)) p.2 q.2

lemma reportFetched_eq (name : String) (h : s.Veiled S s')
    {entries entries' : Ledger String Entry}
    (hentries : Ledger.Matches (Entry.Veiled S) entries entries') :
    reportFetched name s entries = reportFetched name s' entries' := by
  rw [reportFetched, reportFetched, h.name, h.ordinal, hentries.size_eq]

lemma scan_parallel (h : List.Forall₂ (Source.Veiled S) sources sources') :
    Parallel (List.Forall₂ (ScannedVeiled S)) (scan sources) (scan sources') := by
  refine Parallel.mapM h fun s s' hs => ?_
  rw [hs.scannable]
  split
  · refine Parallel.bind hs.properties fun entries entries' hentries => ?_
    rw [reportFetched_eq _ hs hentries]
    exact Parallel.same fun _ => Parallel.pure ⟨hs, .some hentries⟩
  · exact Parallel.pure ⟨hs, .none⟩

lemma supply_parallel {p q : Source σ × Option (Ledger String Entry)} (h : ScannedVeiled S p q)
    (wanted : List String) : Parallel (Snapshot.Veiled S) (supply wanted p) (supply wanted q) := by
  obtain ⟨s, read⟩ := p
  obtain ⟨s', read'⟩ := q
  obtain ⟨hs, hread⟩ := h
  rw [supply, supply]
  cases hread with
  | some hentries => exact Parallel.pure ⟨hs.name, hs.ordinal, hentries⟩
  | none =>
    refine Parallel.bind (fetchKeys_parallel hs wanted) fun entries entries' hentries => ?_
    simp only [reportFetched_eq _ hs hentries]
    exact Parallel.same fun _ => Parallel.pure ⟨hs.name, hs.ordinal, hentries⟩

lemma found_eq {scanned scanned' : List (Source σ × Option (Ledger String Entry))}
    (h : List.Forall₂ (ScannedVeiled S) scanned scanned') : found scanned = found scanned' := by
  rw [found, found]
  congr 1
  refine foldl_eq_of_forall₂ h ?_ _
  rintro keys ⟨s, read⟩ ⟨s', read'⟩ ⟨-, hread⟩
  cases hread with
  | some hentries => simp only [Option.map_some, Option.getD_some, hentries.keys_eq]
  | none => rfl

lemma fetch_parallel (m : MetaKeys) (h : List.Forall₂ (Source.Veiled S) sources sources') :
    Parallel (fun r r' => List.Forall₂ (Snapshot.Veiled S) r.1 r'.1 ∧ r.2 = r'.2)
      (fetch m sources) (fetch m sources') := by
  refine Parallel.bind (scan_parallel h) fun scanned scanned' hscanned => ?_
  rw [found_eq hscanned]
  refine Parallel.bind (Parallel.mapM hscanned fun _ _ hp => supply_parallel hp _) ?_
  exact fun _ _ hsnapshots => Parallel.pure ⟨hsnapshots, rfl⟩

end Reading

variable {snapshots snapshots' : List Snapshot}

lemma metadata_eq {m : MetaKeys} (hS : ∀ key, S key → m.isMeta key = false)
    (h : List.Forall₂ (Snapshot.Veiled S) snapshots snapshots') :
    metadata m snapshots = metadata m snapshots' := by
  have hvalues : metaValues m snapshots = metaValues m snapshots' := by
    refine foldl_eq_of_forall₂ h (fun values s s' hs => ?_) _
    refine foldl_eq_of_forall₂ hs.entries ?_ values
    rintro values ⟨key, e⟩ ⟨key', e'⟩ ⟨rfl, he⟩
    rw [keepMeta, keepMeta]
    cases hmeta : m.isMeta key with
    | false => simp
    | true =>
      -- Secrets stand under visible keys only.
      have hsecret : ¬ S key := fun hkey => by simp [hS key hkey] at hmeta
      rw [he.value_eq hsecret]
  rw [metadata, metadata, hvalues]

lemma rel_map {β γ δ : Type} {R : α → β → Prop} {T : γ → δ → Prop} {f : α → γ} {g : β → δ}
    {o : Option α} {o' : Option β} (h : Option.Rel R o o') (hfg : ∀ a b, R a b → T (f a) (g b)) :
    Option.Rel T (o.map f) (o'.map g) := by
  cases h with
  | some hab => exact .some (hfg _ _ hab)
  | none => exact .none

lemma holders_veiled (h : List.Forall₂ (Snapshot.Veiled S) snapshots snapshots') (key : String) :
    List.Forall₂ (fun p q => p.1.Veiled S q.1 ∧ p.2.Veiled S key q.2) (holders key snapshots)
      (holders key snapshots') := by
  refine List.rel_filterMap (fun s s' hs => ?_) h
  exact rel_map (hs.entries.get? key) fun _ _ he => ⟨hs, he⟩

end Merge

lemma Texts.of_entry {key : String} {found found' : Option Entry}
    (h : Option.Rel (Entry.Veiled S key) found found') :
    Texts S key (found.bind (·.value)) (found'.bind (·.value)) := by
  cases h with
  | some he => exact he.value
  | none => exact .none

/-- A policy that gives away no more of a secret than the text it leaves. -/
def Policy.Discreet (p : Policy σ) : Prop :=
  ∀ (S : String → Prop) (key : String) {current current' : Option String}
    {source source' : Source σ} (metadata : Ledger String String), Texts S key current current' →
    source.Veiled S source' →
      Parallel (Texts S key) (p.combine current key source metadata)
        (p.combine current' key source' metadata)

lemma Policy.override_discreet : (Policy.override : Policy σ).Discreet := by
  intro S key current current' source source' metadata hcurrent hsource
  refine Parallel.bind (hsource.get key) fun found found' hfound => Parallel.pure ?_
  have hvalue := Texts.of_entry hfound
  generalize found.bind (·.value) = value, found'.bind (·.value) = value' at hvalue ⊢
  rcases hvalue with heq | _
  · exact .some heq
  · exact hcurrent

lemma Policy.collect_discreet : (Policy.collect : Policy σ).Discreet := by
  intro S key current current' source source' metadata hcurrent hsource
  refine Parallel.bind (hsource.get key) fun found found' hfound => ?_
  have hvalue := Texts.of_entry hfound
  generalize found.bind (·.value) = value, found'.bind (·.value) = value' at hvalue ⊢
  rcases hvalue with heq | _
  · rcases hcurrent with hstart | _
    · refine Parallel.pure (.some fun hkey => ?_)
      rw [heq hkey, hstart hkey]
    · exact Parallel.pure (.some heq)
  · exact Parallel.pure hcurrent

lemma Texts.isSome_eq {key : String} {value value' : Option String} (h : Texts S key value value') :
    value.isSome = value'.isSome := by
  cases h with
  | some _ => rfl
  | none => rfl

lemma Resolver.resolve_discreet {r : Resolver σ} (hr : r.factories = .empty) (key : String)
    (metadata : Ledger String String) :
    Ensures (fun _ => True) (r.resolve key metadata) fun choice => choice.policy.Discreet := by
  have hreport : ∀ x : Recall σ Unit, Ensures (fun _ => True) x fun _ => True :=
    fun _ _ _ => ⟨trivial, trivial⟩
  have hcustom : ∀ name, Ensures (fun _ => True) (r.custom name).attempt
      fun result => ∃ failure, result = .error failure := by
    intro name
    rw [Resolver.custom, hr]
    exact Ensures.pure ⟨_, rfl⟩
  rw [Resolver.resolve]
  split
  · exact Ensures.pure Policy.override_discreet
  · cases metadata.get? MetaKeys.combinationPolicy with
    | none => exact Ensures.pure Policy.override_discreet
    | some text =>
      simp only
      split
      · exact Ensures.pure Policy.override_discreet
      · split
        · exact Ensures.bind (hreport _) fun _ _ => Ensures.pure Policy.collect_discreet
        · refine Ensures.bind (hcustom (Text.strip text)) ?_
          rintro _ ⟨failure, rfl⟩
          exact Ensures.bind (hreport _) fun _ _ => Ensures.pure Policy.override_discreet

namespace Merge

structure Running.Veiled (S : String → Prop) (key : String) (r r' : Running) : Prop where
  value : Texts S key r.value r'.value
  contributor : Option.Rel (fun c c' => c.1 = c'.1 ∧ c.2.Veiled S key c'.2) r.contributor
    r'.contributor

lemma combineAll_parallel {policy : Policy σ} (hpolicy : policy.Discreet) (key : String)
    (metadata : Ledger String String) {holders holders' : List (Snapshot × Entry)}
    (h : List.Forall₂ (fun p q => p.1.Veiled S q.1 ∧ p.2.Veiled S key q.2) holders holders')
    {running running' : Running} (hrunning : running.Veiled S key running') :
    Parallel (Running.Veiled S key) (combineAll policy key metadata running holders)
      (combineAll policy key metadata running' holders') := by
  induction h generalizing running running' with
  | nil => exact Parallel.pure hrunning
  | cons hp _ ih =>
    refine Parallel.bind (hpolicy S key metadata hrunning.value hp.1.toSource) fun v v' hv => ?_
    refine ih ⟨hv, ?_⟩
    rw [hp.2.value.isSome_eq]
    split
    · exact .some ⟨hp.1.name, hp.2⟩
    · exact hrunning.contributor

def Merged (S : String → Prop) (key : String) (e e' : Entry) : Prop :=
  e.key = key ∧ e.Veiled S key e'

lemma entry?_veiled {key : String} (metadata : Ledger String String) {running running' : Running}
    (h : running.Veiled S key running') :
    Results (Option.Rel (Merged S key)) (running.entry? key metadata)
      (running'.entry? key metadata) := by
  obtain ⟨value, contributor⟩ := running
  obtain ⟨value', contributor'⟩ := running'
  obtain ⟨hvalue, hcontributor⟩ := h
  rcases hvalue with @⟨text, text', htext⟩ | _
  · rcases hcontributor with @⟨⟨name, e⟩, ⟨name', e'⟩, hname, he⟩ | _
    · change name = name' at hname
      have hmetadata : e.metadata = e'.metadata := he.metadata
      simp only [Running.entry?, hname, hmetadata]
      by_cases hne : key = ""
      · simp only [Entry.make, hne]
        exact .error _
      · simp only [Entry.make_of_ne hne]
        exact .ok (.some ⟨rfl, rfl, rfl, rfl, .some htext⟩)
    · exact .ok .none
  · exact .ok .none

lemma mergeKey_parallel {r : Resolver σ} (hr : r.factories = .empty) (m : MetaKeys) (key : String)
    (metadata : Ledger String String) {snapshots snapshots' : List Snapshot}
    (h : List.Forall₂ (Snapshot.Veiled S) snapshots snapshots') :
    Parallel (Option.Rel (Merged S key)) ((⟨r, m⟩ : Merge σ).mergeKey key snapshots metadata)
      ((⟨r, m⟩ : Merge σ).mergeKey key snapshots' metadata) := by
  have hholders := holders_veiled h key
  rw [mergeKey, mergeKey]
  generalize holders key snapshots = hs, holders key snapshots' = hs' at hholders ⊢
  rcases hholders with _ | ⟨hp, hrest⟩
  · exact Parallel.pure .none
  · refine Parallel.lift (.of_ensures (Resolver.resolve_discreet hr key metadata)) ?_
    rintro choice _ ⟨rfl, hdiscreet⟩
    refine Parallel.bind (Parallel.call (combineAll_parallel hdiscreet key metadata
      (.cons hp hrest) ⟨.none, .none⟩)) fun running running' hrunning => ?_
    exact Parallel.make (entry?_veiled metadata hrunning)

lemma resolveAll_parallel {r : Resolver σ} (hr : r.factories = .empty) {m : MetaKeys}
    (hS : ∀ key, S key → m.isMeta key = false) {sources sources' : List (Source σ)}
    (h : List.Forall₂ (Source.Veiled S) sources sources') :
    Parallel (Ledger.Matches (Merged S)) ((⟨r, m⟩ : Merge σ).resolveAll sources)
      ((⟨r, m⟩ : Merge σ).resolveAll sources') := by
  refine Parallel.bind (Parallel.call (fetch_parallel m (Source.inOrder_veiled h))) ?_
  rintro ⟨snapshots, keys⟩ ⟨snapshots', keys'⟩ ⟨hsnapshots, hkeys⟩
  obtain rfl : keys = keys' := hkeys
  change List.Forall₂ (Snapshot.Veiled S) snapshots snapshots' at hsnapshots
  simp only [metadata_eq hS hsnapshots]
  have hmerged : Parallel (Ledger.Matches (Merged S))
      ((⟨r, m⟩ : Merge σ).mergeKeys snapshots (metadata m snapshots')
        (keys.filter fun k => !m.isMeta k))
      ((⟨r, m⟩ : Merge σ).mergeKeys snapshots' (metadata m snapshots')
        (keys.filter fun k => !m.isMeta k)) := by
    refine Parallel.foldlM (List.forall₂_same.2 fun key _ => Eq.refl key) ?_ .empty
    rintro merged merged' key _ hmerged rfl
    refine Parallel.bind (mergeKey_parallel hr m key _ hsnapshots) ?_
    rintro _ _ (he | _)
    · exact Parallel.pure (hmerged.put he)
    · exact Parallel.pure hmerged
  refine Parallel.bind hmerged fun merged merged' hledgers => ?_
  rw [hledgers.size_eq, h.length_eq]
  exact Parallel.same fun _ => Parallel.pure hledgers

lemma resolve_parallel {r : Resolver σ} (hr : r.factories = .empty) {m : MetaKeys}
    (hS : ∀ key, S key → m.isMeta key = false) {sources sources' : List (Source σ)}
    (h : List.Forall₂ (Source.Veiled S) sources sources') (key : String) :
    Parallel (Option.Rel (Merged S key)) ((⟨r, m⟩ : Merge σ).resolve key sources)
      ((⟨r, m⟩ : Merge σ).resolve key sources') := by
  rw [Merge.resolve, Merge.resolve]
  split
  · exact Parallel.pure .none
  · refine Parallel.bind (Parallel.call (ask_parallel (Source.inOrder_veiled h) _)) ?_
    intro snapshots snapshots' hsnapshots
    rw [metadata_eq hS hsnapshots]
    exact mergeKey_parallel hr m key _ hsnapshots

end Merge

end LayeredConfig
