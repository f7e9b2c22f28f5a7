import LayeredConfig.Proofs.Indifference
import LayeredConfig.Proofs.Ranking

/-! Sources that show nothing. A merge with such sources among the others and a merge without them
find the same keys and the same holders, so they come to the same result. Only the journal tells
the two apart. -/

namespace LayeredConfig

variable {σ τ α β γ δ : Type}

inductive Thinned (R : α → β → Prop) (V : α → Prop) : List α → List β → Prop
  | nil : Thinned R V [] []
  | keep {a : α} {b : β} {xs : List α} {ys : List β} :
    R a b → Thinned R V xs ys → Thinned R V (a :: xs) (b :: ys)
  | drop {a : α} {xs : List α} {ys : List β} : V a → Thinned R V xs ys → Thinned R V (a :: xs) ys

lemma Thinned.self {R : α → α → Prop} {V : α → Prop} {xs : List α} (h : ∀ a ∈ xs, R a a) :
    Thinned R V xs xs := by
  induction xs with
  | nil => exact .nil
  | cons a xs ih =>
    obtain ⟨ha, hrest⟩ := List.forall_mem_cons.1 h
    exact .keep ha (ih hrest)

abbrev Idle (T : τ → τ → Prop) (V : α → Prop) (x : ExceptT Failure (StateM τ) α) : Prop :=
  Accord T (fun a (_ : Unit) => V a) x (pure ())

lemma Idle.pure {T : τ → τ → Prop} {V : α → Prop} {a : α} (h : V a) :
    Idle T V (pure a : ExceptT Failure (StateM τ) α) := Accord.pure h

namespace Accord

variable {T : τ → τ → Prop} {R : α → β → Prop} {S : γ → δ → Prop} {V : α → Prop} {W : γ → Prop}

lemma skip {x : ExceptT Failure (StateM τ) α} {f : α → ExceptT Failure (StateM τ) γ}
    {y : ExceptT Failure (StateM τ) δ} (h : Idle T V x) (hf : ∀ a, V a → Accord T S (f a) y) :
    Accord T S (x >>= f) y :=
  bind (g := fun _ => y) h fun a _ ha => hf a ha

lemma mapM {f : α → ExceptT Failure (StateM τ) γ} {g : β → ExceptT Failure (StateM τ) δ}
    {xs : List α} {ys : List β} (h : Thinned R V xs ys)
    (hkeep : ∀ a b, R a b → Accord T S (f a) (g b)) (hdrop : ∀ a, V a → Idle T W (f a)) :
    Accord T (Thinned S W) (xs.mapM f) (ys.mapM g) := by
  induction h with
  | nil => exact pure .nil
  | keep hab _ ih =>
    rw [List.mapM_cons, List.mapM_cons]
    exact (hkeep _ _ hab).bind fun _ _ hcd => ih.bind fun _ _ hrest => pure (.keep hcd hrest)
  | @drop a xs ys ha _ ih =>
    rw [List.mapM_cons, ← bind_pure (ys.mapM g)]
    exact skip (hdrop a ha) fun _ hc => ih.bind fun _ _ hrest => pure (.drop hc hrest)

end Accord

namespace Source

variable {P : Circumstance σ}

/-- The sources answer alike, whatever stands in the journal. -/
structure Twin (P : Circumstance σ) (s s' : Source σ) : Prop where
  name : s.name = s'.name
  ordinal : s.ordinal = s'.ordinal
  scannable : s.scannable = s'.scannable
  get : ∀ key, Accord P.worlds Eq (s.get key) (s'.get key)
  properties : s.scannable = true → Accord P.worlds Eq s.properties s'.properties

structure Blank (P : Circumstance σ) (s : Source σ) : Prop where
  get : ∀ key, Idle P.worlds (· = none) (s.get key)
  properties : s.scannable = true → Idle P.worlds (· = .empty) s.properties

lemma twin_ofEntries (id : Nat) (name : String) (ordinal : Int) (scannable : Bool)
    (entries : Ledger String Entry) :
    (ofEntries id name ordinal scannable entries).Twin P
      (ofEntries id name ordinal scannable entries) where
  name := rfl
  ordinal := rfl
  scannable := rfl
  get _ := Heedless.pure _
  properties _ := Heedless.pure _

abbrev InStep (P : Circumstance σ) (sources sources' : List (Source σ)) : Prop :=
  Thinned (Twin P) (Blank P) (inOrder sources) (inOrder sources')

lemma inStep_self {sources : List (Source σ)} (h : ∀ s ∈ sources, s.Twin P s) :
    InStep P sources sources :=
  Thinned.self fun s hs => h s ((Ranking.sort_perm sources).mem_iff.1 hs)

lemma inStep_filterMap {items : List α} {shown : α → Source σ} {kept : α → Option (Source σ)}
    (hordinal : ∀ a s, kept a = some s → s.ordinal = (shown a).ordinal)
    (htwin : ∀ a ∈ items, ∀ s, kept a = some s → (shown a).Twin P s)
    (hblank : ∀ a ∈ items, kept a = none → (shown a).Blank P) :
    InStep P (items.map shown) (items.filterMap kept) := by
  let ranked := Ranking.sort (fun a => (shown a).ordinal) items
  have hshown : inOrder (items.map shown) = ranked.map shown :=
    (List.map_mergeSort (f := shown) fun _ _ _ _ => rfl).symm
  have hkept : inOrder (items.filterMap kept) = ranked.filterMap kept :=
    Ranking.sort_filterMap items hordinal
  have hmem : ∀ a ∈ ranked, a ∈ items := fun a ha => (Ranking.sort_perm items).mem_iff.1 ha
  rw [InStep, hshown, hkept]
  generalize ranked = rest at hmem
  induction rest with
  | nil => exact .nil
  | cons a rest ih =>
    obtain ⟨ha, hrest⟩ := List.forall_mem_cons.1 hmem
    rw [List.map_cons, List.filterMap_cons]
    cases hk : kept a with
    | none => exact .drop (hblank a ha hk) (ih hrest)
    | some s => exact .keep (htwin a ha s hk) (ih hrest)

end Source

namespace Merge

open Source

variable {P : Circumstance σ}

section Reading

variable {s s' : Source σ} {sources sources' : List (Source σ)}

lemma fetchKeys_accord (h : s.Twin P s') (keys : List String) :
    Accord P.worlds Eq (fetchKeys s keys) (fetchKeys s' keys) := by
  refine Accord.foldlM (List.forall₂_same.2 fun key _ => Eq.refl key) ?_ rfl
  rintro found _ key _ rfl rfl
  refine (h.get key).bind fun entry _ hentry => ?_
  subst hentry
  cases entry <;> exact Accord.pure rfl

lemma fetchKeys_idle (h : s.Blank P) (keys : List String) :
    Idle P.worlds (· = .empty) (fetchKeys s keys) := by
  rw [fetchKeys]
  induction keys with
  | nil => exact .pure rfl
  | cons key keys ih =>
    rw [List.foldlM_cons]
    refine Accord.skip (V := (· = .empty)) ?_ fun found hfound => hfound ▸ ih
    refine Accord.skip (h.get key) fun entry hentry => ?_
    subst hentry
    exact .pure rfl

lemma reportFetched_accord (name : String) (s s' : Source σ) (entries : Ledger String Entry) :
    Accord P.worlds Eq (reportFetched name s entries) (reportFetched name s' entries) :=
  accord_reports_call

lemma reportFetched_idle (name : String) (s : Source σ) (entries : Ledger String Entry) :
    Idle P.worlds (fun _ => True) (reportFetched name s entries) :=
  fun _ _ hw => ⟨.ok trivial, hw⟩

abbrev Snapshots : List Snapshot → List Snapshot → Prop := Thinned Eq (·.entries = .empty)

lemma ask_accord (h : Thinned (Twin P) (Blank P) sources sources') (wanted : List String) :
    Accord P.worlds Snapshots (ask wanted sources) (ask wanted sources') := by
  refine Accord.mapM h (fun s s' hs => ?_) fun s hs => ?_
  · refine (fetchKeys_accord hs wanted).bind fun entries _ hentries => ?_
    rw [hs.name, hs.ordinal, hentries]
    exact Accord.pure rfl
  · exact Accord.skip (fetchKeys_idle hs wanted) fun _ hentries => .pure hentries

abbrev Scan (σ : Type) : Type := Source σ × Option (Ledger String Entry)

def Scan.Twin (P : Circumstance σ) (p q : Scan σ) : Prop := p.1.Twin P q.1 ∧ p.2 = q.2

def Scan.Blank (P : Circumstance σ) (p : Scan σ) : Prop :=
  p.1.Blank P ∧ ∀ entries ∈ p.2, entries = .empty

lemma scan_accord (h : Thinned (Twin P) (Blank P) sources sources') :
    Accord P.worlds (Thinned (Scan.Twin P) (Scan.Blank P)) (scan sources) (scan sources') := by
  refine Accord.mapM h (fun s s' hs => ?_) fun s hs => ?_
  · rw [← hs.scannable]
    split
    · rename_i hscan
      refine (hs.properties hscan).bind fun entries _ hentries => ?_
      subst hentries
      exact (reportFetched_accord _ s s' entries).bind fun _ _ _ => Accord.pure ⟨hs, rfl⟩
    · exact Accord.pure ⟨hs, rfl⟩
  · split
    · rename_i hscan
      refine Accord.skip (hs.properties hscan) fun entries hentries => ?_
      refine Accord.skip (reportFetched_idle _ s entries) fun _ _ => ?_
      exact .pure ⟨hs, fun _ hmem => Option.mem_some.1 hmem ▸ hentries⟩
    · exact .pure ⟨hs, fun _ hmem => (nomatch hmem)⟩

variable {scanned scanned' : List (Scan σ)}

lemma found_thinned (h : Thinned (Scan.Twin P) (Scan.Blank P) scanned scanned') :
    found scanned = found scanned' := by
  rw [found, found]
  congr 1
  generalize Ledger.empty = keys
  induction h generalizing keys with
  | nil => rfl
  | keep hpq _ ih => rw [List.foldl_cons, List.foldl_cons, hpq.2, ih]
  | @drop p _ _ hp _ ih =>
    have hnothing : (p.2.map Ledger.keys).getD [] = [] := by
      cases hread : p.2 with
      | none => rfl
      | some entries => rw [hp.2 entries hread]; rfl
    rw [List.foldl_cons, hnothing]
    exact ih keys

lemma query_accord (h : Thinned (Scan.Twin P) (Scan.Blank P) scanned scanned')
    (wanted : List String) :
    Accord P.worlds Snapshots (query wanted scanned) (query wanted scanned') := by
  refine Accord.mapM h ?_ ?_
  · rintro ⟨s, read⟩ ⟨s', read'⟩ ⟨hs, hread⟩
    obtain rfl : read = read' := hread
    cases read with
    | some entries => exact Accord.pure (by rw [hs.name, hs.ordinal])
    | none =>
      refine (fetchKeys_accord hs wanted).bind fun entries _ hentries => ?_
      subst hentries
      refine (reportFetched_accord _ s s' entries).bind fun _ _ _ => ?_
      exact Accord.pure (by rw [hs.name, hs.ordinal])
  · rintro ⟨s, read⟩ ⟨hs, hread⟩
    cases read with
    | some entries => exact .pure (hread entries rfl)
    | none =>
      refine Accord.skip (fetchKeys_idle hs wanted) fun entries hentries => ?_
      exact Accord.skip (reportFetched_idle _ s entries) fun _ _ => .pure hentries

lemma fetch_accord (m : MetaKeys) (h : Thinned (Twin P) (Blank P) sources sources') :
    Accord P.worlds (fun r r' => Snapshots r.1 r'.1 ∧ r.2 = r'.2) (fetch m sources)
      (fetch m sources') := by
  refine (scan_accord h).bind fun scanned scanned' hscanned => ?_
  rw [found_thinned hscanned]
  exact (query_accord hscanned _).bind fun _ _ hsnapshots => Accord.pure ⟨hsnapshots, rfl⟩

end Reading

section Snapshots

variable {snapshots snapshots' : List Snapshot} (h : Snapshots snapshots snapshots')

include h

lemma holders_thinned (key : String) : holders key snapshots = holders key snapshots' := by
  induction h with
  | nil => rfl
  | keep hab _ ih =>
    subst hab
    rw [holders, holders, List.filterMap_cons, List.filterMap_cons, ← holders, ← holders, ih]
  | @drop s _ _ hs _ ih =>
    rw [holders, List.filterMap_cons, hs, Ledger.get?_empty, Option.map_none]
    exact ih

lemma metadata_thinned (m : MetaKeys) : metadata m snapshots = metadata m snapshots' := by
  have hvalues : metaValues m snapshots = metaValues m snapshots' := by
    rw [metaValues, metaValues]
    generalize Ledger.empty = values
    induction h generalizing values with
    | nil => rfl
    | keep hab _ ih => rw [List.foldl_cons, List.foldl_cons, hab, ih]
    | drop hs _ ih =>
      rw [List.foldl_cons, hs]
      exact ih values
  rw [metadata, metadata, hvalues]

lemma mergeKey_thinned (e : Merge σ) (key : String) (metadata : Ledger String String) :
    e.mergeKey key snapshots metadata = e.mergeKey key snapshots' metadata := by
  rw [mergeKey, mergeKey, holders_thinned h]

lemma mergeKeys_thinned (e : Merge σ) (grouped : MetaKeys.Grouped) (keys : List String) :
    e.mergeKeys snapshots grouped keys = e.mergeKeys snapshots' grouped keys := by
  simp only [mergeKeys, mergeKey_thinned h]

end Snapshots

variable {Q : Circumstance σ} (hPQ : ∀ w, P.world w → Q.world w)
variable {e : Merge σ} (he : e.resolver.Unaware Q) {sources sources' : List (Source σ)}
variable (h : InStep P sources sources') {m m' : Memory σ} (hm : P.memories m m')

include hPQ in
lemma memories_of_within : ∀ m m', P.memories m m' → Q.memories m m' := by
  rintro m _ ⟨w, ⟨hP, hrest⟩, rfl⟩
  exact ⟨w, ⟨hPQ m.world hP, hrest⟩, rfl⟩

include hPQ he h hm

lemma resolveAll_inStep :
    Results Eq ((e.resolveAll sources).run.run m).1 ((e.resolveAll sources').run.run m').1 ∧
      Q.memories ((e.resolveAll sources).run.run m).2 ((e.resolveAll sources').run.run m').2 := by
  -- All reading comes first, so the policies need the wider circumstance alone.
  refine (Accord.call (fetch_accord e.metaKeys h)).before (memories_of_within hPQ) ?_ hm
  rintro ⟨snapshots, keys⟩ ⟨snapshots', keys'⟩ ⟨hsnapshots, hkeys⟩
  obtain rfl : keys = keys' := hkeys
  simp only [metadata_thinned hsnapshots, mergeKeys_thinned hsnapshots]
  refine Accord.bind (mergeKeys_heedless he _ _ _) fun merged _ hmerged => ?_
  subst hmerged
  exact accord_reports.bind fun _ _ _ => Accord.pure rfl

lemma resolve_inStep (key : String) :
    Results Eq ((e.resolve key sources).run.run m).1 ((e.resolve key sources').run.run m').1 ∧
      Q.memories ((e.resolve key sources).run.run m).2 ((e.resolve key sources').run.run m').2 := by
  rw [resolve, resolve]
  split
  · exact ⟨.refl _, memories_of_within hPQ m m' hm⟩
  · refine (Accord.call (ask_accord h _)).before (memories_of_within hPQ) ?_ hm
    intro snapshots snapshots' hsnapshots
    rw [metadata_thinned hsnapshots, mergeKey_thinned hsnapshots]
    exact mergeKey_heedless he key _ _

end Merge

end LayeredConfig
