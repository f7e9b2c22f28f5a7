import LayeredConfig.Context
import LayeredConfig.Filter.Stock
import LayeredConfig.Proofs.Veils
import LayeredConfig.Source.Guarded

/-! Filters that hide or mask a key leave no trace of its value. Whatever stands under the keys
they cover, a pass comes to the same configuration and records the same events. -/

namespace LayeredConfig

variable {σ : Type} {S : String → Prop}

lemma Entry.Veiled.refl (k : String) (e : Entry) : e.Veiled S k e where
  key := rfl
  source := rfl
  metadata := rfl
  value := by
    cases e.value with
    | some _ => exact .some fun _ => rfl
    | none => exact .none

lemma Entry.Veiled.eq {k : String} {e e' : Entry} (h : e.Veiled S k e')
    (hvalue : e.value = e'.value) : e = e' := by
  obtain ⟨key, value, source, metadata, hne⟩ := e
  obtain ⟨key', value', source', metadata', hne'⟩ := e'
  obtain rfl : key = key' := h.key
  obtain rfl : source = source' := h.source
  obtain rfl : metadata = metadata' := h.metadata
  obtain rfl : value = value' := hvalue
  rfl

lemma Source.veiled_guarded (id id' switch : Nat) {inner inner' : Source σ}
    (h : inner.Veiled S inner') :
    (Guarded.source id switch inner).Veiled S (Guarded.source id' switch inner') where
  name := h.name
  ordinal := h.ordinal
  scannable := h.scannable
  get key := by
    refine Parallel.lift (.refl (Guarded.isEnabled switch)) ?_
    rintro enabled _ rfl
    split
    · exact h.get key
    · exact Parallel.pure .none
  properties := by
    refine Parallel.lift (.refl (Guarded.isEnabled switch)) ?_
    rintro enabled _ rfl
    split
    · exact h.properties
    · exact Parallel.pure .empty

namespace Filter

namespace Stock

def Discreet : Stock σ → Prop
  | hide _ | mask .. => True
  | secure _ roles assigned refusal => refusal = .hide ∧
    Ensures (fun _ => True) assigned fun held =>
      ∃ rs, held = some rs ∧ roles.any rs.contains = false
  | rename .. | freeze _ | cache .. => False

def covers : Stock σ → String → Bool
  | hide p, key | mask p _, key => p.accepts key
  | secure p .., key => KeyPattern.accepts? p key
  | rename .., _ | freeze _, _ | cache .., _ => false

lemma run_of_not_covers {s : Stock σ} (h : s.Discreet) {e : Entry}
    (hcovers : s.covers e.key = false) : s.run e = pure (some e) := by
  cases s with
  | hide p => rw [run, if_neg (by simpa [covers] using hcovers)]
  | mask p m => rw [run, if_neg (by simpa [covers] using hcovers)]
  | secure p roles assigned refusal => rw [run, if_neg (by simpa [covers] using hcovers)]
  | rename => exact h.elim
  | freeze => exact h.elim
  | cache => exact h.elim

lemma run_of_covers {s : Stock σ} (h : s.Discreet) {k : String} {e e' : Entry}
    (he : e.Veiled S k e') (hcovers : s.covers e.key = true) :
    Parallel Eq (s.run e) (s.run e') := by
  -- The entries have one key, so the filter covers both, and drops them or takes the values away.
  have hcovers' : s.covers e'.key = true := he.key ▸ hcovers
  cases s with
  | hide p =>
    rw [covers] at hcovers hcovers'
    rw [run, run, if_pos hcovers, if_pos hcovers']
    exact Parallel.pure rfl
  | mask p m =>
    rw [covers] at hcovers hcovers'
    rw [run, run, if_pos hcovers, if_pos hcovers']
    have hmasked : (e.withValue (some m)).Veiled S k (e'.withValue (some m)) :=
      ⟨he.key, he.source, he.metadata, .some fun _ => rfl⟩
    exact Parallel.pure (congrArg some (hmasked.eq rfl))
  | secure p roles assigned refusal =>
    obtain ⟨rfl, hassigned⟩ := h
    rw [covers] at hcovers hcovers'
    rw [run, run, if_pos hcovers, if_pos hcovers']
    refine Parallel.lift (Alike.recall (.of_ensures hassigned)) ?_
    rintro _ _ ⟨rfl, rs, rfl, hroles⟩
    simp only [guardEntry, hroles]
    exact Parallel.pure rfl
  | rename => exact h.elim
  | freeze => exact h.elim
  | cache => exact h.elim

end Stock

variable {chain : List (Stock σ × Nat)}

def ofChain (chain : List (Stock σ × Nat)) : List (Filter σ) := chain.map fun p => p.1.toFilter p.2

lemma runAll_parallel (hdiscreet : ∀ p ∈ chain, p.1.Discreet) {k : String} {e e' : Entry}
    (h : e.Veiled S k e')
    (hcovers : e.value ≠ e'.value → ∃ p ∈ chain, p.1.covers e.key = true)
    (context context' : FilterContext) :
    Parallel Eq (runAll context e (ofChain chain)) (runAll context' e' (ofChain chain)) := by
  -- Up to the first filter that covers the key the entries differ at most in their values; from
  -- there on they are equal.
  induction chain generalizing e e' with
  | nil =>
    have hvalue : e.value = e'.value := by
      by_contra hne
      obtain ⟨_, hp, _⟩ := hcovers hne
      cases hp
    rw [h.eq hvalue]
    exact Parallel.pure rfl
  | cons p chain ih =>
    have hp := hdiscreet p (by simp)
    have hrest := fun q (hq : q ∈ chain) => hdiscreet q (by simp [hq])
    by_cases hcover : p.1.covers e.key = true
    · refine Parallel.bind (Stock.run_of_covers hp h hcover) ?_
      rintro next _ rfl
      cases next with
      | none => exact Parallel.pure rfl
      | some next => exact ih hrest (.refl k next) (fun hne => absurd rfl hne)
    · have hcover' : p.1.covers e.key = false := by simpa using hcover
      have hsame : ∀ f : Entry, f.key = e.key → ∀ c, (p.1.toFilter p.2).run f c = pure (some f) :=
        fun f hf _ => Stock.run_of_not_covers hp (by rwa [hf])
      rw [ofChain, List.map_cons, runAll, runAll, hsame e rfl, hsame e' h.key.symm]
      rw [pure_bind, pure_bind]
      refine ih hrest h fun hne => ?_
      obtain ⟨q, hq, hqcovers⟩ := hcovers hne
      rcases List.mem_cons.1 hq with rfl | hq
      · exact absurd hqcovers hcover
      · exact ⟨q, hq, hqcovers⟩

lemma apply_parallel (hdiscreet : ∀ p ∈ chain, p.1.Discreet) {k : String} {e e' : Entry}
    (h : e.Veiled S k e')
    (hcovers : e.value ≠ e'.value → ∃ p ∈ chain, p.1.covers e.key = true)
    (context context' : FilterContext) :
    Parallel Eq (apply (ofChain chain) e context) (apply (ofChain chain) e' context') := by
  refine Parallel.bind (runAll_parallel hdiscreet h hcovers context context') ?_
  rintro result _ rfl
  cases result with
  | ok filtered => exact Parallel.pure rfl
  | error name =>
    simp only [h.source, h.key]
    exact Parallel.refl _

def Covers (chain : List (Stock σ × Nat)) (S : String → Prop) : Prop :=
  ∀ key, S key → ∃ p ∈ chain, p.1.covers key = true

lemma Covers.of_merged (h : Covers chain S) {key : String} {e e' : Entry}
    (he : Merge.Merged S key e e') (hne : e.value ≠ e'.value) :
    ∃ p ∈ chain, p.1.covers e.key = true := by
  rw [he.1]
  refine h key ?_
  by_contra hkey
  exact hne (he.2.value_eq hkey)

lemma Covers.eq_of_matches (h : Covers ([] : List (Stock σ × Nat)) S)
    {entries entries' : Ledger String Entry}
    (hentries : Ledger.Matches (Merge.Merged S) entries entries') : entries = entries' := by
  have hpairs : List.Forall₂ Eq entries.pairs entries'.pairs := by
    refine hentries.imp ?_
    rintro ⟨key, e⟩ ⟨_, e'⟩ ⟨rfl, he⟩
    have hkey : ¬ S key := fun hkey => by simpa using h key hkey
    exact congrArg (Prod.mk key) (he.2.eq (he.2.value_eq hkey))
  rw [List.forall₂_eq_eq_eq] at hpairs
  exact Ledger.ext hpairs

lemma applyAll_parallel (hdiscreet : ∀ p ∈ chain, p.1.Discreet) (hcovers : Covers chain S)
    {entries entries' : Ledger String Entry}
    (h : Ledger.Matches (Merge.Merged S) entries entries') :
    Parallel Eq (applyAll (pure (ofChain chain)) entries)
      (applyAll (pure (ofChain chain)) entries') := by
  rw [applyAll, applyAll]
  simp only [pure_bind]
  split
  · rename_i hempty
    obtain rfl : chain = [] := by simpa [ofChain] using hempty
    rw [hcovers.eq_of_matches h]
    exact Parallel.pure rfl
  · refine Parallel.bind (R := Eq) (Parallel.foldlM (S := Eq) h ?_ rfl) ?_
    · rintro sorted _ ⟨key, e⟩ ⟨_, e'⟩ rfl ⟨rfl, he⟩
      refine Parallel.bind (apply_parallel hdiscreet he.2 (hcovers.of_merged he) _ _) ?_
      rintro filtered _ rfl
      exact Parallel.pure rfl
    · rintro sorted _ rfl
      exact Parallel.refl _

end Filter

namespace Context

open LayeredConfig.Filter

/-- What the sources hold under keys that the filters hide or mask has no influence on a pass: from
every memory it comes to the same configuration or failure, and to the same memory with the same
journal, and so does the lookup of every key. -/
theorem secrets_leave_no_trace (c : Context σ) (sources' : List (Source σ))
    {chain : List (Stock σ × Nat)} (hfactories : c.resolver.factories = .empty)
    (hvisible : ∀ key, S key → c.resolver.metaKeys.isMeta key = false)
    (hsources : List.Forall₂ (Source.Veiled S) c.sources sources')
    (hfilters : c.filters = chain.map fun p => p.1.toFilter p.2)
    (hdiscreet : ∀ p ∈ chain, p.1.Discreet)
    (hcovers : ∀ key, S key → ∃ p ∈ chain, p.1.covers key = true) (memory : Memory σ) :
    c.resolve.run.run memory = ({ c with sources := sources' } : Context σ).resolve.run.run memory ∧
    ∀ key, (c.get? key).run.run memory =
      (({ c with sources := sources' } : Context σ).get? key).run.run memory := by
  obtain ⟨sources, filters, converters, r⟩ := c
  obtain rfl : filters = ofChain chain := hfilters
  constructor
  · have hresolve : Parallel Eq (Context.resolve ⟨sources, ofChain chain, converters, r⟩)
        (Context.resolve ⟨sources', ofChain chain, converters, r⟩) := by
      refine Parallel.bind (Merge.resolveAll_parallel hfactories hvisible hsources) ?_
      intro merged merged' hmerged
      refine Parallel.bind (applyAll_parallel hdiscreet hcovers hmerged) ?_
      rintro filtered _ rfl
      exact Parallel.pure rfl
    rw [hresolve.eq]
  · intro key
    have hget : Parallel Eq (Context.get? ⟨sources, ofChain chain, converters, r⟩ key)
        (Context.get? ⟨sources', ofChain chain, converters, r⟩ key) := by
      refine Parallel.bind (Merge.resolve_parallel hfactories hvisible hsources key) ?_
      rintro _ _ (he | _)
      · refine Parallel.bind (apply_parallel hdiscreet he.2 (Covers.of_merged hcovers he) _ _) ?_
        rintro filtered _ rfl
        exact Parallel.pure rfl
      · exact Parallel.pure rfl
    rw [hget.eq]

def credentials (name password token : String) : Ledger String Entry :=
  ⟨[("db.host", ⟨"db.host", some "local", name, .empty, by decide⟩),
    ("db.password", ⟨"db.password", some password, name, .empty, by decide⟩),
    ("db.password.combination-policy",
      ⟨"db.password.combination-policy", some "collect", name, .empty, by decide⟩),
    ("db.token", ⟨"db.token", some token, name, .empty, by decide⟩)], by simp⟩

def deposits (password token : String) : List (Source Unit) :=
  [.ofEntries 0 "low" 0 true (credentials "low" password token),
    Source.Guarded.source 1 0 (.ofEntries 2 "high" 10 false (credentials "high" password token))]

def guards : List (Stock Unit × Nat) :=
  [(.mask ⟨"db.password", (· = "db.password")⟩ Stock.defaultMask, 0),
    (.secure (some ⟨"db.token", (· = "db.token")⟩) ["admin"] (pure (some ["guest"])) .hide, 1)]

def guarded : Context Unit where
  sources := deposits "one" "first"
  filters := guards.map fun p => p.1.toFilter p.2
  converters := .empty
  resolver := ⟨0, .empty, .standard⟩

def watched : Memory Unit := ⟨⟨⟨.debug, none, []⟩, .ofList [(0, true)], ()⟩, .empty, .empty, .empty⟩

def Credential (key : String) : Prop := key = "db.password" ∨ key = "db.token"

lemma credentials_veiled (name password password' token token' : String) :
    Ledger.Matches (Entry.Veiled Credential) (credentials name password token)
      (credentials name password' token') := by
  have htext : ∀ (key : String) (s t : String), Credential key →
      Texts Credential key (some s) (some t) := fun key s t hkey => .some fun hne => absurd hkey hne
  refine .cons ⟨rfl, .refl _ _⟩ (.cons ⟨rfl, rfl, rfl, rfl, ?_⟩ (.cons ⟨rfl, .refl _ _⟩
    (.cons ⟨rfl, rfl, rfl, rfl, ?_⟩ .nil)))
  · exact htext _ _ _ (.inl rfl)
  · exact htext _ _ _ (.inr rfl)

lemma deposits_veiled (password password' token token' : String) :
    List.Forall₂ (Source.Veiled Credential) (deposits password token)
      (deposits password' token') :=
  .cons (Source.veiled_ofEntries _ _ _ _ _ (credentials_veiled _ _ _ _ _))
    (.cons (Source.veiled_guarded _ _ _
      (Source.veiled_ofEntries _ _ _ _ _ (credentials_veiled _ _ _ _ _))) .nil)

theorem credentials_leave_no_trace :
    (List.Forall₂ (Source.Veiled Credential) guarded.sources (deposits "two" "second") ∧
      (∀ p ∈ guards, p.1.Discreet) ∧
      ∀ key, Credential key → ∃ p ∈ guards, p.1.covers key = true) ∧
    guarded.resolve.run.run watched =
      ({ guarded with sources := deposits "two" "second" } : Context Unit).resolve.run.run watched ∧
    ∀ key, (guarded.get? key).run.run watched =
      (({ guarded with sources := deposits "two" "second" } : Context Unit).get? key).run.run
        watched := by
  have hsources : List.Forall₂ (Source.Veiled Credential) guarded.sources
      (deposits "two" "second") := deposits_veiled _ _ _ _
  have hdiscreet : ∀ p ∈ guards, p.1.Discreet := by
    refine List.forall_mem_cons.2 ⟨trivial, List.forall_mem_singleton.2 ⟨rfl, ?_⟩⟩
    exact Ensures.pure ⟨_, rfl, by decide⟩
  have hcovers : ∀ key, Credential key → ∃ p ∈ guards, p.1.covers key = true := by
    rintro key (rfl | rfl)
    · exact ⟨_, List.mem_cons_self, rfl⟩
    · exact ⟨_, List.mem_cons_of_mem _ List.mem_cons_self, rfl⟩
  have hvisible : ∀ key, Credential key → MetaKeys.standard.isMeta key = false := by
    rintro key (rfl | rfl)
    · decide
    · decide
  exact ⟨⟨hsources, hdiscreet, hcovers⟩, guarded.secrets_leave_no_trace _ rfl hvisible hsources rfl
    hdiscreet hcovers _⟩

end Context

end LayeredConfig
