import LayeredConfig.Proofs.Courses
import LayeredConfig.Source.Environment

/-! Frozen values. A filter that freezes values never gives one up, and no other part of a context
has a way to it. So whatever a context with such a filter at the end ever publishes under a key has
the value that was frozen first. -/

namespace LayeredConfig

variable {σ α β : Type}

namespace Memory

def Freezes (m : Memory σ) (slot : Nat) (key : String) (value : Option String) : Prop :=
  (m.frozen.getD slot .empty).get? key = some value

def freezing (slot : Nat) : Course (Memory σ) where
  holds _ := True
  later m m' := ∀ key value, m.Freezes slot key value → m'.Freezes slot key value
  refl _ _ _ h := h
  trans h h' key value hv := h' key value (h key value hv)

end Memory

open Memory

abbrev Keeps (slot : Nat) (x : Act σ α) : Prop := (freezing slot).Runs True x

namespace Keeps

variable {slot : Nat}

lemma make (r : Except Failure α) : Keeps slot (ExceptT.mk (Pure.pure r) : Act σ α) := fun _ =>
  Course.Leads.make (by cases r <;> trivial)

lemma of_untouched {x : Act σ α} (h : Untouched x.run) : Keeps slot x := by
  intro m _
  have hfrozen : (x.run.run m).2.frozen = m.frozen := (h m).1
  refine ⟨trivial, fun key value hv => ?_, ?_⟩
  · rwa [Freezes, hfrozen]
  · generalize (x.run.run m).1 = r
    cases r <;> trivial

end Keeps

lemma Merge.resolve_untouched (e : Merge σ) (key : String) (sources : List (Source σ)) :
    Untouched (e.resolve key sources).run := by
  rw [resolve]
  split
  · exact Untouched.pure _
  · exact Untouched.act_bind (Untouched.call (ask _ (Source.inOrder sources))) fun _ =>
      e.mergeKey_untouched _ _ _

namespace Filter

variable {slot : Nat}

def Respects (slot : Nat) (f : Filter σ) : Prop := ∀ e context, Keeps slot (f.run e context)

namespace Stock

lemma guardEntry_untouched (roles : List String) (assigned : Option (List String)) (refusal : Refusal)
    (e : Entry) : Untouched (guardEntry roles assigned refusal e : Act σ (Option Entry)).run := by
  cases assigned with
  | none => exact Untouched.pure _
  | some held =>
    simp only [guardEntry]
    split
    · exact Untouched.pure _
    · cases refusal with
      | raise | hide => exact Untouched.pure _
      | warn => exact Untouched.act_bind (Untouched.act_lift (Untouched.reports _ _ _ _ _)) fun _ =>
          Untouched.pure _

lemma freezeEntry_freezes (slot : Nat) (e : Entry) (m : Memory σ) :
    (freezeEntry slot e m).2.Freezes slot e.key (freezeEntry slot e m).1.value := by
  rw [freezeEntry_eq, Freezes, Ledger.getD_put, if_pos rfl, Ledger.get?_putNew, if_pos rfl]
  cases (m.frozen.getD slot .empty).get? e.key <;> rfl

lemma freezeEntry_keeps (slot other : Nat) (e : Entry) (m : Memory σ) {key : String}
    {value : Option String} (h : m.Freezes slot key value) :
    (freezeEntry other e m).2.Freezes slot key value := by
  rw [freezeEntry_eq, Freezes, Ledger.getD_put]
  split
  · rename_i hslot
    rw [Freezes, hslot] at h
    rw [Ledger.get?_putNew, h, Option.some_or]
  · exact h

lemma cacheEntry_keeps (other : Nat) (timeout : Rat) (maxSize : Int) (now : Rat) (e : Entry) :
    Keeps slot (ExceptT.lift (cacheEntry other timeout maxSize now e) : Act σ Entry) := by
  intro m
  obtain ⟨answer, cached, hrun, -, -⟩ := cacheEntry_step ⟨timeout, maxSize, now⟩ other e m
  refine Course.Leads.lift fun _ => ?_
  rw [show StateT.run (cacheEntry other timeout maxSize now e) m = _ from hrun]
  exact ⟨trivial, fun _ _ hv => hv, trivial⟩

lemma respects (s : Stock σ) (id : Nat) : (s.toFilter id).Respects slot := by
  intro e context
  cases s with
  | hide p =>
    change Keeps slot (Pure.pure _)
    exact Course.Runs.pure _
  | mask p mask =>
    change Keeps slot (Pure.pure _)
    exact Course.Runs.pure _
  | rename p cutoff target =>
    change Keeps slot (Stock.run _ e)
    rw [Stock.run]
    split
    · simp only
      split
      · exact Course.Runs.pure _
      · exact Keeps.make _
    · exact Course.Runs.pure _
  | freeze other =>
    refine Course.Runs.bind (fun m => Course.Leads.lift fun _ => ?_) fun _ => Course.Runs.pure _
    exact ⟨trivial, fun key value hv => freezeEntry_keeps slot other e m hv, trivial⟩
  | cache other p timeout maxSize clock =>
    change Keeps slot (Stock.run _ e)
    rw [Stock.run]
    split
    · refine Course.Runs.bind ?_ fun now => ?_
      · exact Keeps.of_untouched (Untouched.act_lift (Untouched.note clock))
      exact Course.Runs.bind (cacheEntry_keeps other timeout maxSize now e) fun _ => Course.Runs.pure _
    · exact Course.Runs.pure _
  | secure p roles assigned refusal =>
    change Keeps slot (Stock.run _ e)
    rw [Stock.run]
    split
    · refine Course.Runs.bind ?_ fun held => ?_
      · exact Keeps.of_untouched (Untouched.act_lift (Untouched.note assigned))
      exact Keeps.of_untouched (guardEntry_untouched roles held refusal e)
    · exact Course.Runs.pure _

end Stock

lemma respects_of_call (f : Filter σ) (call : Entry → FilterContext → Call σ (Option Entry))
    (h : ∀ e context, f.run e context = liftM (call e context)) : f.Respects slot := by
  intro e context
  rw [h]
  exact Keeps.of_untouched (Untouched.call (call e context))

def Stands (slot : Nat) (e : Entry) (m : Memory σ) : Prop := m.Freezes slot e.key e.value

lemma Stands.later {e : Entry} {m m' : Memory σ} (hlater : (freezing slot).later m m')
    (h : Stands slot e m) : Stands slot e m' := hlater e.key e.value h

section Chain

variable {id : Nat} {front : List (Filter σ)} (hfront : ∀ f ∈ front, f.Respects slot)

include hfront in
lemma runAll_leads (context : FilterContext) (e : Entry) (m : Memory σ) :
    (freezing slot).Leads m (runAll context e (front ++ [(Stock.freeze slot).toFilter id]))
      (fun found m' => ∀ e', found = .ok e' → Stands slot e' m') fun _ _ => True := by
  induction front generalizing e m with
  | nil =>
    intro _
    refine ⟨trivial, fun key value hv => Stock.freezeEntry_keeps slot slot e m hv, fun e' he' => ?_⟩
    cases he'
    exact Stock.freezeEntry_freezes slot e m
  | cons f front ih =>
    rw [List.cons_append, runAll]
    refine (hfront f (by simp) e context m).bind fun found m' _ _ => ?_
    cases found with
    | none => exact Course.Leads.pure fun e' he' => by cases he'
    | some next => exact ih (fun f hf => hfront f (by simp [hf])) next m'

include hfront in
lemma apply_leads (e : Entry) (context : FilterContext) (m : Memory σ) :
    (freezing slot).Leads m (apply (front ++ [(Stock.freeze slot).toFilter id]) e context)
      (fun found m' => ∀ e', found = some e' → Stands slot e' m') fun _ _ => True := by
  rw [apply]
  refine (runAll_leads hfront context e m).bind fun found m' _ hfound => ?_
  cases found with
  | ok filtered =>
    refine Course.Leads.pure fun e' he' => ?_
    cases he'
    exact hfound filtered rfl
  | error name =>
    have hreport : Keeps slot (report .debug "property_filtered" (some e.source) (some e.key)
        [("filter", .text name)] : Act σ Unit) :=
      Keeps.of_untouched (Untouched.act_lift (Untouched.reports _ _ _ _ _))
    refine (hreport m').bind fun _ m'' _ _ => ?_
    exact Course.Leads.pure fun e' he' => by cases he'

/-- The ledger files each entry under its key, and each has the value frozen for it. -/
def Settles (slot : Nat) (entries : Ledger String Entry) (m : Memory σ) : Prop :=
  ∀ key e, entries.get? key = some e → e.key = key ∧ Stands slot e m

lemma Settles.put {entries : Ledger String Entry} {m : Memory σ} (h : Settles slot entries m)
    {e : Entry} (he : Stands slot e m) : Settles slot (entries.put e.key e) m := by
  intro key e' hget
  rw [Ledger.get?_put] at hget
  split at hget
  · rename_i hkey
    cases hget
    exact ⟨hkey.symm, he⟩
  · exact h key e' hget

lemma Settles.later {entries : Ledger String Entry} {m m' : Memory σ}
    (hlater : (freezing slot).later m m') (h : Settles slot entries m) : Settles slot entries m' :=
  fun key e he => ⟨(h key e he).1, (h key e he).2.later hlater⟩

def Sorted.Settles (slot : Nat) (s : Sorted) (m : Memory σ) : Prop :=
  Filter.Settles slot s.kept m ∧ ∀ p ∈ s.renamed, Stands slot p.2 m

lemma Sorted.Settles.later {s : Sorted} {m m' : Memory σ} (hlater : (freezing slot).later m m')
    (h : s.Settles slot m) : s.Settles slot m' :=
  ⟨h.1.later hlater, fun p hp => (h.2 p hp).later hlater⟩

lemma Sorted.Settles.file {s : Sorted} {m : Memory σ} (h : s.Settles slot m) (former : String)
    {found : Option Entry} (hfound : ∀ e, found = some e → Stands slot e m) :
    (s.file former found).Settles slot m := by
  cases found with
  | none => exact h
  | some e =>
    have he := hfound e rfl
    rw [Sorted.file]
    split
    · exact h
    · split
      · rename_i hkey
        exact ⟨hkey ▸ h.1.put he, h.2⟩
      · refine ⟨h.1, fun p hp => ?_⟩
        rcases List.mem_append.1 hp with hp | hp
        · exact h.2 p hp
        · rw [List.mem_singleton.1 hp]
          exact he

lemma settle_leads (result : Ledger String Entry) (renamed : List (String × Entry)) (m : Memory σ)
    (hresult : Settles slot result m) (hrenamed : ∀ p ∈ renamed, Stands slot p.2 m) :
    (freezing slot).Leads m (settle result renamed)
      (fun settled m' => Settles slot settled m') fun _ _ => True := by
  induction renamed generalizing result m with
  | nil => exact Course.Leads.pure hresult
  | cons p renamed ih =>
    rw [settle]
    split
    · have hreport : Keeps slot (report .warning "property_rekey_collision" (some p.2.source)
          (some p.2.key) [("renamed_from", .text p.1)] : Act σ Unit) :=
        Keeps.of_untouched (Untouched.act_lift (Untouched.reports _ _ _ _ _))
      refine (hreport m).bind fun _ m' hlater _ => ?_
      exact ih result m' (hresult.later hlater) fun q hq => (hrenamed q (by simp [hq])).later hlater
    · exact ih _ m (hresult.put (hrenamed p (by simp))) fun q hq => hrenamed q (by simp [hq])

include hfront in
lemma applyAll_leads (entries : Ledger String Entry) (m : Memory σ) :
    (freezing slot).Leads m
      (applyAll (Pure.pure (front ++ [(Stock.freeze slot).toFilter id])) entries)
      (fun filtered m' => Settles slot filtered m') fun _ _ => True := by
  change (freezing slot).Leads m (if (front ++ [_]).isEmpty then _ else _) _ _
  rw [if_neg (by simp)]
  have hstart : (⟨.empty, []⟩ : Sorted).Settles slot m :=
    ⟨fun _ _ he => (nomatch he), fun _ hp => (nomatch hp)⟩
  refine (Course.Leads.foldlM (R := fun _ s m' => s.Settles slot m') (l := [])
    (fun _ s p _ m' hs => ?_) hstart).bind fun sorted m' _ hsorted => ?_
  · change (freezing slot).Leads m' (apply _ p.2 ⟨p.1, entries, false⟩ >>= fun filtered =>
      Pure.pure (s.file p.1 filtered)) _ _
    refine (apply_leads hfront p.2 _ m').bind fun found m'' hlater hfound => ?_
    exact Course.Leads.pure ((hs.later hlater).file p.1 hfound)
  · refine settle_leads _ _ m' hsorted.1 fun p hp => ?_
    exact hsorted.2 p ((List.mergeSort_perm _ _).mem_iff.1 hp)

end Chain

end Filter

namespace Context

open LayeredConfig.Filter

inductive Operation (σ : Type)
  | resolve
  | get (key : String)
  | addSources (sources : List (Source σ))
  | removeSources (gone : List (Source σ))
  | change (step : Note σ Unit)

def snapshot : Except Failure (Config σ) → List (String × Entry)
  | .ok config => config.entries.pairs
  | .error _ => []

def single : Except Failure (Option Entry) → List (String × Entry)
  | .ok (some e) => [(e.key, e)]
  | _ => []

/-- The context afterwards, and the entries that the operation publishes, each with its key. An
operation that fails publishes none. -/
def perform (c : Context σ) : Operation σ → Recall σ (Context σ × List (String × Entry))
  | .resolve => return (c, snapshot (← c.resolve.attempt))
  | .get key => return (c, single (← (c.get? key).attempt))
  | .addSources sources => return (← (c.addSources sources : Note σ (Context σ)), [])
  | .removeSources gone => return (c.removeSources gone, [])
  | .change step => do
    (step : Note σ Unit)
    return (c, [])

def performAll (c : Context σ) : List (Operation σ) → Recall σ (Context σ × List (String × Entry))
  | [] => return (c, [])
  | op :: ops => do
    let (c, published) ← c.perform op
    let (c, more) ← c.performAll ops
    return (c, published ++ more)

variable {slot id : Nat} {front : List (Filter σ)}

def Settled (slot : Nat) (published : List (String × Entry)) (m : Memory σ) : Prop :=
  ∀ p ∈ published, m.Freezes slot p.1 p.2.value

lemma resolve_leads {c : Context σ} (hlast : c.filters = front ++ [(Stock.freeze slot).toFilter id])
    (hfront : ∀ f ∈ front, f.Respects slot) (m : Memory σ) :
    (freezing slot).Leads m c.resolve (fun config m' => Settled slot config.entries.pairs m')
      fun _ _ => True := by
  have hmerge : Keeps slot (c.merge.resolveAll c.sources) :=
    Keeps.of_untouched (c.merge.resolveAll_untouched c.sources)
  refine (hmerge m).bind fun merged m' _ _ => ?_
  rw [hlast]
  refine (applyAll_leads hfront merged m').bind fun filtered m'' _ hfiltered => ?_
  refine Course.Leads.pure fun p hp => ?_
  obtain ⟨hkey, hstands⟩ := hfiltered p.1 p.2 (Ledger.mem_pairs_iff.1 hp)
  rwa [Stands, hkey] at hstands

lemma get?_leads {c : Context σ} (hlast : c.filters = front ++ [(Stock.freeze slot).toFilter id])
    (hfront : ∀ f ∈ front, f.Respects slot) (key : String) (m : Memory σ) :
    (freezing slot).Leads m (c.get? key)
      (fun found m' => ∀ e, found = some e → Stands slot e m') fun _ _ => True := by
  have hmerge : Keeps slot (c.merge.resolve key c.sources) :=
    Keeps.of_untouched (c.merge.resolve_untouched key c.sources)
  refine (hmerge m).bind fun found m' _ _ => ?_
  cases found with
  | none => exact Course.Leads.pure fun e he => by cases he
  | some entry =>
    simp only
    rw [hlast]
    refine (apply_leads hfront entry _ m').bind fun filtered m'' _ hfiltered => ?_
    refine Course.Leads.pure fun e he => ?_
    exact hfiltered e (Option.filter_eq_some_iff.1 he).1

lemma perform_settles {c : Context σ}
    (hlast : c.filters = front ++ [(Stock.freeze slot).toFilter id])
    (hfront : ∀ f ∈ front, f.Respects slot) (op : Operation σ) (m : Memory σ) :
    ((c.perform op).run m).1.1.filters = c.filters ∧
      (freezing slot).later m ((c.perform op).run m).2 ∧
      Settled slot ((c.perform op).run m).1.2 ((c.perform op).run m).2 := by
  have hnothing (m' : Memory σ) : Settled slot [] m' := fun p hp => by cases hp
  -- Only a pass and a lookup publish anything, and a failed one publishes nothing.
  cases op with
  | resolve =>
    obtain ⟨-, hlater, hpublished⟩ := resolve_leads hlast hfront m trivial
    refine ⟨rfl, hlater, ?_⟩
    change Settled slot (snapshot (c.resolve.run.run m).1) (c.resolve.run.run m).2
    generalize (c.resolve.run.run m).1 = result at hpublished ⊢
    cases result with
    | ok config => exact hpublished
    | error failure => exact hnothing _
  | get key =>
    obtain ⟨-, hlater, hpublished⟩ := get?_leads hlast hfront key m trivial
    refine ⟨rfl, hlater, ?_⟩
    change Settled slot (single ((c.get? key).run.run m).1) ((c.get? key).run.run m).2
    generalize ((c.get? key).run.run m).1 = result at hpublished ⊢
    cases result with
    | error failure => exact hnothing _
    | ok found =>
      cases found with
      | none => exact hnothing _
      | some e =>
        refine List.forall_mem_singleton.2 ?_
        exact hpublished e rfl
  | addSources sources => exact ⟨rfl, fun _ _ h => h, hnothing _⟩
  | removeSources gone => exact ⟨rfl, fun _ _ h => h, hnothing m⟩
  | change step => exact ⟨rfl, fun _ _ h => h, hnothing _⟩

lemma performAll_settles {c : Context σ}
    (hlast : c.filters = front ++ [(Stock.freeze slot).toFilter id])
    (hfront : ∀ f ∈ front, f.Respects slot) (ops : List (Operation σ)) (m : Memory σ) :
    (freezing slot).later m ((c.performAll ops).run m).2 ∧
      Settled slot ((c.performAll ops).run m).1.2 ((c.performAll ops).run m).2 := by
  -- The invariant is that the filter stays at the end; what is frozen then only grows.
  induction ops generalizing c m with
  | nil => exact ⟨fun _ _ h => h, fun p hp => by cases hp⟩
  | cons op ops ih =>
    obtain ⟨hfilters, hlater, hpublished⟩ := perform_settles hlast hfront op m
    obtain ⟨hlater', hmore⟩ := ih (hfilters.trans hlast) ((c.perform op).run m).2
    refine ⟨(freezing slot).trans hlater hlater', fun p hp => ?_⟩
    -- What was published first is still frozen when the run ends.
    rcases List.mem_append.1 hp with hp | hp
    · exact hlater' p.1 p.2.value (hpublished p hp)
    · exact hmore p hp

/-- Whatever is published under one key along a run, by whichever operation, has one value: that
which the filter at the end froze first. -/
theorem published_values_agree (c : Context σ)
    (hlast : c.filters = front ++ [(Stock.freeze slot).toFilter id])
    (hfront : ∀ f ∈ front, f.Respects slot) (ops : List (Operation σ)) (m : Memory σ) :
    ∀ p ∈ ((c.performAll ops).run m).1.2, ∀ q ∈ ((c.performAll ops).run m).1.2, p.1 = q.1 →
      p.2.value = q.2.value := by
  intro p hp q hq hkey
  obtain ⟨-, hpublished⟩ := performAll_settles hlast hfront ops m
  have hfirst := hpublished p hp
  have hsecond := hpublished q hq
  rw [hkey] at hfirst
  exact Option.some.inj (hfirst.symm.trans hsecond)

def bindings : Note (Ledger String String) (Ledger String String) := fun w => (w.host, w)

def counted (e : Entry) : Call (Ledger String String) (Option Entry) := do
  let found ← (bindings : Note _ _)
  return some (e.withValue (e.value.map (· ++ toString found.size)))

def changing : List (Filter (Ledger String String)) :=
  [(Stock.rename none (some "old.") none).toFilter 0, ⟨1, "Counted", fun e _ => liftM (counted e)⟩]

def drifting : Context (Ledger String String) where
  sources := [Source.Environment.source 0 "" "env" 300 bindings]
  filters := changing ++ [(Stock.freeze 0).toFilter 2]
  converters := .empty
  resolver := ⟨0, .empty, .standard⟩

def sets (ps : List (String × String)) : Operation (Ledger String String) :=
  .change fun w => ((), { w with host := .ofList ps })

def drift : List (Operation (Ledger String String)) :=
  [sets [("OLD__NAME", "a")], .resolve, sets [("OLD__NAME", "a"), ("NAME", "b")], .resolve,
    .get "name", .removeSources drifting.sources, .resolve, .addSources drifting.sources,
    .get "old.name"]

theorem drifting_published_values_agree :
    (drifting.filters = changing ++ [(Stock.freeze 0).toFilter 2] ∧ ∀ f ∈ changing, f.Respects 0) ∧
    ((drifting.performAll drift).run (.initial .debug .empty)).1.2.map (fun p => (p.1, p.2.value)) =
      [("name", some "a1"), ("name", some "a1"), ("name", some "a1"), ("name", some "a1")] ∧
    ∀ p ∈ ((drifting.performAll drift).run (.initial .debug .empty)).1.2,
      ∀ q ∈ ((drifting.performAll drift).run (.initial .debug .empty)).1.2, p.1 = q.1 →
        p.2.value = q.2.value := by
  have hfront : ∀ f ∈ changing, f.Respects 0 := by
    refine List.forall_mem_cons.2 ⟨Stock.respects _ 0, List.forall_mem_singleton.2 ?_⟩
    exact respects_of_call _ (fun e _ => counted e) fun _ _ => rfl
  exact ⟨⟨rfl, hfront⟩, by decide +kernel, published_values_agree drifting rfl hfront drift _⟩

end Context

end LayeredConfig
