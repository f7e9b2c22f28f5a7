import LayeredConfig.Proofs.Inquiry
import LayeredConfig.Proofs.Permanence
import LayeredConfig.Proofs.Thinning

/-! Source failures. A call that raises ends the operation that made it, before any policy or filter
is come to. So a context is left as it was, and once the source is gone or answers again, nothing
tells that the failed operation has ever been tried. -/

namespace LayeredConfig

variable {σ α : Type} {P : Circumstance σ}

lemma run_call_error {x : Call σ α} {m : Memory σ} {failure : Failure} {w : World σ}
    (h : x.run.run m.world = (.error failure, w)) :
    (liftM x : Act σ α).run.run m = (.error failure, { m with world := w }) := by
  change ((x.run.run m.world).1, { m with world := (x.run.run m.world).2 }) = _
  rw [h]

namespace Context

variable (c : Context σ)

def questions (w : World σ) : Operation σ → List (Question σ × World σ)
  | .resolve => (Inquiry.fetch c.merge.metaKeys (Source.inOrder c.sources)).asked w
  | .get key =>
    if c.merge.metaKeys.isMeta key then []
    else (Inquiry.lookUp (key :: Merge.candidates c.merge.metaKeys key)
      (Source.inOrder c.sources)).asked w
  | _ => []

def failure? : Except Failure α → Option Failure
  | .error failure => some failure
  | .ok _ => none

def raised (m : Memory σ) : Operation σ → Option Failure
  | .resolve => failure? (c.resolve.run.run m).1
  | .get key => failure? ((c.get? key).run.run m).1
  | _ => none

section Failing

variable {c} {m : Memory σ} {q : Question σ} {w w' : World σ} {failure : Failure}
variable (hraises : q.Raises w failure w')

include hraises

lemma resolve_of_raises (hasked : (q, w) ∈ c.questions m.world .resolve) :
    c.resolve.run.run m = (.error failure, { m with world := w' }) := by
  have hfetch := Inquiry.run_of_raises hasked hraises
  rw [Inquiry.run_fetch] at hfetch
  exact run_bind_error (run_bind_error (run_call_error hfetch))

lemma get?_of_raises {key : String} (hasked : (q, w) ∈ c.questions m.world (.get key)) :
    (c.get? key).run.run m = (.error failure, { m with world := w' }) := by
  rw [questions] at hasked
  split at hasked
  · cases hasked
  · rename_i hvisible
    have hask := Inquiry.run_of_raises hasked hraises
    rw [Inquiry.run_lookUp] at hask
    rw [get?, Merge.resolve, if_neg hvisible]
    exact run_bind_error (run_bind_error (run_call_error hask))

lemma raised_of_raises {op : Operation σ} (hasked : (q, w) ∈ c.questions m.world op) :
    c.raised m op = some failure := by
  cases op with
  | resolve => rw [raised, resolve_of_raises hraises hasked, failure?]
  | get key => rw [raised, get?_of_raises hraises hasked, failure?]
  | addSources | removeSources | change => cases hasked

lemma perform_of_raises {op : Operation σ} (hasked : (q, w) ∈ c.questions m.world op) :
    (c.perform op).run m = ((c, []), { m with world := w' }) := by
  cases op with
  | resolve =>
    change ((c, snapshot (c.resolve.run.run m).1), (c.resolve.run.run m).2) = _
    rw [resolve_of_raises hraises hasked, snapshot]
  | get key =>
    change ((c, single ((c.get? key).run.run m).1), ((c.get? key).run.run m).2) = _
    rw [get?_of_raises hraises hasked, single]
    exact nofun
  | addSources | removeSources | change => cases hasked

end Failing

structure Unaware (P : Circumstance σ) (c : Context σ) : Prop where
  sources : ∀ s ∈ c.sources, s.Twin P s
  filters : ∀ f ∈ c.filters, f.Unaware P
  resolver : c.resolver.Unaware P

def Operation.Unaware (P : Circumstance σ) : Operation σ → Prop
  | addSources sources => ∀ s ∈ sources, s.Twin P s
  | change step => Coupled P.worlds Eq step step
  | _ => True

variable {c}

lemma resolve_heedless (h : c.Unaware P) : Heedless P.memories c.resolve := by
  have hmerge : Heedless P.memories (c.merge.resolveAll c.sources) := fun _ _ hm =>
    Merge.resolveAll_inStep (fun _ hw => hw) h.resolver (Source.inStep_self h.sources) hm
  exact hmerge.bind fun merged => Heedless.bind (Filter.applyAll_heedless h.filters merged)
    fun filtered => .pure _

lemma get?_heedless (h : c.Unaware P) (key : String) : Heedless P.memories (c.get? key) := by
  have hmerge : Heedless P.memories (c.merge.resolve key c.sources) := fun _ _ hm =>
    Merge.resolve_inStep (fun _ hw => hw) h.resolver (Source.inStep_self h.sources) hm key
  refine hmerge.bind fun found => ?_
  cases found with
  | none => exact .pure _
  | some entry => exact Heedless.bind (Filter.apply_heedless h.filters entry _) fun _ => .pure _

lemma mem_of_mem_removeEach {gone sources : List (Source σ)} {s : Source σ}
    (h : s ∈ Source.removeEach sources gone) : s ∈ sources := by
  rw [Source.removeEach] at h
  induction gone generalizing sources with
  | nil => exact h
  | cons t gone ih => exact List.mem_of_mem_eraseP (ih h)

lemma addSources_coupled (h : c.Unaware P) {sources : List (Source σ)}
    (hsources : ∀ s ∈ sources, s.Twin P s) :
    Coupled P.worlds (fun c₁ c₂ => c₂ = c₁ ∧ c₁.Unaware P) (c.addSources sources)
      (c.addSources sources) := by
  have hreports (registered : List (Source σ)) : Coupled P.worlds Eq
      (registered.forM fun s =>
        (report .debug "source_registered" (some s.name) none
          [("ordinal", .integer s.ordinal)] : Note σ Unit))
      (registered.forM fun s => report .debug "source_registered" (some s.name) none
        [("ordinal", .integer s.ordinal)]) := by
    induction registered with
    | nil => exact Coupled.pure rfl
    | cons s registered ih =>
      rw [List.forM]
      exact coupled_reports.bind fun _ _ _ => ih
  refine (hreports sources).bind fun _ _ _ => Coupled.pure ⟨rfl, ?_⟩
  exact ⟨List.forall_mem_append.2 ⟨h.sources, hsources⟩, h.filters, h.resolver⟩

abbrev Outcomes (P : Circumstance σ) (r r' : Context σ × List (String × Entry)) : Prop :=
  r' = r ∧ r.1.Unaware P

lemma perform_coupled (h : c.Unaware P) {op : Operation σ} (hop : op.Unaware P) :
    Coupled P.memories (Outcomes P) (c.perform op) (c.perform op) := by
  cases op with
  | resolve =>
    refine Coupled.bind (resolve_heedless h) fun r r' hr => ?_
    rw [hr.eq]
    exact Coupled.pure ⟨rfl, h⟩
  | get key =>
    refine Coupled.bind (get?_heedless h key) fun r r' hr => ?_
    rw [hr.eq]
    exact Coupled.pure ⟨rfl, h⟩
  | addSources sources =>
    refine Coupled.bind (addSources_coupled h hop).recall ?_
    rintro c₁ _ ⟨rfl, hc₁⟩
    exact Coupled.pure ⟨rfl, hc₁⟩
  | removeSources gone =>
    refine Coupled.pure ⟨rfl, ⟨fun s hs => ?_, h.filters, h.resolver⟩⟩
    exact h.sources s (mem_of_mem_removeEach hs)
  | change step =>
    exact Coupled.bind (Coupled.recall hop) fun _ _ _ => Coupled.pure ⟨rfl, h⟩

lemma performAll_coupled (h : c.Unaware P) {ops : List (Operation σ)}
    (hops : ∀ op ∈ ops, op.Unaware P) :
    Coupled P.memories (Outcomes P) (c.performAll ops) (c.performAll ops) := by
  -- Each operation publishes the same on both sides and leaves one context, unaware as before.
  induction ops generalizing c with
  | nil => exact Coupled.pure ⟨rfl, h⟩
  | cons op ops ih =>
    obtain ⟨hop, hrest⟩ := List.forall_mem_cons.1 hops
    refine Coupled.bind (perform_coupled h hop) ?_
    rintro ⟨c₁, published⟩ _ ⟨rfl, hc₁⟩
    refine Coupled.bind (ih hc₁ hrest) ?_
    rintro ⟨c₂, more⟩ _ ⟨rfl, hc₂⟩
    exact Coupled.pure ⟨rfl, hc₂⟩

/-- An operation raises what a call that it makes of a source raises. Sources and filters, what the
filters remember and the instances of policies stay as they were. From then on, whatever comes of
the world, every run of operations leads to the same context, the same entries and the same answers
as if the failed one had not been tried. -/
theorem source_failure_leaves_no_trace (c : Context σ) (m : Memory σ) (op : Operation σ)
    (q : Question σ) (w w' : World σ) (failure : Failure)
    (hasked : (q, w) ∈ c.questions m.world op) (hraises : q.Raises w failure w') :
    c.raised m op = some failure ∧
    (c.perform op).run m = ((c, []), { m with world := w' }) ∧
    ∀ (ops : List (Operation σ)) (v v' : World σ), (c.Unaware fun _ _ => True) →
      (∀ op ∈ ops, op.Unaware fun _ _ => True) → v'.switches = v.switches → v'.host = v.host →
      let failed := (c.performAll ops).run { ((c.perform op).run m).2 with world := v }
      let spared := (c.performAll ops).run { m with world := v' }
      failed.1 = spared.1 ∧
      (failed.1.1.resolve.run.run failed.2).1 = (spared.1.1.resolve.run.run spared.2).1 ∧
      ∀ key, ((failed.1.1.get? key).run.run failed.2).1 =
        ((spared.1.1.get? key).run.run spared.2).1 := by
  refine ⟨raised_of_raises hraises hasked, perform_of_raises hraises hasked, ?_⟩
  intro ops v v' h hops hswitches hhost
  rw [perform_of_raises hraises hasked]
  -- Nothing but the journals is left of what sets the two starting points apart.
  have hstart : Circumstance.memories (fun _ _ => True)
      { m with world := v } { m with world := v' } :=
    ⟨v', ⟨trivial, hswitches, hhost⟩, rfl⟩
  obtain ⟨⟨hsame, hunaware⟩, hend⟩ := performAll_coupled h hops _ _ hstart
  intro failed spared
  have hcontext : spared.1 = failed.1 := hsame
  rw [hcontext]
  refine ⟨rfl, (resolve_heedless hunaware _ _ hend).1.eq, fun key => ?_⟩
  exact (get?_heedless hunaware key _ _ hend).1.eq

def depotEntries : Ledger String Entry :=
  ⟨[("quota", ⟨"quota", some "fresh", "depot", .empty, by decide⟩)], by decide⟩

def opened (a : α) : Call Bool α :=
  ExceptT.mk fun w => (if w.host then .ok a else .error (.sourceAccess "depot is shut"), w)

def depot : Source Bool where
  id := 1
  name := "depot"
  ordinal := 10
  scannable := true
  get key := opened (depotEntries.get? key)
  properties := opened depotEntries

def shelfEntries : Ledger String Entry :=
  ⟨[("quota", ⟨"quota", some "stale", "shelf", .empty, by decide⟩)], by decide⟩

def shelf : Source Bool := .ofEntries 0 "shelf" 0 true shelfEntries

def outage : Context Bool where
  sources := [shelf, depot]
  filters := [(Filter.Stock.freeze 0).toFilter 0,
    (Filter.Stock.cache 0 none 300 (-1) (pure 0)).toFilter 1]
  converters := .empty
  resolver := ⟨0, .ofList [("latest", ⟨7, pure 1, fun _ => .override⟩)], .standard⟩

def outageMemory : Memory Bool :=
  { Memory.initial .critical false with
    frozen := .ofList [(0, .ofList [("quota", some "first")])]
    instances := .ofList [(0, .ofList [(7, 1)])] }

def recovery : List (Operation Bool) :=
  [.removeSources [depot], .resolve, .change fun w => ((), { w with host := true }),
    .addSources [depot], .get "quota"]

lemma opened_heedless (a : α) : Heedless (Circumstance.worlds fun _ _ => True) (opened a) := by
  rintro w w' ⟨-, hswitches, hhost⟩
  change Results Eq (if w.host then .ok a else _) (if w'.host then .ok a else _) ∧ _
  rw [hhost]
  exact ⟨.refl _, trivial, hswitches, hhost⟩

lemma twin_depot : depot.Twin (fun _ _ => True) depot where
  name := rfl
  ordinal := rfl
  scannable := rfl
  get _ := opened_heedless _
  properties _ := opened_heedless _

lemma unaware_outage : outage.Unaware fun _ _ => True where
  sources := List.forall_mem_cons.2 ⟨Source.twin_ofEntries _ _ _ _ _,
    List.forall_mem_singleton.2 twin_depot⟩
  filters := by
    refine List.forall_mem_cons.2 ⟨?_, List.forall_mem_singleton.2 ?_⟩
    · exact Filter.Stock.unaware (s := .freeze 0) trivial 0
    · exact Filter.Stock.unaware (s := .cache 0 none 300 (-1) (pure 0)) (Coupled.pure rfl) 1
  resolver f hf := by
    obtain rfl := List.mem_singleton.1 hf
    exact ⟨.pure 1, fun _ => Policy.override_unaware⟩

theorem outage_leaves_no_trace :
    (Question.properties depot, outageMemory.world) ∈
      outage.questions outageMemory.world .resolve ∧
    outage.raised outageMemory .resolve = some (.sourceAccess "depot is shut") ∧
    ((outage.perform .resolve).run outageMemory).2.frozen = outageMemory.frozen ∧
    ∀ journal, ((outage.performAll recovery).run ((outage.perform .resolve).run outageMemory).2).1 =
      ((outage.performAll recovery).run
        { outageMemory with world := { outageMemory.world with journal } }).1 := by
  have hordered : Source.inOrder outage.sources = outage.sources :=
    List.mergeSort_of_pairwise (by decide)
  have hasked : (Question.properties depot, outageMemory.world) ∈
      outage.questions outageMemory.world .resolve := by
    rw [questions, hordered]
    exact List.Mem.tail _ (List.Mem.head _)
  have hops : ∀ op ∈ recovery, op.Unaware fun _ _ => True := by
    intro op hop
    simp only [recovery, List.mem_cons, List.not_mem_nil, or_false] at hop
    rcases hop with rfl | rfl | rfl | rfl | rfl
    · trivial
    · trivial
    · rintro w w' ⟨-, hswitches, -⟩
      exact ⟨rfl, trivial, hswitches, rfl⟩
    · exact List.forall_mem_singleton.2 twin_depot
    · trivial
  obtain ⟨hraised, hperform, hlater⟩ :=
    outage.source_failure_leaves_no_trace outageMemory .resolve _ _ _ _ hasked rfl
  refine ⟨hasked, hraised, by rw [hperform], fun journal => ?_⟩
  rw [hperform] at hlater ⊢
  exact (hlater recovery outageMemory.world { outageMemory.world with journal } unaware_outage hops
    rfl rfl).1

end Context

end LayeredConfig
