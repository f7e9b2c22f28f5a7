import LayeredConfig.Filter.Stock
import LayeredConfig.Merge
import LayeredConfig.Proofs.Parallel

/-! Computations that take no notice of the journal. From states that differ in nothing but what is
written there, such a computation gives one result and again leaves states that differ in nothing
else. Merging and filtering are of this kind, as long as the parts that they call are. -/

namespace LayeredConfig

variable {σ τ α β : Type}

abbrev Heedless (T : τ → τ → Prop) (x : ExceptT Failure (StateM τ) α) : Prop := Accord T Eq x x

namespace Heedless

variable {T : τ → τ → Prop}

lemma pure (a : α) : Heedless T (pure a : ExceptT Failure (StateM τ) α) := Accord.pure rfl

lemma make (r : Except Failure α) : Heedless T (ExceptT.mk (Pure.pure r : StateM τ _)) :=
  Accord.make (.refl r)

lemma bind {x : ExceptT Failure (StateM τ) α} {f : α → ExceptT Failure (StateM τ) β}
    (hx : Heedless T x) (hf : ∀ a, Heedless T (f a)) : Heedless T (x >>= f) :=
  Accord.bind hx fun a _ hab => hab ▸ hf a

lemma foldlM {f : β → α → ExceptT Failure (StateM τ) β} (hf : ∀ b a, Heedless T (f b a))
    (xs : List α) (b : β) : Heedless T (xs.foldlM f b) :=
  Accord.foldlM (List.forall₂_same.2 fun a _ => Eq.refl a)
    (fun b _ a _ hb ha => hb ▸ ha ▸ hf b a) rfl

end Heedless

namespace Circumstance

variable (P : Circumstance σ)

def worlds (w w' : World σ) : Prop := P.world w ∧ w'.switches = w.switches ∧ w'.host = w.host

def memories (m m' : Memory σ) : Prop := ∃ w, P.worlds m.world w ∧ m' = { m with world := w }

end Circumstance

variable {P : Circumstance σ} {R : α → β → Prop}

lemma Coupled.recall {x : Note σ α} {y : Note σ β} (h : Coupled P.worlds R x y) :
    Coupled P.memories R (Note.recall x) (Note.recall y) := by
  rintro m _ ⟨w, hw, rfl⟩
  obtain ⟨hr, hend⟩ := h m.world w hw
  exact ⟨hr, _, hend, rfl⟩

lemma Accord.call {x : Call σ α} {y : Call σ β} (h : Accord P.worlds R x y) :
    Accord P.memories R (liftM x : Act σ α) (liftM y : Act σ β) :=
  Coupled.recall h

lemma Accord.note {x : Note σ α} {y : Note σ β} (h : Coupled P.worlds R x y) :
    Accord P.memories R (ExceptT.lift (Note.recall x) : Act σ α) (ExceptT.lift (Note.recall y)) :=
  Accord.lift h.recall

section Reports

variable {severity severity' : Severity} {name name' : String}
  {source source' key key' : Option String} {more more' : List (String × Data)}

lemma coupled_reports : Coupled P.worlds Eq
    (report severity name source key more : Note σ Unit)
    (report severity' name' source' key' more') := fun _ _ hw => ⟨rfl, hw⟩

lemma accord_reports_call : Accord P.worlds Eq
    (report severity name source key more : Call σ Unit)
    (report severity' name' source' key' more') := Accord.lift coupled_reports

lemma accord_reports : Accord P.memories Eq
    (report severity name source key more : Act σ Unit)
    (report severity' name' source' key' more') := Accord.note coupled_reports

end Reports

def Policy.Unaware (P : Circumstance σ) (p : Policy σ) : Prop :=
  ∀ current key (s : Snapshot) metadata,
    Heedless P.worlds (p.combine current key s.toSource metadata)

lemma Policy.override_unaware : (Policy.override : Policy σ).Unaware P :=
  fun _ _ _ _ => .pure _

lemma Policy.collect_unaware : (Policy.collect : Policy σ).Unaware P := by
  intro current key s metadata
  refine Heedless.bind (.pure _) fun found => ?_
  cases found.bind (·.value) with
  | none => exact .pure _
  | some v => cases current <;> exact .pure _

structure Factory.Unaware (P : Circumstance σ) (f : Factory σ) : Prop where
  build : Heedless P.worlds f.build
  combine : ∀ serial, (f.policy serial).Unaware P

namespace Resolver

def Unaware (P : Circumstance σ) (r : Resolver σ) : Prop :=
  ∀ f ∈ r.factories.values, f.Unaware P

def Choice.Agreed (P : Circumstance σ) (choice choice' : Choice σ) : Prop :=
  choice' = choice ∧ choice.policy.Unaware P

variable {r : Resolver σ} (h : r.Unaware P)

include h

lemma custom_accord (name : String) :
    Accord P.memories (Choice.Agreed P) (r.custom name) (r.custom name) := by
  rw [custom]
  cases hget : r.factories.get? name with
  | none => exact Accord.make (.error _)
  | some f =>
    obtain ⟨hbuild, hcombine⟩ := h f (Ledger.mem_values_of_get? hget)
    -- The two memories differ in their journals, which neither reading nor remembering an instance
    -- looks at.
    have hserial : Coupled P.memories Eq (r.serial? f.id) (r.serial? f.id) := by
      rintro m _ ⟨w, hw, rfl⟩
      exact ⟨rfl, w, hw, rfl⟩
    refine (Accord.lift hserial).bind fun serial? _ heq => ?_
    subst heq
    cases serial? with
    | some serial => exact Accord.pure ⟨rfl, hcombine serial⟩
    | none =>
      refine (Accord.note hbuild).bind fun _ _ hbuilt => ?_
      cases hbuilt with
      | error cause => exact Accord.make (.error _)
      | @ok serial _ heq =>
        subst heq
        have hremember : Coupled P.memories Eq (r.remember f.id serial)
            (r.remember f.id serial) := by
          rintro m _ ⟨w, hw, rfl⟩
          exact ⟨rfl, w, hw, rfl⟩
        refine (Accord.lift hremember).bind fun _ _ _ => ?_
        exact Accord.pure ⟨rfl, hcombine serial⟩

lemma resolve_coupled (key : String) (metadata : Ledger String String) :
    Coupled P.memories (Choice.Agreed P) (r.resolve key metadata) (r.resolve key metadata) := by
  have hreport (severity : Severity) (name : String) (more : List (String × Data)) :
      Coupled P.memories Eq (report severity name none (some key) more : Recall σ Unit)
        (report severity name none (some key) more) :=
    coupled_reports.recall
  have hoverride : Coupled P.memories (Choice.Agreed P) (pure .override) (pure .override) :=
    Coupled.pure ⟨rfl, Policy.override_unaware⟩
  rw [resolve]
  split
  · exact hoverride
  · cases metadata.get? MetaKeys.combinationPolicy with
    | none => exact hoverride
    | some text =>
      simp only
      split
      · exact hoverride
      · split
        · exact (hreport _ _ _).bind fun _ _ _ => Coupled.pure ⟨rfl, Policy.collect_unaware⟩
        · refine Coupled.bind (custom_accord h (Text.strip text)) fun _ _ hchosen => ?_
          cases hchosen with
          | error failure => exact (hreport _ _ _).bind fun _ _ _ => hoverride
          | ok hagreed => exact (hreport _ _ _).bind fun _ _ _ => Coupled.pure hagreed

end Resolver

namespace Merge

lemma combineAll_heedless {policy : Policy σ} (hp : policy.Unaware P) (key : String)
    (metadata : Ledger String String) (running : Running) (holders : List (Snapshot × Entry)) :
    Heedless P.worlds (combineAll policy key metadata running holders) := by
  induction holders generalizing running with
  | nil => exact .pure _
  | cons p holders ih =>
    rw [combineAll]
    exact (hp running.value key p.1 metadata).bind fun value => ih _

variable {e : Merge σ} (h : e.resolver.Unaware P)

include h

lemma mergeKey_heedless (key : String) (snapshots : List Snapshot)
    (metadata : Ledger String String) :
    Heedless P.memories (e.mergeKey key snapshots metadata) := by
  rw [mergeKey]
  split
  · exact .pure _
  · refine (Accord.lift (Resolver.resolve_coupled h key metadata)).bind ?_
    rintro choice _ ⟨rfl, hchoice⟩
    exact Heedless.bind (Accord.call (combineAll_heedless hchoice key metadata _ _)) fun running =>
      .make _

lemma mergeKeys_heedless (snapshots : List Snapshot) (grouped : MetaKeys.Grouped)
    (keys : List String) : Heedless P.memories (e.mergeKeys snapshots grouped keys) := by
  refine Heedless.foldlM (fun merged key => ?_) keys _
  refine Heedless.bind (mergeKey_heedless h key snapshots (grouped.at key)) fun found => ?_
  cases found <;> exact .pure _

end Merge

namespace Filter

def Unaware (P : Circumstance σ) (f : Filter σ) : Prop :=
  ∀ e context, Heedless P.memories (f.run e context)

namespace Stock

def Unaware (P : Circumstance σ) : Stock σ → Prop
  | cache _ _ _ _ clock => Coupled P.worlds Eq clock clock
  | secure _ _ assigned _ => Coupled P.worlds Eq assigned assigned
  | _ => True

lemma guardEntry_heedless (roles : List String) (assigned : Option (List String))
    (refusal : Refusal) (e : Entry) :
    Heedless P.memories (guardEntry roles assigned refusal e) := by
  cases assigned with
  | none => exact .pure _
  | some held =>
    simp only [guardEntry]
    split
    · exact .pure _
    · cases refusal with
      | raise | hide => exact .make _
      | warn => exact Heedless.bind accord_reports fun _ => .pure _

lemma freezeEntry_coupled (slot : Nat) (e : Entry) :
    Coupled P.memories Eq (freezeEntry slot e : Recall σ Entry) (freezeEntry slot e) := by
  rintro m _ ⟨w, hw, rfl⟩
  exact ⟨rfl, w, hw, rfl⟩

lemma cacheEntry_coupled (slot : Nat) (timeout : Rat) (maxSize : Int) (now : Rat) (e : Entry) :
    Coupled P.memories Eq (cacheEntry slot timeout maxSize now e : Recall σ Entry)
      (cacheEntry slot timeout maxSize now e) := by
  rintro m _ ⟨w, hw, rfl⟩
  simp only [StateT.run, cacheEntry]
  cases (m.cached.getD slot .empty).get? e.key with
  | none =>
    cases hasRoom maxSize (m.cached.getD slot .empty).size <;> exact ⟨rfl, w, hw, rfl⟩
  | some kept =>
    by_cases hnow : now < kept.1
    · simp only [hnow, if_true]
      exact ⟨trivial, w, hw, rfl⟩
    · simp only [hnow, if_false]
      exact ⟨trivial, w, hw, rfl⟩

lemma unaware {s : Stock σ} (h : s.Unaware P) (id : Nat) : (s.toFilter id).Unaware P := by
  intro e context
  cases s with
  | hide p => exact .pure _
  | mask p mask => exact .pure _
  | rename p cutoff target =>
    change Heedless P.memories (Stock.run _ e)
    rw [Stock.run]
    split
    · simp only
      split <;> exact .make _
    · exact .pure _
  | freeze slot =>
    exact Heedless.bind (Accord.lift (freezeEntry_coupled slot e)) fun _ => .pure _
  | cache slot p timeout maxSize clock =>
    change Heedless P.memories (Stock.run _ e)
    rw [Stock.run]
    split
    · refine Heedless.bind (Accord.note h) fun now => ?_
      exact Heedless.bind
        (Accord.lift (cacheEntry_coupled slot timeout maxSize now e)) fun _ => .pure _
    · exact .pure _
  | secure p roles assigned refusal =>
    change Heedless P.memories (Stock.run _ e)
    rw [Stock.run]
    split
    · exact Heedless.bind (Accord.note h) fun held =>
        guardEntry_heedless roles held refusal e
    · exact .pure _

end Stock

section Chain

variable {filters : List (Filter σ)} (h : ∀ f ∈ filters, f.Unaware P)

include h

lemma runAll_heedless (context : FilterContext) (e : Entry) :
    Heedless P.memories (runAll context e filters) := by
  induction filters generalizing e with
  | nil => exact .pure _
  | cons f filters ih =>
    obtain ⟨hf, hfilters⟩ := List.forall_mem_cons.1 h
    rw [runAll]
    refine Heedless.bind (hf e context) fun found => ?_
    cases found with
    | none => exact .pure _
    | some next => exact ih hfilters next

lemma apply_heedless (e : Entry) (context : FilterContext) :
    Heedless P.memories (apply filters e context) := by
  rw [apply]
  refine Heedless.bind (runAll_heedless h context e) fun found => ?_
  cases found with
  | ok filtered => exact .pure _
  | error name => exact Heedless.bind accord_reports fun _ => .pure _

omit h in
lemma settle_heedless (result : Ledger String Entry) (renamed : List (String × Entry)) :
    Heedless P.memories (settle result renamed : Act σ _) := by
  induction renamed generalizing result with
  | nil => exact .pure _
  | cons p renamed ih =>
    rw [settle]
    split
    · exact Heedless.bind accord_reports fun _ => ih result
    · exact ih _

lemma applyAll_heedless (entries : Ledger String Entry) :
    Heedless P.memories (applyAll (Pure.pure filters) entries) := by
  change Heedless P.memories (if filters.isEmpty then _ else _)
  split
  · exact .pure _
  · refine Heedless.bind ?_ fun sorted => settle_heedless _ _
    refine Heedless.foldlM (fun s p => ?_) _ _
    change Heedless P.memories (apply filters p.2 ⟨p.1, entries, false⟩ >>=
      fun filtered => Pure.pure (s.file p.1 filtered))
    exact Heedless.bind (apply_heedless h p.2 _) fun _ => .pure _

end Chain

end Filter

end LayeredConfig
