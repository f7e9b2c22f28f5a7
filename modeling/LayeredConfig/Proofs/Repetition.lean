import LayeredConfig.Proofs.Publication

/-! Passes that follow one another. What filters remember is settled by the first pass: what it
froze stays frozen, what it cached is answered from the cache, and what it passed by is passed by
again. So the second pass gets the same answer at every call. -/

namespace LayeredConfig

variable {σ τ α β : Type}

/-- Which states come up, and which of them may come later than which. -/
structure Course (τ : Type) where
  holds : τ → Prop
  later : τ → τ → Prop
  refl : ∀ t, later t t
  trans : ∀ {t u w}, later t u → later u w → later t w

def Repeats (C : Course τ) (x : ExceptT Failure (StateM τ) α) : Prop :=
  ∀ t, C.holds t → ∃ a t', x.run.run t = (.ok a, t') ∧ C.holds t' ∧ C.later t t' ∧
    ∀ u, C.holds u → C.later t' u → (x.run.run u).1 = .ok a

namespace Repeats

variable {C : Course τ}

lemma pure (a : α) : Repeats C (pure a) := fun t ht =>
  ⟨a, t, rfl, ht, C.refl t, fun _ _ _ => rfl⟩

lemma bind_of {x : ExceptT Failure (StateM τ) α} {f : α → ExceptT Failure (StateM τ) β}
    {Q : α → Prop} (hx : Repeats C x) (hQ : ∀ t, C.holds t → ∀ a, (x.run.run t).1 = .ok a → Q a)
    (hf : ∀ a, Q a → Repeats C (f a)) : Repeats C (x >>= f) := by
  intro t ht
  obtain ⟨a, t₁, hx₁, ht₁, hlater₁, hagain₁⟩ := hx t ht
  obtain ⟨b, t₂, hf₂, ht₂, hlater₂, hagain₂⟩ := hf a (hQ t ht a (by rw [hx₁])) t₁ ht₁
  refine ⟨b, t₂, (run_bind_ok hx₁).trans hf₂, ht₂, C.trans hlater₁ hlater₂, fun u hu hlater => ?_⟩
  -- Later on the first part gives the same answer, from a state that is later still.
  obtain ⟨a', u₁, hxu, hu₁, hlateru, _⟩ := hx u hu
  have ha := hagain₁ u hu (C.trans hlater₂ hlater)
  rw [hxu] at ha
  cases ha
  rw [run_bind_ok hxu]
  exact hagain₂ u₁ hu₁ (C.trans hlater hlateru)

lemma bind {x : ExceptT Failure (StateM τ) α} {f : α → ExceptT Failure (StateM τ) β}
    (hx : Repeats C x) (hf : ∀ a, Repeats C (f a)) : Repeats C (x >>= f) :=
  hx.bind_of (fun _ _ _ _ => trivial) fun a (_ : True) => hf a

lemma lift {x : StateM τ α} (h : ∀ t, C.holds t → C.holds (x.run t).2 ∧ C.later t (x.run t).2 ∧
    ∀ u, C.holds u → C.later (x.run t).2 u → (x.run u).1 = (x.run t).1) :
    Repeats C (ExceptT.lift x) := by
  intro t ht
  obtain ⟨hend, hlater, hagain⟩ := h t ht
  exact ⟨_, _, rfl, hend, hlater, fun u hu hlater => congrArg Except.ok (hagain u hu hlater)⟩

lemma foldlM {f : β → α → ExceptT Failure (StateM τ) β} (h : ∀ b a, Repeats C (f b a))
    (xs : List α) (b : β) : Repeats C (xs.foldlM f b) := by
  induction xs generalizing b with
  | nil => exact pure b
  | cons a xs ih =>
    rw [List.foldlM_cons]
    exact (h b a).bind ih

end Repeats

structure Terms where
  timeout : Rat
  maxSize : Int
  now : Rat

namespace Terms

variable (q : Terms)

/-- How a cache stands to a key: with the entry it answers with, with none if it passes entries of
the key by for good, and open if it is about to store one. -/
def standing (held : Ledger String (Rat × Entry)) (key : String) : Option (Option Entry) :=
  match held.get? key with
  | some (expiry, kept) =>
    if q.now < expiry then some (some kept) else if 0 < q.timeout then none else some none
  | none =>
    if Filter.Stock.hasRoom q.maxSize held.size && 0 < q.timeout then none else some none

inductive Step (held : Ledger String (Rat × Entry)) (e : Entry) :
    Entry → Ledger String (Rat × Entry) → Prop
  | kept {expiry : Rat} {kept : Entry} :
    held.get? e.key = some (expiry, kept) → q.now < expiry → Step held e kept held
  | renewed {expiry : Rat} {kept : Entry} :
    held.get? e.key = some (expiry, kept) → ¬ q.now < expiry →
    Step held e e (held.put e.key (q.now + q.timeout, e))
  | stored : held.get? e.key = none → Filter.Stock.hasRoom q.maxSize held.size = true →
    Step held e e (held.put e.key (q.now + q.timeout, e))
  | passed : held.get? e.key = none → Filter.Stock.hasRoom q.maxSize held.size = false →
    Step held e e held

variable {q} {held held' : Ledger String (Rat × Entry)} {e answer : Entry}

lemma now_lt_iff : q.now < q.now + q.timeout ↔ 0 < q.timeout := by
  grind

lemma hasRoom_eq_false_iff {maxSize : Int} {n : Nat} :
    Filter.Stock.hasRoom maxSize n = false ↔ 0 ≤ maxSize ∧ maxSize ≤ n := by
  simp [Filter.Stock.hasRoom]

lemma hasRoom_of_le {maxSize : Int} {n n' : Nat} (hle : n ≤ n')
    (h : Filter.Stock.hasRoom maxSize n = false) : Filter.Stock.hasRoom maxSize n' = false := by
  rw [hasRoom_eq_false_iff] at h ⊢
  omega

lemma standing_put_self (held : Ledger String (Rat × Entry)) (e : Entry) :
    q.standing (held.put e.key (q.now + q.timeout, e)) e.key =
      if 0 < q.timeout then some (some e) else some none := by
  simp only [standing, Ledger.get?_put_self, now_lt_iff]
  split <;> rfl

lemma standing_put_of_open {o : Option Entry}
    (h : (if 0 < q.timeout then none else some none) = some o) :
    q.standing (held.put e.key (q.now + q.timeout, e)) e.key = some o := by
  rw [standing_put_self]
  split at h
  · cases h
  · rename_i htimeout
    rw [if_neg htimeout, h]

lemma standing_put_of_ne {key : String} (hne : key ≠ e.key) {p : Rat × Entry} {o : Option Entry}
    (h : q.standing held key = some o) : q.standing (held.put e.key p) key = some o := by
  simp only [standing, Ledger.get?_put, if_neg hne] at h ⊢
  cases hget : held.get? key with
  | some found =>
    rw [hget] at h
    exact h
  | none =>
    rw [hget] at h
    simp only at h ⊢
    -- A full cache stays full.
    split at h
    · cases h
    · rename_i hclosed
      rw [if_neg, h]
      intro hopen
      simp only [Bool.and_eq_true] at hclosed hopen
      refine hclosed ⟨?_, hopen.2⟩
      by_contra hroom
      have hfull := hasRoom_of_le (Ledger.size_le_size_put held e.key p) (by simpa using hroom)
      cases hfull.symm.trans hopen.1

namespace Step

lemma settles (h : q.Step held e answer held') :
    ∃ o, q.standing held' e.key = some o ∧ answer = o.getD e := by
  cases h with
  | @kept expiry kept hget hnow => exact ⟨some answer, by simp [standing, hget, hnow], rfl⟩
  | renewed hget hnow | stored hget hroom =>
    rw [standing_put_self]
    split
    · exact ⟨some e, rfl, rfl⟩
    · exact ⟨none, rfl, rfl⟩
  | passed hget hroom => exact ⟨none, by simp [standing, hget, hroom], rfl⟩

lemma answer_eq (h : q.Step held e answer held') {o : Option Entry}
    (ho : q.standing held e.key = some o) : answer = o.getD e := by
  cases h with
  | kept hget hnow =>
    simp only [standing, hget, if_pos hnow] at ho
    cases ho
    rfl
  | renewed hget hnow =>
    simp only [standing, hget, if_neg hnow] at ho
    split at ho
    · cases ho
    · cases ho
      rfl
  | stored hget hroom | passed hget hroom =>
    simp only [standing, hget] at ho
    split at ho
    · cases ho
    · cases ho
      rfl

lemma keeps (h : q.Step held e answer held') {key : String} {o : Option Entry}
    (ho : q.standing held key = some o) : q.standing held' key = some o := by
  cases h with
  | kept | passed => exact ho
  | renewed hget hnow =>
    by_cases hkey : key = e.key
    · subst hkey
      simp only [standing, hget, if_neg hnow] at ho
      exact standing_put_of_open ho
    · exact standing_put_of_ne hkey ho
  | stored hget hroom =>
    by_cases hkey : key = e.key
    · subst hkey
      simp only [standing, hget, hroom, Bool.true_and, decide_eq_true_eq] at ho
      exact standing_put_of_open ho
    · exact standing_put_of_ne hkey ho

end Step

end Terms

namespace Memory

/-- The memory of filters has moved on: what was frozen or settled still is. -/
structure Later (terms : Nat → Terms) (m m' : Memory σ) : Prop where
  frozen : ∀ slot key value, (m.frozen.getD slot .empty).get? key = some value →
    (m'.frozen.getD slot .empty).get? key = some value
  cached : ∀ slot key o, (terms slot).standing (m.cached.getD slot .empty) key = some o →
    (terms slot).standing (m'.cached.getD slot .empty) key = some o

structure Aside (M : Memory σ → Prop) : Prop where
  frozen : ∀ m frozen, M m → M { m with frozen }
  cached : ∀ m cached, M m → M { m with cached }

def course (M : Memory σ → Prop) (terms : Nat → Terms) : Course (Memory σ) where
  holds := M
  later := Later terms
  refl _ := ⟨fun _ _ _ h => h, fun _ _ _ h => h⟩
  trans h h' := ⟨fun slot key value hv => h'.frozen slot key value (h.frozen slot key value hv),
    fun slot key o ho => h'.cached slot key o (h.cached slot key o ho)⟩

end Memory

namespace Filter.Stock

variable {P : Circumstance σ} {M : Memory σ → Prop} {terms : Nat → Terms}

open Memory

/-- The clock stands still and the assigned roles stay the same, a refusal is no failure, and the
caches of a slot go by the same terms. -/
def Even (P : Circumstance σ) (terms : Nat → Terms) : Stock σ → Prop
  | hide _ | mask .. | rename .. | freeze _ => True
  | cache slot _ timeout maxSize clock =>
    timeout = (terms slot).timeout ∧ maxSize = (terms slot).maxSize ∧
      Ensures P.world clock (· = (terms slot).now)
  | secure _ _ assigned refusal => refusal ≠ .raise ∧ ∃ held, Ensures P.world assigned (· = held)

lemma repeats_of_yields (hM : P.Within M) {x : Act σ α} {a : α}
    (h : ∀ M' : Memory σ → Prop, P.Within M' → Yields M' x (.ok a)) :
    Repeats (course M terms) x := by
  intro m hm
  obtain ⟨m', hrun, hend, hfrozen, hcached⟩ := Yields.leaves hM h hm
  refine ⟨a, m', hrun, hend, ⟨fun slot key value hv => ?_, fun slot key o ho => ?_⟩,
    fun u hu _ => (h M hM u hu).1⟩
  · rwa [hfrozen]
  · rwa [hcached]

lemma freezeEntry_eq (slot : Nat) (e : Entry) (m : Memory σ) :
    freezeEntry slot e m =
      (e.withValue (((m.frozen.getD slot .empty).get? e.key).getD e.value),
        { m with frozen := m.frozen.put slot ((m.frozen.getD slot .empty).putNew e.key e.value) }) := by
  rw [freezeEntry]
  simp only [Ledger.getD, Ledger.get?_putNew]
  cases ((m.frozen.get? slot).getD .empty).get? e.key <;> rfl

lemma repeats_freeze (hM : Aside M) (slot : Nat) (e : Entry) :
    Repeats (course M terms) ((freeze slot).run e) := by
  refine Repeats.bind (Repeats.lift fun m hm => ?_) fun _ => Repeats.pure _
  change M (freezeEntry slot e m).2 ∧ Later terms m (freezeEntry slot e m).2 ∧
    ∀ u, M u → Later terms (freezeEntry slot e m).2 u →
      (freezeEntry slot e u).1 = (freezeEntry slot e m).1
  rw [freezeEntry_eq]
  refine ⟨hM.frozen m _ hm, ⟨fun other key value hv => ?_, fun _ _ _ ho => ho⟩, fun u _ hlater => ?_⟩
  · rw [Ledger.getD_put]
    split
    · rename_i hslot
      rw [Ledger.get?_putNew, ← hslot, hv, Option.some_or]
    · exact hv
  · have hvalue := hlater.frozen slot e.key (((m.frozen.getD slot .empty).get? e.key).getD e.value) (by
      rw [Ledger.getD_put, if_pos rfl, Ledger.get?_putNew, if_pos rfl]
      cases (m.frozen.getD slot .empty).get? e.key <;> rfl)
    rw [freezeEntry_eq, hvalue]
    rfl

lemma cacheEntry_step (q : Terms) (slot : Nat) (e : Entry) (m : Memory σ) :
    ∃ answer cached, cacheEntry slot q.timeout q.maxSize q.now e m = (answer, { m with cached }) ∧
      q.Step (m.cached.getD slot .empty) e answer (cached.getD slot .empty) ∧
      ∀ other, other ≠ slot → cached.getD other .empty = m.cached.getD other .empty := by
  let held := m.cached.getD slot .empty
  have hput := Ledger.getD_put m.cached slot
  let stored := m.cached.put slot (held.put e.key (q.now + q.timeout, e))
  have hstored : stored.getD slot .empty = held.put e.key (q.now + q.timeout, e) := by
    rw [Ledger.getD_put, if_pos rfl]
  have hothers : ∀ other, other ≠ slot → stored.getD other .empty = m.cached.getD other .empty :=
    fun other hne => by rw [Ledger.getD_put, if_neg hne]
  -- A key that is held is answered or renewed, by its time; another is stored or passed, by the
  -- room.
  cases hget : held.get? e.key with
  | some found =>
    obtain ⟨expiry, kept⟩ := found
    by_cases hnow : q.now < expiry
    · refine ⟨kept, m.cached, ?_, .kept hget hnow, fun _ _ => rfl⟩
      simp only [cacheEntry, show (m.cached.getD slot .empty).get? e.key = _ from hget, if_pos hnow]
    · refine ⟨e, stored, ?_, hstored ▸ .renewed hget hnow, hothers⟩
      simp only [cacheEntry, show (m.cached.getD slot .empty).get? e.key = _ from hget, if_neg hnow]
      rfl
  | none =>
    cases hroom : hasRoom q.maxSize held.size with
    | true =>
      refine ⟨e, stored, ?_, hstored ▸ .stored hget hroom, hothers⟩
      simp only [cacheEntry, show (m.cached.getD slot .empty).get? e.key = _ from hget,
        show hasRoom q.maxSize (m.cached.getD slot .empty).size = _ from hroom, if_true]
      rfl
    | false =>
      refine ⟨e, m.cached, ?_, .passed hget hroom, fun _ _ => rfl⟩
      simp only [cacheEntry, show (m.cached.getD slot .empty).get? e.key = _ from hget,
        show hasRoom q.maxSize (m.cached.getD slot .empty).size = _ from hroom]
      rfl

lemma repeats_cacheEntry (hM : Aside M) (slot : Nat) (e : Entry) :
    Repeats (course M terms) (ExceptT.lift
      (cacheEntry slot (terms slot).timeout (terms slot).maxSize (terms slot).now e)) := by
  refine Repeats.lift fun m hm => ?_
  obtain ⟨answer, cached, hrun, hstep, hothers⟩ := cacheEntry_step (terms slot) slot e m
  rw [show StateT.run (cacheEntry slot _ _ _ e) m = _ from hrun]
  refine ⟨hM.cached m cached hm, ⟨fun _ _ _ hv => hv, fun other key o ho => ?_⟩, fun u _ hlater => ?_⟩
  · by_cases hslot : other = slot
    · subst hslot
      exact hstep.keeps ho
    · rw [hothers other hslot]
      exact ho
  · obtain ⟨o, ho, hanswer⟩ := hstep.settles
    obtain ⟨answer', _, hrun', hstep', _⟩ := cacheEntry_step (terms slot) slot e u
    rw [show StateT.run (cacheEntry slot _ _ _ e) u = _ from hrun']
    exact (hstep'.answer_eq (hlater.cached slot e.key o ho)).trans hanswer.symm

lemma Even.repeats (hM : P.Within M) (haside : Aside M) {s : Stock σ} (h : s.Even P terms)
    (e : Entry) : Repeats (course M terms) (s.run e) := by
  cases s with
  | hide p =>
    exact repeats_of_yields hM fun M' _ => (settled_hide p 0).run e ⟨"", .empty, true⟩
  | mask p mask =>
    exact repeats_of_yields hM fun M' _ => (settled_mask p mask 0).run e ⟨"", .empty, true⟩
  | rename p cutoff target =>
    exact repeats_of_yields hM fun M' _ => (settled_rename p cutoff target 0).run e ⟨"", .empty, true⟩
  | freeze slot => exact repeats_freeze haside slot e
  | cache slot p timeout maxSize clock =>
    obtain ⟨rfl, rfl, hclock⟩ := h
    rw [Stock.run]
    split
    · refine (repeats_of_yields hM fun M' hM' => Yields.note hM' hclock).bind_of
        (Q := (· = (terms slot).now))
        (fun m hm now hanswer => Except.ok.inj (hanswer.symm.trans (Yields.note hM hclock m hm).1)) ?_
      rintro _ rfl
      exact (repeats_cacheEntry haside slot e).bind fun _ => Repeats.pure _
    · exact Repeats.pure _
  | secure p roles assigned refusal =>
    obtain ⟨hraise, held, hheld⟩ := h
    exact repeats_of_yields hM fun M' hM' =>
      (settled_secure hM' p roles hraise hheld 0).run e ⟨"", .empty, true⟩

end Filter.Stock

namespace Filter

open Memory

variable {P : Circumstance σ} {M : Memory σ → Prop} {terms : Nat → Terms} {filters : List (Filter σ)}

lemma repeats_report (hM : P.Within M) (severity : Severity) (name : String)
    (source key : Option String) (more : List (String × Data)) :
    Repeats (course M terms) (report severity name source key more : Act σ Unit) :=
  Stock.repeats_of_yields hM fun _ hM' =>
    Yields.lift (f := Pure.pure) (ensures_report hM' severity name source key more)
      fun _ _ => Yields.pure ()

variable (hM : P.Within M) (h : ∀ f ∈ filters, ∀ e context, Repeats (course M terms) (f.run e context))

include h in
lemma runAll_repeats (context : FilterContext) (e : Entry) :
    Repeats (course M terms) (runAll context e filters) := by
  induction filters generalizing e with
  | nil => exact Repeats.pure _
  | cons f filters ih =>
    rw [runAll]
    refine (h f (by simp) e context).bind fun found => ?_
    cases found with
    | none => exact Repeats.pure _
    | some next => exact ih (fun f hf => h f (by simp [hf])) next

include hM h in
lemma apply_repeats (e : Entry) (context : FilterContext) :
    Repeats (course M terms) (apply filters e context) := by
  rw [apply]
  refine (runAll_repeats h context e).bind fun found => ?_
  cases found with
  | ok filtered => exact Repeats.pure _
  | error name => exact (repeats_report hM _ _ _ _ _).bind fun _ => Repeats.pure _

include hM in
lemma settle_repeats (result : Ledger String Entry) (renamed : List (String × Entry)) :
    Repeats (course M terms) (settle result renamed) :=
  Stock.repeats_of_yields hM fun _ hM' => settle_yields hM' result renamed

include hM h in
lemma applyAll_repeats (entries : Ledger String Entry) :
    Repeats (course M terms) (applyAll (Pure.pure filters) entries) := by
  change Repeats _ (if filters.isEmpty then _ else _)
  split
  · exact Repeats.pure _
  · refine Repeats.bind (Repeats.foldlM (fun sorted p => ?_) _ _) fun sorted =>
      settle_repeats hM sorted.kept _
    change Repeats _ (apply filters p.2 _ >>= fun filtered => Pure.pure (sorted.file p.1 filtered))
    exact (apply_repeats hM h p.2 _).bind fun _ => Repeats.pure _

end Filter

/-! ### Merging leaves the memory of filters alone -/

def Untouched (x : Recall σ α) : Prop :=
  ∀ m, (x.run m).2.frozen = m.frozen ∧ (x.run m).2.cached = m.cached

namespace Untouched

lemma pure (a : α) : Untouched (pure a : Recall σ α) := fun _ => ⟨rfl, rfl⟩

lemma bind {x : Recall σ α} {f : α → Recall σ β} (hx : Untouched x) (hf : ∀ a, Untouched (f a)) :
    Untouched (x >>= f) := fun m =>
  ⟨(hf _ _).1.trans (hx m).1, (hf _ _).2.trans (hx m).2⟩

lemma note (x : Note σ α) : Untouched (Note.recall x) := fun _ => ⟨rfl, rfl⟩

lemma call (x : Call σ α) : Untouched (liftM x : Act σ α).run := note x.run

lemma reports (severity : Severity) (name : String) (source key : Option String)
    (more : List (String × Data)) :
    Untouched (report severity name source key more : Recall σ Unit) :=
  note _

lemma act_bind {x : Act σ α} {f : α → Act σ β} (hx : Untouched x.run)
    (hf : ∀ a, Untouched (f a).run) : Untouched (x >>= f).run := by
  change Untouched (x.run >>= ExceptT.bindCont f)
  refine hx.bind fun r => ?_
  cases r with
  | ok a => exact hf a
  | error failure => exact pure _

lemma act_lift {x : Recall σ α} (hx : Untouched x) : Untouched (ExceptT.lift x : Act σ α).run :=
  hx.bind fun _ => pure _

lemma foldlM {f : β → α → Act σ β} (h : ∀ b a, Untouched (f b a).run) (xs : List α) (b : β) :
    Untouched (xs.foldlM f b).run := by
  induction xs generalizing b with
  | nil => exact pure _
  | cons a xs ih =>
    rw [List.foldlM_cons]
    exact act_bind (h b a) ih

end Untouched

section Merging

open Untouched

lemma Resolver.custom_untouched (r : Resolver σ) (name : String) : Untouched (r.custom name).run := by
  rw [Resolver.custom]
  cases r.factories.get? name with
  | none => exact pure _
  | some f =>
    refine act_bind (act_lift fun m => ⟨rfl, rfl⟩) fun serial? => ?_
    cases serial? with
    | some serial => exact pure _
    | none =>
      refine act_bind (act_lift (note _)) fun built => ?_
      cases built with
      | error cause => exact pure _
      | ok serial => exact act_bind (act_lift fun m => ⟨rfl, rfl⟩) fun _ => pure _

lemma Resolver.resolve_untouched (r : Resolver σ) (key : String) (metadata : Ledger String String) :
    Untouched (r.resolve key metadata) := by
  rw [Resolver.resolve]
  split
  · exact pure _
  · cases metadata.get? MetaKeys.combinationPolicy with
    | none => exact pure _
    | some text =>
      simp only
      split
      · exact pure _
      · split
        · exact (reports _ _ _ _ _).bind fun _ => pure _
        · refine (r.custom_untouched _).bind fun chosen => ?_
          cases chosen with
          | error failure => exact (reports _ _ _ _ _).bind fun _ => pure _
          | ok choice => exact (reports _ _ _ _ _).bind fun _ => pure _

lemma Merge.mergeKey_untouched (e : Merge σ) (key : String) (snapshots : List Snapshot)
    (metadata : Ledger String String) : Untouched (e.mergeKey key snapshots metadata).run := by
  rw [mergeKey]
  split
  · exact pure _
  · refine act_bind (act_lift (e.resolver.resolve_untouched key metadata)) fun choice => ?_
    exact act_bind (note _) fun running => pure _

lemma Merge.resolveAll_untouched (e : Merge σ) (sources : List (Source σ)) :
    Untouched (e.resolveAll sources).run := by
  have hkeys (snapshots : List Snapshot) (grouped : MetaKeys.Grouped) (keys : List String) :
      Untouched (e.mergeKeys snapshots grouped keys).run := by
    refine foldlM (fun merged key => ?_) _ _
    refine act_bind (e.mergeKey_untouched key snapshots (grouped.at key)) fun found => ?_
    cases found <;> exact pure _
  exact act_bind (call (fetch e.metaKeys (Source.inOrder sources))) fun _ => act_bind (hkeys _ _ _) fun _ =>
    act_bind (act_lift (reports _ _ _ _ _)) fun _ => pure _

end Merging

namespace Context

open Memory

variable {P : Circumstance σ}

lemma aside_memory {r : Resolver σ} (g : r.Regular P) : Aside g.memory where
  frozen _ _ h := h
  cached _ _ h := h

lemma resolveAll_repeats {r : Resolver σ} (g : r.Regular P) {m : MetaKeys} {sources : List (Source σ)}
    (v : Steady P sources) {merged : Ledger String Entry} (h : v.bulk g m = .ok merged)
    (terms : Nat → Terms) :
    Repeats (course g.memory terms) ((⟨r, m⟩ : Merge σ).resolveAll sources) := by
  have hyields := v.resolveAll_yields g m
  rw [h] at hyields
  intro start hstart
  -- The answer is the same from every state, and what filters remember is not touched.
  obtain ⟨hanswer, hend⟩ := hyields start hstart
  obtain ⟨hfrozen, hcached⟩ := Merge.resolveAll_untouched ⟨r, m⟩ sources start
  refine ⟨merged, _, Prod.ext hanswer rfl, hend, ⟨fun slot key value hv => ?_, fun slot key o ho => ?_⟩,
    fun u hu _ => (hyields u hu).1⟩
  · rwa [hfrozen]
  · rwa [hcached]

/-- A context whose sources do not change resolves to the same again, whatever its filters
remember: after the first pass all of it is settled. -/
theorem resolve_repeats (c : Context σ) (v : Steady P c.sources) (g : c.resolver.Regular P)
    (terms : Nat → Terms)
    (hfilters : ∀ f ∈ c.filters, ∃ (s : Filter.Stock σ) (id : Nat),
      f = s.toFilter id ∧ s.Even P terms) {m : Memory σ} (hm : g.memory m) :
    (c.resolve.run.run (c.resolve.run.run m).2).1 = (c.resolve.run.run m).1 ∧
      (g.Total → ¬ v.Remains c.resolver.metaKeys (Source.inOrder c.sources) "" →
        ∃ config, (c.resolve.run.run m).1 = .ok config) := by
  have hrepeats : ∀ f ∈ c.filters, ∀ e context,
      Repeats (course g.memory terms) (f.run e context) := by
    intro f hf e context
    obtain ⟨s, id, rfl, heven⟩ := hfilters f hf
    exact heven.repeats g.within (aside_memory g) e
  cases hbulk : v.bulk g c.resolver.metaKeys with
  | ok merged =>
    have hresolve : Repeats (course g.memory terms) c.resolve :=
      (resolveAll_repeats g v hbulk terms).bind fun merged =>
        (Filter.applyAll_repeats g.within hrepeats merged).bind fun _ => Repeats.pure _
    obtain ⟨config, m', hrun, hm', -, hagain⟩ := hresolve m hm
    rw [hrun]
    exact ⟨hagain m' hm' ((course g.memory terms).refl m'), fun _ _ => ⟨config, rfl⟩⟩
  -- The merge fails before the filters are reached, and the second time for the same reason.
  | error failure =>
    have hyields := v.resolveAll_yields g c.resolver.metaKeys
    rw [hbulk] at hyields
    have hresolve : Yields g.memory c.resolve (.error failure) :=
      hyields.bind (g := fun _ => .error failure) fun _ h => by cases h
    refine ⟨?_, fun htotal hempty => ?_⟩
    · rw [(hresolve m hm).1, (hresolve _ (hresolve m hm).2).1]
    · obtain ⟨merged, hmerged⟩ := v.exists_bulk g htotal hempty
      rw [hbulk] at hmerged
      cases hmerged

def wornEntries : Ledger String Entry :=
  ⟨[("x.depth", ⟨"x.depth", some "1", "low", .empty, by decide⟩),
    ("depth", ⟨"depth", some "2", "low", .empty, by decide⟩),
    ("width", ⟨"width", some "3", "low", .empty, by decide⟩)], by decide⟩

def worn : Context Unit where
  sources := [.ofEntries 0 "low" 0 true wornEntries]
  filters := [(Filter.Stock.rename none (some "x.") none).toFilter 0,
    (Filter.Stock.freeze 0).toFilter 1, (Filter.Stock.cache 0 none 0 1 (pure 5)).toFilter 2,
    (Filter.Stock.freeze 0).toFilter 1,
    (Filter.Stock.secure none ["admin"] (pure (some ["guest"])) .warn).toFilter 3]
  converters := .empty
  resolver := ⟨0, .empty, .standard⟩

def wornMemory : Memory Unit :=
  { Memory.initial .debug () with
    cached := Ledger.ofList [(0, Ledger.ofList [("width", (4, ⟨"width", some "0", "old", .empty, by decide⟩))])] }

theorem worn_resolve_repeats :
    (∀ f ∈ worn.filters, ∃ (s : Filter.Stock Unit) (id : Nat),
      f = s.toFilter id ∧ s.Even Circumstance.always fun _ => ⟨0, 1, 5⟩) ∧
    ∃ config, (worn.resolve.run.run wornMemory).1 = .ok config ∧
      (worn.resolve.run.run (worn.resolve.run.run wornMemory).2).1 = .ok config := by
  have hfilters : ∀ f ∈ worn.filters, ∃ (s : Filter.Stock Unit) (id : Nat),
      f = s.toFilter id ∧ s.Even Circumstance.always fun _ => ⟨0, 1, 5⟩ := by
    refine List.forall_mem_cons.2 ⟨⟨_, 0, rfl, trivial⟩, List.forall_mem_cons.2 ⟨⟨_, 1, rfl, trivial⟩,
      List.forall_mem_cons.2 ⟨⟨_, 2, rfl, rfl, rfl, Ensures.pure rfl⟩,
        List.forall_mem_cons.2 ⟨⟨_, 1, rfl, trivial⟩, List.forall_mem_singleton.2 ?_⟩⟩⟩⟩
    exact ⟨_, 3, rfl, by decide, _, Ensures.pure rfl⟩
  have hunchanging : ∀ s ∈ worn.sources, ∃ held listed, s.Unchanging Circumstance.always held listed :=
    List.forall_mem_singleton.2 ⟨_, _, Source.unchanging_ofEntries 0 "low" 0 true (by decide)⟩
  obtain ⟨v, hempty⟩ := Steady.exists_of_unchanging hunchanging
  obtain ⟨hagain, hok⟩ := worn.resolve_repeats v (Resolver.Regular.builtIn Circumstance.always 0 .standard) _
    hfilters ((Resolver.Regular.builtIn_memory 0 wornMemory).2 trivial)
  obtain ⟨config, hconfig⟩ := hok (Resolver.Regular.builtIn_total 0)
    (v.not_remains_empty .standard hempty _)
  exact ⟨hfilters, config, hconfig, hagain.trans hconfig⟩

end Context

end LayeredConfig
