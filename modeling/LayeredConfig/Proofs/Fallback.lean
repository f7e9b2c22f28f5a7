import LayeredConfig.Proofs.Courses
import LayeredConfig.Proofs.Instances

/-! Passes that go on without a policy. When the policy of a key cannot be had, the key falls back to
the override policy and the journal says so. What another key comes to depends on its own policy and
on what the sources hold, so it makes no difference to it. -/

namespace LayeredConfig

variable {σ α : Type}

def logging (σ : Type) : Course (World σ) where
  holds _ := True
  later w w' := w.journal.Extends w'.journal
  refl w := .refl w.journal
  trans := .trans

lemma logging_report (allowed : Prop) (severity : Severity) (name : String) (source key : Option String)
    (more : List (String × Data)) :
    (logging σ).Runs allowed (report severity name source key more : Call σ Unit) := fun w =>
  Course.Leads.lift fun _ => ⟨trivial, Journal.extends_record w.journal _ _ _, trivial⟩

lemma run_liftM {x : Call σ α} {m : Memory σ} {r : Except Failure α} {w : World σ}
    (h : x.run.run m.world = (r, w)) :
    (liftM x : Act σ α).run.run m = (r, { m with world := w }) := by
  change ((x.run.run m.world).1, { m with world := (x.run.run m.world).2 }) = _
  rw [h]

structure Source.Sound (s : Source σ) : Prop where
  get : ∀ key, (logging σ).Runs False (s.get key)
  properties : (logging σ).Runs False s.properties

namespace Merge

variable {sources : List (Source σ)}

lemma fetchKeys_sound {s : Source σ} (h : s.Sound) (wanted : List String) :
    (logging σ).Runs False (fetchKeys s wanted) := by
  refine Course.Runs.foldlM (fun found key _ => (h.get key).bind fun entry => ?_) _
  cases entry <;> exact Course.Runs.pure _

lemma ask_sound (h : ∀ s ∈ sources, s.Sound) (wanted : List String) :
    (logging σ).Runs False (ask wanted sources) := by
  have hasked : ∀ s ∈ sources, (logging σ).Runs False (do
      return (⟨s.name, s.ordinal, ← fetchKeys s wanted⟩ : Snapshot)) := fun s hs =>
    (fetchKeys_sound (h s hs) wanted).bind fun _ => Course.Runs.pure _
  intro w
  exact (Course.Leads.mapM (S := fun _ => True) hasked).mono (fun _ _ _ _ => trivial) fun _ _ _ hf => hf

lemma scan_leads (h : ∀ s ∈ sources, s.Sound) (w : World σ) :
    (logging σ).Leads w (scan sources) (fun scanned _ => ∀ p ∈ scanned, p.1.Sound)
      fun _ _ => False := by
  refine Course.Leads.mapM fun s hs w => ?_
  split
  · refine ((h s hs).properties w).bind fun entries w' _ _ => ?_
    refine (logging_report _ _ _ _ _ _ w').bind fun _ w'' _ _ => ?_
    exact Course.Leads.pure (h s hs)
  · exact Course.Leads.pure (h s hs)

lemma supply_sound {p : Source σ × Option (Ledger String Entry)} (h : p.1.Sound)
    (wanted : List String) : (logging σ).Runs False (supply wanted p) := by
  rw [supply]
  cases p.2 with
  | some entries => exact Course.Runs.pure _
  | none =>
    refine (fetchKeys_sound h wanted).bind fun entries => ?_
    exact (logging_report _ _ _ _ _ _).bind fun _ => Course.Runs.pure _

lemma fetch_sound (m : MetaKeys) (h : ∀ s ∈ sources, s.Sound) :
    (logging σ).Runs False (fetch m sources) := by
  intro w
  refine (scan_leads h w).bind fun scanned w' _ hscanned => ?_
  have hquery := Course.Leads.mapM (C := logging σ) (t := w') (S := fun _ => True) fun p hp =>
    supply_sound (hscanned p hp) (lookups m (found scanned))
  exact hquery.bind fun _ w'' _ _ => Course.Leads.pure trivial

end Merge

namespace Policy

def Logs (allowed : Prop) (p : Policy σ) : Prop :=
  ∀ current key (s : Snapshot) metadata,
    (logging σ).Runs allowed (p.combine current key s.toSource metadata)

lemma logs_override (allowed : Prop) : (Policy.override : Policy σ).Logs allowed := by
  intro current key s metadata
  exact (Course.Runs.pure (s.entries.get? key)).bind fun _ => Course.Runs.pure _

lemma logs_collect (allowed : Prop) : (Policy.collect : Policy σ).Logs allowed := by
  intro current key s metadata
  refine (Course.Runs.pure (s.entries.get? key)).bind fun entry => ?_
  cases entry.bind (·.value) <;> cases current <;> exact Course.Runs.pure _

/-- What the policy can make of the holders of a key, one after the other. It may take each of its
steps in another world. -/
inductive Combines (p : Policy σ) (key : String) (metadata : Ledger String String) :
    Merge.Running → List (Snapshot × Entry) → Except Failure Merge.Running → Prop
  | done {running : Merge.Running} : Combines p key metadata running [] (.ok running)
  | next {running : Merge.Running} {s : Snapshot} {e : Entry} {rest : List (Snapshot × Entry)}
    {value : Option String} {result : Except Failure Merge.Running} {w w' : World σ} :
    (p.combine running.value key s.toSource metadata).run.run w = (.ok value, w') →
    Combines p key metadata
      ⟨value, if e.value.isSome then some (s.name, e) else running.contributor⟩ rest result →
    Combines p key metadata running ((s, e) :: rest) result
  | failed {running : Merge.Running} {s : Snapshot} {e : Entry} {rest : List (Snapshot × Entry)}
    {failure : Failure} {w w' : World σ} :
    (p.combine running.value key s.toSource metadata).run.run w = (.error failure, w') →
    Combines p key metadata running ((s, e) :: rest) (.error failure)

lemma combineAll_leads {p : Policy σ} (hp : p.Logs True) (key : String)
    (metadata : Ledger String String) (running : Merge.Running) (holders : List (Snapshot × Entry))
    (w : World σ) :
    (logging σ).Leads w (Merge.combineAll p key metadata running holders)
      (fun answer _ => p.Combines key metadata running holders (.ok answer))
      fun failure _ => p.Combines key metadata running holders (.error failure) := by
  induction holders generalizing running w with
  | nil => exact Course.Leads.pure .done
  | cons holder holders ih =>
    obtain ⟨s, e⟩ := holder
    have hstep := ((hp running.value key s metadata).leads w).weaken
      (F := fun failure _ => p.Combines key metadata running ((s, e) :: holders) (.error failure))
      fun failure w' _ hfailed => .failed hfailed.1
    refine hstep.bind fun value w' _ hvalue => ?_
    exact (ih _ w').mono (fun answer _ _ hrest => .next hvalue hrest)
      fun failure _ _ hrest => .next hvalue hrest

lemma Combines.ok_of_logs {p : Policy σ} (hp : p.Logs False) {key : String}
    {metadata : Ledger String String} {running : Merge.Running} {holders : List (Snapshot × Entry)}
    {result : Except Failure Merge.Running} (h : p.Combines key metadata running holders result) :
    ∃ answer, result = .ok answer := by
  induction h with
  | done => exact ⟨_, rfl⟩
  | next _ _ ih => exact ih
  | @failed running s e rest failure w w' hfailed =>
    obtain ⟨a, _, hok, -⟩ := (hp running.value key s metadata).exists_ok (t := w) trivial
    cases hfailed.symm.trans hok

lemma Combines.eq_of_obeys {p : Policy σ} {φ : Rule} (hp : p.Obeys (fun _ _ => True) φ) {key : String}
    {metadata : Ledger String String} {running : Merge.Running} {holders : List (Snapshot × Entry)}
    {result : Except Failure Merge.Running} (h : p.Combines key metadata running holders result)
    (hholders : ∀ x ∈ holders, x.1.entries.get? key = some x.2) :
    result = (holders.map fun x => (x.1.name, x.2)).foldlM (φ.advance key metadata.get?) running := by
  -- A policy sees a snapshot that holds the entry, whatever the world is when it is applied.
  have hstep {s : Snapshot} {e : Entry} (hs : s.entries.get? key = some e) (current : Option String)
      (w : World σ) : ((p.combine current key s.toSource metadata).run.run w).1 =
        φ key current (some e) metadata.get? := by
    have hget : Yields (Circumstance.world fun _ _ => True) ((s.toSource : Source σ).get key)
        (.ok (some e)) := by
      rw [← hs]
      exact Yields.pure _
    exact (hp current key _ _ metadata hget w trivial).1
  induction h with
  | done => rfl
  | @next running s e rest value result w w' hvalue _ ih =>
    have hrule := hstep (hholders (s, e) (by simp)) running.value w
    rw [hvalue] at hrule
    rw [List.map_cons, List.foldlM_cons, Rule.advance, ← hrule, ih fun x hx => hholders x (by simp [hx])]
    rfl
  | @failed running s e rest failure w w' hfailed =>
    have hrule := hstep (hholders (s, e) (by simp)) running.value w
    rw [hfailed] at hrule
    rw [List.map_cons, List.foldlM_cons, Rule.advance, ← hrule]
    rfl

end Policy

namespace Resolver

structure Logs (r : Resolver σ) : Prop where
  build : ∀ f ∈ r.factories.values, (logging σ).Runs True f.build
  combine : ∀ f ∈ r.factories.values, ∀ serial, (f.policy serial).Logs True

def Makes (r : Resolver σ) (factory serial : Nat) : Prop :=
  ∃ f ∈ r.factories.values, f.id = factory ∧ ∃ w w', f.build.run.run w = (.ok serial, w')

def passing (r : Resolver σ) : Course (Memory σ) where
  holds _ := True
  later m m' := m.world.journal.Extends m'.world.journal ∧ ∀ factory serial,
    r.instance? m' factory = some serial → r.instance? m factory = some serial ∨ r.Makes factory serial
  refl _ := ⟨.refl _, fun _ _ h => .inl h⟩
  trans h h' := ⟨h.1.trans h'.1, fun factory serial hserial =>
    (h'.2 factory serial hserial).elim (h.2 factory serial) .inr⟩

lemma passing_lift (r : Resolver σ) {m : Memory σ} {x : Call σ α} {Q : α → World σ → Prop}
    {E : Failure → World σ → Prop} (h : (logging σ).Leads m.world x Q E) :
    r.passing.Leads m (liftM x : Act σ α) (fun a m' => Q a m'.world)
      fun failure m' => E failure m'.world := by
  intro _
  obtain ⟨-, hextends, hanswer⟩ := h trivial
  refine ⟨trivial, ⟨hextends, fun _ _ h => .inl h⟩, ?_⟩
  change Course.Ends _ _ (x.run.run m.world).1 { m with world := (x.run.run m.world).2 }
  generalize (x.run.run m.world).1 = answer at hanswer ⊢
  cases answer <;> exact hanswer

inductive Lacks (r : Resolver σ) (name : String) : Failure → Prop
  | unknown : r.factories.get? name = none → Lacks r name (.unknownPolicy name)
  | unbuilt {f : Factory σ} {cause : Failure} {w w' : World σ} : r.factories.get? name = some f →
    f.build.run.run w = (.error cause, w') → Lacks r name (.policyNotBuilt name cause.message)

/-- Since `base` the journal has got an error about the policy of the key, unless it takes no errors. -/
def Reports (base m : Memory σ) (key name : String) (failure : Failure) : Prop :=
  base.world.journal.threshold.rank ≤ Severity.error.rank →
    ∃ before details after, m.world.journal.events =
        before ++ ⟨.error, "policy_instantiation_failed", details⟩ :: after ∧
      base.world.journal.events <+: before ∧ details.get? "key" = some (.text key) ∧
      details.get? "policy" = some (.text name) ∧ details.get? "error" = some (.text failure.message)

inductive Decides (r : Resolver σ) (base m : Memory σ) (key : String)
    (metadata : Ledger String String) : Choice σ → Prop
  | plain : r.customName? key metadata = none → Decides r base m key metadata (r.plain key metadata)
  | custom {name : String} {f : Factory σ} {serial : Nat} :
    r.customName? key metadata = some name → r.factories.get? name = some f →
    r.instance? base f.id = some serial ∨ r.Makes f.id serial →
    Decides r base m key metadata (.custom f serial)
  | fallback {name : String} {failure : Failure} : r.customName? key metadata = some name →
    r.Lacks name failure → Reports base m key name failure → Decides r base m key metadata .override

variable {r : Resolver σ} {base m m' : Memory σ} {key name : String} {failure : Failure}
  {metadata : Ledger String String} {choice : Choice σ}

lemma reports_failed (hbase : base.world.journal.Extends m.world.journal) :
    Reports base (failed key name failure m) key name failure := by
  intro hthreshold
  have habove : ¬ Severity.error.rank < m.world.journal.threshold.rank := by
    rw [hbase.threshold]
    omega
  have hevents : (failed key name failure m).world.journal.events = m.world.journal.events ++
      [⟨.error, "policy_instantiation_failed",
        (Ledger.ofList [("trace_id", Journal.optional m.world.journal.trace)]).union
          (Journal.about none (some key) [("policy", .text name), ("error", .text failure.message)])⟩] := by
    rw [failed, Memory.noted, Journal.record, if_neg habove]
  exact ⟨_, _, [], hevents, hbase.events, rfl, rfl, rfl⟩

lemma Reports.later (h : Reports base m key name failure)
    (hlater : m.world.journal.Extends m'.world.journal) : Reports base m' key name failure := by
  intro hthreshold
  obtain ⟨before, details, after, hevents, hbase, hdetails⟩ := h hthreshold
  obtain ⟨more, hmore⟩ := hlater.events
  refine ⟨before, details, after ++ more, ?_, hbase, hdetails⟩
  rw [← hmore, hevents, List.append_assoc, List.cons_append]

lemma Decides.later (h : r.Decides base m key metadata choice)
    (hlater : m.world.journal.Extends m'.world.journal) : r.Decides base m' key metadata choice := by
  cases h with
  | plain hname => exact .plain hname
  | custom hname hf hserial => exact .custom hname hf hserial
  | fallback hname hlacks hreports => exact .fallback hname hlacks (hreports.later hlater)

lemma Decides.logs {allowed : Prop} (h : r.Decides base m key metadata choice)
    (hr : ∀ f ∈ r.factories.values, ∀ serial, (f.policy serial).Logs allowed) :
    choice.policy.Logs allowed := by
  cases h with
  | plain hname =>
    obtain hplain | hplain := plain_cases (r := r) key metadata
    · exact hplain ▸ Policy.logs_override allowed
    · exact hplain ▸ Policy.logs_collect allowed
  | custom hname hf hserial => exact hr _ (Ledger.mem_values_of_get? hf) _
  | fallback hname hlacks hreports => exact Policy.logs_override allowed

lemma custom_leads (hr : r.Logs) (hbase : r.passing.later base m) (name : String) :
    r.passing.Leads m (r.custom name)
      (fun choice _ => ∃ f serial, r.factories.get? name = some f ∧ choice = .custom f serial ∧
        (r.instance? base f.id = some serial ∨ r.Makes f.id serial))
      fun failure _ => r.Lacks name failure := by
  intro _
  cases hf : r.factories.get? name with
  | none =>
    rw [custom_unknown hf]
    exact ⟨trivial, r.passing.refl m, .unknown hf⟩
  | some f =>
    have hmem : f ∈ r.factories.values := Ledger.mem_values_of_get? hf
    cases hserial : r.instance? m f.id with
    | some serial =>
      rw [custom_shared hf hserial]
      exact ⟨trivial, r.passing.refl m, f, serial, rfl, rfl, hbase.2 f.id serial hserial⟩
    | none =>
      obtain ⟨-, hextends, -⟩ := hr.build f hmem m.world trivial
      rw [custom_new hf hserial]
      cases hbuild : f.build.run.run m.world with
      | mk result w =>
        rw [hbuild] at hextends
        cases result with
        | error cause => exact ⟨trivial, ⟨hextends, fun _ _ h => .inl h⟩, .unbuilt hf hbuild⟩
        -- What joins the memory was made by the factory just now, in the world of this memory.
        | ok serial =>
          have hmakes : r.Makes f.id serial := ⟨f, hmem, rfl, m.world, w, hbuild⟩
          refine ⟨trivial, ⟨hextends, fun factory other h => ?_⟩, f, serial, rfl, rfl, .inr hmakes⟩
          rw [instance?_remembered] at h
          split at h
          · rename_i hid
            cases h
            exact .inr (hid ▸ hmakes)
          · exact .inl h

lemma resolve_leads (hr : r.Logs) (hbase : r.passing.later base m) (key : String)
    (metadata : Ledger String String) :
    r.passing.Leads m (ExceptT.lift (r.resolve key metadata))
      (fun choice m' => r.Decides base m' key metadata choice) fun _ _ => False := by
  refine Course.Leads.lift fun _ => ⟨trivial, ?_⟩
  change r.passing.later m (r.resolve key metadata m).2 ∧
    r.Decides base (r.resolve key metadata m).2 key metadata (r.resolve key metadata m).1
  cases hname : r.customName? key metadata with
  | none =>
    obtain ⟨journal, hextends, hplain⟩ := resolve_plain hname m
    rw [hplain]
    exact ⟨⟨hextends, fun _ _ h => .inl h⟩, .plain hname⟩
  | some name =>
    obtain ⟨-, hlater, hanswer⟩ := custom_leads hr hbase name trivial
    rw [resolve_custom hname]
    cases hcustom : (r.custom name).run.run m with
    | mk result m' =>
      rw [hcustom] at hlater hanswer
      -- The report that follows is no more than one event in the journal.
      cases result with
      | ok choice =>
        obtain ⟨f, serial, hf, rfl, hserial⟩ := hanswer
        exact ⟨⟨hlater.1.trans (Journal.extends_record _ _ _ _), hlater.2⟩, .custom hname hf hserial⟩
      | error failure =>
        exact ⟨⟨hlater.1.trans (Journal.extends_record _ _ _ _), hlater.2⟩,
          .fallback hname hanswer (reports_failed (hbase.1.trans hlater.1))⟩

end Resolver

namespace Merge

open Resolver

/-- What a pass from `base` on makes of a key that the snapshots hold as they do: nothing if none of
them has it, or else what comes of one policy, taken from one snapshot to the next. -/
inductive Merges (e : Merge σ) (base m : Memory σ) (snapshots : List Snapshot) (key : String) :
    Except Failure (Option Entry) → Prop
  | absent : holders key snapshots = [] → Merges e base m snapshots key (.ok none)
  | combined {choice : Choice σ} {running : Running} :
    e.resolver.Decides base m key ((metadata e.metaKeys snapshots).at key) choice →
    choice.policy.Combines key ((metadata e.metaKeys snapshots).at key) ⟨none, none⟩
      (holders key snapshots) (.ok running) →
    Merges e base m snapshots key (running.entry? key ((metadata e.metaKeys snapshots).at key))
  | failed {choice : Choice σ} {failure : Failure} :
    e.resolver.Decides base m key ((metadata e.metaKeys snapshots).at key) choice →
    choice.policy.Combines key ((metadata e.metaKeys snapshots).at key) ⟨none, none⟩
      (holders key snapshots) (.error failure) →
    Merges e base m snapshots key (.error failure)

def MergesAll (e : Merge σ) (base m : Memory σ) (snapshots : List Snapshot) (keys : List String) :
    Except Failure (Ledger String Entry) → Prop
  | .ok merged => (∀ key ∈ keys, e.Merges base m snapshots key (.ok (merged.get? key))) ∧
      ∀ key, key ∉ keys → merged.get? key = none
  | .error failure => ∃ key ∈ keys, e.Merges base m snapshots key (.error failure)

variable {e : Merge σ} {base m m' : Memory σ} {snapshots : List Snapshot} {key : String}

lemma Merges.later {result : Except Failure (Option Entry)} (h : e.Merges base m snapshots key result)
    (hlater : m.world.journal.Extends m'.world.journal) : e.Merges base m' snapshots key result := by
  cases h with
  | absent hnone => exact .absent hnone
  | combined hdecides hcombines => exact .combined (hdecides.later hlater) hcombines
  | failed hdecides hcombines => exact .failed (hdecides.later hlater) hcombines

lemma mergeKey_leads (hr : e.resolver.Logs) (hbase : e.resolver.passing.later base m) (key : String)
    (snapshots : List Snapshot) :
    e.resolver.passing.Leads m
      (e.mergeKey key snapshots ((metadata e.metaKeys snapshots).at key))
      (fun found m' => e.Merges base m' snapshots key (.ok found))
      fun failure m' => e.Merges base m' snapshots key (.error failure) := by
  rw [mergeKey]
  generalize hholders : holders key snapshots = held
  cases held with
  | nil => exact Course.Leads.pure (.absent hholders)
  | cons holder rest =>
    simp only
    have hchoice := (resolve_leads hr hbase key ((metadata e.metaKeys snapshots).at key)).weaken
      (F := fun failure m' => e.Merges base m' snapshots key (.error failure)) fun _ _ _ h => h.elim
    refine hchoice.bind fun choice m₁ _ hdecides => ?_
    rw [← hholders]
    -- What was decided stays decided while the policy runs, since the journal only grows.
    have hcombine := (passing_lift e.resolver (Policy.combineAll_leads (hdecides.logs hr.combine) key
      ((metadata e.metaKeys snapshots).at key) ⟨none, none⟩ (holders key snapshots) m₁.world)).mono
      (S := fun running m' => e.resolver.Decides base m' key _ choice ∧ choice.policy.Combines key _
        ⟨none, none⟩ (holders key snapshots) (.ok running))
      (F := fun failure m' => e.Merges base m' snapshots key (.error failure))
      (fun running _ hlater h => ⟨hdecides.later hlater.1, h⟩)
      fun failure _ hlater h => .failed (hdecides.later hlater.1) h
    refine hcombine.bind fun running m₂ _ h => ?_
    refine Course.Leads.make ?_
    have hcombined := Merges.combined h.1 h.2
    generalize running.entry? key ((metadata e.metaKeys snapshots).at key) = result at hcombined ⊢
    cases result <;> exact hcombined

lemma MergesAll.later {keys : List String} {result : Except Failure (Ledger String Entry)}
    (h : e.MergesAll base m snapshots keys result)
    (hlater : m.world.journal.Extends m'.world.journal) :
    e.MergesAll base m' snapshots keys result := by
  cases result with
  | ok merged => exact ⟨fun key hkey => (h.1 key hkey).later hlater, h.2⟩
  | error failure =>
    obtain ⟨key, hkey, hmerges⟩ := h
    exact ⟨key, hkey, hmerges.later hlater⟩

lemma MergesAll.turn {keys : List String} {merged next : Ledger String Entry} {found : Option Entry}
    (h : e.MergesAll base m snapshots keys (.ok merged))
    (hlater : m.world.journal.Extends m'.world.journal)
    (hkey : e.Merges base m' snapshots key (.ok found))
    (hnext : ∀ k, next.get? k = if k = key then found.or (merged.get? k) else merged.get? k) :
    e.MergesAll base m' snapshots (keys ++ [key]) (.ok next) := by
  refine ⟨fun k hk => ?_, fun k hk => ?_⟩
  · rw [hnext]
    by_cases hsame : k = key
    · subst hsame
      rw [if_pos rfl]
      cases found with
      | some entry => exact hkey
      | none =>
        -- The key may have come up before. What it came to then still stands.
        rw [Option.none_or]
        by_cases hseen : k ∈ keys
        · exact (h.1 k hseen).later hlater
        · rw [h.2 k hseen]
          exact hkey
    · rw [if_neg hsame]
      have hseen : k ∈ keys := by simpa [hsame] using hk
      exact (h.1 k hseen).later hlater
  · rw [List.mem_append, List.mem_singleton, not_or] at hk
    rw [hnext, if_neg hk.2, h.2 k hk.1]

lemma mergeKeys_leads (hr : e.resolver.Logs) (hbase : e.resolver.passing.later base m)
    (snapshots : List Snapshot) (keys : List String) :
    e.resolver.passing.Leads m (e.mergeKeys snapshots (metadata e.metaKeys snapshots) keys)
      (fun merged m' => e.MergesAll base m' snapshots keys (.ok merged))
      fun failure m' => e.MergesAll base m' snapshots keys (.error failure) := by
  have hstart : e.MergesAll base m snapshots [] (.ok .empty) :=
    ⟨fun _ hkey => (nomatch hkey), fun key _ => Ledger.get?_empty key⟩
  refine (Course.Leads.foldlM (l := []) (R := fun seen merged m' =>
    e.resolver.passing.later base m' ∧ e.MergesAll base m' snapshots seen (.ok merged))
    (fun seen merged key hkey m₁ hseen => ?_) ⟨hbase, hstart⟩).mono
    (fun merged m' _ h => h.2) fun _ _ _ h => h
  have hone := (mergeKey_leads hr hseen.1 key snapshots).weaken
    (F := fun failure m' => e.MergesAll base m' snapshots keys (.error failure))
    fun failure m' _ h => ⟨key, hkey, h⟩
  refine hone.bind fun found m₂ hlater hfound => ?_
  have hbase₂ := e.resolver.passing.trans hseen.1 hlater
  cases found with
  | none =>
    refine Course.Leads.pure ⟨hbase₂, hseen.2.turn hlater.1 hfound fun k => ?_⟩
    rw [Option.none_or, ite_self]
  | some entry =>
    refine Course.Leads.pure ⟨hbase₂, hseen.2.turn hlater.1 hfound fun k => ?_⟩
    rw [Ledger.get?_put, Option.some_or]

lemma mergeAll_leads (hr : e.resolver.Logs) (hbase : e.resolver.passing.later base m)
    (snapshots : List Snapshot) (keys : List String) (sources : List (Source σ)) :
    e.resolver.passing.Leads m (do
      let merged ← e.mergeKeys snapshots (metadata e.metaKeys snapshots) keys
      report .debug "merge_complete" none none
        [("sources", .integer sources.length), ("keys", .integer merged.size)]
      return merged)
      (fun merged m' => e.MergesAll base m' snapshots keys (.ok merged))
      fun failure m' => e.MergesAll base m' snapshots keys (.error failure) := by
  refine (mergeKeys_leads hr hbase snapshots keys).bind fun merged m' _ hmerged => ?_
  have hextends := Journal.extends_record m'.world.journal .debug "merge_complete"
  refine Course.Leads.bind (Q := fun _ m'' => e.MergesAll base m'' snapshots keys (.ok merged))
    (Course.Leads.lift fun _ => ?_) fun _ _ _ h => Course.Leads.pure h
  exact ⟨trivial, ⟨hextends _, fun _ _ h => .inl h⟩, hmerged.later (hextends _)⟩

lemma resolveAll_merges {sources : List (Source σ)} (hsources : ∀ s ∈ sources, s.Sound)
    (hr : e.resolver.Logs) (m : Memory σ) :
    ∃ snapshots keys w,
      (fetch e.metaKeys (Source.inOrder sources)).run.run m.world = (.ok (snapshots, keys), w) ∧
      e.MergesAll m ((e.resolveAll sources).run.run m).2 snapshots
        (keys.filter fun key => !e.metaKeys.isMeta key) ((e.resolveAll sources).run.run m).1 := by
  have hordered : ∀ s ∈ Source.inOrder sources, s.Sound := fun s hs =>
    hsources s (Steady.mem_inOrder.1 hs)
  -- The sources are asked before any policy is applied, so what they answer is the same in any pass.
  obtain ⟨⟨snapshots, keys⟩, w, hfetch, hextends⟩ :=
    (fetch_sound e.metaKeys hordered).exists_ok (t := m.world) trivial
  refine ⟨snapshots, keys, w, hfetch, ?_⟩
  have hbase : e.resolver.passing.later m { m with world := w } := ⟨hextends, fun _ _ h => .inl h⟩
  obtain ⟨-, -, hanswer⟩ := mergeAll_leads hr hbase snapshots
    (keys.filter fun key => !e.metaKeys.isMeta key) sources trivial
  rw [resolveAll, run_bind_ok (run_liftM hfetch)]
  exact Course.Ends.both (R := fun result m' => e.MergesAll m m' snapshots
    (keys.filter fun key => !e.metaKeys.isMeta key) result) hanswer

lemma resolve_merges {sources : List (Source σ)} (hsources : ∀ s ∈ sources, s.Sound)
    (hr : e.resolver.Logs) (m : Memory σ) {key : String} (hvisible : e.metaKeys.isMeta key = false) :
    ∃ snapshots w,
      (ask (key :: candidates e.metaKeys key) (Source.inOrder sources)).run.run m.world =
        (.ok snapshots, w) ∧
      e.Merges m ((e.resolve key sources).run.run m).2 snapshots key
        ((e.resolve key sources).run.run m).1 := by
  have hordered : ∀ s ∈ Source.inOrder sources, s.Sound := fun s hs =>
    hsources s (Steady.mem_inOrder.1 hs)
  obtain ⟨snapshots, w, hask, hextends⟩ :=
    (ask_sound hordered (key :: candidates e.metaKeys key)).exists_ok (t := m.world) trivial
  refine ⟨snapshots, w, hask, ?_⟩
  have hbase : e.resolver.passing.later m { m with world := w } := ⟨hextends, fun _ _ h => .inl h⟩
  obtain ⟨-, -, hanswer⟩ := mergeKey_leads hr hbase key snapshots trivial
  have hvisible' : ¬ e.metaKeys.isMeta key = true := by simp [hvisible]
  rw [resolve, if_neg hvisible', run_bind_ok (run_liftM hask)]
  exact Course.Ends.both (R := fun result m' => e.Merges m m' snapshots key result) hanswer

end Merge

def Rule.outcome (φ : Rule) (key : String) (metadata : Ledger String String)
    (holders : List (String × Entry)) : Except Failure (Option Entry) := do
  let running ← φ.run key metadata.get? holders
  running.entry? key metadata

namespace Resolver

def Misses (r : Resolver σ) (base : Memory σ) (name : String) : Prop :=
  ∀ f serial, r.factories.get? name = some f →
    r.instance? base f.id ≠ some serial ∧ ¬ r.Makes f.id serial

def Governs (r : Resolver σ) (base : Memory σ) (φ : Rule) (key : String)
    (metadata : Ledger String String) : Prop :=
  ∀ m choice, r.Decides base m key metadata choice → choice.policy.Obeys (fun _ _ => True) φ

lemma governs_plain {r : Resolver σ} {key : String} {metadata : Ledger String String}
    (h : r.customName? key metadata = none) {φ : Rule}
    (hφ : (r.plain key metadata).policy.Obeys (fun _ _ => True) φ) (base : Memory σ) :
    r.Governs base φ key metadata := by
  intro m choice hdecides
  cases hdecides with
  | plain => exact hφ
  | custom hname | fallback hname => cases h.symm.trans hname

lemma Decides.of_misses {r : Resolver σ} {base m : Memory σ} {key name : String}
    {metadata : Ledger String String} {choice : Choice σ}
    (hname : r.customName? key metadata = some name) (hmisses : r.Misses base name)
    (h : r.Decides base m key metadata choice) :
    choice = .override ∧ ∃ failure, r.Lacks name failure ∧ Reports base m key name failure := by
  cases h with
  | plain hnone => cases hnone.symm.trans hname
  | custom hname' hf hserial =>
    cases hname.symm.trans hname'
    obtain ⟨hforgot, hmakes⟩ := hmisses _ _ hf
    exact absurd hserial (not_or.2 ⟨hforgot, hmakes⟩)
  | fallback hname' hlacks hreports =>
    cases hname.symm.trans hname'
    exact ⟨rfl, _, hlacks, hreports⟩

end Resolver

namespace Merge

open Resolver

variable {e : Merge σ} {base m : Memory σ} {snapshots : List Snapshot} {key : String}

/-- How a key fares in a pass. Without a policy it falls back, and that is reported. With one that obeys
a rule it comes to what the rule makes of the snapshots, however the other keys fare. -/
structure Fares (e : Merge σ) (base m : Memory σ) (snapshots : List Snapshot) (key : String)
    (result : Except Failure (Option Entry)) : Prop where
  falls_back : ∀ name, holders key snapshots ≠ [] →
    e.resolver.customName? key ((metadata e.metaKeys snapshots).at key) = some name →
    e.resolver.Misses base name →
    result = Rule.override.outcome key ((metadata e.metaKeys snapshots).at key) (named key snapshots) ∧
      ∃ failure, e.resolver.Lacks name failure ∧ Reports base m key name failure
  governed : ∀ φ, e.resolver.Governs base φ key ((metadata e.metaKeys snapshots).at key) →
    result = φ.outcome key ((metadata e.metaKeys snapshots).at key) (named key snapshots)
  succeeds : key ≠ "" → (∀ f ∈ e.resolver.factories.values, ∀ serial, (f.policy serial).Logs False) →
    ∃ found, result = .ok found

lemma Merges.outcome_of_obeys {choice : Choice σ} {φ : Rule} {result : Except Failure Running}
    (hobeys : choice.policy.Obeys (fun _ _ => True) φ)
    (h : choice.policy.Combines key ((metadata e.metaKeys snapshots).at key) ⟨none, none⟩
      (holders key snapshots) result) :
    (do
        let running ← result
        running.entry? key ((metadata e.metaKeys snapshots).at key)) =
      φ.outcome key ((metadata e.metaKeys snapshots).at key) (named key snapshots) := by
  rw [h.eq_of_obeys hobeys fun _ hx => get?_of_mem_holders hx]
  rfl

lemma entry?_ok (hne : key ≠ "") (metadata : Ledger String String) (running : Running) :
    ∃ found, running.entry? key metadata = .ok found := by
  rw [Running.entry?]
  split
  · rw [Entry.make_of_ne hne]
    exact ⟨_, rfl⟩
  · exact ⟨none, rfl⟩

lemma Merges.fares {result : Except Failure (Option Entry)} (h : e.Merges base m snapshots key result) :
    e.Fares base m snapshots key result := by
  cases h with
  | absent hnone =>
    have hnamed : named key snapshots = [] := by rw [named, hnone, List.map_nil]
    refine ⟨fun name hholders => absurd hnone hholders, fun φ _ => ?_, fun _ _ => ⟨none, rfl⟩⟩
    rw [hnamed]
    rfl
  | combined hdecides hcombines =>
    refine ⟨fun name _ hname hmisses => ?_, fun φ hφ => ?_, fun hne _ => entry?_ok hne _ _⟩
    · obtain ⟨rfl, hreports⟩ := hdecides.of_misses hname hmisses
      exact ⟨outcome_of_obeys Policy.override_obeys hcombines, hreports⟩
    · exact outcome_of_obeys (hφ m _ hdecides) hcombines
  | failed hdecides hcombines =>
    refine ⟨fun name _ hname hmisses => ?_, fun φ hφ => ?_, fun _ hr => ?_⟩
    · obtain ⟨rfl, hreports⟩ := hdecides.of_misses hname hmisses
      exact ⟨outcome_of_obeys Policy.override_obeys hcombines, hreports⟩
    · exact outcome_of_obeys (hφ m _ hdecides) hcombines
    · obtain ⟨answer, hanswer⟩ := hcombines.ok_of_logs (hdecides.logs hr)
      cases hanswer

lemma MergesAll.exists_ok {keys : List String} {result : Except Failure (Ledger String Entry)}
    (h : e.MergesAll base m snapshots keys result) (hempty : "" ∉ keys)
    (hr : ∀ f ∈ e.resolver.factories.values, ∀ serial, (f.policy serial).Logs False) :
    ∃ merged, result = .ok merged := by
  cases result with
  | ok merged => exact ⟨merged, rfl⟩
  | error failure =>
    obtain ⟨key, hkey, hmerges⟩ := h
    obtain ⟨found, hfound⟩ := hmerges.fares.succeeds (fun he => hempty (he ▸ hkey)) hr
    cases hfound

lemma MergesAll.agree {e' : Merge σ} {base' m' : Memory σ} {keys : List String}
    {merged merged' : Ledger String Entry} (hkeys : e'.metaKeys = e.metaKeys)
    (h : e.MergesAll base m snapshots keys (.ok merged))
    (h' : e'.MergesAll base' m' snapshots keys (.ok merged')) {φ : Rule}
    (hφ : e.resolver.Governs base φ key ((metadata e.metaKeys snapshots).at key))
    (hφ' : e'.resolver.Governs base' φ key ((metadata e.metaKeys snapshots).at key)) :
    merged'.get? key = merged.get? key := by
  by_cases hkey : key ∈ keys
  · have hfare := (h.1 key hkey).fares.governed φ hφ
    have hfare' := (h'.1 key hkey).fares.governed φ (by rwa [hkeys])
    rw [hkeys] at hfare'
    exact Except.ok.inj (hfare'.trans hfare.symm)
  · rw [h.2 key hkey, h'.2 key hkey]

/-- A pass over sources that always answer makes something of each key by itself, by one policy and
what the sources hold. It fails only as a policy fails that is applied, or at the empty key. A key
whose policy cannot be had falls back to the override policy with a report, and a key that a rule
governs comes to the same in any two passes, whether the policies of other keys can be had or not. -/
theorem passes_fall_back (e : Merge σ) {sources : List (Source σ)}
    (hsources : ∀ s ∈ sources, s.Sound) (hr : e.resolver.Logs) (m : Memory σ) :
    (∃ snapshots keys visible w, visible = keys.filter (fun key => !e.metaKeys.isMeta key) ∧
      (fetch e.metaKeys (Source.inOrder sources)).run.run m.world = (.ok (snapshots, keys), w) ∧
      e.MergesAll m ((e.resolveAll sources).run.run m).2 snapshots visible
        ((e.resolveAll sources).run.run m).1 ∧
      ("" ∉ visible →
        (∀ f ∈ e.resolver.factories.values, ∀ serial, (f.policy serial).Logs False) →
        ∃ merged, ((e.resolveAll sources).run.run m).1 = .ok merged) ∧
      ∀ (e' : Merge σ) (m' : Memory σ), e'.metaKeys = e.metaKeys → e'.resolver.Logs →
        m'.world = m.world → ∀ merged merged', ((e.resolveAll sources).run.run m).1 = .ok merged →
        ((e'.resolveAll sources).run.run m').1 = .ok merged' → ∀ key φ,
        e.resolver.Governs m φ key ((metadata e.metaKeys snapshots).at key) →
        e'.resolver.Governs m' φ key ((metadata e.metaKeys snapshots).at key) →
        merged'.get? key = merged.get? key) ∧
    (∀ key, e.metaKeys.isMeta key = false → ∃ snapshots w,
      (ask (key :: candidates e.metaKeys key) (Source.inOrder sources)).run.run m.world =
        (.ok snapshots, w) ∧
      e.Merges m ((e.resolve key sources).run.run m).2 snapshots key
        ((e.resolve key sources).run.run m).1 ∧
      ∀ (e' : Merge σ) (m' : Memory σ), e'.metaKeys = e.metaKeys → e'.resolver.Logs →
        m'.world = m.world → ∀ φ,
        e.resolver.Governs m φ key ((metadata e.metaKeys snapshots).at key) →
        e'.resolver.Governs m' φ key ((metadata e.metaKeys snapshots).at key) →
        ((e'.resolve key sources).run.run m').1 = ((e.resolve key sources).run.run m).1) ∧
    ∀ m' snapshots key result, e.Merges m m' snapshots key result →
      e.Fares m m' snapshots key result := by
  refine ⟨?_, fun key hvisible => ?_, fun _ _ _ _ h => h.fares⟩
  · obtain ⟨snapshots, keys, w, hfetch, hmerges⟩ := resolveAll_merges hsources hr m
    refine ⟨snapshots, keys, _, w, rfl, hfetch, hmerges, hmerges.exists_ok, ?_⟩
    intro e' m' hkeys hr' hworld merged merged' hok hok' key φ hφ hφ'
    obtain ⟨snapshots', keys', w', hfetch', hmerges'⟩ := resolveAll_merges hsources hr' m'
    rw [hkeys, hworld, hfetch] at hfetch'
    cases hfetch'
    rw [hok] at hmerges
    rw [hok', hkeys] at hmerges'
    exact MergesAll.agree hkeys hmerges hmerges' hφ hφ'
  · obtain ⟨snapshots, w, hask, hmerges⟩ := resolve_merges hsources hr m hvisible
    refine ⟨snapshots, w, hask, hmerges, ?_⟩
    intro e' m' hkeys hr' hworld φ hφ hφ'
    obtain ⟨snapshots', w', hask', hmerges'⟩ :=
      resolve_merges hsources hr' m' (by rwa [hkeys] : e'.metaKeys.isMeta key = false)
    rw [hkeys, hworld, hask] at hask'
    cases hask'
    have hfare := hmerges.fares.governed φ hφ
    have hfare' := hmerges'.fares.governed φ (by rwa [hkeys])
    rw [hkeys] at hfare'
    exact hfare'.trans hfare.symm

def lowFallback : Ledger String Entry :=
  ⟨[("a", ⟨"a", some "1", "low", .empty, by decide⟩),
    ("a.combination-policy", ⟨"a.combination-policy", some "first", "low", .empty, by decide⟩),
    ("b", ⟨"b", some "2", "low", .empty, by decide⟩),
    ("b.combination-policy", ⟨"b.combination-policy", some "missing", "low", .empty, by decide⟩),
    ("c", ⟨"c", some "3", "low", .empty, by decide⟩),
    ("c.combination-policy", ⟨"c.combination-policy", some "collect", "low", .empty, by decide⟩)],
    by simp⟩

def highFallback : Ledger String Entry :=
  ⟨[("a", ⟨"a", some "4", "high", .empty, by decide⟩),
    ("c", ⟨"c", some "5", "high", .empty, by decide⟩)], by simp⟩

def layered : List (Source Unit) :=
  [.ofEntries 0 "low" 0 true lowFallback, .ofEntries 1 "high" 10 true highFallback]

lemma inOrder_layered : Source.inOrder layered = layered :=
  List.mergeSort_of_pairwise (by decide)

lemma sound_ofEntries (id : Nat) (name : String) (ordinal : Int) (scannable : Bool)
    (entries : Ledger String Entry) :
    (Source.ofEntries id name ordinal scannable entries : Source σ).Sound :=
  ⟨fun _ => Course.Runs.pure _, Course.Runs.pure _⟩

def firstPolicy : Policy Unit where
  label := "first"
  combine current key source _ := do
    let entry ← source.get key
    return current.or (entry.bind (·.value))

def engine (build : Call Unit Nat) : Merge Unit :=
  ⟨⟨0, .ofList [("first", ⟨0, build, fun _ => firstPolicy⟩)], .standard⟩, .standard⟩

lemma engine_logs {build : Call Unit Nat} (h : (logging Unit).Runs True build) :
    (engine build).resolver.Logs := by
  have hvalues : (engine build).resolver.factories.values = [⟨0, build, fun _ => firstPolicy⟩] := rfl
  constructor
  · rw [hvalues]
    exact List.forall_mem_singleton.2 h
  · rw [hvalues]
    refine List.forall_mem_singleton.2 fun serial current key s metadata => ?_
    exact (Course.Runs.pure (s.entries.get? key)).bind fun _ => Course.Runs.pure _

lemma engine_collects {build : Call Unit Nat} {metadata : Ledger String String}
    (h : metadata.get? MetaKeys.combinationPolicy = some "collect") (base : Memory Unit) :
    (engine build).resolver.Governs base .collect "c" metadata := by
  have hvisible : ¬ (engine build).resolver.metaKeys.isMeta "c" = true := by
    change ¬ MetaKeys.standard.isMeta "c" = true
    decide
  refine governs_plain ?_ ?_ base
  · rw [customName?, if_neg hvisible, h]
    decide
  · have hplain : (engine build).resolver.plain "c" metadata = .collect := by
      rw [Resolver.plain, if_neg hvisible, h]
      rfl
    rw [hplain]
    exact Policy.collect_obeys

def outcomes (r : Except Failure (Ledger String Entry)) : List (String × Option String) :=
  (r.toOption.map fun merged => merged.pairs.map fun p => (p.1, p.2.value)).getD []

def failing : Merge Unit := engine (throw (.foreign "RuntimeError" "no resources"))

def working : Merge Unit := engine (pure 1)

theorem failing_passes_fall_back :
    ((∀ s ∈ layered, s.Sound) ∧ failing.resolver.Logs ∧ working.resolver.Logs) ∧
    (outcomes ((failing.resolveAll layered).run.run (.initial .error ())).1 =
        [("a", some "4"), ("b", some "2"), ("c", some "3,5")] ∧
      (((failing.resolveAll layered).run.run (.initial .error ())).2.world.journal.events.map
          fun event => event.name) = ["policy_instantiation_failed", "policy_instantiation_failed"]) ∧
    outcomes ((working.resolveAll layered).run.run (.initial .error ())).1 =
      [("a", some "1"), ("b", some "2"), ("c", some "3,5")] ∧
    ∀ merged merged', ((failing.resolveAll layered).run.run (.initial .error ())).1 = .ok merged →
      ((working.resolveAll layered).run.run (.initial .error ())).1 = .ok merged' →
      merged'.get? "c" = merged.get? "c" := by
  have hsound : ∀ s ∈ layered, s.Sound :=
    List.forall_mem_cons.2
      ⟨sound_ofEntries _ _ _ _ _, List.forall_mem_singleton.2 (sound_ofEntries _ _ _ _ _)⟩
  have hfailing : failing.resolver.Logs := engine_logs fun _ => Course.Leads.make trivial
  have hworking : working.resolver.Logs := engine_logs (Course.Runs.pure 1)
  refine ⟨⟨hsound, hfailing, hworking⟩, ⟨?_, ?_⟩, ?_, fun merged merged' hmerged hmerged' => ?_⟩
  · rw [resolveAll, inOrder_layered]
    decide +kernel
  · rw [resolveAll, inOrder_layered]
    decide +kernel
  · rw [resolveAll, inOrder_layered]
    decide +kernel
  obtain ⟨⟨snapshots, keys, visible, w, -, hfetch, -, -, hagree⟩, -, -⟩ :=
    passes_fall_back failing hsound hfailing (.initial .error ())
  -- `c` is collected in both passes, so one rule governs it.
  have hpolicy : (((fetch MetaKeys.standard (Source.inOrder layered)).run.run
      (.initial .error ())).1.toOption.bind fun fetched =>
        ((metadata MetaKeys.standard fetched.1).at "c").get? MetaKeys.combinationPolicy) =
      some "collect" := by
    rw [inOrder_layered]
    decide +kernel
  have hfetched : ((fetch MetaKeys.standard (Source.inOrder layered)).run.run
      (.initial .error ())).1 = .ok (snapshots, keys) := congrArg Prod.fst hfetch
  rw [hfetched] at hpolicy
  exact hagree working (.initial .error ()) rfl hworking rfl merged merged' hmerged hmerged' "c" .collect
    (engine_collects hpolicy _) (engine_collects hpolicy _)

def refused : Ledger String Entry :=
  ⟨[("level", ⟨"level", some "1", "site", .empty, by decide⟩),
    ("level.combination-policy",
      ⟨"level.combination-policy", some "boom", "site", .empty, by decide⟩)], by simp⟩

def refusing : Merge Unit :=
  ⟨⟨0, .ofList [("boom", ⟨0, pure 1, fun _ =>
    ⟨"boom", fun _ key _ _ => throw (.foreign "ValueError" ("boom " ++ key))⟩⟩)], .standard⟩, .standard⟩

theorem refusal_ends_passes :
    (∀ s ∈ [(.ofEntries 0 "site" 0 true refused : Source Unit)], s.Sound) ∧
    ((refusing.resolveAll [.ofEntries 0 "site" 0 true refused]).run.run (.initial .error ())).1 =
      .error (.foreign "ValueError" "boom level") ∧
    ((refusing.resolve "level" [.ofEntries 0 "site" 0 true refused]).run.run (.initial .error ())).1 =
      .error (.foreign "ValueError" "boom level") := by
  refine ⟨List.forall_mem_singleton.2 (sound_ofEntries _ _ _ _ _), ?_, ?_⟩
  · rw [resolveAll, Source.inOrder, List.mergeSort_singleton]
    rfl
  · rw [resolve, Source.inOrder, List.mergeSort_singleton]
    rfl

end Merge

end LayeredConfig
