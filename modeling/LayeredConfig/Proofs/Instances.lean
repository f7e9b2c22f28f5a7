import LayeredConfig.Proofs.Selection

/-! Instances of custom policies. A resolver calls a factory only while it remembers no instance of
it, so between two times that it forgets them each factory succeeds at most once, and every name and
key that comes to the factory gets the instance made then. -/

namespace LayeredConfig

variable {σ : Type}

namespace Journal

structure Extends (j j' : Journal) : Prop where
  threshold : j'.threshold = j.threshold
  events : j.events <+: j'.events

lemma Extends.refl (j : Journal) : j.Extends j := ⟨rfl, List.prefix_refl _⟩

lemma Extends.trans {j j' j'' : Journal} (h : j.Extends j') (h' : j'.Extends j'') : j.Extends j'' :=
  ⟨h'.threshold.trans h.threshold, h.events.trans h'.events⟩

lemma extends_record (j : Journal) (severity : Severity) (name : String) (details : Details) :
    j.Extends (j.record severity name details) := by
  refine ⟨threshold_record j severity name details, ?_⟩
  rw [record]
  split
  · exact List.prefix_refl _
  · exact List.prefix_append _ _

end Journal

def Memory.noted (m : Memory σ) (severity : Severity) (name : String) (source key : Option String)
    (more : List (String × Data)) : Memory σ :=
  { m with world := { m.world with
    journal := m.world.journal.record severity name (Journal.about source key more) } }

lemma Ledger.lookup_append {κ α : Type} [DecidableEq κ] (k : κ) (ps qs : List (κ × α)) :
    lookup k (ps ++ qs) = (lookup k ps).or (lookup k qs) := by
  induction ps with
  | nil => rfl
  | cons p ps ih =>
    rw [List.cons_append, lookup, lookup]
    split
    · rfl
    · exact ih

lemma run_bind_of {τ α β : Type} {x : StateM τ α} {f : α → StateM τ β} {t t' : τ} {a : α}
    (h : x.run t = (a, t')) : (x >>= f).run t = (f a).run t' := by
  change (f (x.run t).1).run (x.run t).2 = (f a).run t'
  rw [h]

namespace Resolver

variable (r : Resolver σ) {key name : String} {metadata : Ledger String String} {f : Factory σ}
  {serial : Nat} {m : Memory σ}

def customName? (key : String) (metadata : Ledger String String) : Option String :=
  if r.metaKeys.isMeta key then none
  else ((metadata.get? MetaKeys.combinationPolicy).map Text.strip).filter (!Policy.isBuiltIn ·)

def selected (key name : String) (m : Memory σ) : Memory σ :=
  m.noted .debug "policy_selected" none (some key) [("policy", .text name)]

def failed (key name : String) (failure : Failure) (m : Memory σ) : Memory σ :=
  m.noted .error "policy_instantiation_failed" none (some key)
    [("policy", .text name), ("error", .text failure.message)]

def remembered (factory serial : Nat) (m : Memory σ) : Memory σ := (r.remember factory serial m).2

variable {r}

lemma resolve_custom (h : r.customName? key metadata = some name) (m : Memory σ) :
    r.resolve key metadata m =
      match (r.custom name).run.run m with
      | (.ok choice, m') => (choice, selected key name m')
      | (.error failure, m') => (.override, failed key name failure m') := by
  rw [customName?] at h
  split at h
  · cases h
  · rename_i hvisible
    obtain ⟨hname, hcustom⟩ := Option.filter_eq_some_iff.1 h
    obtain ⟨text, htext, rfl⟩ := Option.map_eq_some_iff.1 hname
    simp only [Policy.isBuiltIn, Bool.not_eq_true', decide_eq_false_iff_not, not_or] at hcustom
    rw [resolve, if_neg hvisible, htext]
    simp only
    rw [if_neg hcustom.1, if_neg hcustom.2]
    cases hrun : (r.custom (Text.strip text)).run.run m with
    | mk result m' =>
      refine (run_bind_of hrun).trans ?_
      cases result <;> rfl

lemma custom_unknown (h : r.factories.get? name = none) (m : Memory σ) :
    (r.custom name).run.run m = (.error (.unknownPolicy name), m) := by
  rw [custom, h]
  rfl

lemma custom_shared (h : r.factories.get? name = some f) (hserial : r.instance? m f.id = some serial) :
    (r.custom name).run.run m = (.ok (.custom f serial), m) := by
  have hrun : (ExceptT.lift (r.serial? f.id) : Act σ (Option Nat)).run.run m =
      (.ok (some serial), m) := by
    rw [← hserial]
    rfl
  rw [custom, h]
  exact run_bind_ok hrun

lemma custom_new (h : r.factories.get? name = some f) (hserial : r.instance? m f.id = none) :
    (r.custom name).run.run m =
      match f.build.run.run m.world with
      | (.ok serial, w) => (.ok (.custom f serial), remembered r f.id serial { m with world := w })
      | (.error cause, w) => (.error (.policyNotBuilt name cause.message), { m with world := w }) := by
  have hrun : (ExceptT.lift (r.serial? f.id) : Act σ (Option Nat)).run.run m = (.ok none, m) := by
    rw [← hserial]
    rfl
  have hbuild : (ExceptT.lift (Note.recall f.build.attempt) : Act σ (Except Failure Nat)).run.run m =
      (.ok (f.build.run.run m.world).1, { m with world := (f.build.run.run m.world).2 }) := rfl
  rw [custom, h]
  refine (run_bind_ok hrun).trans ((run_bind_ok hbuild).trans ?_)
  obtain ⟨result, w⟩ := f.build.run.run m.world
  cases result <;> rfl

lemma instance?_remembered (factory serial other : Nat) (m : Memory σ) :
    r.instance? (remembered r factory serial m) other =
      if other = factory then some serial else r.instance? m other := by
  simp only [instance?, remembered, remember, Ledger.getD_put, if_true, Ledger.get?_put]

lemma instance?_clear (factory : Nat) (m : Memory σ) : r.instance? (r.clear m).2 factory = none := by
  simp only [instance?, clear, Ledger.getD_put, if_true, Ledger.get?_empty]

def called? (r : Resolver σ) (key : String) (metadata : Ledger String String) (m : Memory σ) :
    Option (Factory σ) :=
  ((r.customName? key metadata).bind r.factories.get?).filter fun f => (r.instance? m f.id).isNone

def plain (r : Resolver σ) (key : String) (metadata : Ledger String String) : Choice σ :=
  if r.metaKeys.isMeta key then .override
  else match metadata.get? MetaKeys.combinationPolicy with
    | none => .override
    | some text => if Text.lower (Text.strip text) = Policy.collectName then .collect else .override

lemma plain_cases (key : String) (metadata : Ledger String String) :
    r.plain key metadata = .override ∨ r.plain key metadata = .collect := by
  rw [plain]
  split
  · exact .inl rfl
  · cases metadata.get? MetaKeys.combinationPolicy with
    | none => exact .inl rfl
    | some text =>
      simp only
      split
      · exact .inr rfl
      · exact .inl rfl

lemma resolve_plain (h : r.customName? key metadata = none) (m : Memory σ) :
    ∃ journal, m.world.journal.Extends journal ∧ r.resolve key metadata m =
      (r.plain key metadata, { m with world := { m.world with journal } }) := by
  have hsame := Journal.Extends.refl m.world.journal
  rw [customName?] at h
  rw [resolve, plain]
  split
  · exact ⟨m.world.journal, hsame, rfl⟩
  · rename_i hvisible
    rw [if_neg hvisible] at h
    cases htext : metadata.get? MetaKeys.combinationPolicy with
    | none => exact ⟨m.world.journal, hsame, rfl⟩
    | some text =>
      simp only [htext, Option.map_some, Option.filter_eq_none_iff, Option.some.injEq,
        forall_eq', Policy.isBuiltIn, Bool.not_eq_true', decide_eq_false_iff_not, not_not] at h
      simp only
      by_cases hoverride : Text.lower (Text.strip text) = Policy.overrideName
      · have hne : ¬ Policy.overrideName = Policy.collectName := by decide
        rw [if_pos hoverride, hoverride, if_neg hne]
        exact ⟨m.world.journal, hsame, rfl⟩
      · rw [if_neg hoverride, if_pos (h.resolve_left hoverride), if_pos (h.resolve_left hoverride)]
        exact ⟨_, Journal.extends_record _ _ _ _, rfl⟩

inductive Operation (σ : Type)
  | register (name : String) (f : Factory σ)
  | unregister (name : String)
  | resolve (key : String) (metadata : Ledger String String)
  | clear

/-- A resolver with the memory it works on, and the factories that have made an instance since the
last clear, each with the instance. -/
structure Stage (σ : Type) where
  resolver : Resolver σ
  memory : Memory σ
  made : List (Nat × Nat)

namespace Stage

def answer (s : Stage σ) (key : String) (metadata : Ledger String String) : Choice σ :=
  (s.resolver.resolve key metadata s.memory).1

def makes (s : Stage σ) (key : String) (metadata : Ledger String String) : List (Nat × Nat) :=
  match s.resolver.called? key metadata s.memory with
  | none => []
  | some f =>
    match (f.build.run.run s.memory.world).1 with
    | .ok serial => [(f.id, serial)]
    | .error _ => []

def perform (s : Stage σ) : Operation σ → Stage σ
  | .register name f =>
    match s.resolver.factories.register name f with
    | .ok factories => { s with resolver := { s.resolver with factories } }
    | .error _ => s
  | .unregister name =>
    { s with resolver := { s.resolver with factories := s.resolver.factories.erase name } }
  | .resolve key metadata =>
    { s with memory := (s.resolver.resolve key metadata s.memory).2,
             made := s.made ++ s.makes key metadata }
  | .clear => { s with memory := (s.resolver.clear s.memory).2, made := [] }

def performAll (s : Stage σ) (ops : List (Operation σ)) : Stage σ := ops.foldl perform s

def Routes (s : Stage σ) (key : String) (metadata : Ledger String String) (name : String)
    (f : Factory σ) : Prop :=
  s.resolver.customName? key metadata = some name ∧ s.resolver.factories.get? name = some f

/-- How a resolution goes for a name that stands for the factory. If the factory has made an instance,
that one is shared and the factory is left alone. Otherwise it is called, once, and its instance is
remembered; a failure is reported and nothing is remembered. -/
inductive Serves (s : Stage σ) (key name : String) (f : Factory σ) : Choice σ → Stage σ → Prop
  | shared {serial : Nat} : Ledger.lookup f.id s.made = some serial →
    Serves s key name f (.custom f serial) { s with memory := selected key name s.memory }
  | built {serial : Nat} {w : World σ} : Ledger.lookup f.id s.made = none →
    f.build.run.run s.memory.world = (.ok serial, w) →
    Serves s key name f (.custom f serial)
      ⟨s.resolver, selected key name (remembered s.resolver f.id serial { s.memory with world := w }),
        s.made ++ [(f.id, serial)]⟩
  | refused {cause : Failure} {w : World σ} : Ledger.lookup f.id s.made = none →
    f.build.run.run s.memory.world = (.error cause, w) →
    Serves s key name f .override
      { s with memory := failed key name (.policyNotBuilt name cause.message) { s.memory with world := w } }

structure Accounts (s : Stage σ) : Prop where
  nodup : (s.made.map Prod.fst).Nodup
  remembers : ∀ factory, s.resolver.instance? s.memory factory = Ledger.lookup factory s.made

variable {s : Stage σ}

lemma Accounts.serves (h : s.Accounts) (hroutes : s.Routes key metadata name f) :
    s.Serves key name f (s.answer key metadata) (s.perform (.resolve key metadata)) := by
  obtain ⟨hname, hf⟩ := hroutes
  have hcalled : s.resolver.called? key metadata s.memory =
      if (Ledger.lookup f.id s.made).isNone then some f else none := by
    rw [called?, hname, Option.bind_some, hf, Option.filter_some, h.remembers]
  rw [answer, perform, makes, hcalled, resolve_custom hname]
  cases hmade : Ledger.lookup f.id s.made with
  | some serial =>
    rw [custom_shared hf ((h.remembers f.id).trans hmade)]
    simpa using Serves.shared hmade
  | none =>
    rw [custom_new hf ((h.remembers f.id).trans hmade)]
    cases hbuild : f.build.run.run s.memory.world with
    | mk result w =>
      cases result with
      | ok serial => simpa [hbuild] using Serves.built hmade hbuild
      | error cause => simpa [hbuild] using Serves.refused hmade hbuild

lemma Accounts.of_same {t : Stage σ} (h : s.Accounts) (hmade : t.made = s.made)
    (hsame : ∀ factory, t.resolver.instance? t.memory factory = s.resolver.instance? s.memory factory) :
    t.Accounts :=
  ⟨hmade ▸ h.nodup, fun factory => by rw [hsame, h.remembers, hmade]⟩

lemma Accounts.of_serves (h : s.Accounts) {choice : Choice σ} {t : Stage σ}
    (hserves : s.Serves key name f choice t) : t.Accounts := by
  cases hserves with
  | shared hmade => exact h.of_same rfl fun _ => rfl
  | refused hmade hbuild => exact h.of_same rfl fun _ => rfl
  | @built serial w hmade hbuild =>
    refine ⟨?_, fun factory => ?_⟩
    · -- The factory was called only because it had made nothing yet.
      have hnew : f.id ∉ s.made.map Prod.fst := Ledger.lookup_eq_none_iff.1 hmade
      rw [List.map_append, List.nodup_append]
      refine ⟨h.nodup, by simp, fun a ha b hb hab => hnew ?_⟩
      obtain rfl : b = f.id := by simpa using hb
      exact hab ▸ ha
    · change s.resolver.instance? (remembered s.resolver f.id serial _) factory = _
      rw [instance?_remembered, Ledger.lookup_append]
      change (if factory = f.id then some serial else s.resolver.instance? s.memory factory) =
        (Ledger.lookup factory s.made).or (if f.id = factory then some serial else none)
      rw [h.remembers]
      by_cases hid : factory = f.id
      · rw [if_pos hid, if_pos hid.symm, hid, hmade, Option.none_or]
      · rw [if_neg hid, if_neg (Ne.symm hid), Option.or_none]

lemma perform_of_not_routes (h : ∀ name f, ¬ s.Routes key metadata name f) :
    ∃ journal, s.memory.world.journal.Extends journal ∧ s.perform (.resolve key metadata) =
      { s with memory := { s.memory with world := { s.memory.world with journal } } } := by
  -- Either a built-in policy is chosen, or the name is registered nowhere and that is reported.
  cases hname : s.resolver.customName? key metadata with
  | none =>
    have hmakes : s.makes key metadata = [] := by
      rw [makes, called?, hname]
      rfl
    obtain ⟨journal, hextends, hplain⟩ := resolve_plain hname s.memory
    refine ⟨journal, hextends, ?_⟩
    rw [perform, hmakes, hplain, List.append_nil]
  | some name =>
    have hf : s.resolver.factories.get? name = none :=
      Option.eq_none_iff_forall_ne_some.2 fun f hf => h name f ⟨hname, hf⟩
    have hmakes : s.makes key metadata = [] := by
      rw [makes, called?, hname, Option.bind_some, hf]
      rfl
    refine ⟨(failed key name (.unknownPolicy name) s.memory).world.journal,
      Journal.extends_record _ _ _ _, ?_⟩
    rw [perform, hmakes, resolve_custom hname, custom_unknown hf, List.append_nil]
    rfl

lemma Accounts.resolve (h : s.Accounts) (key : String) (metadata : Ledger String String) :
    (s.perform (.resolve key metadata)).Accounts := by
  by_cases hroutes : ∃ name f, s.Routes key metadata name f
  · obtain ⟨name, f, hroutes⟩ := hroutes
    exact h.of_serves (h.serves hroutes)
  · obtain ⟨journal, -, hperform⟩ :=
      perform_of_not_routes fun name f hname => hroutes ⟨name, f, hname⟩
    rw [hperform]
    exact h.of_same rfl fun _ => rfl

lemma Accounts.perform (h : s.Accounts) (op : Operation σ) : (s.perform op).Accounts := by
  cases op with
  | register name f =>
    rw [Stage.perform]
    cases s.resolver.factories.register name f with
    | error failure => exact h
    | ok factories => exact ⟨h.nodup, h.remembers⟩
  | unregister name => exact ⟨h.nodup, h.remembers⟩
  | resolve key metadata => exact h.resolve key metadata
  | clear => exact ⟨List.nodup_nil, fun factory => instance?_clear factory s.memory⟩

lemma Accounts.performAll (h : s.Accounts) (ops : List (Operation σ)) : (s.performAll ops).Accounts := by
  induction ops generalizing s with
  | nil => exact h
  | cons op ops ih => exact ih (h.perform op)

lemma mem_made_performAll {p : Nat × Nat} (hp : p ∈ s.made) {ops : List (Operation σ)}
    (hclear : .clear ∉ ops) : p ∈ (s.performAll ops).made := by
  -- Only forgetting takes an instance out of the list, and there is none of that.
  induction ops generalizing s with
  | nil => exact hp
  | cons op ops ih =>
    rw [List.mem_cons, not_or] at hclear
    refine ih ?_ hclear.2
    cases op with
    | register name f =>
      rw [Stage.perform]
      cases s.resolver.factories.register name f <;> exact hp
    | unregister name => exact hp
    | resolve key metadata => exact List.mem_append_left _ hp
    | clear => exact absurd rfl hclear.1

lemma routes_register (hname : s.resolver.customName? key metadata = some name) (f : Factory σ) :
    (s.perform (.register name f)).Routes key metadata name f := by
  have hcustom : Policy.isBuiltIn name = false := by
    rw [customName?] at hname
    split at hname
    · cases hname
    · simpa using (Option.filter_eq_some_iff.1 hname).2
  have hregister : s.resolver.factories.register name f = .ok (s.resolver.factories.put name f) := by
    rw [Factories.register, hcustom]
    rfl
  rw [perform, hregister]
  exact ⟨hname, Ledger.get?_put_self _ _ _⟩

lemma Accounts.shares (h : s.Accounts) {serial : Nat} (hmade : (f.id, serial) ∈ s.made)
    (hroutes : s.Routes key metadata name f) :
    s.answer key metadata = .custom f serial ∧
      s.perform (.resolve key metadata) = { s with memory := selected key name s.memory } := by
  have hlookup := Ledger.lookup_of_mem h.nodup hmade
  have hserves := h.serves hroutes
  generalize s.answer key metadata = choice, s.perform (.resolve key metadata) = t at hserves ⊢
  cases hserves with
  | @shared serial' hshared =>
    obtain rfl : serial' = serial := Option.some.inj (hshared.symm.trans hlookup)
    exact ⟨rfl, rfl⟩
  | built hnone _ | refused hnone _ => cases hlookup.symm.trans hnone

/-- Along any run of operations on a resolver that remembers nothing at first, a factory succeeds at
most once until the resolver forgets, and a policy is resolved by what its factory has made by then.
A resolution that comes to no factory calls none. Every name and key that comes to a factory shares its
instance, as long as nothing is forgotten. A name that is registered anew stands for the new factory at
once. -/
theorem performAll_serves (r : Resolver σ) (m : Memory σ)
    (hnew : ∀ factory, r.instance? m factory = none) (ops : List (Operation σ)) {s : Stage σ}
    (hs : s = (⟨r, m, []⟩ : Stage σ).performAll ops) :
    (s.made.map Prod.fst).Nodup ∧
    (∀ key metadata name f, s.Routes key metadata name f →
      s.Serves key name f (s.answer key metadata) (s.perform (.resolve key metadata))) ∧
    (∀ key metadata, (∀ name f, ¬ s.Routes key metadata name f) →
      ∃ journal, s.memory.world.journal.Extends journal ∧ s.perform (.resolve key metadata) =
        { s with memory := { s.memory with world := { s.memory.world with journal } } }) ∧
    (∀ key metadata name f, s.resolver.customName? key metadata = some name →
      (s.perform (.register name f)).Routes key metadata name f) ∧
    ∀ more, .clear ∉ more → ∀ t, t = s.performAll more → ∀ key metadata name f serial,
      (f.id, serial) ∈ s.made → t.Routes key metadata name f →
        t.answer key metadata = .custom f serial ∧
          t.perform (.resolve key metadata) = { t with memory := selected key name t.memory } := by
  have hstart : (⟨r, m, []⟩ : Stage σ).Accounts := ⟨List.nodup_nil, hnew⟩
  have haccounts : s.Accounts := hs ▸ hstart.performAll ops
  refine ⟨haccounts.nodup, fun _ _ _ _ => haccounts.serves, fun _ _ => perform_of_not_routes,
    fun _ _ _ f hname => routes_register hname f, ?_⟩
  rintro more hclear _ rfl key metadata name f serial hmade hroutes
  exact (haccounts.performAll more).shares (mem_made_performAll hmade hclear) hroutes

def flaky : Factory Nat where
  id := 7
  build := ExceptT.mk fun w =>
    (if w.host = 0 then .error (.foreign "RuntimeError" "not yet") else .ok w.host,
      { w with host := w.host + 1 })
  policy _ := .override

def policyEntry (name : String) : Ledger String String :=
  ⟨[(MetaKeys.combinationPolicy, name)], by simp⟩

def moves : List (Operation Nat) :=
  [.register "short" flaky, .resolve "a" (policyEntry "short"), .register "com.example.Long" flaky,
    .resolve "a" (policyEntry " short "), .unregister "short"]

def fresh : Stage Nat := ⟨⟨0, .empty, .standard⟩, .initial .error 0, []⟩

theorem moves_performAll_serves :
    (∀ factory, fresh.resolver.instance? fresh.memory factory = none) ∧
    ((fresh.performAll moves).made = [(7, 1)] ∧ (fresh.performAll moves).memory.world.host = 2 ∧
      (fresh.performAll moves).memory.world.journal.events.map (·.name) =
        ["policy_instantiation_failed"]) ∧
    (fresh.performAll (moves ++ [.register "third" flaky])).answer "b" (policyEntry "third") =
      .custom flaky 1 ∧
    ∃ s, s = fresh.performAll (moves ++ [.clear]) ∧
      s.Serves "b" "com.example.Long" flaky (s.answer "b" (policyEntry "com.example.Long"))
        (s.perform (.resolve "b" (policyEntry "com.example.Long"))) ∧
      (s.perform (.resolve "b" (policyEntry "com.example.Long"))).made = [(7, 2)] := by
  have hnew : ∀ factory, fresh.resolver.instance? fresh.memory factory = none := fun _ => rfl
  have hmade : (fresh.performAll moves).made = [(7, 1)] := by decide +kernel
  refine ⟨hnew, ⟨hmade, by decide +kernel, by decide +kernel⟩, ?_, _, rfl, ?_, by decide +kernel⟩
  · obtain ⟨-, -, -, -, hshares⟩ := performAll_serves fresh.resolver fresh.memory hnew moves rfl
    refine (hshares [.register "third" flaky] (by simp) _ rfl "b" (policyEntry "third") "third" flaky 1
      ?_ ⟨by decide +kernel, rfl⟩).1
    change (7, 1) ∈ (fresh.performAll moves).made
    rw [hmade]
    exact List.mem_singleton_self _
  · obtain ⟨-, hserves, -⟩ :=
      performAll_serves fresh.resolver fresh.memory hnew (moves ++ [.clear]) rfl
    exact hserves "b" _ "com.example.Long" flaky ⟨by decide +kernel, rfl⟩

end Stage

end Resolver

end LayeredConfig
