import LayeredConfig.Proofs.Instances

/-! Names of custom policies. A policy is registered under its name as it is written, and chosen by the
name without the blanks around it. A name with blanks around it is accepted all the same, and then
stands for whatever has the bare name. -/

namespace LayeredConfig.Resolver

variable {σ : Type} {r : Resolver σ} {key name : String} {metadata : Ledger String String}
  {f : Factory σ}

lemma customName?_eq_some (hvisible : r.metaKeys.isMeta key = false)
    (hname : metadata.get? MetaKeys.combinationPolicy = some name)
    (hcustom : Policy.isBuiltIn (Text.strip name) = false) :
    r.customName? key metadata = some (Text.strip name) := by
  simp [customName?, hvisible, hname, hcustom]

lemma customName?_eq_none (hname : metadata.get? MetaKeys.combinationPolicy = some name)
    (hbuiltIn : Policy.isBuiltIn (Text.strip name) = true) : r.customName? key metadata = none := by
  simp [customName?, hname, hbuiltIn]

lemma plain_of_visible (hvisible : r.metaKeys.isMeta key = false)
    (hname : metadata.get? MetaKeys.combinationPolicy = some name) :
    r.plain key metadata =
      if Text.lower (Text.strip name) = Policy.collectName then .collect else .override := by
  simp [plain, hvisible, hname]

lemma plain_ne_custom (serial : Nat) : r.plain key metadata ≠ .custom f serial := by
  obtain hplain | hplain := plain_cases (r := r) key metadata
  · simp [hplain]
  · simp [hplain]

namespace Stage

variable {s : Stage σ}

def Obtains (s : Stage σ) (key : String) (metadata : Ledger String String) (f : Factory σ) : Prop :=
  ∃ serial, s.answer key metadata = .custom f serial ∧
    (f.id, serial) ∈ (s.perform (.resolve key metadata)).made

lemma Serves.obtains {choice : Choice σ} {t : Stage σ} (h : s.Serves key name f choice t)
    (hbuilds : ∃ serial w, f.build.run.run s.memory.world = (.ok serial, w)) :
    ∃ serial, choice = .custom f serial ∧ (f.id, serial) ∈ t.made := by
  cases h with
  | shared hmade => exact ⟨_, rfl, Ledger.lookup_mem hmade⟩
  | built hmade hbuild => exact ⟨_, rfl, List.mem_append_right _ (List.mem_singleton_self _)⟩
  | refused hmade hbuild =>
    obtain ⟨serial, w, hserial⟩ := hbuilds
    cases hserial.symm.trans hbuild

lemma Serves.factory_eq {g : Factory σ} {choice : Choice σ} {t : Stage σ} {serial : Nat}
    (h : s.Serves key name g choice t) (hchoice : choice = .custom f serial) : g = f := by
  cases h with
  | shared _ | built _ _ => exact (Choice.custom.inj hchoice).1
  | refused _ _ => cases hchoice

lemma answer_of_plain (h : s.resolver.customName? key metadata = none) :
    s.answer key metadata = s.resolver.plain key metadata := by
  obtain ⟨journal, -, hplain⟩ := resolve_plain h s.memory
  rw [answer, hplain]

lemma resolve_of_missing (h : s.resolver.customName? key metadata = some name)
    (hmissing : s.resolver.factories.get? name = none) :
    s.resolver.resolve key metadata s.memory =
      (.override, failed key name (.unknownPolicy name) s.memory) := by
  rw [resolve_custom h, custom_unknown hmissing]

lemma metaKeys_perform (s : Stage σ) (op : Operation σ) :
    (s.perform op).resolver.metaKeys = s.resolver.metaKeys := by
  cases op with
  | register name f =>
    rw [perform]
    cases s.resolver.factories.register name f <;> rfl
  | unregister _ | resolve _ _ | clear => rfl

lemma metaKeys_performAll (s : Stage σ) (ops : List (Operation σ)) :
    (s.performAll ops).resolver.metaKeys = s.resolver.metaKeys := by
  induction ops generalizing s with
  | nil => rfl
  | cons op ops ih => exact (ih (s.perform op)).trans (s.metaKeys_perform op)

lemma Accounts.obtains_iff (h : s.Accounts)
    (hbuilds : ∃ serial w, f.build.run.run s.memory.world = (.ok serial, w))
    (hvisible : s.resolver.metaKeys.isMeta key = false)
    (hname : metadata.get? MetaKeys.combinationPolicy = some name) :
    s.Obtains key metadata f ↔ Policy.isBuiltIn (Text.strip name) = false ∧
      s.resolver.factories.get? (Text.strip name) = some f := by
  constructor
  · rintro ⟨serial, hanswer, -⟩
    cases hbuiltIn : Policy.isBuiltIn (Text.strip name) with
    | true =>
      rw [answer_of_plain (customName?_eq_none hname hbuiltIn)] at hanswer
      exact absurd hanswer (plain_ne_custom serial)
    | false =>
      have hcustom := customName?_eq_some (r := s.resolver) hvisible hname hbuiltIn
      cases hf : s.resolver.factories.get? (Text.strip name) with
      | none =>
        rw [answer, resolve_of_missing hcustom hf] at hanswer
        cases hanswer
      | some g => exact ⟨rfl, congrArg some ((h.serves ⟨hcustom, hf⟩).factory_eq hanswer)⟩
  · rintro ⟨hbuiltIn, hf⟩
    exact (h.serves ⟨customName?_eq_some hvisible hname hbuiltIn, hf⟩).obtains hbuilds

/-- After any run of operations on a resolver that remembers nothing at first, a factory that is
registered under a bare name is had through it at once. Any other name that is accepted is read without
the blanks around it, so the factory is had only if the bare name is not built in and is registered for
it; a built-in policy takes the place of the factory, or a missing one is reported. -/
theorem register_obtains_iff (r : Resolver σ) (m : Memory σ)
    (hnew : ∀ factory, r.instance? m factory = none) (ops : List (Operation σ)) {s t : Stage σ}
    (hs : s = (⟨r, m, []⟩ : Stage σ).performAll ops) {name : String} {f : Factory σ}
    {factories : Factories σ} (haccepted : s.resolver.factories.register name f = .ok factories)
    (ht : t = s.perform (.register name f))
    (hbuilds : ∃ serial w, f.build.run.run t.memory.world = (.ok serial, w)) {key : String}
    (hvisible : r.metaKeys.isMeta key = false) {metadata : Ledger String String}
    (hname : metadata.get? MetaKeys.combinationPolicy = some name) :
    (Text.strip name = name → t.Obtains key metadata f) ∧
    (t.Obtains key metadata f ↔ Policy.isBuiltIn (Text.strip name) = false ∧
      t.resolver.factories.get? (Text.strip name) = some f) ∧
    (Policy.isBuiltIn (Text.strip name) = true → t.answer key metadata =
      if Text.lower (Text.strip name) = Policy.collectName then .collect else .override) ∧
    (Policy.isBuiltIn (Text.strip name) = false →
      t.resolver.factories.get? (Text.strip name) = none →
        t.resolver.resolve key metadata t.memory =
          (.override, failed key (Text.strip name) (.unknownPolicy (Text.strip name)) t.memory)) := by
  have hstart : (⟨r, m, []⟩ : Stage σ).Accounts := ⟨List.nodup_nil, hnew⟩
  have haccounts : t.Accounts := by
    rw [ht, hs]
    exact (hstart.performAll ops).perform _
  have hmetaKeys : t.resolver.metaKeys = r.metaKeys := by
    rw [ht, metaKeys_perform, hs, metaKeys_performAll]
  rw [← hmetaKeys] at hvisible
  have hiff := haccounts.obtains_iff hbuilds hvisible hname
  have hcustom : Policy.isBuiltIn name = false := by
    rw [Factories.register] at haccepted
    split at haccepted
    · cases haccepted
    · simpa using ‹¬ Policy.isBuiltIn name = true›
  refine ⟨fun hbare => ?_, hiff, fun hbuiltIn => ?_, fun hbuiltIn hmissing => ?_⟩
  · have hregistered : t.resolver.factories.get? name = some f := by
      rw [ht, perform, Factories.register, hcustom]
      exact Ledger.get?_put_self _ _ _
    rw [hiff, hbare]
    exact ⟨hcustom, hregistered⟩
  · rw [answer_of_plain (customName?_eq_none hname hbuiltIn), plain_of_visible hvisible hname]
  · exact resolve_of_missing (customName?_eq_some hvisible hname hbuiltIn) hmissing

def steady : Factory Nat where
  id := 5
  build := pure 1
  policy _ := .collect

theorem renamed_register_obtains :
    ((fresh.performAll moves).perform (.register "com.example.Long" steady)).Obtains "b"
      (policyEntry "com.example.Long") steady :=
  (register_obtains_iff fresh.resolver fresh.memory (fun _ => rfl) moves rfl
    rfl rfl ⟨1, _, rfl⟩ (by decide) rfl).1
    (by decide +kernel)

/-- Two names that are accepted and do not stand for the factory. The one is missing when it is looked
up, and the other stands for a policy that is built in. -/
theorem padded_names_lost :
    fresh.resolver.metaKeys.isMeta "k" = false ∧
    (∃ factories, fresh.resolver.factories.register " first " steady = .ok factories) ∧
    (∀ w, ∃ serial w', steady.build.run.run w = (.ok serial, w')) ∧
    (fresh.perform (.register " first " steady)).answer "k" (policyEntry " first ") = .override ∧
    (∃ factories, fresh.resolver.factories.register "collect " steady = .ok factories) ∧
    (fresh.perform (.register "collect " steady)).answer "k" (policyEntry "collect ") = .collect := by
  refine ⟨by decide +kernel, ⟨_, rfl⟩, fun w => ⟨1, w, rfl⟩, ?_, ⟨_, rfl⟩, ?_⟩
  · have hcustom : (fresh.perform (.register " first " steady)).resolver.customName? "k"
        (policyEntry " first ") = some "first" := by decide +kernel
    rw [answer, resolve_of_missing hcustom (by decide +kernel)]
  · have hbuiltIn : (fresh.perform (.register "collect " steady)).resolver.customName? "k"
        (policyEntry "collect ") = none := by decide +kernel
    rw [answer_of_plain hbuiltIn, plain_of_visible (by decide +kernel) rfl, if_pos (by decide +kernel)]

end Stage

end LayeredConfig.Resolver
