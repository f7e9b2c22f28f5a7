import LayeredConfig.Policy
import LayeredConfig.Proofs.Settling
import Mathlib.Tactic.Common

/-! The policy that combines a key. A regular resolver chooses by the meta-entries alone: which
instances it remembers makes no difference to how a key is combined. -/

namespace LayeredConfig

variable {σ : Type}

/-- A policy as a function of the key, the running value, the entry that the source holds for the
key and the meta-entries. A rule may fail. -/
abbrev Rule :=
  String → Option String → Option Entry → (String → Option String) → Except Failure (Option String)

namespace Rule

def override : Rule := fun _ current entry _ => .ok ((entry.bind (·.value)).or current)

def joined (metadata : String → Option String) : Option String → Option String → Option String
  | current, none => current
  | none, some value => some value
  | some current, some value =>
    some (current ++ (metadata MetaKeys.itemSeparator).getD Policy.defaultSeparator ++ value)

def collect : Rule := fun _ current entry metadata =>
  .ok (joined metadata current (entry.bind (·.value)))

def Total (φ : Rule) : Prop := ∀ key current entry metadata, ∃ v, φ key current entry metadata = .ok v

lemma override_total : override.Total := fun _ _ _ _ => ⟨_, rfl⟩

lemma collect_total : collect.Total := fun _ _ _ _ => ⟨_, rfl⟩

end Rule

variable {P : Circumstance σ}

def Policy.Obeys (P : Circumstance σ) (p : Policy σ) (rule : Rule) : Prop :=
  ∀ current key (source : Source σ) entry metadata, Yields P.world (source.get key) (.ok entry) →
    Yields P.world (p.combine current key source metadata) (rule key current entry metadata.get?)

lemma Policy.override_obeys : (Policy.override : Policy σ).Obeys P Rule.override :=
  fun _ _ _ _ _ h => h.bind_ok (Yields.pure _)

lemma Policy.collect_obeys : (Policy.collect : Policy σ).Obeys P Rule.collect := by
  intro current key source entry metadata h
  refine h.bind_ok ?_
  rw [Rule.collect]
  cases entry.bind (·.value) <;> cases current <;> exact Yields.pure _

namespace Resolver

/-- Each factory always fails, or always builds policies that obey one rule. A factory is known by
its number. -/
structure Regular (P : Circumstance σ) (r : Resolver σ) where
  rule : Factory σ → Option Rule
  identity : ∀ f ∈ r.factories.values, ∀ g ∈ r.factories.values, f.id = g.id → f = g
  fails : ∀ f ∈ r.factories.values, rule f = none →
    Ensures P.world f.build.run fun s => ∃ failure, s = .error failure
  builds : ∀ f ∈ r.factories.values, ∀ φ, rule f = some φ →
    Ensures P.world f.build.run fun s => ∃ serial, s = .ok serial
  obeys : ∀ f ∈ r.factories.values, ∀ φ, rule f = some φ → ∀ serial, (f.policy serial).Obeys P φ

def instance? (r : Resolver σ) (m : Memory σ) (factory : Nat) : Option Nat :=
  (m.instances.getD r.slot .empty).get? factory

namespace Regular

variable {r : Resolver σ} (g : r.Regular P)

def memory (m : Memory σ) : Prop :=
  P.world m.world ∧ ∀ f ∈ r.factories.values, g.rule f = none → r.instance? m f.id = none

lemma within : P.Within g.memory := ⟨fun _ h => h.1, fun _ _ h hw => ⟨hw, h.2⟩⟩

def custom (name : String) : Option Rule := (r.factories.get? name).bind g.rule

def chosen (key : String) (metadata : String → Option String) : Rule :=
  if r.metaKeys.isMeta key then .override
  else match metadata MetaKeys.combinationPolicy with
    | none => .override
    | some text =>
      if Text.lower (Text.strip text) = Policy.overrideName then .override
      else if Text.lower (Text.strip text) = Policy.collectName then .collect
      else (g.custom (Text.strip text)).getD .override

def Total : Prop := ∀ f ∈ r.factories.values, ∀ φ, g.rule f = some φ → φ.Total

lemma chosen_total (h : g.Total) (key : String) (metadata : String → Option String) :
    (g.chosen key metadata).Total := by
  rw [chosen]
  split
  · exact Rule.override_total
  · cases metadata MetaKeys.combinationPolicy with
    | none => exact Rule.override_total
    | some text =>
      simp only
      split
      · exact Rule.override_total
      · split
        · exact Rule.collect_total
        · cases hc : g.custom (Text.strip text) with
          | none => exact Rule.override_total
          | some φ =>
            obtain ⟨f, hf, hrule⟩ := Option.bind_eq_some_iff.1 hc
            exact h f (Ledger.mem_values_of_get? hf) φ hrule

lemma remember_ensures {f : Factory σ} {φ : Rule} (hf : f ∈ r.factories.values)
    (hφ : g.rule f = some φ) (serial : Nat) :
    Ensures g.memory (r.remember f.id serial) fun _ => True := by
  intro m hm
  refine ⟨trivial, hm.1, fun f' hf' hfails => ?_⟩
  -- A factory that fails is not the one whose instance is remembered here.
  have hid : f'.id ≠ f.id := by
    intro hid
    rw [g.identity f' hf' f hf hid, hφ] at hfails
    cases hfails
  have hold := hm.2 f' hf' hfails
  simp only [remember, instance?, Ledger.getD, StateT.run, Ledger.get?_put_self, Option.getD_some,
    Ledger.get?_put, hid, if_false] at hold ⊢
  exact hold

lemma serial?_ensures {f : Factory σ} (hf : f ∈ r.factories.values) :
    Ensures g.memory (r.serial? f.id) fun s => g.rule f = none → s = none :=
  fun _ hm => ⟨hm.2 f hf, hm⟩

lemma custom_ensures (name : String) :
    Ensures g.memory (r.custom name).run fun s =>
      match g.custom name with
      | none => ∃ failure, s = .error failure
      | some φ => ∃ choice : Choice σ, s = .ok choice ∧ choice.policy.Obeys P φ := by
  rw [Resolver.custom, custom]
  cases hget : r.factories.get? name with
  | none => exact Ensures.pure ⟨_, rfl⟩
  | some f =>
    have hf : f ∈ r.factories.values := Ledger.mem_values_of_get? hget
    refine Ensures.lift (g.serial?_ensures hf) fun s hs => ?_
    cases hrule : g.rule f with
    | none =>
      -- A factory that fails has left no instance, so it is called here.
      rw [hs hrule]
      refine Ensures.lift (Ensures.recall g.within (g.fails f hf hrule)) ?_
      rintro _ ⟨failure, rfl⟩
      simp only [Option.bind_some, hrule]
      exact Ensures.pure ⟨_, rfl⟩
    | some φ =>
      simp only [Option.bind_some, hrule]
      cases s with
      | some serial => exact Ensures.pure ⟨_, rfl, g.obeys f hf φ hrule serial⟩
      | none =>
        refine Ensures.lift (Ensures.recall g.within (g.builds f hf φ hrule)) ?_
        rintro _ ⟨serial, rfl⟩
        refine Ensures.lift (g.remember_ensures hf hrule serial) fun _ _ => ?_
        exact Ensures.pure ⟨_, rfl, g.obeys f hf φ hrule serial⟩

lemma resolve_ensures (key : String) (metadata : Ledger String String) :
    Ensures g.memory (r.resolve key metadata)
      fun choice => choice.policy.Obeys P (g.chosen key metadata.get?) := by
  rw [Resolver.resolve, chosen]
  split
  · exact Ensures.pure Policy.override_obeys
  · cases metadata.get? MetaKeys.combinationPolicy with
    | none => exact Ensures.pure Policy.override_obeys
    | some text =>
      simp only
      split
      · exact Ensures.pure Policy.override_obeys
      · split
        · refine Ensures.bind (ensures_report g.within _ _ _ _ _) fun _ _ => ?_
          exact Ensures.pure Policy.collect_obeys
        · refine Ensures.bind (g.custom_ensures (Text.strip text)) fun s hs => ?_
          cases hc : g.custom (Text.strip text) with
          | none =>
            rw [hc] at hs
            obtain ⟨failure, rfl⟩ := hs
            refine Ensures.bind (ensures_report g.within _ _ _ _ _) fun _ _ => ?_
            exact Ensures.pure Policy.override_obeys
          | some φ =>
            rw [hc] at hs
            obtain ⟨choice, rfl, hobeys⟩ := hs
            refine Ensures.bind (ensures_report g.within _ _ _ _ _) fun _ _ => ?_
            exact Ensures.pure hobeys

end Regular

end Resolver

end LayeredConfig
