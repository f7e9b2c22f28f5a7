import LayeredConfig.Proofs.Settling
import Mathlib.Data.List.Forall2
import Mathlib.Tactic.Common

/-! Two computations side by side. They are coupled if from states in a relation both come to such
states again, with results in a relation of their own. They are alike if the states are the same on
both sides; what tells the results apart then leaves no trace in the state. -/

namespace LayeredConfig

variable {σ τ α β γ δ : Type}

def Coupled (T : τ → τ → Prop) (R : α → β → Prop) (x : StateM τ α) (y : StateM τ β) : Prop :=
  ∀ t u, T t u → R (x.run t).1 (y.run u).1 ∧ T (x.run t).2 (y.run u).2

namespace Coupled

variable {T : τ → τ → Prop} {R : α → β → Prop} {S : γ → δ → Prop}

lemma pure {a : α} {b : β} (h : R a b) : Coupled T R (pure a : StateM τ α) (pure b) :=
  fun _ _ ht => ⟨h, ht⟩

lemma bind {x : StateM τ α} {y : StateM τ β} {f : α → StateM τ γ} {g : β → StateM τ δ}
    (h : Coupled T R x y) (hf : ∀ a b, R a b → Coupled T S (f a) (g b)) :
    Coupled T S (x >>= f) (y >>= g) := by
  intro t u ht
  obtain ⟨hr, hend⟩ := h t u ht
  exact hf _ _ hr _ _ hend

end Coupled

def Alike (R : α → β → Prop) (x : StateM τ α) (y : StateM τ β) : Prop :=
  ∀ t, R (x.run t).1 (y.run t).1 ∧ (x.run t).2 = (y.run t).2

namespace Alike

variable {R : α → β → Prop}

lemma iff_coupled {x : StateM τ α} {y : StateM τ β} : Alike R x y ↔ Coupled Eq R x y :=
  ⟨fun h t _ ht => ht ▸ h t, fun h t => h t t rfl⟩

lemma refl (x : StateM τ α) : Alike Eq x x := fun _ => ⟨rfl, rfl⟩

lemma of_ensures {x : StateM τ α} {Q : α → Prop} (h : Ensures (fun _ => True) x Q) :
    Alike (fun a b => a = b ∧ Q a) x x :=
  fun t => ⟨⟨rfl, (h t trivial).1⟩, rfl⟩

lemma pure {a : α} {b : β} (h : R a b) : Alike R (pure a : StateM τ α) (pure b) :=
  fun _ => ⟨h, rfl⟩

lemma mono {T : α → β → Prop} {x : StateM τ α} {y : StateM τ β} (h : Alike R x y)
    (hR : ∀ a b, R a b → T a b) : Alike T x y :=
  fun t => ⟨hR _ _ (h t).1, (h t).2⟩

lemma eq {x y : StateM τ α} (h : Alike Eq x y) : x = y := by
  funext t
  exact Prod.ext (h t).1 (h t).2

end Alike

lemma Alike.recall {R : α → β → Prop} {x : Note σ α} {y : Note σ β} (h : Alike R x y) :
    Alike R (Note.recall x) (Note.recall y) := by
  intro m
  obtain ⟨hr, hw⟩ := h m.world
  refine ⟨hr, ?_⟩
  change ({ m with world := (x.run m.world).2 } : Memory σ) = { m with world := (y.run m.world).2 }
  rw [hw]

inductive Results (R : α → β → Prop) : Except Failure α → Except Failure β → Prop
  | ok {a : α} {b : β} : R a b → Results R (.ok a) (.ok b)
  | error (failure : Failure) : Results R (.error failure) (.error failure)

lemma Results.eq {r s : Except Failure α} (h : Results Eq r s) : r = s := by
  cases h with
  | ok hab => rw [hab]
  | error failure => rfl

lemma Results.refl (r : Except Failure α) : Results Eq r r := by
  cases r with
  | ok a => exact .ok rfl
  | error failure => exact .error failure

abbrev Accord (T : τ → τ → Prop) (R : α → β → Prop) (x : ExceptT Failure (StateM τ) α)
    (y : ExceptT Failure (StateM τ) β) : Prop :=
  Coupled T (Results R) x.run y.run

namespace Accord

variable {T : τ → τ → Prop} {R : α → β → Prop} {S : γ → δ → Prop}

lemma pure {a : α} {b : β} (h : R a b) :
    Accord T R (pure a : ExceptT Failure (StateM τ) α) (pure b) :=
  Coupled.pure (.ok h)

lemma make {r : Except Failure α} {s : Except Failure β} (h : Results R r s) :
    Accord T R (ExceptT.mk (Pure.pure r : StateM τ _)) (ExceptT.mk (Pure.pure s)) :=
  Coupled.pure h

lemma before {T' : τ → τ → Prop} {x : ExceptT Failure (StateM τ) α}
    {y : ExceptT Failure (StateM τ) β} {f : α → ExceptT Failure (StateM τ) γ}
    {g : β → ExceptT Failure (StateM τ) δ} (h : Accord T R x y) (hT : ∀ t u, T t u → T' t u)
    (hf : ∀ a b, R a b → Accord T' S (f a) (g b)) {t u : τ} (ht : T t u) :
    Results S ((x >>= f).run.run t).1 ((y >>= g).run.run u).1 ∧
      T' ((x >>= f).run.run t).2 ((y >>= g).run.run u).2 := by
  -- The relation is given up for the weaker one between the two parts, also where the first fails.
  obtain ⟨hr, hend⟩ := h t u ht
  generalize hx : x.run.run t = start, hy : y.run.run u = start' at hr hend
  obtain ⟨r, t'⟩ := start
  obtain ⟨s, u'⟩ := start'
  cases hr with
  | ok hab =>
    rw [run_bind_ok hx, run_bind_ok hy]
    exact hf _ _ hab t' u' (hT _ _ hend)
  | error failure =>
    rw [run_bind_error hx, run_bind_error hy]
    exact ⟨.error failure, hT _ _ hend⟩

lemma bind {x : ExceptT Failure (StateM τ) α} {y : ExceptT Failure (StateM τ) β}
    {f : α → ExceptT Failure (StateM τ) γ} {g : β → ExceptT Failure (StateM τ) δ}
    (h : Accord T R x y) (hf : ∀ a b, R a b → Accord T S (f a) (g b)) :
    Accord T S (x >>= f) (y >>= g) :=
  fun _ _ ht => h.before (fun _ _ h => h) hf ht

lemma lift {x : StateM τ α} {y : StateM τ β} (h : Coupled T R x y) :
    Accord T R (ExceptT.lift x) (ExceptT.lift y) :=
  h.bind fun _ _ hr => Coupled.pure (.ok hr)

lemma foldlM {f : γ → α → ExceptT Failure (StateM τ) γ} {g : δ → β → ExceptT Failure (StateM τ) δ}
    {xs : List α} {ys : List β} (h : List.Forall₂ R xs ys)
    (hf : ∀ c d a b, S c d → R a b → Accord T S (f c a) (g d b)) {c : γ} {d : δ} (hcd : S c d) :
    Accord T S (xs.foldlM f c) (ys.foldlM g d) := by
  induction h generalizing c d with
  | nil => exact pure hcd
  | cons hab _ ih =>
    rw [List.foldlM_cons, List.foldlM_cons]
    exact (hf c d _ _ hcd hab).bind fun _ _ => ih

end Accord

def Parallel (R : α → β → Prop) (x : ExceptT Failure (StateM τ) α)
    (y : ExceptT Failure (StateM τ) β) : Prop :=
  Alike (Results R) x.run y.run

namespace Parallel

variable {R : α → β → Prop} {S : γ → δ → Prop}

lemma iff_accord {x : ExceptT Failure (StateM τ) α} {y : ExceptT Failure (StateM τ) β} :
    Parallel R x y ↔ Accord Eq R x y :=
  Alike.iff_coupled

lemma pure {a : α} {b : β} (h : R a b) :
    Parallel R (pure a : ExceptT Failure (StateM τ) α) (pure b) :=
  Alike.pure (.ok h)

lemma make {r : Except Failure α} {s : Except Failure β} (h : Results R r s) :
    Parallel R (ExceptT.mk (Pure.pure r : StateM τ _)) (ExceptT.mk (Pure.pure s)) :=
  Alike.pure h

lemma bind {x : ExceptT Failure (StateM τ) α} {y : ExceptT Failure (StateM τ) β}
    {f : α → ExceptT Failure (StateM τ) γ} {g : β → ExceptT Failure (StateM τ) δ}
    (h : Parallel R x y) (hf : ∀ a b, R a b → Parallel S (f a) (g b)) :
    Parallel S (x >>= f) (y >>= g) :=
  iff_accord.2 ((iff_accord.1 h).bind fun a b hr => iff_accord.1 (hf a b hr))

lemma lift {x : StateM τ α} {y : StateM τ β} {f : α → ExceptT Failure (StateM τ) γ}
    {g : β → ExceptT Failure (StateM τ) δ} (h : Alike R x y)
    (hf : ∀ a b, R a b → Parallel S (f a) (g b)) :
    Parallel S (ExceptT.lift x >>= f) (ExceptT.lift y >>= g) :=
  (iff_accord.2 (Accord.lift (Alike.iff_coupled.1 h))).bind hf

lemma refl (x : ExceptT Failure (StateM τ) α) : Parallel Eq x x :=
  fun _ => ⟨.refl _, rfl⟩

lemma eq {x y : ExceptT Failure (StateM τ) α} (h : Parallel Eq x y) : x = y :=
  Alike.eq (Alike.mono h fun _ _ => Results.eq)

lemma same {x : ExceptT Failure (StateM τ) α} {f : α → ExceptT Failure (StateM τ) γ}
    {g : α → ExceptT Failure (StateM τ) δ} (hf : ∀ a, Parallel S (f a) (g a)) :
    Parallel S (x >>= f) (x >>= g) :=
  bind (.refl x) fun a _ hab => hab ▸ hf a

lemma call {x : Call σ α} {y : Call σ β} (h : Parallel R x y) :
    Parallel R (liftM x : Act σ α) (liftM y : Act σ β) :=
  Alike.recall h

lemma foldlM {f : γ → α → ExceptT Failure (StateM τ) γ} {g : δ → β → ExceptT Failure (StateM τ) δ}
    {xs : List α} {ys : List β} (h : List.Forall₂ R xs ys)
    (hf : ∀ c d a b, S c d → R a b → Parallel S (f c a) (g d b)) {c : γ} {d : δ} (hcd : S c d) :
    Parallel S (xs.foldlM f c) (ys.foldlM g d) :=
  iff_accord.2 (Accord.foldlM h (fun c d a b hcd hab => iff_accord.1 (hf c d a b hcd hab)) hcd)

lemma mapM {f : α → ExceptT Failure (StateM τ) γ} {g : β → ExceptT Failure (StateM τ) δ}
    {xs : List α} {ys : List β} (h : List.Forall₂ R xs ys)
    (hf : ∀ a b, R a b → Parallel S (f a) (g b)) :
    Parallel (List.Forall₂ S) (xs.mapM f) (ys.mapM g) := by
  induction h with
  | nil => exact pure .nil
  | cons hab _ ih =>
    rw [List.mapM_cons, List.mapM_cons]
    exact bind (hf _ _ hab) fun _ _ hcd => bind ih fun _ _ hrest => pure (.cons hcd hrest)

end Parallel

end LayeredConfig
