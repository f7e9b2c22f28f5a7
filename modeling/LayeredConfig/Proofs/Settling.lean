import LayeredConfig.World
import Mathlib.Tactic.Common

/-! Computations whose outcome does not depend on where they start. A circumstance is a condition
on the world that says nothing of the journal; a computation yields `r` under a condition if it
gives `r` from every state that meets the condition, and again leaves such a state. -/

namespace LayeredConfig

variable {σ τ α β : Type}

def Ensures (P : τ → Prop) (x : StateM τ α) (Q : α → Prop) : Prop :=
  ∀ t, P t → Q (x.run t).1 ∧ P (x.run t).2

namespace Ensures

variable {P : τ → Prop} {Q : α → Prop}

lemma pure {a : α} (h : Q a) : Ensures P (pure a) Q := fun _ ht => ⟨h, ht⟩

lemma bind {x : StateM τ α} {f : α → StateM τ β} {S : β → Prop} (hx : Ensures P x Q)
    (hf : ∀ a, Q a → Ensures P (f a) S) : Ensures P (x >>= f) S := by
  intro t ht
  obtain ⟨ha, ht'⟩ := hx t ht
  exact hf _ ha _ ht'

lemma mono {Q' : α → Prop} {x : StateM τ α} (hx : Ensures P x Q) (h : ∀ a, Q a → Q' a) :
    Ensures P x Q' := fun t ht => (hx t ht).imp_left (h _)

lemma mapM {f : α → StateM τ β} {R : β → Prop} {xs : List α} (h : ∀ a ∈ xs, Ensures P (f a) R) :
    Ensures P (xs.mapM f) fun ys => ∀ y ∈ ys, R y := by
  induction xs with
  | nil => exact pure (List.forall_mem_nil _)
  | cons a xs ih =>
    rw [List.forall_mem_cons] at h
    rw [List.mapM_cons]
    refine h.1.bind fun y hy => (ih h.2).bind fun ys hys => ?_
    exact pure (List.forall_mem_cons.2 ⟨hy, hys⟩)

lemma on {P' : τ → Prop} {x : StateM τ α} (hx : Ensures P x Q) (h : ∀ t, P t ↔ P' t) :
    Ensures P' x Q := by
  intro t ht
  obtain ⟨ha, ht'⟩ := hx t ((h t).2 ht)
  exact ⟨ha, (h _).1 ht'⟩

lemma lift {x : StateM τ α} {f : α → ExceptT Failure (StateM τ) β} {S : Except Failure β → Prop}
    (hx : Ensures P x Q) (hf : ∀ a, Q a → Ensures P (f a).run S) :
    Ensures P (ExceptT.lift x >>= f).run S := by
  change Ensures P ((x >>= fun a => Pure.pure (.ok a)) >>= ExceptT.bindCont f) S
  rw [bind_assoc]
  exact Ensures.bind hx hf

end Ensures

def Gives (x : ExceptT Failure (StateM τ) α) (Q : α → Prop) : Prop :=
  Ensures (fun _ => True) x.run fun r => ∀ a, r = .ok a → Q a

namespace Gives

variable {Q : α → Prop} {R : β → Prop}

lemma make {r : Except Failure α} (h : ∀ a, r = .ok a → Q a) :
    Gives (ExceptT.mk (Pure.pure r) : ExceptT Failure (StateM τ) α) Q := Ensures.pure h

lemma pure {a : α} (h : Q a) : Gives (pure a : ExceptT Failure (StateM τ) α) Q :=
  make fun _ hr => Except.ok.inj hr ▸ h

lemma throw (failure : Failure) : Gives (throw failure : ExceptT Failure (StateM τ) α) Q :=
  make fun _ hr => (nomatch hr)

lemma bind {x : ExceptT Failure (StateM τ) α} {f : α → ExceptT Failure (StateM τ) β}
    (hx : Gives x Q) (hf : ∀ a, Q a → Gives (f a) R) : Gives (x >>= f) R := by
  change Ensures (fun _ => True) (x.run >>= ExceptT.bindCont f) _
  refine Ensures.bind hx fun r hr => ?_
  cases r with
  | ok a => exact hf a (hr a rfl)
  | error failure => exact throw failure

lemma after {x : ExceptT Failure (StateM τ) α} {f : α → ExceptT Failure (StateM τ) β}
    (hf : ∀ a, Gives (f a) R) : Gives (x >>= f) R :=
  bind (Q := fun _ => True) (fun _ _ => ⟨fun _ _ => trivial, trivial⟩) fun a _ => hf a

lemma foldlM {f : β → α → ExceptT Failure (StateM τ) β} {xs : List α}
    (h : ∀ b, ∀ a ∈ xs, R b → Gives (f b a) R) {b : β} (hb : R b) : Gives (xs.foldlM f b) R := by
  induction xs generalizing b with
  | nil => exact pure hb
  | cons a xs ih =>
    rw [List.foldlM_cons]
    refine (h b a (by simp) hb).bind fun c hc => ?_
    exact ih (fun b a ha => h b a (by simp [ha])) hc

lemma of_run {x : ExceptT Failure (StateM τ) α} (h : Gives x Q) {t : τ} {a : α}
    (hrun : (x.run.run t).1 = .ok a) : Q a :=
  (h t trivial).1 a hrun

end Gives

lemma run_bind_ok {x : ExceptT Failure (StateM τ) α} {f : α → ExceptT Failure (StateM τ) β}
    {t t' : τ} {a : α} (h : x.run.run t = (.ok a, t')) :
    (x >>= f).run.run t = (f a).run.run t' := by
  change (ExceptT.bindCont f (x.run.run t).1).run (x.run.run t).2 = _
  rw [h]
  rfl

lemma run_bind_error {x : ExceptT Failure (StateM τ) α} {f : α → ExceptT Failure (StateM τ) β}
    {t t' : τ} {failure : Failure} (h : x.run.run t = (.error failure, t')) :
    (x >>= f).run.run t = (.error failure, t') := by
  change (ExceptT.bindCont f (x.run.run t).1).run (x.run.run t).2 = _
  rw [h]
  rfl

/-- The computation gives `r`, a failure included, whenever `P` holds. -/
def Yields (P : τ → Prop) (x : ExceptT Failure (StateM τ) α) (r : Except Failure α) : Prop :=
  Ensures P x.run (· = r)

namespace Yields

variable {P : τ → Prop}

lemma pure (a : α) : Yields P (pure a) (.ok a) := Ensures.pure rfl

lemma make (r : Except Failure α) : Yields P (ExceptT.mk (Pure.pure r)) r := Ensures.pure rfl

lemma throw (failure : Failure) :
    Yields P (throw failure : ExceptT Failure (StateM τ) α) (.error failure) :=
  make _

lemma bind {x : ExceptT Failure (StateM τ) α} {f : α → ExceptT Failure (StateM τ) β}
    {r : Except Failure α} {g : α → Except Failure β} (hx : Yields P x r)
    (hf : ∀ a, r = .ok a → Yields P (f a) (g a)) : Yields P (x >>= f) (r >>= g) := by
  change Ensures P (x.run >>= ExceptT.bindCont f) _
  refine Ensures.bind hx fun s hs => ?_
  rw [hs]
  cases r with
  | ok a => exact hf a rfl
  | error failure => exact Ensures.pure rfl

lemma bind_ok {x : ExceptT Failure (StateM τ) α} {f : α → ExceptT Failure (StateM τ) β} {a : α}
    {r : Except Failure β} (hx : Yields P x (.ok a)) (hf : Yields P (f a) r) :
    Yields P (x >>= f) r :=
  bind (g := fun _ => r) hx fun b hb => by cases hb; exact hf

lemma keep {x : ExceptT Failure (StateM τ) α} {f : α → ExceptT Failure (StateM τ) α}
    {r : Except Failure α} (hx : Yields P x r) (hf : ∀ a, Yields P (f a) (.ok a)) :
    Yields P (x >>= f) r := by
  rw [← bind_pure r]
  exact hx.bind fun a _ => hf a

lemma unique {x : ExceptT Failure (StateM τ) α} {r r' : Except Failure α} (h : Yields P x r)
    (h' : Yields P x r') {t : τ} (ht : P t) : r = r' :=
  (h t ht).1.symm.trans (h' t ht).1

lemma lift {x : StateM τ α} {Q : α → Prop} {f : α → ExceptT Failure (StateM τ) β}
    {r : Except Failure β} (hx : Ensures P x Q) (hf : ∀ a, Q a → Yields P (f a) r) :
    Yields P (ExceptT.lift x >>= f) r :=
  Ensures.lift hx hf

lemma foldlM {f : β → α → ExceptT Failure (StateM τ) β} {g : β → α → Except Failure β}
    {xs : List α} (h : ∀ b, ∀ a ∈ xs, Yields P (f b a) (g b a)) (b : β) :
    Yields P (xs.foldlM f b) (xs.foldlM g b) := by
  induction xs generalizing b with
  | nil => exact pure b
  | cons a xs ih =>
    rw [List.foldlM_cons, List.foldlM_cons]
    exact (h b a (by simp)).bind fun c _ => ih (fun b a ha => h b a (by simp [ha])) c

lemma foldlM_ok {f : β → α → ExceptT Failure (StateM τ) β} {g : β → α → β} {xs : List α}
    (h : ∀ b, ∀ a ∈ xs, Yields P (f b a) (.ok (g b a))) (b : β) :
    Yields P (xs.foldlM f b) (.ok (xs.foldl g b)) := by
  induction xs generalizing b with
  | nil => exact pure b
  | cons a xs ih =>
    rw [List.foldlM_cons, List.foldl_cons]
    exact (h b a (by simp)).bind_ok (ih (fun b a ha => h b a (by simp [ha])) _)

lemma mapM {f : α → ExceptT Failure (StateM τ) β} {g : α → β} {xs : List α}
    (h : ∀ a ∈ xs, Yields P (f a) (.ok (g a))) : Yields P (xs.mapM f) (.ok (xs.map g)) := by
  induction xs with
  | nil => exact pure []
  | cons a xs ih =>
    rw [List.mapM_cons, List.map_cons]
    exact (h a (by simp)).bind_ok ((ih fun a ha => h a (by simp [ha])).bind_ok (pure _))

end Yields

/-- A condition on the world apart from its journal. -/
def Circumstance (σ : Type) := Ledger Nat Bool → σ → Prop

namespace Circumstance

def always : Circumstance Unit := fun _ _ => True

variable (P : Circumstance σ)

def world (w : World σ) : Prop := P w.switches w.host

def memory (m : Memory σ) : Prop := P.world m.world

/-- The condition on the memory implies the circumstance and leaves the world free within it. -/
structure Within (M : Memory σ → Prop) : Prop where
  world : ∀ m, M m → P.world m.world
  update : ∀ m w, M m → P.world w → M { m with world := w }

lemma within_memory : P.Within P.memory := ⟨fun _ h => h, fun _ _ _ h => h⟩

end Circumstance

variable {P : Circumstance σ} {M : Memory σ → Prop}

lemma Ensures.recall (hM : P.Within M) {x : Note σ α} {Q : α → Prop} (hx : Ensures P.world x Q) :
    Ensures M (Note.recall x) Q := by
  intro m hm
  obtain ⟨ha, hw⟩ := hx m.world (hM.world m hm)
  exact ⟨ha, hM.update m _ hm hw⟩

lemma Yields.note (hM : P.Within M) {x : Note σ α} {a : α} (hx : Ensures P.world x (· = a)) :
    Yields M (ExceptT.lift (Note.recall x) : Act σ α) (.ok a) :=
  Yields.lift (f := Pure.pure) (Ensures.recall hM hx) fun _ hb => hb ▸ Yields.pure _

lemma Yields.leaves (hM : P.Within M) {x : Act σ α} {r : Except Failure α}
    (h : ∀ M' : Memory σ → Prop, P.Within M' → Yields M' x r) {m : Memory σ} (hm : M m) :
    ∃ m', x.run.run m = (r, m') ∧ M m' ∧ m'.frozen = m.frozen ∧ m'.cached = m.cached := by
  let M' (m' : Memory σ) : Prop := M m' ∧ m'.frozen = m.frozen ∧ m'.cached = m.cached
  have hM' : P.Within M' :=
    ⟨fun m' h => hM.world m' h.1, fun m' w h hw => ⟨hM.update m' w h.1 hw, h.2⟩⟩
  obtain ⟨hanswer, hend⟩ := h M' hM' m ⟨hm, rfl, rfl⟩
  exact ⟨_, Prod.ext hanswer rfl, hend⟩

lemma Yields.call (hM : P.Within M) {x : Call σ α} {r : Except Failure α}
    (hx : Yields P.world x r) : Yields M (liftM x : Act σ α) r :=
  Ensures.recall hM hx

lemma ensures_report_note (severity : Severity) (name : String) (source key : Option String)
    (more : List (String × Data)) :
    Ensures P.world (report severity name source key more : Note σ Unit) fun _ => True :=
  fun _ h => ⟨trivial, h⟩

lemma ensures_report (hM : P.Within M) (severity : Severity) (name : String)
    (source key : Option String) (more : List (String × Data)) :
    Ensures M (report severity name source key more : Recall σ Unit) fun _ => True :=
  Ensures.recall hM (ensures_report_note severity name source key more)

lemma Yields.report_call {f : Call σ α} {r : Except Failure α} (severity : Severity)
    (name : String) (source key : Option String) (more : List (String × Data))
    (hf : Yields P.world f r) :
    Yields P.world ((report severity name source key more : Call σ Unit) >>= fun _ => f) r :=
  Yields.lift (ensures_report_note severity name source key more) fun _ _ => hf

lemma Yields.report_act (hM : P.Within M) {f : Act σ α} {r : Except Failure α}
    (severity : Severity) (name : String) (source key : Option String)
    (more : List (String × Data)) (hf : Yields M f r) :
    Yields M ((report severity name source key more : Act σ Unit) >>= fun _ => f) r :=
  Yields.lift (ensures_report hM severity name source key more) fun _ _ => hf

end LayeredConfig
