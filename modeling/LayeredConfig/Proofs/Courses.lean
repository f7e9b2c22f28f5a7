import LayeredConfig.Proofs.Repetition

/-! Computations as ways from one state to a later one. What a course keeps is shown of each step
on the way, together with how the answer stands to the state that the step ends in. -/

namespace LayeredConfig

variable {τ α β : Type}

def Course.Ends (Q : α → τ → Prop) (E : Failure → τ → Prop) : Except Failure α → τ → Prop
  | .ok a, t => Q a t
  | .error failure, t => E failure t

lemma Course.Ends.both {R : Except Failure α → τ → Prop} {r : Except Failure α} {t : τ}
    (h : Ends (fun a => R (.ok a)) (fun failure => R (.error failure)) r t) : R r t := by
  cases r <;> exact h

/-- From `t` the computation comes to a later state. An answer stands to that state as `Q` says, a
failure as `E` says. -/
def Course.Leads (C : Course τ) (t : τ) (x : ExceptT Failure (StateM τ) α) (Q : α → τ → Prop)
    (E : Failure → τ → Prop) : Prop :=
  C.holds t → C.holds (x.run.run t).2 ∧ C.later t (x.run.run t).2 ∧
    Course.Ends Q E (x.run.run t).1 (x.run.run t).2

namespace Course.Leads

variable {C : Course τ} {t : τ} {Q : α → τ → Prop} {R : β → τ → Prop} {E : Failure → τ → Prop}

lemma pure {a : α} (h : Q a t) : C.Leads t (pure a) Q E := fun ht => ⟨ht, C.refl t, h⟩

lemma make {r : Except Failure α} (h : Ends Q E r t) : C.Leads t (ExceptT.mk (Pure.pure r)) Q E :=
  fun ht => ⟨ht, C.refl t, h⟩

lemma lift {x : StateM τ α} (h : C.holds t → C.holds (x.run t).2 ∧ C.later t (x.run t).2 ∧
    Q (x.run t).1 (x.run t).2) : C.Leads t (ExceptT.lift x) Q E := h

lemma mono {x : ExceptT Failure (StateM τ) α} {S : α → τ → Prop} {F : Failure → τ → Prop}
    (hx : C.Leads t x Q E) (hQ : ∀ a t', C.later t t' → Q a t' → S a t')
    (hE : ∀ failure t', C.later t t' → E failure t' → F failure t') : C.Leads t x S F := by
  intro ht
  obtain ⟨hend, hlater, hanswer⟩ := hx ht
  refine ⟨hend, hlater, ?_⟩
  generalize (x.run.run t).1 = r at hanswer
  cases r with
  | ok a => exact hQ a _ hlater hanswer
  | error failure => exact hE failure _ hlater hanswer

lemma weaken {x : ExceptT Failure (StateM τ) α} {F : Failure → τ → Prop} (hx : C.Leads t x Q E)
    (hE : ∀ failure t', C.later t t' → E failure t' → F failure t') : C.Leads t x Q F :=
  hx.mono (fun _ _ _ h => h) hE

lemma bind {x : ExceptT Failure (StateM τ) α} {f : α → ExceptT Failure (StateM τ) β}
    (hx : C.Leads t x Q E) (hf : ∀ a t', C.later t t' → Q a t' → C.Leads t' (f a) R E) :
    C.Leads t (x >>= f) R E := by
  intro ht
  obtain ⟨hend, hlater, hanswer⟩ := hx ht
  change C.holds ((ExceptT.bindCont f (x.run.run t).1).run (x.run.run t).2).2 ∧
    C.later t ((ExceptT.bindCont f (x.run.run t).1).run (x.run.run t).2).2 ∧
    Ends R E ((ExceptT.bindCont f (x.run.run t).1).run (x.run.run t).2).1
      ((ExceptT.bindCont f (x.run.run t).1).run (x.run.run t).2).2
  generalize (x.run.run t).2 = t' at hend hlater hanswer ⊢
  generalize (x.run.run t).1 = r at hanswer ⊢
  cases r with
  | ok a =>
    obtain ⟨hend', hlater', hanswer'⟩ := hf a t' hlater hanswer hend
    exact ⟨hend', C.trans hlater hlater', hanswer'⟩
  | error failure => exact ⟨hend, hlater, hanswer⟩

lemma foldlM {R : List α → β → τ → Prop} {f : β → α → ExceptT Failure (StateM τ) β} {xs : List α}
    (h : ∀ l b, ∀ a ∈ xs, ∀ t, R l b t → C.Leads t (f b a) (R (l ++ [a])) E)
    {l : List α} {b : β} (hb : R l b t) : C.Leads t (xs.foldlM f b) (R (l ++ xs)) E := by
  -- `l` is the turns that the loop has taken.
  induction xs generalizing l b t with
  | nil =>
    rw [List.append_nil]
    exact pure hb
  | cons a xs ih =>
    rw [List.foldlM_cons, List.append_cons]
    refine (h l b a (by simp) t hb).bind fun c t' _ hc => ?_
    exact ih (fun l b a ha => h l b a (by simp [ha])) hc

lemma mapM {S : β → Prop} {f : α → ExceptT Failure (StateM τ) β} {xs : List α}
    (h : ∀ a ∈ xs, ∀ t, C.Leads t (f a) (fun b _ => S b) E) :
    C.Leads t (xs.mapM f) (fun bs _ => ∀ b ∈ bs, S b) E := by
  induction xs generalizing t with
  | nil => exact pure fun _ hb => (nomatch hb)
  | cons a xs ih =>
    rw [List.mapM_cons]
    refine (h a (by simp) t).bind fun b t' _ hb => ?_
    refine (ih fun a ha => h a (by simp [ha])).bind fun bs t'' _ hbs => ?_
    exact pure (List.forall_mem_cons.2 ⟨hb, hbs⟩)

lemma exists_ok {x : ExceptT Failure (StateM τ) α} (h : C.Leads t x Q fun _ _ => False)
    (ht : C.holds t) : ∃ a t', x.run.run t = (.ok a, t') ∧ C.later t t' ∧ Q a t' := by
  obtain ⟨-, hlater, hanswer⟩ := h ht
  cases hrun : x.run.run t with
  | mk r t' =>
    rw [hrun] at hlater hanswer
    cases r with
    | ok a => exact ⟨a, t', rfl, hlater, hanswer⟩
    | error failure => exact absurd hanswer id

end Course.Leads

def Course.Runs (C : Course τ) (allowed : Prop) (x : ExceptT Failure (StateM τ) α) : Prop :=
  ∀ t, C.Leads t x (fun _ _ => True) fun _ _ => allowed

namespace Course.Runs

variable {C : Course τ} {allowed : Prop}

lemma pure (a : α) : C.Runs allowed (pure a) := fun _ => Leads.pure trivial

lemma bind {x : ExceptT Failure (StateM τ) α} {f : α → ExceptT Failure (StateM τ) β}
    (hx : C.Runs allowed x) (hf : ∀ a, C.Runs allowed (f a)) : C.Runs allowed (x >>= f) :=
  fun t => (hx t).bind fun a t' _ _ => hf a t'

lemma foldlM {f : β → α → ExceptT Failure (StateM τ) β} {xs : List α}
    (h : ∀ b, ∀ a ∈ xs, C.Runs allowed (f b a)) (b : β) : C.Runs allowed (xs.foldlM f b) :=
  fun _ => Leads.foldlM (R := fun _ _ _ => True) (l := []) (fun _ b a ha t _ => h b a ha t) trivial

lemma leads {x : ExceptT Failure (StateM τ) α} (h : C.Runs allowed x) (t : τ) :
    C.Leads t x (fun a t' => x.run.run t = (.ok a, t'))
      fun failure t' => x.run.run t = (.error failure, t') ∧ allowed := by
  intro ht
  obtain ⟨hend, hlater, hanswer⟩ := h t ht
  refine ⟨hend, hlater, ?_⟩
  cases hrun : x.run.run t with
  | mk r t' =>
    rw [hrun] at hanswer
    cases r with
    | ok a => exact rfl
    | error failure => exact ⟨rfl, hanswer⟩

lemma exists_ok {x : ExceptT Failure (StateM τ) α} (h : C.Runs False x) {t : τ} (ht : C.holds t) :
    ∃ a t', x.run.run t = (.ok a, t') ∧ C.later t t' := by
  obtain ⟨a, t', hrun, hlater, -⟩ := (h t).exists_ok ht
  exact ⟨a, t', hrun, hlater⟩

end Course.Runs

end LayeredConfig
