import LayeredConfig.Merge
import LayeredConfig.Proofs.Settling

/-! The calls that a merge makes of its sources. They stand in a tree: what a source answers decides
what is asked next. A merge comes to its end of this tree before it comes to anything else, and on
the way a call that raises ends it. -/

namespace LayeredConfig

variable {σ α β γ : Type}

inductive Question (σ : Type)
  | properties (s : Source σ)
  | get (s : Source σ) (key : String)

namespace Question

def Answer : Question σ → Type
  | properties _ => Ledger String Entry
  | get .. => Option Entry

def call : (q : Question σ) → Call σ q.Answer
  | properties s => s.properties
  | get s key => s.get key

def Raises (q : Question σ) (w : World σ) (failure : Failure) (w' : World σ) : Prop :=
  q.call.run.run w = (.error failure, w')

end Question

inductive Inquiry (σ α : Type)
  | done (a : α)
  | ask (q : Question σ) (next : q.Answer → Inquiry σ α)
  | fetched (event : String) (s : Source σ) (entries : Ledger String Entry) (next : Inquiry σ α)

namespace Inquiry

def bind : Inquiry σ α → (α → Inquiry σ β) → Inquiry σ β
  | done a, f => f a
  | ask q next, f => ask q fun answer => (next answer).bind f
  | fetched event s entries next, f => fetched event s entries (next.bind f)

instance : Monad (Inquiry σ) where
  pure := done
  bind := bind

lemma bind_done (x : Inquiry σ α) : x.bind done = x := by
  induction x with
  | done a => rfl
  | ask q next ih => exact congrArg (ask q) (funext ih)
  | fetched event s entries next ih => exact congrArg (fetched event s entries) ih

lemma bind_bind (x : Inquiry σ α) (f : α → Inquiry σ β) (g : β → Inquiry σ γ) :
    (x.bind f).bind g = x.bind fun a => (f a).bind g := by
  induction x with
  | done a => rfl
  | ask q next ih => exact congrArg (ask q) (funext ih)
  | fetched event s entries next ih => exact congrArg (fetched event s entries) ih

instance : LawfulMonad (Inquiry σ) :=
  LawfulMonad.mk' _ bind_done (fun _ _ => rfl) bind_bind

def run : Inquiry σ α → Call σ α
  | done a => pure a
  | ask q next => do (next (← q.call)).run
  | fetched event s entries next => do
    Merge.reportFetched event s entries
    next.run

@[simp] lemma run_pure (a : α) : (pure a : Inquiry σ α).run = pure a := rfl

@[simp] lemma run_bind (x : Inquiry σ α) (f : α → Inquiry σ β) :
    (x >>= f).run = x.run >>= fun a => (f a).run := by
  change (x.bind f).run = _
  induction x with
  | done a => exact (pure_bind a fun a => (f a).run).symm
  | ask q next ih =>
    simp only [bind, run, bind_assoc]
    exact congrArg _ (funext ih)
  | fetched event s entries next ih =>
    simp only [bind, run, bind_assoc]
    exact congrArg _ (funext fun _ => ih)

lemma run_foldlM (f : β → α → Inquiry σ β) (xs : List α) (b : β) :
    (xs.foldlM f b).run = xs.foldlM (fun b a => (f b a).run) b := by
  induction xs generalizing b with
  | nil => rfl
  | cons a xs ih => simp only [List.foldlM_cons, run_bind, ih]

lemma run_mapM (f : α → Inquiry σ β) (xs : List α) :
    (xs.mapM f).run = xs.mapM fun a => (f a).run := by
  induction xs with
  | nil => rfl
  | cons a xs ih => simp only [List.mapM_cons, run_bind, run_pure, ih]

def asked : Inquiry σ α → World σ → List (Question σ × World σ)
  | done _, _ => []
  | ask q next, w =>
    (q, w) :: match q.call.run.run w with
      | (.ok answer, w') => (next answer).asked w'
      | (.error _, _) => []
  | fetched event s entries next, w =>
    next.asked ((Merge.reportFetched event s entries).run.run w).2

lemma run_of_raises {x : Inquiry σ α} {q : Question σ} {start w w' : World σ} {failure : Failure}
    (hasked : (q, w) ∈ x.asked start) (hraises : q.Raises w failure w') :
    x.run.run.run start = (.error failure, w') := by
  induction x generalizing start with
  | done a => cases hasked
  | ask q' next ih =>
    -- The call comes first, or after the first one has been answered.
    rw [asked, List.mem_cons] at hasked
    rcases hasked with hfirst | hlater
    · cases hfirst
      exact run_bind_error hraises
    · cases hrun : q'.call.run.run start with
      | mk r w₁ =>
        rw [hrun] at hlater
        cases r with
        | ok answer =>
          rw [run, run_bind_ok hrun]
          exact ih answer hlater
        | error failure => cases hlater
  | fetched event s entries next ih => exact ih hasked

def fetchKeys (s : Source σ) (keys : List String) : Inquiry σ (Ledger String Entry) :=
  keys.foldlM
    (fun found key => ask (.get s key) fun
      | some entry => done (found.put key entry)
      | none => done found)
    .empty

def lookUp (wanted : List String) (ordered : List (Source σ)) : Inquiry σ (List Snapshot) :=
  ordered.mapM fun s => do return ⟨s.name, s.ordinal, ← fetchKeys s wanted⟩

def scan (s : Source σ) : Inquiry σ (Source σ × Option (Ledger String Entry)) :=
  if s.scannable then
    ask (.properties s) fun entries => fetched "source_loaded" s entries (done (s, some entries))
  else done (s, none)

def supply (wanted : List String) (p : Source σ × Option (Ledger String Entry)) :
    Inquiry σ Snapshot :=
  match p.2 with
  | some entries => done ⟨p.1.name, p.1.ordinal, entries⟩
  | none => do
    let entries ← fetchKeys p.1 wanted
    fetched "source_queried" p.1 entries (done ⟨p.1.name, p.1.ordinal, entries⟩)

def fetch (m : MetaKeys) (ordered : List (Source σ)) :
    Inquiry σ (List Snapshot × List String) := do
  let scanned ← ordered.mapM scan
  let keys := Merge.found scanned
  return (← scanned.mapM (supply (Merge.lookups m keys)), keys)

lemma run_fetchKeys (s : Source σ) (keys : List String) :
    (fetchKeys s keys).run = Merge.fetchKeys s keys := by
  rw [fetchKeys, run_foldlM, Merge.fetchKeys]
  congr 1
  funext found key
  refine congrArg (s.get key >>= ·) (funext fun entry => ?_)
  cases entry <;> rfl

lemma run_lookUp (wanted : List String) (ordered : List (Source σ)) :
    (lookUp wanted ordered).run = Merge.ask wanted ordered := by
  simp only [lookUp, run_mapM, run_bind, run_fetchKeys, run_pure, Merge.ask]

lemma run_scan (ordered : List (Source σ)) : (ordered.mapM scan).run = Merge.scan ordered := by
  rw [run_mapM, Merge.scan]
  congr 1
  funext s
  rw [scan]
  split <;> rfl

lemma run_supply (wanted : List String) (p : Source σ × Option (Ledger String Entry)) :
    (supply wanted p).run = Merge.supply wanted p := by
  rw [supply, Merge.supply]
  cases p.2 with
  | some entries => rfl
  | none => simp only [run_bind, run_fetchKeys]; rfl

lemma run_fetch (m : MetaKeys) (ordered : List (Source σ)) :
    (fetch m ordered).run = Merge.fetch m ordered := by
  simp only [fetch, run_bind, run_scan, run_pure, Merge.fetch]
  refine congrArg (Merge.scan ordered >>= ·) (funext fun scanned => ?_)
  simp only [run_mapM, run_supply, Merge.query]

end Inquiry

end LayeredConfig
