import LayeredConfig.Proofs.Attempts
import LayeredConfig.Proofs.Collections
import Mathlib.Data.List.Induction

/-! Chains of converters that grow and shrink. What is registered for a class stays in its chain, in
order, until it is taken out; a class whose chain is empty is served by its nearest ancestor that has
one. A conversion runs the chain from the front up to the first value, each place once. -/

namespace LayeredConfig.Conversion

variable {σ : Type}

namespace Registry

inductive Operation (σ : Type)
  | register (c : Class) (converter : Converter σ)
  | unregister (c : Class) (converter : Converter σ)

def Operation.cls : Operation σ → Class
  | register c _ => c
  | unregister c _ => c

def perform (r : Registry σ) : Operation σ → Registry σ
  | .register c converter => r.register c converter
  | .unregister c converter => r.unregister c converter

def performAll (r : Registry σ) (ops : List (Operation σ)) : Registry σ := ops.foldl perform r

/-- The chain of a class that a run of operations leaves. A converter that is registered joins at the
end; one that is taken out leaves its first place, if it has one. -/
inductive Leaves (c : Class) : List (Operation σ) → List (Converter σ) → Prop
  | nothing : Leaves c [] []
  | registered {ops chain d converter} (h : Leaves c ops chain) (hd : d.qualified = c.qualified) :
      Leaves c (ops ++ [.register d converter]) (chain ++ [converter])
  | removed {ops front found rest d converter} (h : Leaves c ops (front ++ found :: rest))
      (hd : d.qualified = c.qualified) (hfound : found.id = converter.id)
      (hfront : ∀ other ∈ front, other.id ≠ converter.id) :
      Leaves c (ops ++ [.unregister d converter]) (front ++ rest)
  | absent {ops chain d converter} (h : Leaves c ops chain) (hd : d.qualified = c.qualified)
      (hchain : ∀ other ∈ chain, other.id ≠ converter.id) :
      Leaves c (ops ++ [.unregister d converter]) chain
  | elsewhere {ops chain op} (h : Leaves c ops chain) (hop : op.cls.qualified ≠ c.qualified) :
      Leaves c (ops ++ [op]) chain

lemma chain_unregister (r : Registry σ) (c : Class) (converter : Converter σ) (c' : Class) :
    (r.unregister c converter).chain c' =
      if c'.qualified = c.qualified then (r.chain c).eraseP (·.id = converter.id) else r.chain c' := by
  rw [unregister, chain, Ledger.getD, Ledger.get?_put]
  split
  · rfl
  · rfl

variable {r : Registry σ} {c : Class} {ops : List (Operation σ)}

lemma chain_congr {d : Class} (h : d.qualified = c.qualified) : r.chain d = r.chain c := by
  rw [chain, chain, h]

lemma Leaves.register (h : Leaves c ops (r.chain c)) (d : Class) (converter : Converter σ) :
    Leaves c (ops ++ [.register d converter]) ((r.register d converter).chain c) := by
  rw [chain_register]
  split
  · rename_i hd
    rw [chain_congr hd.symm]
    exact h.registered hd.symm
  · rename_i hd
    exact h.elsewhere (Ne.symm hd)

lemma Leaves.erased {chain : List (Converter σ)} (h : Leaves c ops chain) {d : Class}
    (hd : d.qualified = c.qualified) (converter : Converter σ) :
    Leaves c (ops ++ [.unregister d converter]) (chain.eraseP (·.id = converter.id)) := by
  by_cases hmem : ∃ other ∈ chain, other.id = converter.id
  · obtain ⟨other, hother, hid⟩ := hmem
    obtain ⟨found, front, rest, hfront, hfound, rfl, herase⟩ :=
      List.exists_of_eraseP (p := (·.id = converter.id)) hother (decide_eq_true hid)
    rw [herase]
    exact h.removed hd (of_decide_eq_true hfound) fun other hother hid =>
      hfront other hother (decide_eq_true hid)
  · have hnone : ∀ other ∈ chain, other.id ≠ converter.id :=
      fun other hother hid => hmem ⟨other, hother, hid⟩
    rw [List.eraseP_of_forall_not fun other hother => by simpa using hnone other hother]
    exact h.absent hd hnone

lemma Leaves.unregister (h : Leaves c ops (r.chain c)) (d : Class) (converter : Converter σ) :
    Leaves c (ops ++ [.unregister d converter]) ((r.unregister d converter).chain c) := by
  rw [chain_unregister]
  split
  · rename_i hd
    rw [chain_congr hd.symm]
    exact h.erased hd.symm converter
  · rename_i hd
    exact h.elsewhere (Ne.symm hd)

lemma Leaves.perform (h : Leaves c ops (r.chain c)) (op : Operation σ) :
    Leaves c (ops ++ [op]) ((r.perform op).chain c) := by
  cases op with
  | register d converter => exact h.register d converter
  | unregister d converter => exact h.unregister d converter

lemma leaves_performAll (c : Class) (ops : List (Operation σ)) :
    Leaves c ops ((empty.performAll ops).chain c) := by
  -- The chain is told by the last operation and what those before it left.
  induction ops using List.reverseRecOn with
  | nil => exact .nothing
  | append_singleton ops op ih =>
    rw [performAll, List.foldl_append]
    exact ih.perform op

def bases (c : Class) : List Class :=
  if c.isEnum then c.ancestors.filter Class.isEnum else c.ancestors

inductive Nearest (r : Registry σ) (c : Class) : List (Converter σ) → Prop
  | own (h : r.chain c ≠ []) : Nearest r c (r.chain c)
  | base {before base after} (h : r.chain c = []) (hbases : bases c = before ++ base :: after)
      (hbefore : ∀ d ∈ before, r.chain d = []) (hbase : r.chain base ≠ []) :
      Nearest r c (r.chain base)
  | missing (h : r.chain c = []) (hbases : ∀ d ∈ bases c, r.chain d = []) : Nearest r c []

lemma nearest_convertersFor (r : Registry σ) (c : Class) : Nearest r c (r.convertersFor c) := by
  have hservants : servants c = c :: bases c := rfl
  rw [convertersFor, hservants, List.map_cons, List.find?_cons]
  by_cases hown : r.chain c = []
  · rw [hown]
    change Nearest r c ((((bases c).map r.chain).find? (!·.isEmpty)).getD [])
    cases hfound : ((bases c).map r.chain).find? (!·.isEmpty) with
    | none =>
      refine .missing hown fun d hd => ?_
      simpa using List.find?_eq_none.1 hfound _ (List.mem_map_of_mem hd)
    | some chain =>
      obtain ⟨hchain, front, rest, hsplit, hfront⟩ := List.find?_eq_some_iff_append.1 hfound
      obtain ⟨before, others, hbases, rfl, hothers⟩ := List.map_eq_append_iff.1 hsplit
      obtain ⟨base, after, rfl, rfl, rfl⟩ := List.map_eq_cons_iff.1 hothers
      refine .base hown hbases (fun d hd => ?_) (by simpa using hchain)
      simpa using hfront _ (List.mem_map_of_mem hd)
  · have hfound : (!(r.chain c).isEmpty) = true := by simpa using hown
    rw [hfound]
    exact .own hown

end Registry

def Attempt.value? (a : Attempt σ) : Option Value := a.result.outcome.toOption.join

namespace Converter

inductive Stops (chain : List (Converter σ)) : List (Attempt σ) → Option Value → Prop
  | found {front last rest v} (hchain : chain = front.map (·.converter) ++ last.converter :: rest)
      (hfront : ∀ a ∈ front, a.value? = none) (hlast : last.value? = some v) :
      Stops chain (front ++ [last]) (some v)
  | exhausted {tried} (hchain : chain = tried.map (·.converter)) (h : ∀ a ∈ tried, a.value? = none) :
      Stops chain tried none

variable {raw : String} {q : Request σ} {chain : List (Converter σ)} {w w' : World σ}
  {tried : List (Attempt σ)} {value : Option Value}

lemma Stops.cons {a : Attempt σ} (ha : a.value? = none) (h : Stops chain tried value) :
    Stops (a.converter :: chain) (a :: tried) value := by
  cases h with
  | found hchain hfront hlast =>
    rw [← List.cons_append]
    exact .found (by rw [hchain]; rfl) (List.forall_mem_cons.2 ⟨ha, hfront⟩) hlast
  | exhausted hchain h => exact .exhausted (by rw [hchain]; rfl) (List.forall_mem_cons.2 ⟨ha, h⟩)

lemma Tries.stops (h : Tries raw q chain w tried value w') : Stops chain tried value := by
  induction h with
  | exhausted w => exact .exhausted rfl fun _ hnil => (nomatch hnil)
  | found h =>
    -- The first converter of the chain has the value, with nothing in front of it.
    change Stops _ ([] ++ [_]) _
    exact .found rfl (fun _ hnil => (nomatch hnil)) rfl
  | @nothing c _ _ _ _ _ _ formats _ _ ih => exact ih.cons (a := ⟨c, ⟨formats, .ok none⟩⟩) rfl
  | @failed c _ _ _ _ _ _ formats fault _ _ ih =>
    exact ih.cons (a := ⟨c, ⟨formats, .error fault⟩⟩) rfl

lemma Tries.ran (h : Tries raw q chain w tried value w') :
    ∀ a ∈ tried, a.converter ∈ chain ∧ ∃ w, ((a.converter.run raw q).run w).1 = a.result := by
  induction h with
  | exhausted w => exact fun _ hnil => (nomatch hnil)
  | @found c _ w _ _ _ h =>
    rw [List.forall_mem_singleton]
    exact ⟨List.mem_cons_self, w, congrArg Prod.fst h⟩
  | @nothing c _ w _ _ _ _ _ h _ ih | @failed c _ w _ _ _ _ _ _ h _ ih =>
    rw [List.forall_mem_cons]
    exact ⟨⟨List.mem_cons_self, w, congrArg Prod.fst h⟩,
      fun a ha => (ih a ha).imp_left (List.mem_cons_of_mem c)⟩

lemma Tries.formats_eq (h : Tries raw q chain w tried value w')
    (hquiet : ∀ c ∈ chain, ∀ w, ((c.run raw q).run w).1.formats = []) :
    tried.flatMap Attempt.formats = tried.map (·.converter.advertised) := by
  rw [List.map_eq_flatMap]
  refine List.flatMap_congr fun a ha => ?_
  obtain ⟨hmem, w₁, hresult⟩ := h.ran a ha
  rw [Attempt.formats, ← hresult, hquiet _ hmem w₁]

section Logged

variable {log : World σ → List Nat}
  (hjournal : ∀ (w : World σ) journal, log { w with journal := journal } = log w)
include hjournal

lemma Tries.logged (hlog : ∀ c ∈ chain, ∀ w, log ((c.run raw q).run w).2 = log w ++ [c.id])
    (h : Tries raw q chain w tried value w') : log w' = log w ++ tried.map (·.converter.id) := by
  induction h with
  | exhausted w => simp
  | @found c _ w _ _ _ h =>
    have hc := hlog c List.mem_cons_self w
    rw [h] at hc
    exact hc
  | @nothing c _ w _ _ _ _ _ h _ ih =>
    have hc := hlog c List.mem_cons_self w
    rw [h] at hc
    rw [ih fun c hmem => hlog c (List.mem_cons_of_mem _ hmem), hc, List.append_assoc]
    rfl
  | @failed c _ w _ _ _ _ _ _ h _ ih =>
    have hc := hlog c List.mem_cons_self w
    rw [h] at hc
    rw [ih fun c hmem => hlog c (List.mem_cons_of_mem _ hmem), faulted, World.noted, hjournal, hc,
      List.append_assoc]
    rfl

lemma log_concluded (formats : List String) (w : World σ) :
    log (concluded q formats value w) = log w := by
  rw [concluded]
  split
  · rfl
  · exact hjournal w _

end Logged

end Converter

namespace Registry

/-- After any run of operations the chain of a class holds what was registered and not taken out, in
order, and a class is served by its own chain or the nearest one. A conversion gives the first value of
the chain, if there is one. It runs the places up to that value once each, in turn, and none behind, and
records their formats and no others. -/
theorem performAll_serves_in_order (ops : List (Operation σ)) {r : Registry σ}
    (hr : r = empty.performAll ops) :
    (∀ c, Leaves c ops (r.chain c)) ∧ (∀ c, Nearest r c (r.convertersFor c)) ∧
    ∀ (s : Subject) (linked : Bool) (t : Target) (raw : String) q chain, t.isText = false →
      q = request s linked t (r.convertEach s linked t.args) → chain = r.convertersFor t.cls →
      (∀ c ∈ chain, ∀ w, ((c.run raw q).run w).1.formats = []) →
      r.convert s linked t raw = Converter.tryAll raw q [] chain ∧
      ∀ w, ∃ tried value w', Converter.Tries raw q chain w tried value w' ∧
        Converter.Stops chain tried value ∧
        ∀ before formats, formats = before ++ tried.map (·.converter.advertised) →
          (Converter.tryAll raw q before chain).run w =
            (⟨formats, value⟩, Converter.concluded q formats value w') ∧
          ∀ log : World σ → List Nat, (∀ w journal, log { w with journal := journal } = log w) →
            (∀ c ∈ chain, ∀ w, log ((c.run raw q).run w).2 = log w ++ [c.id]) →
            log (Converter.concluded q formats value w') = log w ++ tried.map (·.converter.id) := by
  refine ⟨fun c => hr ▸ leaves_performAll c ops, nearest_convertersFor r, ?_⟩
  rintro s linked t raw q chain htext rfl rfl hquiet
  refine ⟨r.convert_of_not_text s linked htext raw, fun w => ?_⟩
  obtain ⟨tried, value, w', htries⟩ := Converter.exists_tries raw _ (r.convertersFor t.cls) w
  refine ⟨tried, value, w', htries, htries.stops, ?_⟩
  rintro before formats rfl
  refine ⟨?_, fun log hjournal hlog => ?_⟩
  · have hrun := htries.run before
    rwa [htries.formats_eq hquiet] at hrun
  · rw [Converter.log_concluded hjournal, htries.logged hjournal hlog]

def noting (id : Nat) (outcome : Outcome) : Converter (List Nat) where
  id := id
  name := "Noting"
  format := "<any>"
  run _ _ := fun w => (⟨[], outcome⟩, { w with host := w.host ++ [id] })

def shifts : List (Operation (List Nat)) :=
  [.register .boolean (noting 5 (.ok (some (.boolean true)))), .register .integer (noting 1 (.ok none)),
    .register .integer (noting 2 (.error .emptySeparator)), .register .integer (noting 1 (.ok none)),
    .register .integer (noting 3 (.ok (some (.integer 3)))),
    .register .integer (noting 4 (.ok (some (.integer 4)))),
    .unregister .boolean (noting 5 (.ok (some (.boolean true)))),
    .unregister .integer (noting 1 (.ok none)), .unregister .integer (noting 7 (.ok none))]

theorem shifts_serve_in_order :
    ∃ r : Registry (List Nat), r = empty.performAll shifts ∧
      Leaves .integer shifts (r.chain .integer) ∧ Nearest r .boolean (r.chain .integer) ∧
      ∃ (tried : List (Attempt (List Nat))) (w' : World (List Nat)),
        (r.convert ⟨"k", none, none, .empty⟩ true (.bare .boolean) "x").run (.initial .debug []) =
          (⟨tried.map (·.converter.advertised), some (.integer 3)⟩, w') ∧
        tried.map (·.converter.id) = [2, 1, 3] ∧ w'.host = [2, 1, 3] := by
  refine ⟨_, rfl, ?_⟩
  obtain ⟨hleaves, hnearest, hconvert⟩ := performAll_serves_in_order shifts rfl
  have hquiet : ∀ c ∈ (empty.performAll shifts).convertersFor .boolean, ∀ raw q w,
      ((c.run raw q).run w).1.formats = [] ∧ ((c.run raw q).run w).2.host = w.host ++ [c.id] := by
    change ∀ c ∈ [noting 2 (.error .emptySeparator), noting 1 (.ok none), noting 3 (.ok (some (.integer 3))),
      noting 4 (.ok (some (.integer 4)))], _
    simp only [List.forall_mem_cons, List.not_mem_nil, false_implies, implies_true, and_true]
    exact ⟨fun _ _ _ => ⟨rfl, rfl⟩, fun _ _ _ => ⟨rfl, rfl⟩, fun _ _ _ => ⟨rfl, rfl⟩,
      fun _ _ _ => ⟨rfl, rfl⟩⟩
  obtain ⟨htry, hrun⟩ := hconvert ⟨"k", none, none, .empty⟩ true (.bare .boolean) "x" _ _ rfl rfl rfl
    fun c hc w => (hquiet c hc "x" _ w).1
  obtain ⟨tried, value, w', -, -, hformats⟩ := hrun (.initial .debug [])
  obtain ⟨hrun, hlogged⟩ := hformats [] _ rfl
  have hlog := hlogged (·.host) (fun _ _ => rfl) fun c hc w => (hquiet c hc "x" _ w).2
  rw [← htry] at hrun
  have hvalue : value = some (.integer 3) := congrArg (·.1.value) hrun.symm
  have hhost : (Converter.concluded _ _ value w').host = [2, 1, 3] := congrArg (·.2.host) hrun.symm
  rw [hvalue] at hrun hhost hlog
  exact ⟨hleaves .integer, hnearest .boolean, tried, _, hrun, hlog.symm.trans hhost, hhost⟩

end Registry

end LayeredConfig.Conversion
