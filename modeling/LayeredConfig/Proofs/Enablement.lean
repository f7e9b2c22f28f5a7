import LayeredConfig.Proofs.Thinning
import LayeredConfig.Source.Guarded

/-! Sources behind switches. The history of its switch decides whether such a source is as good as
the one behind it or as good as none, and for a merge that is all there is to it. -/

namespace LayeredConfig

variable {σ : Type}

namespace Source

namespace Guarded

inductive Turn (σ : Type)
  | reevaluate (switch : Nat) (name : String) (expr : Expression σ)
    (bindings : Ledger String String)
  | assign (switch : Nat) (enabled : Bool)

namespace Turn

def switch : Turn σ → Nat
  | reevaluate switch .. => switch
  | assign switch _ => switch

def perform : Turn σ → Note σ Unit
  | reevaluate switch name expr bindings => do
    let _ ← Guarded.reevaluate switch name expr bindings
    return ()
  | assign switch enabled => setEnabled switch enabled

def setting : Turn σ → World σ → Bool
  | reevaluate _ _ expr bindings, w =>
    match ((expr bindings).run.run w).1 with
    | .ok enabled => enabled
    | .error _ => false
  | assign _ enabled, _ => enabled

def Modest : Turn σ → Prop
  | reevaluate _ _ expr bindings => ∀ w, ((expr bindings).run.run w).2.switches = w.switches
  | assign .. => True

lemma switches_perform {t : Turn σ} (h : t.Modest) (w : World σ) :
    (t.perform.run w).2.switches = w.switches.put t.switch (t.setting w) := by
  cases t with
  | assign switch enabled => rfl
  | reevaluate switch name expr bindings =>
    have hleaves : ((expr bindings).run.run w).2.switches = w.switches := h w
    rw [← hleaves]
    simp only [perform, Guarded.reevaluate, evaluate, setting, Turn.switch]
    generalize hrun : (expr bindings).run.run w = outcome
    obtain ⟨result, w'⟩ := outcome
    simp only [StateT.run_bind, show StateT.run (expr bindings).attempt w = _ from hrun]
    cases result with
    | error failure => rfl
    | ok enabled => cases enabled <;> rfl

end Turn

def turned : List (Turn σ) → World σ → World σ
  | [], w => w
  | t :: turns, w => turned turns (t.perform.run w).2

def settings : List (Turn σ) → World σ → List (Nat × Bool)
  | [], _ => []
  | t :: turns, w => (t.switch, t.setting w) :: settings turns (t.perform.run w).2

def lastSetting (turns : List (Turn σ)) (w : World σ) (switch : Nat) : Bool :=
  (((settings turns w).filter (·.1 = switch)).getLast?.map Prod.snd).getD
    (w.switches.getD switch false)

lemma getD_turned {turns : List (Turn σ)} (h : ∀ t ∈ turns, t.Modest) (w : World σ)
    (switch : Nat) :
    (turned turns w).switches.getD switch false = lastSetting turns w switch := by
  induction turns generalizing w with
  | nil => rfl
  | cons t turns ih =>
    obtain ⟨ht, hrest⟩ := List.forall_mem_cons.1 h
    rw [turned, ih hrest, lastSetting, lastSetting, settings, t.switches_perform ht,
      Ledger.getD_put, List.filter_cons]
    -- The first turn shows if it is about the switch and no later one is.
    by_cases hswitch : t.switch = switch
    · rw [if_pos hswitch.symm, if_pos (by simpa using hswitch), List.getLast?_cons]
      cases ((settings turns (t.perform.run w).2).filter (·.1 = switch)).getLast? <;> rfl
    · rw [if_neg (Ne.symm hswitch), if_neg (by simpa using hswitch)]

variable {P : Circumstance σ} {switch : Nat} {inner : Source σ}

lemma get_run (id : Nat) (key : String) (w : World σ) :
    ((source id switch inner).get key).run.run w =
      (if w.switches.getD switch false then inner.get key else pure none).run.run w := rfl

lemma properties_run (id : Nat) (w : World σ) :
    (source id switch inner).properties.run.run w =
      (if w.switches.getD switch false then inner.properties else pure .empty).run.run w := rfl

lemma twin_source {s : Source σ} (id : Nat) (h : inner.Twin P s)
    (hon : ∀ w, P.world w → w.switches.getD switch false = true) :
    (source id switch inner).Twin P s where
  name := h.name
  ordinal := h.ordinal
  scannable := h.scannable
  get key w w' hw := by
    rw [get_run, hon w hw.1]
    exact h.get key w w' hw
  properties hscan w w' hw := by
    rw [properties_run, hon w hw.1]
    exact h.properties hscan w w' hw

lemma blank_source (id : Nat) (inner : Source σ)
    (hoff : ∀ w, P.world w → w.switches.getD switch false = false) :
    (source id switch inner).Blank P where
  get key w w' hw := by
    rw [get_run, hoff w hw.1]
    exact ⟨.ok rfl, hw⟩
  properties hscan w w' hw := by
    rw [properties_run, hoff w hw.1]
    exact ⟨.ok rfl, hw⟩

lemma blank_source_of_blank (id : Nat) (h : inner.Blank P)
    (hon : ∀ w, P.world w → w.switches.getD switch false = true) :
    (source id switch inner).Blank P where
  get key w w' hw := by
    rw [get_run, hon w hw.1]
    exact h.get key w w' hw
  properties hscan w w' hw := by
    rw [properties_run, hon w hw.1]
    exact h.properties hscan w w' hw

end Guarded

inductive Gated (σ : Type)
  | plain (s : Source σ)
  | behind (id switch : Nat) (inner : Gated σ)

namespace Gated

def toSource : Gated σ → Source σ
  | plain s => s
  | behind id switch inner => Guarded.source id switch inner.toSource

/-- What is behind the switches, unless one of them is off. -/
def revealed (on : Nat → Bool) : Gated σ → Option (Source σ)
  | plain s => some s
  | behind _ switch inner => if on switch then inner.revealed on else none

def switched (on : Nat → Bool) : Circumstance σ :=
  fun switches _ => ∀ switch, switches.getD switch false = on switch

variable {on : Nat → Bool}

lemma ordinal_of_revealed {g : Gated σ} {s : Source σ} (h : g.revealed on = some s) :
    s.ordinal = g.toSource.ordinal := by
  induction g with
  | plain s' =>
    cases h
    rfl
  | behind id switch inner ih =>
    rw [revealed] at h
    split at h
    · exact ih h
    · cases h

lemma twin_of_revealed {g : Gated σ} {s : Source σ} (h : g.revealed on = some s)
    (hs : s.Twin (switched on) s) : g.toSource.Twin (switched on) s := by
  induction g with
  | plain s' =>
    cases h
    exact hs
  | behind id switch inner ih =>
    rw [revealed] at h
    split at h
    · rename_i hon
      exact Guarded.twin_source id (ih h) fun w hw => (hw switch).trans hon
    · cases h

lemma blank_of_revealed {g : Gated σ} (h : g.revealed on = none) :
    g.toSource.Blank (switched on) := by
  induction g with
  | plain s => cases h
  | behind id switch inner ih =>
    rw [revealed] at h
    split at h
    · rename_i hon
      exact Guarded.blank_source_of_blank id (ih h) fun w hw => (hw switch).trans hon
    · rename_i hoff
      exact Guarded.blank_source id inner.toSource fun w hw =>
        (hw switch).trans (Bool.eq_false_iff.2 hoff)

lemma inStep_revealed {gates : List (Gated σ)}
    (h : ∀ s ∈ gates.filterMap (revealed on), s.Twin (switched on) s) :
    InStep (switched on) (gates.map toSource) (gates.filterMap (revealed on)) := by
  refine inStep_filterMap (fun _ _ => ordinal_of_revealed) (fun g hg s hs => ?_)
    fun _ _ => blank_of_revealed
  exact twin_of_revealed hs (h s (List.mem_filterMap.2 ⟨g, hg, hs⟩))

end Gated

end Source

namespace Merge

open Source Source.Guarded Source.Gated

/-- After any run of turns, both ways of merging come to what they come to without the switches:
where each source is taken as it is if the last settings of its switches are on, and is left out
otherwise. The two runs leave memories that differ at most in their journals. -/
theorem switches_reveal_or_hide (e : Merge σ) (he : e.resolver.Unaware fun _ _ => True)
    (turns : List (Turn σ)) (hturns : ∀ t ∈ turns, t.Modest) (w : World σ) {on : Nat → Bool}
    (hon : on = lastSetting turns w) (gates : List (Gated σ))
    (hgates : ∀ s ∈ gates.filterMap (revealed on), s.Twin (switched on) s) (m : Memory σ)
    (hm : m.world = turned turns w) :
    let gated := (e.resolveAll (gates.map toSource)).run.run m
    let plain := (e.resolveAll (gates.filterMap (revealed on))).run.run m
    gated.1 = plain.1 ∧ Circumstance.memories (fun _ _ => True) gated.2 plain.2 ∧
    ∀ key,
      let gated := (e.resolve key (gates.map toSource)).run.run m
      let plain := (e.resolve key (gates.filterMap (revealed on))).run.run m
      gated.1 = plain.1 ∧ Circumstance.memories (fun _ _ => True) gated.2 plain.2 := by
  have hstart : (switched on).memories m m := by
    refine ⟨m.world, ⟨fun switch => ?_, rfl, rfl⟩, rfl⟩
    rw [hm, hon, getD_turned hturns]
  have hinStep := inStep_revealed hgates
  obtain ⟨hall, hend⟩ :=
    resolveAll_inStep (Q := fun _ _ => True) (fun _ _ => trivial) he hinStep hstart
  refine ⟨hall.eq, hend, fun key => ?_⟩
  obtain ⟨hone, hend⟩ :=
    resolve_inStep (Q := fun _ _ => True) (fun _ _ => trivial) he hinStep hstart key
  exact ⟨hone.eq, hend⟩

def held (name key value : String) : Ledger String Entry :=
  if h : key ≠ "" then .ofList [(key, ⟨key, some value, name, .empty, h⟩)] else .empty

def base : Source Unit := .ofEntries 0 "base" 0 true (held "base" "url" "h2")

def prod : Source Unit := .ofEntries 1 "prod" 50 true (held "prod" "url" "pg")

def vault : Source Unit := .ofEntries 2 "vault" 80 false (held "vault" "url" "secret")

def staged : List (Gated Unit) :=
  [.plain base, .behind 3 0 (.plain prod), .behind 4 1 (.behind 5 0 (.plain vault)),
    .behind 6 2 (.behind 7 0 (.plain vault))]

def stageIs (stage : String) : Expression Unit := fun bindings =>
  return bindings.get? "stage" = some stage

def missing : Expression Unit := fun _ => throw (.noSuchKey "stage")

def stages : List (Turn Unit) :=
  [.reevaluate 0 "prod" (stageIs "prod") (.ofList [("stage", "dev")]), .assign 1 true,
    .reevaluate 1 "vault" missing .empty, .assign 0 true,
    .reevaluate 2 "vault" (stageIs "prod") (.ofList [("stage", "prod")])]

def builtIn : Merge Unit := ⟨⟨0, .empty, .standard⟩, .standard⟩

def stagedMemory : Memory Unit :=
  { Memory.initial .debug () with world := turned stages (.initial .debug ()) }

theorem staged_switches_reveal_or_hide :
    ((∀ t ∈ stages, t.Modest) ∧ builtIn.resolver.Unaware fun _ _ => True) ∧
    (staged.filterMap (revealed (lastSetting stages (.initial .debug ())))).map (·.name) =
      ["base", "prod", "vault"] ∧
    ((builtIn.resolve "url" (staged.map toSource)).run.run stagedMemory).1 =
      ((builtIn.resolve "url" [base, prod, vault]).run.run stagedMemory).1 := by
  have hturns : ∀ t ∈ stages, t.Modest := by
    intro t ht
    simp only [stages, List.mem_cons, List.not_mem_nil, or_false] at ht
    rcases ht with rfl | rfl | rfl | rfl | rfl
    · exact fun _ => rfl
    · trivial
    · exact fun _ => rfl
    · trivial
    · exact fun _ => rfl
  have hunaware : builtIn.resolver.Unaware fun _ _ => True := by
    intro f hf
    cases hf
  have hrevealed : staged.filterMap (revealed (lastSetting stages (.initial .debug ()))) =
      [base, prod, vault] := rfl
  refine ⟨⟨hturns, hunaware⟩, by rw [hrevealed]; rfl, ?_⟩
  rw [← hrevealed]
  refine ((switches_reveal_or_hide builtIn hunaware stages hturns (.initial .debug ()) rfl staged
    (fun s hs => ?_) stagedMemory rfl).2.2 "url").1
  rw [hrevealed] at hs
  simp only [List.mem_cons, List.not_mem_nil, or_false] at hs
  rcases hs with rfl | rfl | rfl <;> exact twin_ofEntries _ _ _ _ _

end Merge

end LayeredConfig
