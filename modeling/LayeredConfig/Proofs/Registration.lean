import LayeredConfig.Context
import LayeredConfig.Filter.Stock
import LayeredConfig.Proofs.Steadiness

/-! The order of registration. A pass takes the sources by ascending ordinal, and nothing else in
it looks at the order they were registered in. So that order shows among sources of one ordinal
only. -/

namespace LayeredConfig

variable {σ : Type}

structure Source.Reordered (sources sources' : List (Source σ)) : Prop where
  perm : sources'.Perm sources
  ties : ∀ ordinal, sources'.filter (·.ordinal = ordinal) = sources.filter (·.ordinal = ordinal)

namespace Source.Reordered

variable {sources sources' : List (Source σ)}

lemma of_distinct (hperm : sources'.Perm sources)
    (hdistinct : sources.Pairwise (·.ordinal ≠ ·.ordinal)) : Reordered sources sources' where
  perm := hperm
  ties ordinal := (Ranking.Agree.of_perm hperm.symm hdistinct ordinal).symm

lemma inOrder_eq (h : Reordered sources sources') : inOrder sources' = inOrder sources := by
  have hsorted : Ranking.Agree Source.ordinal sources' (inOrder sources) :=
    Ranking.Agree.trans h.ties (Ranking.sort_agree sources).symm
  exact Ranking.sort_eq_of_agree sources' hsorted (Ranking.sort_sorted sources)

end Source.Reordered

namespace Merge

variable (e : Merge σ) {sources sources' : List (Source σ)}

lemma resolveAll_reordered (h : Source.Reordered sources sources') :
    e.resolveAll sources' = e.resolveAll sources := by
  rw [resolveAll, resolveAll, h.inOrder_eq, h.perm.length_eq]

lemma resolve_reordered (h : Source.Reordered sources sources') (key : String) :
    e.resolve key sources' = e.resolve key sources := by
  rw [resolve, resolve, h.inOrder_eq]

end Merge

namespace Context

lemma answers_reordered (c : Context σ) {sources : List (Source σ)}
    (h : Source.Reordered c.sources sources) :
    ({ c with sources } : Context σ).resolve = c.resolve ∧
      ∀ key, ({ c with sources } : Context σ).get? key = c.get? key := by
  constructor
  · rw [resolve, resolve]
    change c.merge.resolveAll sources >>= _ = c.merge.resolveAll c.sources >>= _
    rw [c.merge.resolveAll_reordered h]
  · intro key
    rw [get?, get?]
    change c.merge.resolve key sources >>= _ = c.merge.resolve key c.sources >>= _
    rw [c.merge.resolve_reordered h]

/-- From every memory a context comes to the same snapshot, with the keys in the same order, and to
the same lookups, in whatever order its sources were registered, if those of one ordinal keep their
order or no two have one ordinal. -/
theorem registration_decides_ties_only (c : Context σ) (sources : List (Source σ))
    (h : Source.Reordered c.sources sources ∨
      sources.Perm c.sources ∧ c.sources.Pairwise (·.ordinal ≠ ·.ordinal)) (m : Memory σ) :
    ({ c with sources } : Context σ).resolve.run.run m = c.resolve.run.run m ∧
      ∀ key, (({ c with sources } : Context σ).get? key).run.run m = (c.get? key).run.run m := by
  have hreordered : Source.Reordered c.sources sources := by
    rcases h with hreordered | ⟨hperm, hdistinct⟩
    · exact hreordered
    · exact .of_distinct hperm hdistinct
  obtain ⟨hresolve, hget⟩ := c.answers_reordered hreordered
  rw [hresolve]
  exact ⟨rfl, fun key => by rw [hget key]⟩

def placed (id : Nat) (name : String) (ordinal : Int) (values : List (String × String)) :
    Source Unit :=
  .ofEntries id name ordinal true
    (.ofList (values.filterMap fun p =>
      if h : p.1 ≠ "" then some (p.1, ⟨p.1, some p.2, name, .empty, h⟩) else none))

def bottom : Source Unit :=
  placed 0 "bottom" 0 [("k", "1"), ("k.combination-policy", "names"), ("x", "2")]

def left : Source Unit := placed 1 "left" 5 [("k", "3")]

def right : Source Unit := placed 2 "right" 5 [("k", "4"), ("y", "5")]

def naming : Policy Unit where
  label := "names"
  combine current _ source _ := pure (some (current.getD "" ++ source.name))

def tied : Context Unit where
  sources := [bottom, left, right]
  filters := [(Filter.Stock.freeze 0).toFilter 0]
  converters := .empty
  resolver := ⟨0, .ofList [("names", ⟨0, pure 1, fun _ => naming⟩)], .standard⟩

def tiedMemory : Memory Unit :=
  { Memory.initial .debug () with frozen := .ofList [(0, .ofList [("x", some "0")])] }

def published (r : Except Failure (Config Unit)) : List (String × Option String) :=
  (r.toOption.map fun config => config.entries.pairs.map fun p => (p.1, p.2.value)).getD []

lemma reordered_tied : Source.Reordered tied.sources [left, bottom, right] where
  perm := List.Perm.swap bottom left [right]
  ties := by
    have hordinals : ∀ s ∈ [left], ∀ t ∈ [bottom], s.ordinal ≠ t.ordinal := by decide
    exact (Ranking.Agree.swap hordinals).append (.refl [right])

theorem tied_registered_in_any_order :
    Source.Reordered tied.sources [left, bottom, right] ∧
    published (tied.resolve.run.run tiedMemory).1 =
      [("k", some "bottomleftright"), ("x", some "0"), ("y", some "5")] ∧
    ({ tied with sources := [left, bottom, right] } : Context Unit).resolve.run.run tiedMemory =
      tied.resolve.run.run tiedMemory ∧
    (({ tied with sources := [left, bottom] } : Context Unit).get? "k").run.run tiedMemory =
      (({ tied with sources := [bottom, left] } : Context Unit).get? "k").run.run tiedMemory := by
  have hordered : Source.inOrder tied.sources = tied.sources :=
    List.mergeSort_of_pairwise (by decide)
  have hdistinct : [bottom, left].Pairwise (·.ordinal ≠ ·.ordinal) := by decide
  refine ⟨reordered_tied, ?_, ?_, ?_⟩
  · rw [resolve, Merge.resolveAll, hordered]
    decide +kernel
  · exact (registration_decides_ties_only tied _ (.inl reordered_tied) tiedMemory).1
  · exact (registration_decides_ties_only { tied with sources := [bottom, left] } [left, bottom]
      (.inr ⟨List.Perm.swap bottom left [], hdistinct⟩) tiedMemory).2 "k"

end Context

end LayeredConfig
