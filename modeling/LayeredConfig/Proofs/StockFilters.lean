import LayeredConfig.Filter.Stock
import LayeredConfig.Proofs.Filtering

/-! The filters that come with the library and remember nothing. What they make of an entry
depends on the entry alone. -/

namespace LayeredConfig.Filter.Stock

variable {σ : Type}

lemma cut_ne_empty (cutoff : Option String) {key : String} (h : key ≠ "") :
    cut cutoff key ≠ "" := by
  simp only [cut]
  cases cutoff with
  | none => exact h
  | some c =>
    simp only
    cases Text.after? c key with
    | none => exact h
    | some rest =>
      simp only
      split
      · exact h
      · rename_i hrest
        simpa using hrest

lemma renamed_ne_empty (cutoff target : Option String) {key : String} (h : key ≠ "") :
    renamed cutoff target key ≠ "" := by
  simp [renamed, cut_ne_empty cutoff h]

def Fixed (P : Circumstance σ) : Stock σ → Prop
  | hide _ | mask .. | rename .. => True
  | freeze _ | cache .. => False
  | secure _ _ assigned refusal => refusal ≠ .raise ∧ ∃ held, Ensures P.world assigned (· = held)

def rekey (cutoff target : Option String) (e : Entry) : Entry :=
  { e with key := renamed cutoff target e.key, key_ne := renamed_ne_empty cutoff target e.key_ne }

def admitted (roles : List String) (assigned : Option (List String)) (refusal : Refusal)
    (e : Entry) : Option Entry :=
  match assigned with
  | none => some e
  | some held => if roles.any held.contains || refusal = .warn then some e else none

variable {P : Circumstance σ} {M : Memory σ → Prop}

lemma guardEntry_yields (hM : P.Within M) (roles : List String) (assigned : Option (List String))
    {refusal : Refusal} (h : refusal ≠ .raise) (e : Entry) :
    Yields M (guardEntry roles assigned refusal e) (.ok (admitted roles assigned refusal e)) := by
  simp only [guardEntry, admitted]
  cases assigned with
  | none => exact Yields.pure _
  | some held =>
    simp only
    by_cases hroles : roles.any held.contains = true
    · simp only [hroles, if_true, Bool.true_or]
      exact Yields.pure _
    · simp only [hroles]
      cases refusal with
      | hide => exact Yields.pure _
      | warn => exact Yields.report_act hM _ _ _ _ _ (Yields.pure _)
      | raise => exact absurd rfl h

lemma settled_hide (p : KeyPattern) (id : Nat) :
    ((hide p : Stock σ).toFilter id).Settled M
      fun e => if p.accepts e.key then none else some e where
  run _ _ := Yields.pure _
  same a b hab := by
    rw [hab.key]
    split
    · exact .none
    · exact .some hab

lemma settled_mask (p : KeyPattern) (mask : String) (id : Nat) :
    ((Stock.mask p mask : Stock σ).toFilter id).Settled M
      fun e => some (if p.accepts e.key then e.withValue (some mask) else e) where
  run e _ := by
    change Yields M (Stock.run (.mask p mask) e) _
    rw [Stock.run]
    split <;> exact Yields.pure _
  same a b hab := by
    rw [hab.key]
    split
    · exact .some ⟨hab.key, rfl, hab.source, hab.metadata⟩
    · exact .some hab

lemma settled_rename (p : Option KeyPattern) (cutoff target : Option String) (id : Nat) :
    ((rename p cutoff target : Stock σ).toFilter id).Settled M
      fun e => some (if KeyPattern.accepts? p e.key then rekey cutoff target e else e) where
  run e _ := by
    change Yields M (Stock.run (.rename p cutoff target) e) _
    rw [Stock.run]
    split
    · simp only
      split
      · rename_i hkey
        rw [show rekey cutoff target e = e by simp only [rekey, hkey]]
        exact Yields.pure _
      · rw [Entry.withKey, Entry.make_of_ne (renamed_ne_empty cutoff target e.key_ne)]
        exact Yields.make _
    · exact Yields.pure _
  same a b hab := by
    rw [hab.key]
    split
    · refine .some ⟨?_, hab.value, hab.source, hab.metadata⟩
      simp only [rekey, hab.key]
    · exact .some hab

lemma settled_secure (hM : P.Within M) (p : Option KeyPattern) (roles : List String)
    {assigned : Note σ (Option (List String))} {refusal : Refusal} (hraise : refusal ≠ .raise)
    {held : Option (List String)} (h : Ensures P.world assigned (· = held)) (id : Nat) :
    ((secure p roles assigned refusal).toFilter id).Settled M
      fun e => if KeyPattern.accepts? p e.key then admitted roles held refusal e else some e where
  run e _ := by
    change Yields M (Stock.run (.secure p roles assigned refusal) e) _
    rw [Stock.run]
    split
    · refine Yields.lift (Ensures.recall hM h) fun found hfound => ?_
      rw [hfound]
      exact guardEntry_yields hM roles held hraise e
    · exact Yields.pure _
  same a b hab := by
    rw [hab.key]
    split
    · simp only [admitted]
      cases held with
      | none => exact .some hab
      | some held =>
        simp only
        split
        · exact .some hab
        · exact .none
    · exact .some hab

theorem Fixed.settled (hM : P.Within M) {s : Stock σ} (h : s.Fixed P) (id : Nat) :
    ∃ outcome, (s.toFilter id).Settled M outcome := by
  cases s with
  | hide p => exact ⟨_, settled_hide p id⟩
  | mask p mask => exact ⟨_, settled_mask p mask id⟩
  | rename p cutoff target => exact ⟨_, settled_rename p cutoff target id⟩
  | freeze slot => exact h.elim
  | cache slot p timeout maxSize clock => exact h.elim
  | secure p roles assigned refusal =>
    obtain ⟨hraise, held, hheld⟩ := h
    exact ⟨_, settled_secure hM p roles hraise hheld id⟩

lemma exists_settled (hM : P.Within M) {filters : List (Filter σ)}
    (h : ∀ f ∈ filters, ∃ (s : Stock σ) (id : Nat), f = s.toFilter id ∧ s.Fixed P) :
    ∃ outcome : Filter σ → Entry → Option Entry, ∀ f ∈ filters, f.Settled M (outcome f) := by
  have hsettled (f : Filter σ) : ∃ outcome, f ∈ filters → f.Settled M outcome := by
    by_cases hf : f ∈ filters
    · obtain ⟨s, id, rfl, hfixed⟩ := h f hf
      obtain ⟨outcome, houtcome⟩ := hfixed.settled hM id
      exact ⟨outcome, fun _ => houtcome⟩
    · exact ⟨some, fun hf' => absurd hf' hf⟩
  choose outcome houtcome using hsettled
  exact ⟨outcome, houtcome⟩

end LayeredConfig.Filter.Stock
