import LayeredConfig.Proofs.Repetition
import Mathlib.Data.Set.Function

/-! Passes in another order. Filters remember by key, so an entry touches a few cells of what they
remember. While no two entries come to the same cell, each fares as it would alone, and a pass
gives the same in whatever order it takes them. -/

namespace LayeredConfig

variable {σ α β : Type}

inductive Cell
  | frozen (slot : Nat) (key : String)
  | cached (slot : Nat) (key : String)
  deriving DecidableEq

def Cell.key : Cell → String
  | frozen _ key | cached _ key => key

namespace Memory

def content (m : Memory σ) : Cell → Option (Option String ⊕ Rat × Entry)
  | .frozen slot key => ((m.frozen.getD slot .empty).get? key).map .inl
  | .cached slot key => ((m.cached.getD slot .empty).get? key).map .inr

lemma content_congr {m m' : Memory σ} (hfrozen : m'.frozen = m.frozen)
    (hcached : m'.cached = m.cached) : m'.content = m.content := by
  funext c
  cases c with
  | frozen slot key => simp only [content, hfrozen]
  | cached slot key => simp only [content, hcached]

lemma get?_frozen_of_content {m n : Memory σ} {slot : Nat} {key : String}
    (h : n.content (.frozen slot key) = m.content (.frozen slot key)) :
    (n.frozen.getD slot .empty).get? key = (m.frozen.getD slot .empty).get? key :=
  Option.map_injective Sum.inl_injective h

lemma get?_cached_of_content {m n : Memory σ} {slot : Nat} {key : String}
    (h : n.content (.cached slot key) = m.content (.cached slot key)) :
    (n.cached.getD slot .empty).get? key = (m.cached.getD slot .empty).get? key :=
  Option.map_injective Sum.inr_injective h

def Keyed (m : Memory σ) : Prop :=
  ∀ slot key expiry e, (m.cached.getD slot .empty).get? key = some (expiry, e) → e.key = key

lemma keyed_of_fresh {m : Memory σ} (h : m.cached = .empty) : m.Keyed := by
  intro slot key expiry e hget
  rw [h] at hget
  cases hget

end Memory

def Circumstance.keyed (P : Circumstance σ) (m : Memory σ) : Prop := P.memory m ∧ m.Keyed

lemma Circumstance.within_keyed (P : Circumstance σ) : P.Within P.keyed :=
  ⟨fun _ h => h.1, fun _ _ h hw => ⟨hw, h.2⟩⟩

/-- The computation succeeds with an answer in `Q`. It writes no cell outside `S`, and from equal
cells in `S` it gives the same answer and leaves equal cells. -/
def Local (I : Memory σ → Prop) (S : Set Cell) (x : Act σ α) (Q : α → Prop) : Prop :=
  ∀ m, I m → ∃ a m', x.run.run m = (.ok a, m') ∧ Q a ∧ I m' ∧ Set.EqOn m'.content m.content Sᶜ ∧
    ∀ n, I n → Set.EqOn n.content m.content S →
      ∃ n', x.run.run n = (.ok a, n') ∧ Set.EqOn n'.content m'.content S

namespace Local

variable {P : Circumstance σ} {I : Memory σ → Prop} {S : Set Cell} {Q : α → Prop}

lemma pure {a : α} (h : Q a) : Local I S (pure a) Q := fun m hm =>
  ⟨a, m, rfl, h, hm, fun _ _ => rfl, fun n _ hsame => ⟨n, rfl, hsame⟩⟩

lemma mono {S' : Set Cell} {x : Act σ α} (hS : S ⊆ S') (hx : Local I S x Q) : Local I S' x Q := by
  intro m hm
  obtain ⟨a, m', hrun, ha, hm', hframe, hagain⟩ := hx m hm
  refine ⟨a, m', hrun, ha, hm', hframe.mono (Set.compl_subset_compl.2 hS), fun n hn hsame => ?_⟩
  obtain ⟨n', hrun', hsame'⟩ := hagain n hn (hsame.mono hS)
  refine ⟨n', hrun', fun c hc => ?_⟩
  by_cases hcS : c ∈ S
  · exact hsame' hcS
  · -- Neither run writes a cell that only the larger set has.
    obtain ⟨_, _, hrunn, _, _, hframen, _⟩ := hx n hn
    obtain ⟨-, rfl⟩ := Prod.mk.inj (hrun'.symm.trans hrunn)
    rw [hframen hcS, hframe hcS, hsame hc]

lemma bind {x : Act σ α} {f : α → Act σ β} {R : β → Prop} (hx : Local I S x Q)
    (hf : ∀ a, Q a → Local I S (f a) R) : Local I S (x >>= f) R := by
  intro m hm
  obtain ⟨a, m₁, hx₁, ha, hm₁, hframe₁, hagain₁⟩ := hx m hm
  obtain ⟨b, m₂, hf₂, hb, hm₂, hframe₂, hagain₂⟩ := hf a ha m₁ hm₁
  refine ⟨b, m₂, (run_bind_ok hx₁).trans hf₂, hb, hm₂, hframe₂.trans hframe₁, fun n hn hsame => ?_⟩
  obtain ⟨n₁, hxn, hsame₁⟩ := hagain₁ n hn hsame
  -- That the run from `n` keeps the invariant is what `hx` says of `n` itself.
  obtain ⟨_, _, hxn', _, hn₁, _⟩ := hx n hn
  obtain ⟨-, rfl⟩ := Prod.mk.inj (hxn.symm.trans hxn')
  obtain ⟨n₂, hfn, hsame₂⟩ := hagain₂ n₁ hn₁ hsame₁
  exact ⟨n₂, (run_bind_ok hxn).trans hfn, hsame₂⟩

lemma lift {x : Recall σ α}
    (h : ∀ m, I m → Q (x.run m).1 ∧ I (x.run m).2 ∧ Set.EqOn (x.run m).2.content m.content Sᶜ)
    (hsame : ∀ m n, I m → I n → Set.EqOn n.content m.content S →
      (x.run n).1 = (x.run m).1 ∧ Set.EqOn (x.run n).2.content (x.run m).2.content S) :
    Local I S (ExceptT.lift x) Q := by
  intro m hm
  obtain ⟨ha, hm', hframe⟩ := h m hm
  refine ⟨_, _, rfl, ha, hm', hframe, fun n hn hagree => ?_⟩
  obtain ⟨hanswer, hend⟩ := hsame m n hm hn hagree
  exact ⟨_, Prod.ext (congrArg Except.ok hanswer) rfl, hend⟩

lemma of_yields (hI : P.Within I) {x : Act σ α} {a : α}
    (h : ∀ M : Memory σ → Prop, P.Within M → Yields M x (.ok a)) (ha : Q a) : Local I S x Q := by
  have hrun (m : Memory σ) (hm : I m) :
      ∃ m', x.run.run m = (.ok a, m') ∧ I m' ∧ m'.content = m.content := by
    obtain ⟨m', hrun, hend, hfrozen, hcached⟩ := Yields.leaves hI h hm
    exact ⟨m', hrun, hend, Memory.content_congr hfrozen hcached⟩
  intro m hm
  obtain ⟨m', hrunm, hm', hcontent⟩ := hrun m hm
  refine ⟨a, m', hrunm, ha, hm', fun c _ => congrFun hcontent c, fun n hn hsame => ?_⟩
  obtain ⟨n', hrunn, -, hcontent'⟩ := hrun n hn
  refine ⟨n', hrunn, ?_⟩
  rw [hcontent, hcontent']
  exact hsame

end Local

def Terms.held (q : Terms) (found : Option (Rat × Entry)) (e : Entry) : Rat × Entry :=
  match found with
  | some (expiry, kept) => if q.now < expiry then (expiry, kept) else (q.now + q.timeout, e)
  | none => (q.now + q.timeout, e)

lemma Terms.Step.unbounded {q : Terms} {held held' : Ledger String (Rat × Entry)}
    {e answer : Entry} (h : q.Step held e answer held') (hsize : q.maxSize < 0) :
    answer = (q.held (held.get? e.key) e).2 ∧
      ∀ key, held'.get? key = if key = e.key then some (q.held (held.get? e.key) e)
        else held.get? key := by
  cases h with
  | kept hget hnow =>
    simp only [Terms.held, hget, if_pos hnow]
    refine ⟨trivial, fun key => ?_⟩
    split
    · rename_i hkey
      rw [hkey, hget]
    · rfl
  | renewed hget hnow =>
    simp only [Terms.held, hget, if_neg hnow]
    exact ⟨trivial, fun key => Ledger.get?_put held e.key key _⟩
  | stored hget hroom =>
    simp only [Terms.held, hget]
    exact ⟨trivial, fun key => Ledger.get?_put held e.key key _⟩
  | passed hget hroom => simp [Filter.Stock.hasRoom, hsize] at hroom

namespace Filter.Stock

variable {P : Circumstance σ} {terms : Nat → Terms}

inductive Touches : Stock σ → String → Cell → Prop
  | freeze {slot : Nat} {key : String} : Touches (.freeze slot) key (.frozen slot key)
  | cache {slot : Nat} {p : Option KeyPattern} {timeout : Rat} {maxSize : Int} {clock : Note σ Rat}
    {key : String} : KeyPattern.accepts? p key = true →
    Touches (.cache slot p timeout maxSize clock) key (.cached slot key)

inductive Hands (P : Circumstance σ) : Stock σ → String → String → Prop
  | hide {p : KeyPattern} {key : String} : p.accepts key = false → Hands P (.hide p) key key
  | mask {p : KeyPattern} {mask key : String} : Hands P (.mask p mask) key key
  | rename {p : Option KeyPattern} {cutoff target : Option String} {key : String} :
    Hands P (.rename p cutoff target) key
      (if KeyPattern.accepts? p key then renamed cutoff target key else key)
  | freeze {slot : Nat} {key : String} : Hands P (.freeze slot) key key
  | cache {slot : Nat} {p : Option KeyPattern} {timeout : Rat} {maxSize : Int} {clock : Note σ Rat}
    {key : String} : Hands P (.cache slot p timeout maxSize clock) key key
  | secure {p : Option KeyPattern} {roles : List String} {assigned : Note σ (Option (List String))}
    {held : Option (List String)} {refusal : Refusal} {key : String} {e : Entry} :
    Ensures P.world assigned (· = held) →
    (KeyPattern.accepts? p key = true → admitted roles held refusal e = some e) →
    Hands P (.secure p roles assigned refusal) key key

def Renames : Stock σ → Prop
  | rename .. => True
  | _ => False

def Remembers : Stock σ → Prop
  | freeze _ | cache .. => True
  | _ => False

lemma Touches.key_eq {s : Stock σ} {key : String} {c : Cell} (h : s.Touches key c) : c.key = key := by
  cases h <;> rfl

lemma Touches.remembers {s : Stock σ} {key : String} {c : Cell} (h : s.Touches key c) :
    s.Remembers := by
  cases h <;> trivial

lemma Hands.key_eq {s : Stock σ} {key next : String} (h : Hands P s key next) (hs : ¬ s.Renames) :
    next = key := by
  cases h with
  | rename => exact absurd trivial hs
  | _ => rfl

lemma eq_of_admitted {roles : List String} {held : Option (List String)} {refusal : Refusal}
    {e next : Entry} (h : admitted roles held refusal e = some next) : next = e := by
  simp only [admitted] at h
  split at h
  · exact (Option.some.inj h).symm
  · split at h
    · exact (Option.some.inj h).symm
    · cases h

lemma content_freezeEntry (slot : Nat) (e : Entry) (m : Memory σ) (c : Cell) :
    (freezeEntry slot e m).2.content c =
      if c = .frozen slot e.key then
        some (.inl (((m.frozen.getD slot .empty).get? e.key).getD e.value))
      else m.content c := by
  rw [freezeEntry_eq]
  cases c with
  | cached other key => rfl
  | frozen other key =>
    simp only [Memory.content, Ledger.getD_put, Cell.frozen.injEq]
    by_cases hother : other = slot
    · subst hother
      by_cases hkey : key = e.key
      · subst hkey
        cases hget : (m.frozen.getD other .empty).get? e.key <;> simp [Ledger.get?_putNew, hget]
      · simp [Ledger.get?_putNew, hkey]
    · simp [hother]

lemma local_freeze (P : Circumstance σ) (slot : Nat) (e : Entry) :
    Local P.keyed {.frozen slot e.key} ((freeze slot).run e)
      fun found => ∀ next, found = some next → Hands P (.freeze slot) e.key next.key := by
  refine Local.bind (Q := fun next => next.key = e.key) (Local.lift (fun m hm => ?_)
    fun m n _ _ hsame => ?_) fun next hnext => Local.pure ?_
  · change (freezeEntry slot e m).1.key = _ ∧ P.keyed (freezeEntry slot e m).2 ∧
      Set.EqOn (freezeEntry slot e m).2.content _ _
    refine ⟨by rw [freezeEntry_eq]; rfl, ⟨hm.1, hm.2⟩, fun c hc => ?_⟩
    rw [content_freezeEntry, if_neg (by simpa using hc)]
  · have hget := Memory.get?_frozen_of_content (hsame rfl)
    change (freezeEntry slot e n).1 = (freezeEntry slot e m).1 ∧
      Set.EqOn (freezeEntry slot e n).2.content (freezeEntry slot e m).2.content _
    refine ⟨by rw [freezeEntry_eq, freezeEntry_eq, hget], Set.eqOn_singleton.2 ?_⟩
    rw [content_freezeEntry, content_freezeEntry, if_pos rfl, if_pos rfl, hget]
  · rintro _ ⟨⟩
    rw [hnext]
    exact .freeze

lemma cacheEntry_eq {q : Terms} (hsize : q.maxSize < 0) (slot : Nat) (e : Entry) (m : Memory σ) :
    ∃ cached,
      cacheEntry slot q.timeout q.maxSize q.now e m =
        ((q.held ((m.cached.getD slot .empty).get? e.key) e).2, { m with cached }) ∧
      ∀ other key, (cached.getD other .empty).get? key =
        if other = slot ∧ key = e.key then
          some (q.held ((m.cached.getD slot .empty).get? e.key) e)
        else (m.cached.getD other .empty).get? key := by
  obtain ⟨answer, cached, hrun, hstep, hothers⟩ := cacheEntry_step q slot e m
  obtain ⟨rfl, hget⟩ := hstep.unbounded hsize
  refine ⟨cached, hrun, fun other key => ?_⟩
  by_cases hother : other = slot
  · subst hother
    simp [hget]
  · simp [hother, hothers other hother]

lemma key_held {m : Memory σ} (hm : m.Keyed) (q : Terms) (slot : Nat) (e : Entry) :
    (q.held ((m.cached.getD slot .empty).get? e.key) e).2.key = e.key := by
  cases hget : (m.cached.getD slot .empty).get? e.key with
  | none => rfl
  | some found =>
    simp only [Terms.held]
    split
    · exact hm slot e.key found.1 found.2 hget
    · rfl

lemma local_cacheEntry (P : Circumstance σ) {q : Terms} (hsize : q.maxSize < 0) (slot : Nat)
    (e : Entry) :
    Local P.keyed {.cached slot e.key}
      (ExceptT.lift (cacheEntry slot q.timeout q.maxSize q.now e)) fun next => next.key = e.key := by
  -- One cell is written at most, and one cell decides on the answer.
  refine Local.lift (fun m hm => ?_) fun m n hm hn hsame => ?_
  · obtain ⟨cached, hrun, hget⟩ := cacheEntry_eq hsize slot e m
    rw [show StateT.run (cacheEntry slot _ _ _ e) m = _ from hrun]
    have hkey := key_held hm.2 q slot e
    refine ⟨hkey, ⟨hm.1, fun other key expiry kept hkept => ?_⟩, fun c hc => ?_⟩
    · rw [hget] at hkept
      split at hkept
      · rename_i hcell
        rw [hcell.2, ← hkey, Option.some.inj hkept]
      · exact hm.2 other key expiry kept hkept
    · cases c with
      | frozen other key => rfl
      | cached other key =>
        have hne : ¬ (other = slot ∧ key = e.key) := by simpa using hc
        simp only [Memory.content, hget, if_neg hne]
  · obtain ⟨cached, hrun, hget⟩ := cacheEntry_eq hsize slot e m
    obtain ⟨cached', hrun', hget'⟩ := cacheEntry_eq hsize slot e n
    rw [show StateT.run (cacheEntry slot _ _ _ e) m = _ from hrun,
      show StateT.run (cacheEntry slot _ _ _ e) n = _ from hrun',
      Memory.get?_cached_of_content (hsame rfl)]
    refine ⟨rfl, Set.eqOn_singleton.2 ?_⟩
    simp only [Memory.content, hget, hget', Memory.get?_cached_of_content (hsame rfl)]

lemma local_cache {slot : Nat} (hsize : (terms slot).maxSize < 0) (p : Option KeyPattern)
    {clock : Note σ Rat} (hclock : Ensures P.world clock (· = (terms slot).now)) (e : Entry) :
    let s : Stock σ := cache slot p (terms slot).timeout (terms slot).maxSize clock
    Local P.keyed {c | s.Touches e.key c} (s.run e)
      fun found => ∀ next, found = some next → Hands P s e.key next.key := by
  intro s
  change Local P.keyed _ (Stock.run (cache slot p _ _ clock) e) _
  rw [Stock.run]
  split
  · rename_i haccepts
    have hnow : Local P.keyed {c | s.Touches e.key c} (ExceptT.lift (Note.recall clock))
        (· = (terms slot).now) :=
      Local.of_yields P.within_keyed (fun M hM => Yields.note hM hclock) rfl
    refine hnow.bind ?_
    rintro _ rfl
    have hcell : {.cached slot e.key} ⊆ {c | s.Touches e.key c} :=
      Set.singleton_subset_iff.2 (.cache haccepts)
    refine ((local_cacheEntry P hsize slot e).mono hcell).bind fun next hnext => Local.pure ?_
    rintro _ ⟨⟩
    rw [hnext]
    exact .cache
  · refine Local.pure ?_
    rintro _ ⟨⟩
    exact .cache

lemma local_secure (p : Option KeyPattern) (roles : List String)
    {assigned : Note σ (Option (List String))} {refusal : Refusal} (hraise : refusal ≠ .raise)
    {held : Option (List String)} (hheld : Ensures P.world assigned (· = held)) (e : Entry)
    (S : Set Cell) :
    Local P.keyed S ((secure p roles assigned refusal).run e) fun found =>
      ∀ next, found = some next → Hands P (.secure p roles assigned refusal) e.key next.key := by
  refine Local.of_yields P.within_keyed
    (fun M hM => (settled_secure hM p roles hraise hheld 0).run e ⟨"", .empty, true⟩) ?_
  intro next hnext
  split at hnext
  · obtain rfl := eq_of_admitted hnext
    exact .secure hheld fun _ => hnext
  · rename_i hrejects
    cases hnext
    exact .secure (e := e) hheld fun haccepts => absurd haccepts hrejects

lemma Even.local {s : Stock σ} (h : s.Even P terms) (hsize : ∀ slot, (terms slot).maxSize < 0)
    (e : Entry) :
    Local P.keyed {c | s.Touches e.key c} (s.run e)
      fun found => ∀ next, found = some next → Hands P s e.key next.key := by
  cases s with
  | hide p =>
    refine Local.of_yields P.within_keyed
      (fun M _ => (settled_hide p 0).run e ⟨"", .empty, true⟩) ?_
    intro next hnext
    split at hnext
    · cases hnext
    · rename_i hrejects
      cases hnext
      exact .hide (by simpa using hrejects)
  | mask p mask =>
    refine Local.of_yields P.within_keyed
      (fun M _ => (settled_mask p mask 0).run e ⟨"", .empty, true⟩) ?_
    rintro _ ⟨⟩
    split <;> exact .mask
  | rename p cutoff target =>
    refine Local.of_yields P.within_keyed
      (fun M _ => (settled_rename p cutoff target 0).run e ⟨"", .empty, true⟩) ?_
    rintro _ ⟨⟩
    rw [apply_ite Entry.key]
    exact .rename
  | freeze slot => exact (local_freeze P slot e).mono (Set.singleton_subset_iff.2 .freeze)
  | cache slot p timeout maxSize clock =>
    obtain ⟨rfl, rfl, hclock⟩ := h
    exact local_cache (hsize slot) p hclock e
  | secure p roles assigned refusal =>
    obtain ⟨hraise, held, hheld⟩ := h
    exact local_secure p roles hraise hheld e _

end Filter.Stock

namespace Filter

variable {P : Circumstance σ} {terms : Nat → Terms} {stocks : List (Stock σ × Nat)}

def chain (stocks : List (Stock σ × Nat)) : List (Filter σ) := stocks.map fun p => p.1.toFilter p.2

/-- An entry that has the key in front of the chain comes to the cell. -/
inductive Reaches (P : Circumstance σ) : List (Stock σ × Nat) → String → Cell → Prop
  | here {s : Stock σ} {id : Nat} {stocks : List (Stock σ × Nat)} {key : String} {c : Cell} :
    s.Touches key c → Reaches P ((s, id) :: stocks) key c
  | later {s : Stock σ} {id : Nat} {stocks : List (Stock σ × Nat)} {key next : String} {c : Cell} :
    s.Hands P key next → Reaches P stocks next c → Reaches P ((s, id) :: stocks) key c

def Apart (P : Circumstance σ) (stocks : List (Stock σ × Nat)) (entries : List (String × Entry)) :
    Prop :=
  entries.Pairwise fun p q => ∀ c, Reaches P stocks p.2.key c → ¬ Reaches P stocks q.2.key c

lemma Apart.perm {entries entries' : List (String × Entry)} (h : Apart P stocks entries)
    (horder : entries.Perm entries') : Apart P stocks entries' :=
  List.Pairwise.perm h horder fun hpq c hq hp => hpq c hp hq

lemma Reaches.remembers {key : String} {c : Cell} (h : Reaches P stocks key c) :
    ∃ p ∈ stocks, p.1.Remembers := by
  induction h with
  | here htouches => exact ⟨_, List.mem_cons_self, htouches.remembers⟩
  | later _ _ ih =>
    obtain ⟨p, hp, hremembers⟩ := ih
    exact ⟨p, List.mem_cons_of_mem _ hp, hremembers⟩

lemma Reaches.key_eq {front back : List (Stock σ × Nat)} (hfront : ∀ p ∈ front, ¬ p.1.Renames)
    (hback : ∀ p ∈ back, ¬ p.1.Remembers) {key : String} {c : Cell}
    (h : Reaches P (front ++ back) key c) : c.key = key := by
  -- Through the front the entry keeps its key, and no filter of the back has a cell to come to.
  induction front generalizing key with
  | nil =>
    obtain ⟨p, hp, hremembers⟩ := h.remembers
    exact absurd hremembers (hback p hp)
  | cons p front ih =>
    cases h with
    | here htouches => exact htouches.key_eq
    | later hhands hrest =>
      rw [ih (fun q hq => hfront q (List.mem_cons_of_mem _ hq)) hrest,
        hhands.key_eq (hfront _ List.mem_cons_self)]

lemma apart_of_renaming_last {front back : List (Stock σ × Nat)}
    (hfront : ∀ p ∈ front, ¬ p.1.Renames) (hback : ∀ p ∈ back, ¬ p.1.Remembers)
    {entries : Ledger String Entry} (hkeys : ∀ p ∈ entries.pairs, p.2.key = p.1) :
    Apart P (front ++ back) entries.pairs := by
  have hdistinct : entries.pairs.Pairwise fun p q => p.1 ≠ q.1 := List.pairwise_map.1 entries.nodup
  refine hdistinct.imp_of_mem fun {p q} hp hq hne c hpc hqc => hne ?_
  rw [← hkeys p hp, ← hkeys q hq, ← hpc.key_eq hfront hback, ← hqc.key_eq hfront hback]

section Chain

variable (heven : ∀ p ∈ stocks, p.1.Even P terms) (hsize : ∀ slot, (terms slot).maxSize < 0)

include heven hsize in
lemma runAll_local (context : FilterContext) (e : Entry) :
    Local P.keyed {c | Reaches P stocks e.key c} (runAll context e (chain stocks))
      fun _ => True := by
  induction stocks generalizing e with
  | nil => exact Local.pure trivial
  | cons p stocks ih =>
    obtain ⟨s, id⟩ := p
    rw [chain, List.map_cons, runAll]
    refine (((heven _ List.mem_cons_self).local hsize e).mono fun c hc => .here hc).bind
      fun found hfound => ?_
    cases found with
    | none => exact Local.pure trivial
    | some next =>
      exact (ih (fun p hp => heven p (List.mem_cons_of_mem _ hp)) next).mono
        fun c hc => .later (hfound next rfl) hc

include heven hsize in
lemma apply_local (e : Entry) (context : FilterContext) :
    Local P.keyed {c | Reaches P stocks e.key c} (apply (chain stocks) e context)
      fun _ => True := by
  rw [apply]
  refine (runAll_local heven hsize context e).bind fun found _ => ?_
  cases found with
  | ok filtered => exact Local.pure trivial
  | error name =>
    have hreport (M : Memory σ → Prop) (hM : P.Within M) :
        Yields M (report .debug "property_filtered" (some e.source) (some e.key)
          [("filter", .text name)] : Act σ Unit) (.ok ()) :=
      Yields.report_act hM _ _ _ _ _ (Yields.pure ())
    exact (Local.of_yields (Q := fun _ => True) P.within_keyed hreport trivial).bind
      fun _ _ => Local.pure trivial

lemma runAll_chain (context context' : FilterContext) (stocks : List (Stock σ × Nat)) (e : Entry) :
    runAll context e (chain stocks) = runAll context' e (chain stocks) := by
  induction stocks generalizing e with
  | nil => rfl
  | cons p stocks ih =>
    rw [chain, List.map_cons, runAll, runAll]
    refine congrArg (p.1.run e >>= ·) (funext fun found => ?_)
    cases found with
    | none => rfl
    | some next => exact ih next

lemma apply_chain (e : Entry) (context context' : FilterContext) :
    apply (chain stocks) e context = apply (chain stocks) e context' := by
  rw [apply, apply, runAll_chain context context']

def alone (stocks : List (Stock σ × Nat)) (m : Memory σ) (e : Entry) : Option Entry :=
  ((apply (chain stocks) e ⟨e.key, .empty, true⟩).run.run m).1.toOption.join

include heven hsize in
lemma apply_alone {m : Memory σ} (hm : P.keyed m) (e : Entry) (context : FilterContext) :
    ∃ m', (apply (chain stocks) e context).run.run m = (.ok (alone stocks m e), m') ∧ P.keyed m' ∧
      (∀ c, ¬ Reaches P stocks e.key c → m'.content c = m.content c) := by
  obtain ⟨found, m', hrun, -, hm', hframe, -⟩ := apply_local heven hsize e context m hm
  have halone : alone stocks m e = found := by
    rw [alone, apply_chain e _ context, hrun]
    rfl
  rw [halone]
  exact ⟨m', hrun, hm', fun c hc => hframe hc⟩

include heven hsize in
lemma alone_congr {m n : Memory σ} (hm : P.keyed m) (hn : P.keyed n) (e : Entry)
    (h : ∀ c, Reaches P stocks e.key c → n.content c = m.content c) :
    alone stocks n e = alone stocks m e := by
  obtain ⟨found, m', hrun, -, -, -, hagain⟩ :=
    apply_local heven hsize e ⟨e.key, .empty, true⟩ m hm
  obtain ⟨n', hrun', -⟩ := hagain n hn fun c hc => h c hc
  rw [alone, alone, hrun, hrun']

variable {pass : Sorted → String × Entry → Act σ Sorted} (context : String × Entry → FilterContext)
  (hpass : ∀ s p, pass s p =
    apply (chain stocks) p.2 (context p) >>= fun filtered => Pure.pure (s.file p.1 filtered))

include heven hsize hpass in
lemma foldlM_pass {m : Memory σ} (hm : P.keyed m) {entries : List (String × Entry)}
    (hapart : Apart P stocks entries) {n : Memory σ} (hn : P.keyed n)
    (hsame : ∀ p ∈ entries, ∀ c, Reaches P stocks p.2.key c → n.content c = m.content c)
    (start : Sorted) :
    ∃ n', (entries.foldlM pass start).run.run n =
      (.ok (sortOut (alone stocks m) start entries), n') ∧ P.keyed n' := by
  induction entries generalizing n start with
  | nil => exact ⟨n, rfl, hn⟩
  | cons p entries ih =>
    obtain ⟨hp, hentries⟩ := List.pairwise_cons.1 hapart
    -- No entry in front of this one has come to its cells, so it fares as in the memory `m`.
    obtain ⟨n₁, hrun, hn₁, hframe⟩ := apply_alone heven hsize hn p.2 (context p)
    rw [alone_congr heven hsize hm hn p.2 (hsame p List.mem_cons_self)] at hrun
    have hsame₁ : ∀ q ∈ entries, ∀ c, Reaches P stocks q.2.key c → n₁.content c = m.content c := by
      intro q hq c hc
      rw [hframe c fun hpc => hp q hq c hpc hc, hsame q (List.mem_cons_of_mem _ hq) c hc]
    obtain ⟨n₂, hrest, hn₂⟩ := ih hentries hn₁ hsame₁ (start.file p.1 (alone stocks m p.2))
    refine ⟨n₂, ?_, hn₂⟩
    have hstep : (pass start p).run.run n = (.ok (start.file p.1 (alone stocks m p.2)), n₁) := by
      rw [hpass]
      exact run_bind_ok hrun
    rw [List.foldlM_cons, sortOut, List.foldl_cons, ← sortOut, ← hrest]
    exact run_bind_ok hstep

include heven hsize in
lemma applyAll_alone {m : Memory σ} (hm : P.keyed m) {entries : Ledger String Entry}
    (hapart : Apart P stocks entries.pairs) :
    ((applyAll (Pure.pure (chain stocks)) entries).run.run m).1 =
      .ok (if stocks.isEmpty then entries else rest (alone stocks m) entries) := by
  cases hempty : stocks.isEmpty with
  | true =>
    rw [List.isEmpty_iff.1 hempty]
    rfl
  | false =>
    obtain ⟨m', hpass, hm'⟩ := foldlM_pass heven hsize (fun p => ⟨p.1, entries, false⟩)
      (fun _ _ => rfl) hm hapart hm (fun _ _ _ _ => rfl) ⟨.empty, []⟩
    have hchain : (chain stocks).isEmpty = false := by
      rw [chain, List.isEmpty_map, hempty]
    change ((if (chain stocks).isEmpty then _ else _ : Act σ _).run.run m).1 = _
    rw [hchain]
    refine (congrArg Prod.fst (run_bind_ok hpass)).trans ?_
    exact (settle_yields P.within_keyed _ _ m' hm').1

end Chain

/-- If no two entries come to the same cell, a pass gives the same in any order, and an entry that
keeps its key is published as the chain filters it by itself. -/
theorem applyAll_in_any_order (heven : ∀ p ∈ stocks, p.1.Even P terms)
    (hsize : ∀ slot, (terms slot).maxSize < 0) {entries entries' : Ledger String Entry}
    (horder : entries.pairs.Perm entries'.pairs) (hapart : Apart P stocks entries.pairs)
    {m : Memory σ} (hm : P.keyed m) :
    ∃ result result' : Ledger String Entry,
      ((applyAll (Pure.pure (chain stocks)) entries).run.run m).1 = .ok result ∧
      ((applyAll (Pure.pure (chain stocks)) entries').run.run m).1 = .ok result' ∧
      (∀ key, result.get? key = result'.get? key) ∧
      ∀ key e context, entries.get? key = some e → ∃ own,
        ((apply (chain stocks) e context).run.run m).1 = .ok own ∧
        ∀ kept, own = some kept → kept.key = key → kept.value.isSome = true →
          result.get? key = some kept := by
  have hsame := Ledger.get?_of_perm horder
  refine ⟨_, _, applyAll_alone heven hsize hm hapart,
    applyAll_alone heven hsize hm (hapart.perm horder), fun key => ?_,
    fun key e context he => ⟨alone stocks m e, ?_, fun kept hkept hkey hvalue => ?_⟩⟩
  · split
    · exact hsame key
    · exact get?_rest_congr _ hsame key
  · obtain ⟨m', hrun, -⟩ := apply_alone heven hsize hm e context
    rw [hrun]
  · split
    · rename_i hempty
      rw [List.isEmpty_iff.1 hempty] at hkept
      exact he.trans hkept
    · exact get?_rest_of_kept _ he hkept hkey hvalue

def former : Entry := ⟨"old.name", some "1", "first", .empty, by decide⟩

def holder : Entry := ⟨"name", some "2", "second", .empty, by decide⟩

def namesakes : Ledger String Entry := ⟨[("old.name", former), ("name", holder)], by decide⟩

def namesakesTurned : Ledger String Entry := ⟨[("name", holder), ("old.name", former)], by decide⟩

def cutLead : Stock Unit × Nat := (.rename none (some "old.") none, 0)

def remembering : List (Stock Unit × Nat) :=
  [(.freeze 0, 1), (.cache 0 none 300 (-1) (Pure.pure 5), 2)]

theorem namesakes_in_any_order :
    namesakes.pairs.Perm namesakesTurned.pairs ∧
    Apart Circumstance.always (remembering ++ [cutLead]) namesakes.pairs ∧
    ∃ result result' : Ledger String Entry,
      ((applyAll (Pure.pure (chain (remembering ++ [cutLead]))) namesakes).run.run
        (Memory.initial .debug ())).1 = .ok result ∧
      ((applyAll (Pure.pure (chain (remembering ++ [cutLead]))) namesakesTurned).run.run
        (Memory.initial .debug ())).1 = .ok result' ∧
      (∀ key, result.get? key = result'.get? key) ∧ result.get? "name" = some holder := by
  have heven : ∀ p ∈ remembering ++ [cutLead],
      p.1.Even Circumstance.always fun _ => ⟨300, -1, 5⟩ := by
    refine List.forall_mem_cons.2 ⟨trivial, List.forall_mem_cons.2
      ⟨⟨rfl, rfl, Ensures.pure rfl⟩, List.forall_mem_singleton.2 trivial⟩⟩
  have hfront : ∀ p ∈ remembering, ¬ p.1.Renames :=
    List.forall_mem_cons.2 ⟨fun h => h, List.forall_mem_singleton.2 fun h => h⟩
  have hback : ∀ p ∈ [cutLead], ¬ p.1.Remembers := List.forall_mem_singleton.2 fun h => h
  have hapart : Apart Circumstance.always (remembering ++ [cutLead]) namesakes.pairs :=
    apart_of_renaming_last hfront hback (by decide)
  have horder : namesakes.pairs.Perm namesakesTurned.pairs := List.Perm.swap _ _ _
  have hkeyed : Circumstance.always.keyed (Memory.initial .debug ()) :=
    ⟨trivial, Memory.keyed_of_fresh rfl⟩
  obtain ⟨result, result', hrun, hrun', hsame, halone⟩ :=
    applyAll_in_any_order heven (fun _ => by decide) horder hapart hkeyed
  refine ⟨horder, hapart, result, result', hrun, hrun', hsame, ?_⟩
  obtain ⟨own, hown, hkept⟩ := halone "name" holder ⟨"name", .empty, true⟩ rfl
  exact hkept _ (Except.ok.inj (hown.symm.trans rfl)) rfl rfl

def published (stocks : List (Stock Unit × Nat)) (entries : Ledger String Entry) (key : String) :
    Option (String × Option String) :=
  ((applyAll (Pure.pure (chain stocks)) entries).run.run (Memory.initial .debug ())).1.toOption.bind
    fun result => (result.get? key).map fun e => (e.source, e.value)

theorem namesakes_cross :
    namesakes.pairs.Perm namesakesTurned.pairs ∧
      published (cutLead :: remembering) namesakes "name" = some ("first", some "1") ∧
      published (cutLead :: remembering) namesakesTurned "name" = some ("second", some "2") ∧
      (alone (cutLead :: remembering) (Memory.initial .debug ()) holder).map
        (fun e => (e.key, e.value)) = some ("name", some "2") :=
  ⟨List.Perm.swap _ _ _, by decide +kernel, by decide +kernel, by decide +kernel⟩

end Filter

end LayeredConfig
