import LayeredConfig.Proofs.Repetition

/-! What a cache answers with, and for how long. An entry that it holds stands in for all that come
in under its key until its time is over, and then for none of them. -/

namespace LayeredConfig.Filter

variable {σ : Type}

structure Cache (σ : Type) where
  slot : Nat
  pattern : Option KeyPattern
  timeout : Rat
  maxSize : Int
  -- The readings need not ascend; a clock may give them in any order.
  clock : Note σ Rat

namespace Cache

abbrev Held := Ledger String (Rat × Entry)

inductive Use
  | filter (e : Entry) (context : FilterContext)
  | invalidate (key : Option String)

/-- What a use came to: the clock, what went in, what came out and what the cache then holds. -/
inductive Turn
  | filtered (now : Rat) (e : Entry) (answer : Except Failure (Option Entry)) (after : Held)
  | invalidated (key : Option String)

def Turn.Ends (key : String) (expiry : Rat) : Turn → Prop
  | filtered now e _ _ => e.key = key ∧ expiry ≤ now
  | invalidated none => True
  | invalidated (some other) => other = key

variable (c : Cache σ)

def stock : Stock σ := .cache c.slot c.pattern c.timeout c.maxSize c.clock

def held (m : Memory σ) : Held := m.cached.getD c.slot .empty

abbrev Accepts (key : String) : Prop := KeyPattern.accepts? c.pattern key = true

def use (id : Nat) : Use → Recall σ Turn
  | .filter e context => fun m =>
    let (answer, m') := ((c.stock.toFilter id).run e context).run.run m
    (.filtered (c.clock.run m.world).1 e answer (c.held m'), m')
  | .invalidate key => do
    Stock.invalidate c.slot key
    return .invalidated key

def useAll (id : Nat) (uses : List Use) : Recall σ (List Turn) := uses.mapM (c.use id)

structure Bounded (turns : List Turn) (held : Held) : Prop where
  size : 0 ≤ c.maxSize → held.size ≤ c.maxSize
  accepted : ∀ key ∈ held.keys, c.Accepts key
  passed : ∀ {before now e answer after later},
    turns = before ++ .filtered now e answer after :: later →
    ¬ c.Accepts e.key → answer = .ok (some e)
  -- An answer that does not come from before is held from now on, unless the cache is full.
  current : ∀ {before now e answer after later},
    turns = before ++ .filtered now e answer after :: later → c.Accepts e.key →
    ∃ kept : Entry, answer = .ok (some kept) ∧ kept.key = e.key ∧
      ((∃ since first held, .filtered since kept first held ∈ before ∧ now < since + c.timeout) ∨
        kept = e ∧ (after.get? e.key = some (now + c.timeout, e) ∨
          after.get? e.key = none ∧ 0 ≤ c.maxSize ∧ c.maxSize ≤ after.size))
  standing : ∀ {before since e first held between now next answer after later},
    turns = before ++ .filtered since e first held ::
      (between ++ .filtered now next answer after :: later) →
    held.get? e.key = some (since + c.timeout, e) → next.key = e.key →
    (∀ turn ∈ between, ¬ turn.Ends e.key (since + c.timeout)) → now < since + c.timeout →
    answer = .ok (some e)

/-! ### One turn -/

def terms (now : Rat) : Terms := ⟨c.timeout, c.maxSize, now⟩

inductive Move (held : Held) : Turn → Held → Prop
  | passed {now : Rat} {e : Entry} :
    ¬ c.Accepts e.key → Move held (.filtered now e (.ok (some e)) held) held
  | answered {now : Rat} {e answer : Entry} {after : Held} :
    c.Accepts e.key → (c.terms now).Step held e answer after →
    Move held (.filtered now e (.ok (some answer)) after) after
  | cleared : Move held (.invalidated none) .empty
  | dropped (key : String) : Move held (.invalidated (some key)) (held.erase key)

lemma run_of_not_accepts (id : Nat) {e : Entry} (h : ¬ c.Accepts e.key) (context : FilterContext)
    (m : Memory σ) : ((c.stock.toFilter id).run e context).run.run m = (.ok (some e), m) := by
  change (Stock.run c.stock e).run.run m = _
  rw [stock, Stock.run, if_neg h]
  rfl

lemma run_of_accepts (id : Nat) {e : Entry} (h : c.Accepts e.key) (context : FilterContext)
    (m : Memory σ) : ∃ answer m', ((c.stock.toFilter id).run e context).run.run m =
      (.ok (some answer), m') ∧
      (c.terms (c.clock.run m.world).1).Step (c.held m) e answer (c.held m') := by
  let now := (c.clock.run m.world).1
  let read : Memory σ := { m with world := (c.clock.run m.world).2 }
  obtain ⟨answer, cached, hrun, hstep, _⟩ := Stock.cacheEntry_step (c.terms now) c.slot e read
  refine ⟨answer, { read with cached }, ?_, hstep⟩
  change (Stock.run c.stock e).run.run m = _
  rw [stock, Stock.run, if_pos h]
  change (Except.ok (some (Stock.cacheEntry c.slot c.timeout c.maxSize now e read).1),
    (Stock.cacheEntry c.slot c.timeout c.maxSize now e read).2) = _
  rw [show Stock.cacheEntry c.slot c.timeout c.maxSize now e read = _ from hrun]

lemma move_use (id : Nat) (u : Use) (m : Memory σ) :
    c.Move (c.held m) ((c.use id u).run m).1 (c.held ((c.use id u).run m).2) := by
  cases u with
  | filter e context =>
    let r := ((c.stock.toFilter id).run e context).run.run m
    have hr : (c.use id (.filter e context)).run m =
        (.filtered (c.clock.run m.world).1 e r.1 (c.held r.2), r.2) := rfl
    by_cases haccepts : c.Accepts e.key
    · obtain ⟨answer, m', hrun, hstep⟩ := c.run_of_accepts id haccepts context m
      rw [hr, show r = _ from hrun]
      exact .answered haccepts hstep
    · rw [hr, show r = _ from c.run_of_not_accepts id haccepts context m]
      exact .passed haccepts
  | invalidate key =>
    have hheld : c.held ((c.use id (.invalidate key)).run m).2 =
        (key.map (c.held m).erase).getD .empty := by
      change ((m.cached.put c.slot _).getD c.slot .empty) = _
      rw [Ledger.getD_put, if_pos rfl]
      rfl
    rw [hheld]
    cases key with
    | none => exact .cleared
    | some key => exact .dropped key

inductive Moves : Held → List Turn → Held → Prop
  | nil (held : Held) : Moves held [] held
  | cons {held mid after : Held} {turn : Turn} {turns : List Turn} :
    c.Move held turn mid → Moves mid turns after → Moves held (turn :: turns) after

lemma moves_useAll (id : Nat) (uses : List Use) (m : Memory σ) :
    c.Moves (c.held m) ((c.useAll id uses).run m).1 (c.held ((c.useAll id uses).run m).2) := by
  induction uses generalizing m with
  | nil => exact .nil _
  | cons u uses ih =>
    rw [useAll, List.mapM_cons]
    exact .cons (c.move_use id u m) (ih _)

variable {c}

lemma Moves.append {held after : Held} {xs ys : List Turn} (h : c.Moves held (xs ++ ys) after) :
    ∃ mid, c.Moves held xs mid ∧ c.Moves mid ys after := by
  induction xs generalizing held with
  | nil => exact ⟨held, .nil held, h⟩
  | cons turn xs ih =>
    cases h with
    | cons hmove hrest =>
      obtain ⟨mid, hxs, hys⟩ := ih hrest
      exact ⟨mid, .cons hmove hxs, hys⟩

/-! ### Where the held entries come from -/

structure Sound (c : Cache σ) (past : List Turn) (held : Held) : Prop where
  size : 0 ≤ c.maxSize → held.size ≤ c.maxSize
  cell : ∀ {key expiry} {kept : Entry}, held.get? key = some (expiry, kept) →
    c.Accepts key ∧ kept.key = key ∧ ∃ since answer after,
      .filtered since kept answer after ∈ past ∧ expiry = since + c.timeout

namespace Sound

variable {past : List Turn} {held after : Held} {turn : Turn}

lemma empty : c.Sound [] .empty :=
  ⟨fun h => by simpa [Ledger.size] using h, fun h => by cases h⟩

lemma of_sub (h : c.Sound past held) (turn : Turn) (hsize : after.size ≤ held.size)
    (hcell : ∀ {key p}, after.get? key = some p → held.get? key = some p) :
    c.Sound (past ++ [turn]) after := by
  refine ⟨fun hmax => ?_, fun hget => ?_⟩
  · have := h.size hmax
    omega
  · obtain ⟨haccepts, hkey, since, answer, then', hmem, hexpiry⟩ := h.cell (hcell hget)
    exact ⟨haccepts, hkey, since, answer, then', List.mem_append_left _ hmem, hexpiry⟩

lemma put (h : c.Sound past held) {now : Rat} {e : Entry} (haccepts : c.Accepts e.key)
    (answer : Except Failure (Option Entry)) (after : Held)
    (hroom : held.contains e.key = true ∨ Stock.hasRoom c.maxSize held.size = true) :
    c.Sound (past ++ [.filtered now e answer after]) (held.put e.key (now + c.timeout, e)) := by
  refine ⟨fun hmax => ?_, fun {key expiry kept} hget => ?_⟩
  · have hsize := h.size hmax
    rw [Ledger.size_put]
    split
    · exact hsize
    · rename_i hnew
      have hlt := hroom.resolve_left hnew
      simp only [Stock.hasRoom, Bool.or_eq_true, decide_eq_true_eq] at hlt
      push_cast
      omega
  · rw [Ledger.get?_put] at hget
    split at hget
    · rename_i hkey
      cases hget
      exact ⟨hkey ▸ haccepts, hkey.symm, now, answer, after, by simp, rfl⟩
    · obtain ⟨haccepts', hkey, since, answer', then', hmem, hexpiry⟩ := h.cell hget
      exact ⟨haccepts', hkey, since, answer', then', List.mem_append_left _ hmem, hexpiry⟩

lemma move (h : c.Sound past held) (hmove : c.Move held turn after) :
    c.Sound (past ++ [turn]) after := by
  cases hmove with
  | passed => exact h.of_sub _ (Nat.le_refl _) fun hget => hget
  | answered haccepts hstep =>
    cases hstep with
    | kept | passed => exact h.of_sub _ (Nat.le_refl _) fun hget => hget
    | renewed hget => exact h.put haccepts _ _ (.inl (by rw [Ledger.contains, hget]; rfl))
    | stored _ hroom => exact h.put haccepts _ _ (.inr hroom)
  | cleared => exact h.of_sub _ (Nat.zero_le _) fun hget => by cases hget
  | dropped key =>
    refine h.of_sub _ (held.size_erase_le key) fun hget => ?_
    rw [Ledger.get?_erase] at hget
    split at hget
    · cases hget
    · exact hget

lemma moves (h : c.Sound past held) {turns : List Turn} (hmoves : c.Moves held turns after) :
    c.Sound (past ++ turns) after := by
  induction hmoves generalizing past with
  | nil => rwa [List.append_nil]
  | cons hmove _ ih =>
    have hrest := ih (h.move hmove)
    rwa [List.append_assoc, List.singleton_append] at hrest

end Sound

/-! ### What stays -/

section Standing

variable {held after : Held} {key : String} {expiry : Rat} {kept : Entry}

lemma Move.keeps {turn : Turn} (h : c.Move held turn after)
    (hget : held.get? key = some (expiry, kept)) (hend : ¬ turn.Ends key expiry) :
    after.get? key = some (expiry, kept) := by
  cases h with
  | passed => exact hget
  | @answered now e _ _ _ hstep =>
    cases hstep with
    | kept | passed => exact hget
    | renewed hget' hnow =>
      by_cases hkey : key = e.key
      · subst hkey
        cases hget.symm.trans hget'
        exact absurd ⟨rfl, Rat.not_lt.1 hnow⟩ hend
      · rw [Ledger.get?_put, if_neg hkey]
        exact hget
    | stored hget' =>
      have hkey : key ≠ e.key := fun hkey => by cases (hkey ▸ hget).symm.trans hget'
      rw [Ledger.get?_put, if_neg hkey]
      exact hget
  | cleared => exact absurd trivial hend
  | dropped other =>
    rw [Ledger.get?_erase, if_neg fun hkey => hend hkey.symm]
    exact hget

lemma Moves.keeps {turns : List Turn} (h : c.Moves held turns after)
    (hget : held.get? key = some (expiry, kept)) (hend : ∀ turn ∈ turns, ¬ turn.Ends key expiry) :
    after.get? key = some (expiry, kept) := by
  -- No turn ends the time of the entry, so each leaves it in its place.
  induction h with
  | nil => exact hget
  | cons hmove _ ih =>
    rw [List.forall_mem_cons] at hend
    exact ih (hmove.keeps hget hend.1) hend.2

end Standing

/-! ### Every answer -/

section Answers

variable {past later : List Turn} {held after after' : Held} {now : Rat} {e : Entry}
  {answer : Except Failure (Option Entry)}

lemma Move.answer_of_not_accepts (h : c.Move held (.filtered now e answer after) after')
    (hkey : ¬ c.Accepts e.key) : answer = .ok (some e) := by
  cases h with
  | passed => rfl
  | answered haccepts => exact absurd haccepts hkey

lemma Move.after_eq (h : c.Move held (.filtered now e answer after) after') : after' = after := by
  cases h with
  | passed | answered => rfl

lemma Move.answer_of_standing (h : c.Move held (.filtered now e answer after) after')
    {expiry : Rat} {kept : Entry} (hget : held.get? e.key = some (expiry, kept))
    (haccepts : c.Accepts e.key) (hnow : now < expiry) : answer = .ok (some kept) := by
  cases h with
  | passed hkey => exact absurd haccepts hkey
  | answered _ hstep =>
    cases hstep with
    | kept hget' =>
      cases hget.symm.trans hget'
      rfl
    | renewed hget' hover =>
      cases hget.symm.trans hget'
      exact absurd hnow hover
    | stored hget' | passed hget' => cases hget.symm.trans hget'

lemma Sound.current (h : c.Sound past held)
    (hmove : c.Move held (.filtered now e answer after) after') (haccepts : c.Accepts e.key) :
    ∃ kept : Entry, answer = .ok (some kept) ∧ kept.key = e.key ∧
      ((∃ since first held, .filtered since kept first held ∈ past ∧ now < since + c.timeout) ∨
        kept = e ∧ (after.get? e.key = some (now + c.timeout, e) ∨
          after.get? e.key = none ∧ 0 ≤ c.maxSize ∧ c.maxSize ≤ after.size)) := by
  cases hmove with
  | passed hkey => exact absurd haccepts hkey
  | @answered _ _ kept _ _ hstep =>
    cases hstep with
    | @kept expiry _ hget hnow =>
      obtain ⟨_, hkey, since, first, then', hmem, hexpiry⟩ := h.cell hget
      exact ⟨kept, rfl, hkey, .inl ⟨since, first, then', hmem, hexpiry ▸ hnow⟩⟩
    | renewed | stored => exact ⟨e, rfl, rfl, .inr ⟨rfl, .inl (Ledger.get?_put_self _ _ _)⟩⟩
    | passed hget hroom =>
      exact ⟨e, rfl, rfl, .inr ⟨rfl, .inr ⟨hget, Terms.hasRoom_eq_false_iff.1 hroom⟩⟩⟩

end Answers

/-- However a fresh cache is used, it holds no more than it may, what it answers is not stale, and
what it holds is what it answers. -/
theorem useAll_bounded (c : Cache σ) (id : Nat) (uses : List Use) {m : Memory σ}
    (hfresh : c.held m = .empty) :
    c.Bounded ((c.useAll id uses).run m).1 (c.held ((c.useAll id uses).run m).2) := by
  have hrun := c.moves_useAll id uses m
  rw [hfresh] at hrun
  generalize ((c.useAll id uses).run m).1 = turns, c.held ((c.useAll id uses).run m).2 = final at hrun
  have hfinal := Sound.empty.moves hrun
  -- At each turn, with what the cache held before it.
  have hturn {before turn later} (h : turns = before ++ turn :: later) :
      ∃ held after, c.Sound before held ∧ c.Move held turn after ∧ c.Moves after later final := by
    subst h
    obtain ⟨held, hbefore, hrest⟩ := hrun.append
    cases hrest with
    | cons hmove hlater => exact ⟨held, _, Sound.empty.moves hbefore, hmove, hlater⟩
  constructor
  case size => exact hfinal.size
  case accepted =>
    intro key hkey
    obtain ⟨p, hget⟩ := Ledger.mem_keys_iff.1 hkey
    exact (hfinal.cell hget).1
  case passed =>
    intro before now e answer after later hturns hkey
    obtain ⟨_, _, _, hmove, _⟩ := hturn hturns
    exact hmove.answer_of_not_accepts hkey
  case current =>
    intro before now e answer after later hturns hkey
    obtain ⟨_, _, hsound, hmove, _⟩ := hturn hturns
    exact hsound.current hmove hkey
  case standing =>
    intro before since e first held between now next answer after later hturns hget hkey hstays hnow
    obtain ⟨_, held', hsound, hmove, hmoves⟩ := hturn hturns
    obtain rfl := hmove.after_eq
    obtain ⟨then', hbetween, hlast⟩ := hmoves.append
    have hstill := hbetween.keeps hget hstays
    have haccepts := ((hsound.move hmove).cell hget).1
    cases hlast with
    | cons hlast _ =>
      rw [← hkey] at hstill haccepts
      exact hlast.answer_of_standing hstill haccepts hnow

def Turn.answered : Turn → Option (Option String)
  | filtered _ _ (.ok (some e)) _ => some e.value
  | _ => none

def told : Note (List Rat) Rat := fun w => (w.host.headD 0, { w with host := w.host.tail })

def narrow : Cache (List Rat) := ⟨0, (KeyPattern.read "db[.].*").toOption, 10, 2, told⟩

def narrowStart : Memory (List Rat) := .initial .debug [0, 3, 4, 9, 10, 11, 12, 5, 6]

def incoming (key value : String) (h : key ≠ "" := by decide) : Use :=
  .filter ⟨key, some value, "source", .empty, h⟩ ⟨key, .empty, false⟩

def narrowUses : List Use :=
  [incoming "db.a" "1", incoming "db.b" "1", incoming "db.c" "1", incoming "db.a" "2",
    incoming "app" "1", incoming "db.a" "3", .invalidate (some "db.b"), incoming "db.c" "2",
    incoming "db.b" "2", incoming "db.a" "4", .invalidate none, incoming "db.a" "5"]

theorem narrow_bounded :
    narrow.held narrowStart = .empty ∧
      (((narrow.useAll 0 narrowUses).run narrowStart).1.filterMap Turn.answered =
        [some "1", some "1", some "1", some "1", some "1", some "3", some "2", some "2", some "3",
          some "5"]) ∧
      narrow.Bounded ((narrow.useAll 0 narrowUses).run narrowStart).1
        (narrow.held ((narrow.useAll 0 narrowUses).run narrowStart).2) :=
  ⟨rfl, by decide +kernel, useAll_bounded narrow 0 narrowUses rfl⟩

end Cache

end LayeredConfig.Filter
