import LayeredConfig.Proofs.Fallback

/-! The calls that sources get in a pass. A source under watch leaves a trail of its calls, and
policies may leave marks on it. Everything is asked of the sources before a policy is chosen, and
policies see what was answered, so from then on there are marks only. -/

namespace LayeredConfig

variable {σ α β γ : Type}

inductive Sighting (σ : Type)
  | enumerated (s : Source σ) (answer : Except Failure (Ledger String Entry))
  | asked (s : Source σ) (key : String)
  | applied (key : String)

structure Watched (σ : Type) where
  host : σ
  trail : List (Sighting σ)

namespace World

def unwatched (w : World (Watched σ)) : World σ := ⟨w.journal, w.switches, w.host.host⟩

def watched (w : World σ) (trail : List (Sighting σ)) : World (Watched σ) :=
  ⟨w.journal, w.switches, ⟨w.host, trail⟩⟩

end World

def watch (x : Call σ α) (sighting : Except Failure α → Sighting σ) : Call (Watched σ) α :=
  ExceptT.mk fun w =>
    let (answer, w') := x.run.run w.unwatched
    (answer, w'.watched (w.host.trail ++ [sighting answer]))

lemma run_watch (x : Call σ α) (sighting : Except Failure α → Sighting σ) (w : World (Watched σ)) :
    (watch x sighting).run.run w =
      ((x.run.run w.unwatched).1,
        (x.run.run w.unwatched).2.watched (w.host.trail ++ [sighting (x.run.run w.unwatched).1])) :=
  rfl

def Source.watched (s : Source σ) : Source (Watched σ) where
  id := s.id
  name := s.name
  ordinal := s.ordinal
  scannable := s.scannable
  get key := watch (s.get key) fun _ => .asked s key
  properties := watch s.properties (.enumerated s)

structure Source.Answers (s : Source σ) : Prop where
  get : ∀ key w, ∃ entry w', (s.get key).run.run w = (.ok entry, w')
  properties : ∀ w, ∃ entries w', s.properties.run.run w = (.ok entries, w')

lemma Source.inOrder_watched (sources : List (Source σ)) :
    inOrder (sources.map watched) = (inOrder sources).map watched :=
  (List.map_mergeSort (f := watched) fun _ _ _ _ => rfl).symm

/-! ### Reading -/

/-- From every world the call gives an answer, and it adds to the trail as `Q` says. -/
def Leaves (x : Call (Watched σ) α) (Q : α → List (Sighting σ) → Prop) : Prop :=
  ∀ w, ∃ a seen w', x.run.run w = (.ok a, w') ∧ w'.host.trail = w.host.trail ++ seen ∧ Q a seen

namespace Leaves

variable {Q : α → List (Sighting σ) → Prop} {R : β → List (Sighting σ) → Prop}

lemma pure {a : α} (h : Q a []) : Leaves (pure a) Q := fun w =>
  ⟨a, [], w, rfl, (List.append_nil _).symm, h⟩

lemma bind {x : Call (Watched σ) α} {f : α → Call (Watched σ) β} (hx : Leaves x Q)
    (hf : ∀ a seen, Q a seen → Leaves (f a) fun b more => R b (seen ++ more)) :
    Leaves (x >>= f) R := by
  intro w
  obtain ⟨a, seen, w', hrun, htrail, hseen⟩ := hx w
  obtain ⟨b, more, w'', hrun', htrail', hmore⟩ := hf a seen hseen w'
  refine ⟨b, seen ++ more, w'', (run_bind_ok hrun).trans hrun', ?_, hmore⟩
  rw [htrail', htrail, List.append_assoc]

lemma mono {S : α → List (Sighting σ) → Prop} {x : Call (Watched σ) α} (hx : Leaves x Q)
    (h : ∀ a seen, Q a seen → S a seen) : Leaves x S := by
  intro w
  obtain ⟨a, seen, w', hrun, htrail, hseen⟩ := hx w
  exact ⟨a, seen, w', hrun, htrail, h a seen hseen⟩

lemma watch {x : Call σ α} (hx : ∀ w, ∃ a w', x.run.run w = (.ok a, w'))
    (sighting : Except Failure α → Sighting σ) :
    Leaves (watch x sighting) fun a seen => seen = [sighting (.ok a)] := by
  intro w
  obtain ⟨a, w', hrun⟩ := hx w.unwatched
  exact ⟨a, _, w'.watched (w.host.trail ++ [sighting (.ok a)]), by rw [run_watch, hrun], rfl, rfl⟩

lemma report (severity : Severity) (name : String) (source key : Option String)
    (more : List (String × Data)) :
    Leaves (report severity name source key more : Call (Watched σ) Unit) fun _ seen => seen = [] :=
  fun _ => ⟨(), [], _, rfl, (List.append_nil _).symm, rfl⟩

lemma foldlM {f : β → α → Call (Watched σ) β} {g : α → Sighting σ} {xs : List α}
    (h : ∀ b, ∀ a ∈ xs, Leaves (f b a) fun _ seen => seen = [g a]) (b : β) :
    Leaves (xs.foldlM f b) fun _ seen => seen = xs.map g := by
  induction xs generalizing b with
  | nil => exact pure rfl
  | cons a xs ih =>
    rw [List.foldlM_cons]
    refine (h b a (by simp)).bind fun c seen hseen => ?_
    refine (ih (fun b a ha => h b a (by simp [ha])) c).mono fun _ more hmore => ?_
    rw [hseen, hmore, List.map_cons, List.singleton_append]

lemma mapM {f : α → Call (Watched σ) β} {v : α × γ → β} {g : α × γ → List (Sighting σ)}
    {S : α × γ → Prop} {xs : List α}
    (h : ∀ a ∈ xs, Leaves (f a) fun b seen => ∃ c, b = v (a, c) ∧ seen = g (a, c) ∧ S (a, c)) :
    Leaves (xs.mapM f) fun bs seen => ∃ turns : List (α × γ), turns.map Prod.fst = xs ∧
      bs = turns.map v ∧ seen = turns.flatMap g ∧ ∀ t ∈ turns, S t := by
  induction xs with
  | nil => exact pure ⟨[], rfl, rfl, rfl, List.forall_mem_nil _⟩
  | cons a xs ih =>
    rw [List.mapM_cons]
    refine (h a (by simp)).bind fun b seen ⟨c, hb, hseen, hc⟩ => ?_
    refine (ih fun a ha => h a (by simp [ha])).bind fun bs more ⟨turns, hxs, hbs, hmore, hturns⟩ => ?_
    refine pure ⟨(a, c) :: turns, ?_, ?_, ?_, List.forall_mem_cons.2 ⟨hc, hturns⟩⟩
    · rw [List.map_cons, hxs]
    · rw [List.map_cons, hb, hbs]
    · rw [List.flatMap_cons, hseen, hmore, List.append_nil]

lemma mapM_each {f : α → Call (Watched σ) β} {g : α → List (Sighting σ)} {xs : List α}
    (h : ∀ a ∈ xs, Leaves (f a) fun _ seen => seen = g a) :
    Leaves (xs.mapM f) fun _ seen => seen = xs.flatMap g := by
  refine (mapM (v := Prod.snd) (g := fun t => g t.1) (S := fun _ => True) fun a ha =>
    (h a ha).mono fun b seen hseen => ⟨b, rfl, hseen, trivial⟩).mono ?_
  rintro _ seen ⟨turns, rfl, -, hseen, -⟩
  rw [hseen, List.flatMap_map]

end Leaves

namespace Source.Answers

variable {s : Source σ} (h : s.Answers)

include h

lemma get_leaves (key : String) :
    Leaves (s.watched.get key) fun _ seen => seen = [.asked s key] :=
  Leaves.watch (h.get key) fun _ => .asked s key

lemma properties_leaves :
    Leaves s.watched.properties fun entries seen => seen = [.enumerated s (.ok entries)] :=
  Leaves.watch h.properties _

end Source.Answers

namespace Merge

variable {ordered : List (Source σ)} {s : Source σ}

lemma fetchKeys_leaves (h : s.Answers) (wanted : List String) :
    Leaves (fetchKeys s.watched wanted) fun _ seen => seen = wanted.map (.asked s) := by
  refine Leaves.foldlM (fun found key _ => ?_) _
  refine (h.get_leaves key).bind fun entry seen hseen => ?_
  cases entry <;> exact Leaves.pure (by rw [hseen, List.append_nil])

lemma ask_leaves (h : ∀ s ∈ ordered, s.Answers) (wanted : List String) :
    Leaves (ask wanted (ordered.map Source.watched)) fun _ seen =>
      seen = ordered.flatMap fun s => wanted.map (.asked s) := by
  rw [ask, List.mapM_map]
  refine Leaves.mapM_each fun s hs => ?_
  exact (fetchKeys_leaves (h s hs) wanted).bind fun _ seen hseen =>
    Leaves.pure (by rw [hseen, List.append_nil])

def scanned (r : Source σ × Option (Ledger String Entry)) : List (Sighting σ) :=
  (r.2.map fun entries => Sighting.enumerated r.1 (.ok entries)).toList

lemma scan_leaves (h : ∀ s ∈ ordered, s.Answers) :
    Leaves (scan (ordered.map Source.watched)) fun found seen =>
      ∃ reads : List (Source σ × Option (Ledger String Entry)), reads.map Prod.fst = ordered ∧
        found = reads.map (fun r => (r.1.watched, r.2)) ∧ seen = reads.flatMap scanned ∧
        ∀ r ∈ reads, r.2.isSome = r.1.scannable := by
  rw [scan, List.mapM_map]
  refine Leaves.mapM fun s hs => ?_
  change Leaves (if s.scannable then _ else _) _
  split
  · rename_i hscan
    refine (h s hs).properties_leaves.bind fun entries seen hseen => ?_
    refine (Leaves.report _ _ _ _ _).bind fun _ more hmore => ?_
    exact Leaves.pure ⟨some entries, rfl, by rw [hseen, hmore]; rfl, hscan.symm⟩
  · rename_i hscan
    exact Leaves.pure ⟨none, rfl, rfl, by simpa using hscan⟩

lemma query_leaves {reads : List (Source σ × Option (Ledger String Entry))}
    (h : ∀ r ∈ reads, r.1.Answers) (wanted : List String) :
    Leaves (query wanted (reads.map fun r => (r.1.watched, r.2))) fun _ seen =>
      seen = reads.flatMap fun r => if r.2.isSome then [] else wanted.map (.asked r.1) := by
  rw [query, List.mapM_map]
  refine Leaves.mapM_each fun r hr => ?_
  obtain ⟨s, entries⟩ := r
  change Leaves (supply wanted (s.watched, entries)) _
  rw [supply]
  cases entries with
  | some entries => exact Leaves.pure rfl
  | none =>
    refine (fetchKeys_leaves (h _ hr) wanted).bind fun found seen hseen => ?_
    refine (Leaves.report _ _ _ _ _).bind fun _ more hmore => ?_
    exact Leaves.pure (by rw [hseen, hmore, List.append_nil, List.append_nil]; rfl)

def listings (reads : List (Source σ × Option (Ledger String Entry))) :
    List (Source σ × Ledger String Entry) :=
  reads.filterMap fun r => r.2.map (r.1, ·)

section Listings

variable {reads : List (Source σ × Option (Ledger String Entry))}

lemma flatMap_scanned (reads : List (Source σ × Option (Ledger String Entry))) :
    reads.flatMap scanned = (listings reads).map fun l => .enumerated l.1 (.ok l.2) := by
  induction reads with
  | nil => rfl
  | cons r reads ih =>
    obtain ⟨s, entries⟩ := r
    rw [List.flatMap_cons, ih]
    cases entries <;> rfl

lemma mem_found_watched {key : String} :
    key ∈ found (reads.map fun r => (r.1.watched, r.2)) ↔ ∃ l ∈ listings reads, key ∈ l.2.keys := by
  rw [mem_found]
  constructor
  · rintro ⟨_, hp, entries, hentries, hkey⟩
    obtain ⟨r, hr, rfl⟩ := List.mem_map.1 hp
    exact ⟨(r.1, entries), List.mem_filterMap.2 ⟨r, hr, congrArg (Option.map (r.1, ·)) hentries⟩, hkey⟩
  · rintro ⟨_, hl, hkey⟩
    obtain ⟨r, hr, hlisted⟩ := List.mem_filterMap.1 hl
    obtain ⟨entries, hentries, rfl⟩ := Option.map_eq_some_iff.1 hlisted
    exact ⟨_, List.mem_map_of_mem hr, entries, hentries, hkey⟩

variable (hreads : ∀ r ∈ reads, r.2.isSome = r.1.scannable)

include hreads

lemma map_listings :
    (listings reads).map Prod.fst = (reads.map Prod.fst).filter (·.scannable) := by
  induction reads with
  | nil => rfl
  | cons r reads ih =>
    obtain ⟨s, entries⟩ := r
    rw [List.forall_mem_cons] at hreads
    have hs : entries.isSome = s.scannable := hreads.1
    rw [List.map_cons, List.filter_cons, ← hs, ← ih hreads.2]
    cases entries <;> rfl

lemma flatMap_queried (wanted : List String) :
    (reads.flatMap fun r => if r.2.isSome then [] else wanted.map (Sighting.asked r.1)) =
      ((reads.map Prod.fst).filter (!·.scannable)).flatMap fun s => wanted.map (.asked s) := by
  induction reads with
  | nil => rfl
  | cons r reads ih =>
    obtain ⟨s, entries⟩ := r
    rw [List.forall_mem_cons] at hreads
    have hs : entries.isSome = s.scannable := hreads.1
    rw [List.flatMap_cons, ih hreads.2, List.map_cons, List.filter_cons, ← hs]
    cases entries <;> rfl

end Listings

lemma fetch_leaves (m : MetaKeys) (h : ∀ s ∈ ordered, s.Answers) :
    Leaves (fetch m (ordered.map Source.watched)) fun fetched seen =>
      ∃ listed : List (Source σ × Ledger String Entry),
        listed.map Prod.fst = ordered.filter (·.scannable) ∧
        (∀ key, key ∈ fetched.2 ↔ ∃ l ∈ listed, key ∈ l.2.keys) ∧
        seen = listed.map (fun l => .enumerated l.1 (.ok l.2)) ++
          (ordered.filter (!·.scannable)).flatMap fun s =>
            (lookups m fetched.2).map (.asked s) := by
  refine (scan_leaves h).bind ?_
  rintro _ seen ⟨reads, rfl, rfl, hseen, hreads⟩
  have hanswers : ∀ r ∈ reads, r.1.Answers := fun r hr => h r.1 (List.mem_map_of_mem hr)
  refine (query_leaves hanswers _).bind fun snapshots more hmore => Leaves.pure ?_
  refine ⟨listings reads, map_listings hreads, fun key => mem_found_watched, ?_⟩
  rw [hseen, hmore, List.append_nil, flatMap_scanned, flatMap_queried hreads]

end Merge

/-! ### What policies do -/

def marking (σ : Type) : Course (World (Watched σ)) where
  holds _ := True
  later w w' := ∃ keys : List String, w'.host.trail = w.host.trail ++ keys.map .applied
  refl w := ⟨[], (List.append_nil _).symm⟩
  trans := by
    rintro w w' w'' ⟨keys, hkeys⟩ ⟨more, hmore⟩
    exact ⟨keys ++ more, by rw [hmore, hkeys, List.map_append, List.append_assoc]⟩

namespace Course

variable {C : Course (World σ)} {allowed : Prop}

def onMemory (C : Course (World σ)) : Course (Memory σ) where
  holds m := C.holds m.world
  later m m' := C.later m.world m'.world
  refl m := C.refl m.world
  trans := C.trans

lemma Runs.onMemory {x : Call σ α} (h : C.Runs allowed x) :
    C.onMemory.Runs allowed (liftM x : Act σ α) := by
  intro m hm
  obtain ⟨hend, hlater, hanswer⟩ := h m.world hm
  refine ⟨hend, hlater, ?_⟩
  change Ends _ _ (x.run.run m.world).1 { m with world := (x.run.run m.world).2 }
  generalize (x.run.run m.world).1 = answer at hanswer ⊢
  cases answer <;> exact hanswer

lemma Runs.make {τ : Type} {C : Course τ} (r : Except Failure α) :
    C.Runs True (ExceptT.mk (Pure.pure r)) := by
  refine fun _ => Leads.make ?_
  cases r <;> trivial

end Course

lemma marking_report (severity : Severity) (name : String) (source key : Option String)
    (more : List (String × Data)) :
    (marking σ).onMemory.Runs True
      (report severity name source key more : Act (Watched σ) Unit) := fun m =>
  Course.Leads.lift fun _ => ⟨trivial, (marking σ).refl m.world, trivial⟩

def Policy.Confined (p : Policy (Watched σ)) : Prop :=
  ∀ current key (source : Source (Watched σ)) metadata,
    (∀ k, (marking σ).Runs True (source.get k)) → (marking σ).Runs True source.properties →
    (marking σ).Runs True (p.combine current key source metadata)

lemma Policy.confined_override : (Policy.override : Policy (Watched σ)).Confined :=
  fun _ key _ _ hget _ => (hget key).bind fun _ => Course.Runs.pure _

lemma Policy.confined_collect : (Policy.collect : Policy (Watched σ)).Confined := by
  intro current key source metadata hget _
  refine (hget key).bind fun entry => ?_
  cases entry.bind (·.value) <;> cases current <;> exact Course.Runs.pure _

namespace Resolver

structure Confined (r : Resolver (Watched σ)) : Prop where
  build : ∀ f ∈ r.factories.values, (marking σ).Runs True f.build
  combine : ∀ f ∈ r.factories.values, ∀ serial, (f.policy serial).Confined

variable {r : Resolver (Watched σ)} {m : Memory (Watched σ)}

lemma confined_plain (key : String) (metadata : Ledger String String) :
    (r.plain key metadata).policy.Confined := by
  obtain hplain | hplain := plain_cases (r := r) key metadata
  · exact hplain ▸ Policy.confined_override
  · exact hplain ▸ Policy.confined_collect

lemma custom_confined (hr : r.Confined) (name : String) :
    (marking σ).onMemory.Leads m (r.custom name) (fun choice _ => choice.policy.Confined)
      fun _ _ => True := by
  rw [custom]
  cases hf : r.factories.get? name with
  | none => exact Course.Leads.make trivial
  | some f =>
    have hmem : f ∈ r.factories.values := Ledger.mem_values_of_get? hf
    refine Course.Leads.bind (Q := fun _ _ => True)
      (Course.Leads.lift fun _ => ⟨trivial, (marking σ).refl m.world, trivial⟩) fun serial? m' _ _ => ?_
    cases serial? with
    | some serial => exact Course.Leads.pure (hr.combine f hmem serial)
    | none =>
      refine Course.Leads.bind (Q := fun _ _ => True)
        (Course.Leads.lift (x := Note.recall f.build.attempt) fun _ =>
          ⟨trivial, (hr.build f hmem m'.world trivial).2.1, trivial⟩) fun built m'' _ _ => ?_
      cases built with
      | error cause => exact Course.Leads.make trivial
      | ok serial =>
        refine Course.Leads.bind (Q := fun _ _ => True)
          (Course.Leads.lift fun _ => ⟨trivial, (marking σ).refl m''.world, trivial⟩) fun _ _ _ _ => ?_
        exact Course.Leads.pure (hr.combine f hmem serial)

lemma resolve_confined (hr : r.Confined) (key : String) (metadata : Ledger String String) :
    (marking σ).onMemory.Leads m (ExceptT.lift (r.resolve key metadata))
      (fun choice _ => choice.policy.Confined) fun _ _ => True := by
  refine Course.Leads.lift fun _ => ⟨trivial, ?_⟩
  change (marking σ).later m.world (r.resolve key metadata m).2.world ∧
    (r.resolve key metadata m).1.policy.Confined
  cases hname : r.customName? key metadata with
  | none =>
    obtain ⟨journal, -, hplain⟩ := resolve_plain hname m
    rw [hplain]
    exact ⟨(marking σ).refl m.world, confined_plain key metadata⟩
  | some name =>
    obtain ⟨-, hlater, hanswer⟩ := custom_confined (m := m) hr name trivial
    rw [resolve_custom hname]
    -- The report that follows goes to the journal, not to the trail.
    cases hcustom : (r.custom name).run.run m with
    | mk result m' =>
      rw [hcustom] at hlater hanswer
      cases result with
      | ok choice => exact ⟨hlater, hanswer⟩
      | error failure => exact ⟨hlater, Policy.confined_override⟩

end Resolver

namespace Merge

variable {e : Merge (Watched σ)}

lemma combineAll_marks {p : Policy (Watched σ)} (hp : p.Confined) (key : String)
    (metadata : Ledger String String) (running : Running) (holders : List (Snapshot × Entry)) :
    (marking σ).Runs True (combineAll p key metadata running holders) := by
  induction holders generalizing running with
  | nil => exact Course.Runs.pure _
  | cons holder holders ih =>
    refine (hp running.value key holder.1.toSource metadata ?_ ?_).bind fun value => ih _
    · exact fun k => Course.Runs.pure (holder.1.entries.get? k)
    · exact Course.Runs.pure holder.1.entries

lemma mergeKey_marks (hr : e.resolver.Confined) (key : String) (snapshots : List Snapshot)
    (metadata : Ledger String String) :
    (marking σ).onMemory.Runs True (e.mergeKey key snapshots metadata) := by
  intro m
  rw [mergeKey]
  cases holders key snapshots with
  | nil => exact Course.Leads.pure trivial
  | cons holder rest =>
    refine (Resolver.resolve_confined hr key metadata).bind fun choice m' _ hchoice => ?_
    exact (combineAll_marks hchoice key metadata _ _).onMemory.bind (fun _ => Course.Runs.make _) m'

def settle (e : Merge σ) (count : Nat) (snapshots : List Snapshot) (keys : List String) :
    Act σ (Ledger String Entry) := do
  let merged ← e.mergeKeys snapshots (metadata e.metaKeys snapshots)
    (keys.filter fun k => !e.metaKeys.isMeta k)
  report .debug "merge_complete" none none
    [("sources", .integer count), ("keys", .integer merged.size)]
  return merged

lemma settle_marks (hr : e.resolver.Confined) (count : Nat) (snapshots : List Snapshot)
    (keys : List String) : (marking σ).onMemory.Runs True (e.settle count snapshots keys) := by
  refine Course.Runs.bind (Course.Runs.foldlM (fun merged key _ => ?_) _) fun merged =>
    (marking_report _ _ _ _ _).bind fun _ => Course.Runs.pure _
  refine (mergeKey_marks hr key snapshots _).bind fun found => ?_
  cases found <;> exact Course.Runs.pure _

/-- The pass makes the calls in `seen` first, and does as `rest` from then on. If the policies are
confined, that adds only marks. -/
def Reads (e : Merge (Watched σ)) (pass rest : Act (Watched σ) α) (m : Memory (Watched σ))
    (seen : List (Sighting σ)) : Prop :=
  ∃ mid : Memory (Watched σ), mid.world.host.trail = m.world.host.trail ++ seen ∧
    pass.run.run m = rest.run.run mid ∧
    (e.resolver.Confined → ∃ keys : List String,
      (pass.run.run m).2.world.host.trail = mid.world.host.trail ++ keys.map .applied)

lemma exists_reads {x : Call (Watched σ) α} {f : α → Act (Watched σ) β}
    {Q : α → List (Sighting σ) → Prop} (hx : Leaves x Q)
    (hf : e.resolver.Confined → ∀ a, (marking σ).onMemory.Runs True (f a))
    (m : Memory (Watched σ)) : ∃ a seen, Q a seen ∧ e.Reads (liftM x >>= f) (f a) m seen := by
  obtain ⟨a, seen, w, hrun, htrail, hseen⟩ := hx m.world
  have hbind : (liftM x >>= f).run.run m = (f a).run.run { m with world := w } :=
    run_bind_ok (run_liftM hrun)
  refine ⟨a, seen, hseen, { m with world := w }, htrail, hbind, fun hr => ?_⟩
  obtain ⟨-, hmarks, -⟩ := hf hr a { m with world := w } trivial
  rw [hbind]
  exact hmarks

/-- In a pass over all keys every scannable source is enumerated once, and every other source is asked
for the keys enumerated and the meta-entries of the visible ones. In a pass over one key every source
is asked for it and for its meta-entries. All that comes before the first policy, and policies see
snapshots only. -/
theorem sources_read_first (e : Merge (Watched σ)) {sources : List (Source σ)}
    (hsources : ∀ s ∈ sources, s.Answers) (m : Memory (Watched σ)) :
    (∃ (listed : List (Source σ × Ledger String Entry)) (keys : List String)
        (snapshots : List Snapshot),
      listed.map Prod.fst = (Source.inOrder sources).filter (·.scannable) ∧
      (∀ key, key ∈ keys ↔ ∃ l ∈ listed, key ∈ l.2.keys) ∧
      (∀ key, key ∈ lookups e.metaKeys keys ↔ key ∈ keys ∨
        ∃ visible ∈ keys, e.metaKeys.isMeta visible = false ∧
          key ∈ candidates e.metaKeys visible) ∧
      e.Reads (e.resolveAll (sources.map Source.watched)) (e.settle sources.length snapshots keys) m
        (listed.map (fun l => .enumerated l.1 (.ok l.2)) ++
          ((Source.inOrder sources).filter (!·.scannable)).flatMap fun s =>
            (lookups e.metaKeys keys).map (.asked s))) ∧
    ∀ key, e.metaKeys.isMeta key = false → ∃ snapshots : List Snapshot,
      e.Reads (e.resolve key (sources.map Source.watched))
        (e.mergeKey key snapshots ((metadata e.metaKeys snapshots).at key)) m
        ((Source.inOrder sources).flatMap fun s =>
          (key :: candidates e.metaKeys key).map (.asked s)) := by
  have hordered : ∀ s ∈ Source.inOrder sources, s.Answers := fun s hs =>
    hsources s (Steady.mem_inOrder.1 hs)
  refine ⟨?_, fun key hvisible => ?_⟩
  · obtain ⟨⟨snapshots, keys⟩, _, ⟨listed, hlisted, hkeys, rfl⟩, hreads⟩ :=
      exists_reads (fetch_leaves e.metaKeys hordered)
        (fun hr fetched => settle_marks hr sources.length fetched.1 fetched.2) m
    refine ⟨listed, keys, snapshots, hlisted, hkeys, fun key => ?_, ?_⟩
    · simp [lookups, and_assoc]
    · rw [← Source.inOrder_watched] at hreads
      rw [resolveAll, List.length_map]
      exact hreads
  · obtain ⟨snapshots, _, rfl, hreads⟩ :=
      exists_reads (ask_leaves hordered (key :: candidates e.metaKeys key))
        (fun hr snapshots => mergeKey_marks hr key snapshots _) m
    rw [← Source.inOrder_watched] at hreads
    have hvisible' : ¬ e.metaKeys.isMeta key = true := by simp [hvisible]
    refine ⟨snapshots, ?_⟩
    rw [resolve, if_neg hvisible']
    exact hreads

def localEntries : Ledger String Entry :=
  ⟨[("pool", ⟨"pool", some "1", "local", .empty, by decide⟩),
    ("pool.combination-policy",
      ⟨"pool.combination-policy", some "curious", "local", .empty, by decide⟩)], by simp⟩

def localSource : Source Unit := .ofEntries 0 "local" 10 true localEntries

def remoteEntries : Ledger String Entry :=
  ⟨[("pool", ⟨"pool", some "2", "remote", .empty, by decide⟩)], by simp⟩

def remoteSource : Source Unit := .ofEntries 1 "remote" 0 false remoteEntries

lemma answers_ofEntries (id : Nat) (name : String) (ordinal : Int) (scannable : Bool)
    (entries : Ledger String Entry) :
    (Source.ofEntries id name ordinal scannable entries : Source σ).Answers :=
  ⟨fun key w => ⟨entries.get? key, w, rfl⟩, fun w => ⟨_, w, rfl⟩⟩

def mark (key : String) : Call (Watched σ) Unit :=
  ExceptT.mk fun w => (.ok (), w.unwatched.watched (w.host.trail ++ [.applied key]))

lemma marking_mark (key : String) : (marking σ).Runs True (mark key) := fun _ _ =>
  ⟨trivial, ⟨[key], rfl⟩, trivial⟩

def curious : Policy (Watched Unit) where
  label := "curious"
  combine _ key source _ := do
    mark key
    let entries ← source.properties
    let entry ← source.get key
    let other ← source.get (key ++ ".other")
    return ((entry.or other).or (entries.get? key)).bind (·.value)

lemma confined_curious : curious.Confined := fun _ key _ _ hget hproperties =>
  (marking_mark key).bind fun _ => hproperties.bind fun _ => (hget key).bind fun _ =>
    (hget (key ++ ".other")).bind fun _ => Course.Runs.pure _

def inquisitive : Merge (Watched Unit) :=
  ⟨⟨0, .ofList [("curious", ⟨0, pure 1, fun _ => curious⟩)], ⟨[MetaKeys.combinationPolicy], "_"⟩⟩,
    ⟨[MetaKeys.combinationPolicy], "_"⟩⟩

lemma inquisitive_confined : inquisitive.resolver.Confined := by
  have hvalues : inquisitive.resolver.factories.values = [⟨0, pure 1, fun _ => curious⟩] := rfl
  constructor
  · rw [hvalues]
    exact List.forall_mem_singleton.2 (Course.Runs.pure 1)
  · rw [hvalues]
    exact List.forall_mem_singleton.2 fun _ => confined_curious

def unseen : Memory (Watched Unit) := .initial .error ⟨(), []⟩

theorem inquisitive_reads_first :
    ((∀ s ∈ [remoteSource, localSource], s.Answers) ∧ inquisitive.resolver.Confined) ∧
    (∃ (listed : List (Source Unit × Ledger String Entry)) (wanted keys : List String),
      listed.map Prod.fst = [localSource] ∧
      ((inquisitive.resolveAll ([remoteSource, localSource].map Source.watched)).run.run
          unseen).2.world.host.trail =
        listed.map (fun l => .enumerated l.1 (.ok l.2)) ++ wanted.map (.asked remoteSource) ++
          keys.map .applied) ∧
    ((inquisitive.resolveAll ([remoteSource, localSource].map Source.watched)).run.run
      unseen).2.world.host.trail.length = 7 ∧
    ∃ keys : List String,
      ((inquisitive.resolve "pool" ([remoteSource, localSource].map Source.watched)).run.run
          unseen).2.world.host.trail =
        [.asked remoteSource "pool", .asked remoteSource "pool.combination-policy",
          .asked remoteSource "_pool.combination-policy", .asked localSource "pool",
          .asked localSource "pool.combination-policy",
          .asked localSource "_pool.combination-policy"] ++ keys.map .applied := by
  have hanswers : ∀ s ∈ [remoteSource, localSource], s.Answers :=
    List.forall_mem_cons.2
      ⟨answers_ofEntries _ _ _ _ _, List.forall_mem_singleton.2 (answers_ofEntries _ _ _ _ _)⟩
  have hordered : Source.inOrder [remoteSource, localSource] = [remoteSource, localSource] :=
    List.mergeSort_of_pairwise (by decide)
  obtain ⟨⟨listed, keys, snapshots, hlisted, -, -, mid, hmid, -, hmarks⟩, hsingle⟩ :=
    sources_read_first inquisitive hanswers unseen
  obtain ⟨-, mid', hmid', -, hmarks'⟩ := hsingle "pool" (by decide)
  obtain ⟨marks, hmarks⟩ := hmarks inquisitive_confined
  obtain ⟨marks', hmarks'⟩ := hmarks' inquisitive_confined
  rw [hordered] at hlisted hmid hmid'
  refine ⟨⟨hanswers, inquisitive_confined⟩,
    ⟨listed, lookups inquisitive.metaKeys keys, marks, hlisted, ?_⟩, ?_, marks', ?_⟩
  · rw [hmarks, hmid]
    simp [unseen, remoteSource, localSource, Source.ofEntries, Memory.initial, World.initial]
  · rw [resolveAll, Source.inOrder_watched, hordered]
    decide +kernel
  · rw [hmarks', hmid']
    rfl

end Merge

end LayeredConfig
