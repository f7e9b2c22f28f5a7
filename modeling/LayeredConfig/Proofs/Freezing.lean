import LayeredConfig.Proofs.Itemization
import LayeredConfig.Proofs.Typing

/-! Read-only collections. Where the metadata ask for it, a collection is immutable all the way down,
apart from user-defined lists and sets: these stay as they are unless the metadata name a kind of
collection to be built in their place. -/

namespace LayeredConfig

namespace Sorting

variable {α : Type} {less? : α → α → Option Bool}

lemma continueRun_perm {down : Bool} {last : α} {acc xs run rest : List α}
    (h : continueRun less? down last acc xs = some (run, rest)) : (run ++ rest).Perm (acc ++ xs) := by
  induction xs generalizing last acc with
  | nil =>
    cases h
    exact .refl _
  | cons x xs ih =>
    rw [continueRun, Option.bind_eq_bind, Option.bind_eq_some_iff] at h
    obtain ⟨less, -, h⟩ := h
    split at h
    · exact (ih h).trans List.perm_middle.symm
    · cases h
      exact .refl _

lemma leadingRun_perm {xs run rest : List α} (h : leadingRun less? xs = some (run, rest)) :
    (run ++ rest).Perm xs := by
  unfold leadingRun at h
  split at h
  · rename_i x y xs
    simp only [Option.bind_eq_bind, Option.bind_eq_some_iff] at h
    obtain ⟨down, -, ⟨run', _⟩, hrun, h⟩ := h
    cases h
    have hperm := (continueRun_perm hrun).trans (.swap x y xs)
    split
    · exact hperm
    · exact (run'.reverse_perm.append_right _).trans hperm
  · cases h
    rw [List.append_nil]

lemma insert_perm {sorted inserted : Array α} {x : α} (h : insert less? sorted x = some inserted) :
    inserted.toList.Perm (x :: sorted.toList) := by
  rw [insert, Option.bind_eq_bind, Option.bind_eq_some_iff] at h
  obtain ⟨i, -, h⟩ := h
  cases h
  have hmiddle : (sorted.toList.take i ++ x :: sorted.toList.drop i).Perm
      (x :: (sorted.toList.take i ++ sorted.toList.drop i)) := List.perm_middle
  rwa [List.take_append_drop] at hmiddle

lemma foldlM_insert_perm {sorted whole : Array α} {xs : List α}
    (h : xs.foldlM (insert less?) sorted = some whole) :
    whole.toList.Perm (sorted.toList ++ xs) := by
  induction xs generalizing sorted with
  | nil =>
    cases h
    rw [List.append_nil]
  | cons x xs ih =>
    rw [List.foldlM_cons, Option.bind_eq_bind, Option.bind_eq_some_iff] at h
    obtain ⟨inserted, hinsert, h⟩ := h
    refine (ih h).trans (((insert_perm hinsert).append_right xs).trans ?_)
    exact List.perm_middle.symm

theorem sort?_perm {xs ys : List α} (h : sort? less? xs = some ys) : ys.Perm xs := by
  simp only [sort?, Option.bind_eq_bind, Option.bind_eq_some_iff] at h
  obtain ⟨⟨run, rest⟩, hrun, sorted, hsorted, h⟩ := h
  cases h
  exact (foldlM_insert_perm hsorted).trans (leadingRun_perm hrun)

end Sorting

lemma Ledger.mem_of_mem_putAll {κ α : Type} [DecidableEq κ] {l : Ledger κ α} {ps : List (κ × α)}
    {p : κ × α} (h : p ∈ (l.putAll ps).pairs) : p ∈ l.pairs ∨ p ∈ ps := by
  induction ps generalizing l with
  | nil => exact .inl h
  | cons q ps ih =>
    rw [putAll, List.foldl_cons] at h
    obtain h | h := ih h
    · rw [mem_pairs_iff, get?_put] at h
      split at h
      · have hp : p = q := Prod.ext ‹_› (Option.some.inj h).symm
        exact .inr (hp ▸ List.mem_cons_self)
      · exact .inl (mem_pairs_iff.2 h)
    · exact .inr (List.mem_cons_of_mem q h)

namespace Conversion

variable {σ : Type}

namespace Class

def isOpen : Class → Bool
  | derived _ _ base => base.collection? = some .list || base.collection? = some .set
  | _ => false

lemma isOpen_eq_false {c : Class} (h : c.collection? = none) : c.isOpen = false := by
  cases c with
  | derived module name base =>
    rw [collection?] at h
    simp [isOpen, h]
  | _ => rfl

lemma collection?_root (c : Class) : c.root.collection? = c.collection? := by
  induction c with
  | derived _ _ base ih => exact ih
  | _ => rfl

end Class

namespace Value

def isImmutable : Value → Bool
  | collection c _ => c.collection? = some .tuple || c.collection? = some .frozenset
  | mapping frozen _ => frozen
  | _ => true

inductive Inside : Value → Value → Prop
  | self (v : Value) : Inside v v
  | item {u v : Value} {c : Class} {items : List Value} (hv : v ∈ items) (h : Inside u v) :
      Inside u (.collection c items)
  | entry {u : Value} {p : String × Value} {frozen : Bool} {pairs : List (String × Value)}
      (hp : p ∈ pairs) (h : Inside u p.2) : Inside u (.mapping frozen pairs)

end Value

inductive Target.Mentions : Target → Class → Prop
  | self (t : Target) : Mentions t t.cls
  | argument {t u : Target} {c : Class} (hu : u ∈ t.args) (h : Mentions u c) : Mentions t c

namespace Target

@[simp] lemma mentions_bare {c d : Class} : (bare c).Mentions d ↔ d = c := by
  constructor
  · rintro (_ | ⟨hu, _⟩)
    · rfl
    · cases hu
  · rintro rfl
    exact .self (bare d)

@[simp] lemma mentions_generic {c d : Class} {ts : List Target} :
    (generic c ts).Mentions d ↔ d = c ∨ ∃ t ∈ ts, t.Mentions d := by
  constructor
  · rintro (_ | ⟨hu, h⟩)
    · exact .inl rfl
    · exact .inr ⟨_, hu, h⟩
  · rintro (rfl | ⟨t, ht, h⟩)
    · exact .self (generic d ts)
    · exact .argument (t := generic c ts) ht h

end Target

lemma distinct?_subset {items members : List Value} (h : Value.distinct? items = some members) :
    members ⊆ items := by
  have hhashable : ∀ v ∈ items, v.hashable = true := by
    intro v hv
    by_contra hne
    rw [distinct?_eq_none ⟨v, hv, by simpa using hne⟩] at h
    cases h
  obtain ⟨_, hmembers, hdistinct⟩ := distinct_of_hashable hhashable
  cases h.symm.trans hmembers
  exact hdistinct.sublist.subset

namespace Builder

lemma cases_requested? {text : String} {b : Builder} (h : requested? text = some b) :
    b = .sorted ∨ b = .cls .list ∨ b = .cls .tuple ∨ b = .cls .set ∨ b = .cls .frozenset := by
  rw [requested?] at h
  unfold ofName? at h
  split at h
  all_goals
    cases h
    try simp

lemma requested?_empty : requested? "" = none := by decide +kernel

lemma choose_readOnly {metadata : Ledger String String} (h : isReadOnly metadata = true) (c : Class) :
    choose c metadata =
      ((requested? (metadata.getD MetaKeys.collectionType "")).getD (.cls c)).readOnly := by
  rw [choose, if_pos h]
  split
  · rename_i hempty
    rw [String.isEmpty_iff.1 hempty, requested?_empty]
    rfl
  · rfl

lemma readOnly_cls {c : Class} (h : c.collection?.isSome = true) :
    ∃ d, (cls c).readOnly = cls d ∧ d.collection?.isSome = true ∧
      (∀ items, (Value.collection d items).isImmutable = !c.isOpen) ∧ (c.isOpen = true → d = c) := by
  cases c with
  | list => exact ⟨.tuple, rfl, rfl, fun _ => rfl, fun h => nomatch h⟩
  | set => exact ⟨.frozenset, rfl, rfl, fun _ => rfl, fun h => nomatch h⟩
  | tuple | frozenset => exact ⟨_, rfl, rfl, fun _ => rfl, fun h => nomatch h⟩
  | derived module name base =>
    refine ⟨.derived module name base, rfl, h, fun items => ?_, fun _ => rfl⟩
    obtain ⟨kind, hkind⟩ := Option.isSome_iff_exists.1 h
    rw [Class.collection?] at hkind
    simp only [Value.isImmutable, Class.isOpen, Class.collection?, hkind]
    cases kind with
    | _ => rfl
  | _ => cases h

lemma buildClass?_collection {c : Class} (h : c.collection?.isSome = true) {items : List Value}
    {v : Value} (hbuild : buildClass? c items = some v) :
    ∃ members, v = .collection c members ∧ members ⊆ items := by
  unfold buildClass? at hbuild
  split at hbuild
  · cases hbuild
    exact ⟨items, rfl, List.Subset.refl items⟩
  · cases hbuild
    exact ⟨items, rfl, List.Subset.refl items⟩
  · obtain ⟨members, hmembers, rfl⟩ := Option.map_eq_some_iff.1 hbuild
    exact ⟨members, rfl, distinct?_subset hmembers⟩
  · obtain ⟨members, hmembers, rfl⟩ := Option.map_eq_some_iff.1 hbuild
    exact ⟨members, rfl, distinct?_subset hmembers⟩
  · rename_i hnone
    rw [hnone] at h
    cases h

lemma build?_sortedTuple {items : List Value} {v : Value} (h : sortedTuple.build? items = some v) :
    ∃ members, v = .collection .tuple members ∧ members ⊆ items := by
  obtain ⟨members, hmembers, rfl⟩ := Option.map_eq_some_iff.1 h
  exact ⟨members, rfl, (Sorting.sort?_perm hmembers).subset⟩

section Built

variable {items : List Value} {v : Value}

lemma build?_readOnly_cls {c : Class} (hc : c.collection?.isSome = true)
    (h : (cls c).readOnly.build? items = some v) :
    ∃ d members, v = .collection d members ∧ members ⊆ items ∧ v.isImmutable = !c.isOpen ∧
      (c.isOpen = true → d = c) := by
  obtain ⟨d, hd, hsome, himmutable, hopen⟩ := readOnly_cls hc
  rw [hd] at h
  obtain ⟨members, rfl, hmembers⟩ := buildClass?_collection hsome h
  exact ⟨d, members, rfl, hmembers, himmutable members, hopen⟩

lemma build?_requested {text : String} {b : Builder} (hb : requested? text = some b)
    (h : b.readOnly.build? items = some v) :
    ∃ d members, v = .collection d members ∧ members ⊆ items ∧ v.isImmutable = true := by
  obtain rfl | hb := cases_requested? hb
  · obtain ⟨members, rfl, hmembers⟩ := build?_sortedTuple h
    exact ⟨_, members, rfl, hmembers, rfl⟩
  · obtain rfl | rfl | rfl | rfl := hb
    all_goals
      obtain ⟨d, members, rfl, hmembers, himmutable, -⟩ := build?_readOnly_cls rfl h
      exact ⟨d, members, rfl, hmembers, himmutable⟩

end Built

end Builder

def Subject.requestedKind (s : Subject) : Option Builder :=
  Builder.requested? (s.metadata.getD MetaKeys.collectionType "")

/-- Everything in the value is immutable, apart from lists and sets of user-defined classes that the
target mentions where no kind of collection is requested. -/
def Target.Freezes (t : Target) (s : Subject) (v : Value) : Prop :=
  ∀ u : Value, u.Inside v → u.isImmutable = true ∨
    ∃ c items, u = .collection c items ∧ t.Mentions c ∧ c.isOpen = true ∧ s.requestedKind = none

namespace Target.Freezes

variable {s : Subject} {t : Target}

lemma scalar {v : Value} (h : v.isContainer = false) : t.Freezes s v := by
  intro u hu
  cases v with
  | collection | mapping => cases h
  | _ =>
    cases hu
    exact .inl rfl

lemma of_argument {u : Target} {v : Value} (hu : u ∈ t.args) (h : u.Freezes s v) : t.Freezes s v := by
  intro w hw
  refine (h w hw).imp_right fun ⟨c, items, heq, hmentions, hopen⟩ => ?_
  exact ⟨c, items, heq, .argument hu hmentions, hopen⟩

lemma collection {c : Class} {items : List Value} (hitems : ∀ v ∈ items, t.Freezes s v)
    (h : (Value.collection c items).isImmutable = true ∨
      c = t.cls ∧ c.isOpen = true ∧ s.requestedKind = none) :
    t.Freezes s (.collection c items) := by
  intro u hu
  cases hu with
  | self =>
    refine h.imp_right fun ⟨hc, hopen⟩ => ⟨c, items, rfl, ?_, hopen⟩
    exact hc ▸ .self t
  | item hv hu => exact hitems _ hv u hu

lemma mapping {pairs : List (String × Value)} (hpairs : ∀ p ∈ pairs, t.Freezes s p.2) :
    t.Freezes s (.mapping true pairs) := by
  intro u hu
  cases hu with
  | self => exact .inl rfl
  | entry hp hu => exact hpairs _ hp u hu

end Target.Freezes

section Items

variable {q : Request σ} {raw : String} {P Q : Value → Prop}

lemma Request.convertItem_promises (htext : ∀ token, P (.text token))
    (hitems : ∀ convert, some convert ∈ q.items → ∀ token, Promises (convert token) P) (place : Nat)
    (token : String) : Promises (q.convertItem place token) P := by
  rw [convertItem]
  split
  · exact Ensures.pure fun v hv => Option.some.inj hv ▸ htext token
  · rename_i convert hconvert
    rw [Option.join_eq_some_iff] at hconvert
    refine (hitems convert (List.mem_of_getElem? hconvert) token).bind fun account haccount => ?_
    split
    · exact (ensures_report_note (P := fun _ _ => True) _ _ _ _ _).bind fun _ _ => Ensures.pure haccount
    · exact Ensures.pure haccount

namespace Converter

variable (hitem : ∀ place token, Promises (q.convertItem place token) P)
include hitem

lemma makes_collection (hbuild : ∀ items v, (∀ u ∈ items, P u) →
      (Builder.choose q.target.cls q.subject.metadata).build? items = some v → Q v)
    (runtime : Runtime) (id : Nat) :
    (collection runtime id).Makes raw q Q := by
  change Ensures _ (runCollection runtime raw q) _
  rw [runCollection]
  split
  · exact Ensures.pure satisfies_fault
  · refine (Ensures.mapM fun token _ => hitem 0 (Text.strip token)).bind fun accounts haccounts => ?_
    refine Ensures.pure fun v hv => ?_
    rw [Runtime.build] at hv
    have hvalues : ∀ u ∈ accounts.filterMap (·.value), P u := fun u hu => by
      obtain ⟨account, haccount, hvalue⟩ := List.mem_filterMap.1 hu
      exact haccounts account haccount u hvalue
    cases hbuilt : (Builder.choose q.target.cls q.subject.metadata).build?
      (accounts.filterMap (·.value)) with
    | some built =>
      rw [hbuilt] at hv
      cases hv
      exact hbuild _ v hvalues hbuilt
    | none =>
      rw [hbuilt] at hv
      cases hv

lemma convertEntry_satisfies (sep token : String) :
    Ensures (fun _ => True) (convertEntry q sep token) fun entry => entry.2.Satisfies P := by
  rw [convertEntry]
  split
  · exact Ensures.pure Account.satisfies_none
  · exact (hitem 1 _).bind fun account haccount => Ensures.pure haccount

lemma makes_mapping (hbuild : ∀ pairs : List (String × Value), (∀ p ∈ pairs, P p.2) →
      Q (.mapping (Builder.isReadOnly q.subject.metadata) pairs)) (id : Nat) :
    (mapping id).Makes raw q Q := by
  change Ensures _ (runMapping raw q) _
  rw [runMapping]
  split
  · exact Ensures.pure satisfies_fault
  · split
    · exact Ensures.pure satisfies_fault
    · refine (Ensures.mapM fun token _ =>
        convertEntry_satisfies hitem (entrySeparator q) token).bind fun entries hentries => ?_
      refine Ensures.pure fun v hv => ?_
      cases hv
      refine hbuild _ fun p hp => ?_
      obtain hp | hp := Ledger.mem_of_mem_putAll hp
      · cases hp
      · obtain ⟨entry, hentry, hp⟩ := List.mem_filterMap.1 hp
        obtain ⟨u, hu, rfl⟩ := Option.map_eq_some_iff.1 hp
        exact hentries entry hentry u hu

end Converter

end Items

namespace Registry

variable (runtime : Runtime)

lemma standard_container {c : Class} (hcontainer : c.isScalar = false) (hapart : c.Apart) :
    ((standard runtime : Registry σ).convertersFor c = [.collection runtime 7] ∧
      c.collection?.isSome = true) ∨
    (standard runtime : Registry σ).convertersFor c = [.mapping 8] ∧ c.collection? = none := by
  rw [standard_root runtime hapart, ← c.collection?_root]
  unfold Class.isScalar at hcontainer
  split at hcontainer
  all_goals try rw [‹c.root = _›]
  · exact .inl ⟨standard_collection runtime (.inl rfl), rfl⟩
  · exact .inl ⟨standard_collection runtime (.inr (.inl rfl)), rfl⟩
  · exact .inl ⟨standard_collection runtime (.inr (.inr (.inl rfl))), rfl⟩
  · exact .inl ⟨standard_collection runtime (.inr (.inr (.inr rfl))), rfl⟩
  · exact .inr ⟨convertersFor_of_chain (standard_serves runtime (by simp)), rfl⟩
  · cases hcontainer

structure ReadOnly (s : Subject) (t : Target) (v : Value) : Prop where
  container : v.isContainer = true
  immutable_iff : v.isImmutable = true ↔ (t.cls.isOpen = true → s.requestedKind.isSome = true)
  freezes : t.Freezes s v

lemma makes_readOnly {q : Request σ} (hreadOnly : Builder.isReadOnly q.subject.metadata = true)
    (hcontainer : q.target.cls.isScalar = false) (hapart : q.target.cls.Apart)
    (hitem : ∀ place token, Promises (q.convertItem place token) (q.target.Freezes q.subject))
    (raw : String) :
    ∀ converter ∈ (standard runtime : Registry σ).convertersFor q.target.cls,
      converter.Makes raw q (ReadOnly q.subject q.target) := by
  -- Collections and mappings are built by converters of their own.
  obtain ⟨hserved, hsome⟩ | ⟨hserved, hnone⟩ := standard_container (σ := σ) runtime hcontainer hapart
  · rw [hserved, List.forall_mem_singleton]
    refine Converter.makes_collection hitem (fun items v hitems hbuild => ?_) runtime 7
    rw [Builder.choose_readOnly hreadOnly] at hbuild
    -- A kind that the metadata request comes before the class that was asked for.
    cases hkind : q.subject.requestedKind with
    | none =>
      rw [show Builder.requested? _ = none from hkind] at hbuild
      obtain ⟨c, members, rfl, hmembers, himmutable, hopen⟩ :=
        Builder.build?_readOnly_cls hsome hbuild
      refine ⟨rfl, ?_, .collection (fun u hu => hitems u (hmembers hu)) ?_⟩
      · simp [himmutable, hkind]
      · cases hc : q.target.cls.isOpen with
        | true => exact .inr ⟨hopen hc, hopen hc ▸ hc, hkind⟩
        | false => exact .inl (by rw [himmutable, hc]; rfl)
    | some b =>
      rw [show Builder.requested? _ = some b from hkind] at hbuild
      obtain ⟨c, members, rfl, hmembers, himmutable⟩ := Builder.build?_requested hkind hbuild
      refine ⟨rfl, ?_, .collection (fun u hu => hitems u (hmembers hu)) (.inl himmutable)⟩
      simp [himmutable, hkind]
  · rw [hserved, List.forall_mem_singleton]
    refine Converter.makes_mapping hitem (fun pairs hpairs => ?_) 8
    rw [hreadOnly]
    exact ⟨rfl, by simp [Value.isImmutable, Class.isOpen_eq_false hnone], .mapping hpairs⟩

lemma mem_request_items {r : Registry σ} {s : Subject} {linked : Bool} {t : Target}
    {convert : String → Note σ Account}
    (h : some convert ∈ (request s linked t (r.convertEach s linked t.args)).items) :
    ∃ u ∈ t.args, convert = r.convert s linked u := by
  rw [request] at h
  split at h
  · exact mem_convertEach h
  · cases h

section Convert

variable {s : Subject} (hreadOnly : Builder.isReadOnly s.metadata = true) (linked : Bool)
include hreadOnly

lemma convert_readOnly_of_arguments {t : Target} (hcontainer : t.cls.isScalar = false)
    (hapart : t.cls.Apart) (hargs : ∀ u ∈ t.args, ∀ raw,
      Promises ((standard runtime : Registry σ).convert s linked u raw) (u.Freezes s)) (raw : String) :
    Promises ((standard runtime : Registry σ).convert s linked t raw) (ReadOnly s t) := by
  let q : Request σ := request s linked t ((standard runtime).convertEach s linked t.args)
  have hitem : ∀ place token, Promises (q.convertItem place token) (t.Freezes s) := by
    refine Request.convertItem_promises (fun _ => .scalar rfl) fun convert hconvert token => ?_
    obtain ⟨u, hu, rfl⟩ := mem_request_items hconvert
    exact (hargs u hu token).mono fun v hv => .of_argument hu hv
  have hmakes := makes_readOnly runtime (q := q) hreadOnly hcontainer hapart hitem raw
  refine convert_makes _ s linked (fun htext => ?_) hmakes
  unfold Target.isText at htext
  split at htext
  · cases hcontainer
  · cases htext

lemma convert_freezes {t : Target} (hapart : ∀ c, t.Mentions c → c.Apart) (raw : String) :
    Promises ((standard runtime : Registry σ).convert s linked t raw) (t.Freezes s) := by
  revert hapart raw
  -- Items are converted to the arguments of the target, so the induction is on the target.
  refine Target.by_arguments (P := fun t => (∀ c, t.Mentions c → c.Apart) → ∀ raw : String,
    Promises ((standard runtime : Registry σ).convert s linked t raw) (t.Freezes s))
    (fun t ih hapart raw => ?_) t
  cases hscalar : t.cls.isScalar with
  | true =>
    let q : Request σ := request s linked t ((standard runtime).convertEach s linked t.args)
    have hmakes := standard_makes runtime (q := q) hscalar (hapart _ (.self t)) raw rfl
    refine convert_makes _ s linked (fun _ => .scalar rfl) fun c hc => ?_
    exact (hmakes c hc).mono fun v hv => .scalar hv.1.scalar
  | false =>
    have hconvert := convert_readOnly_of_arguments runtime hreadOnly linked hscalar
      (hapart _ (.self t)) (fun u hu => ih u hu fun c hc => hapart c (.argument hu hc)) raw
    exact hconvert.mono fun v hv => hv.freezes

end Convert

/-- A read-only container is immutable, unless its class is a user-defined list or set and the metadata
request no kind of collection; and so is everything in it. -/
theorem convert_readOnly (s : Subject) (hreadOnly : Builder.isReadOnly s.metadata = true)
    (linked : Bool) {t : Target} (hcontainer : t.cls.isScalar = false)
    (hapart : ∀ c, t.Mentions c → c.Apart) (raw : String) (w : World σ) {v : Value}
    (hvalue : (((standard runtime).convert s linked t raw).run w).1.value = some v) :
    v.isContainer = true ∧
      (v.isImmutable = true ↔ (t.cls.isOpen = true → s.requestedKind.isSome = true)) ∧
      ∀ u : Value, u.Inside v → u.isImmutable = true ∨
        ∃ c items, u = .collection c items ∧ t.Mentions c ∧ c.isOpen = true ∧
          s.requestedKind = none := by
  have hconvert := convert_readOnly_of_arguments (σ := σ) runtime hreadOnly linked hcontainer
    (hapart _ (.self t)) (fun u hu => convert_freezes runtime hreadOnly linked fun c hc =>
      hapart c (.argument hu hc)) raw
  obtain ⟨hcontainer, himmutable, hfreezes⟩ := hconvert.of_value hvalue
  exact ⟨hcontainer, himmutable, hfreezes⟩

def sealed : Subject := ⟨"ports", none, none, .ofList [(MetaKeys.readOnly, "true")]⟩

def portsByHost : Target := .generic .mapping [.bare .text, .generic .list [.bare .integer]]

theorem convert_readOnly_ports :
    ∃ v, (((standard .silent).convert sealed true portsByHost "web=80, db=5432").run
        (.initial .warning ())).1.value = some v ∧
      v.isContainer = true ∧ ∀ u : Value, u.Inside v → u.isImmutable = true := by
  have hsome : (((standard .silent).convert sealed true portsByHost
      "web=80, db=5432").run (.initial .warning ())).1.value.isSome = true := by decide +kernel
  obtain ⟨v, hvalue⟩ := Option.isSome_iff_exists.1 hsome
  have hmentions {c : Class} (hc : portsByHost.Mentions c) : c.Apart ∧ c.isOpen = false := by
    simp only [portsByHost, Target.mentions_generic, Target.mentions_bare, List.mem_cons,
      List.not_mem_nil, or_false, exists_eq_or_imp, exists_eq_left] at hc
    obtain rfl | rfl | rfl | rfl := hc
    all_goals exact ⟨trivial, rfl⟩
  obtain ⟨hcontainer, -, hinside⟩ := convert_readOnly (σ := Unit) .silent sealed
    (by decide +kernel) true rfl (fun c hc => (hmentions hc).1) "web=80, db=5432" _ hvalue
  refine ⟨v, hvalue, hcontainer, fun u hu => (hinside u hu).elim id ?_⟩
  rintro ⟨c, items, -, hc, hopen, -⟩
  rw [(hmentions hc).2] at hopen
  cases hopen

def myList : Class := .derived "demo" "MyList" .list

theorem readOnly_not_immutable_myList :
    Builder.isReadOnly sealed.metadata = true ∧ myList.Apart ∧
      ∃ v, (((standard .silent).convert sealed true (.bare myList) "a,b").run
          (.initial .warning ())).1.value = some v ∧ v.isContainer = true ∧ v.isImmutable = false := by
  have hany : (((standard .silent).convert sealed true (.bare myList) "a,b").run
      (.initial .warning ())).1.value.any (fun v => v.isContainer && !v.isImmutable) = true := by
    decide +kernel
  refine ⟨by decide +kernel, ⟨by decide +kernel, trivial⟩, ?_⟩
  obtain ⟨v, hvalue, hv⟩ := (Option.any_eq_true _ _).1 hany
  simp only [Bool.and_eq_true, Bool.not_eq_true'] at hv
  exact ⟨v, hvalue, hv⟩

end Registry

end Conversion

end LayeredConfig
