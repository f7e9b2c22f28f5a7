import LayeredConfig.Proofs.Attempts
import LayeredConfig.Proofs.Collecting
import LayeredConfig.Proofs.Collections
import Mathlib.Data.List.Induction

/-! Collections converted item by item. A conversion by the standard converters comes to the same account
in every world and only adds its own notices to the journal. So what an item comes to on its own, at any
depth, is what it comes to inside a collection. -/

namespace LayeredConfig

variable {σ : Type}

structure Notice where
  severity : Severity
  name : String
  more : List (String × Data)

def World.noticed (key : String) (w : World σ) (n : Notice) : World σ :=
  w.noted n.severity n.name none (some key) n.more

def World.told (w : World σ) (key : String) (notices : List Notice) : World σ :=
  notices.foldl (World.noticed key) w

/-- In every world the effect comes to the same and adds the same notices to the journal. -/
def Tells {α : Type} (key : String) (x : Note σ α) (a : α) (notices : List Notice) : Prop :=
  ∀ w, x.run w = (a, w.told key notices)

namespace Tells

variable {α β : Type} {key : String} {x : Note σ α} {a : α} {b : β} {ns ns' : List Notice}

lemma pure (a : α) : Tells key (Pure.pure a : Note σ α) a [] := fun _ => rfl

lemma bind {f : α → Note σ β} (h : Tells key x a ns) (h' : Tells key (f a) b ns') :
    Tells key (x >>= f) b (ns ++ ns') := by
  intro w
  rw [run_bind_of (h w), h', World.told, World.told, World.told, List.foldl_append]

lemma report (n : Notice) :
    Tells key (LayeredConfig.report n.severity n.name none (some key) n.more : Note σ Unit) () [n] :=
  fun _ => rfl

lemma bind_pure (f : α → β) (h : Tells key x a ns) :
    Tells key (x >>= fun a => Pure.pure (f a)) (f a) ns := by
  have hbind := h.bind (f := fun a => Pure.pure (f a)) (pure (f a))
  rwa [List.append_nil] at hbind

lemma mapM {f : α → Note σ β} {value : α → β} {told : α → List Notice} {as : List α}
    (h : ∀ a ∈ as, Tells key (f a) (value a) (told a)) :
    Tells key (as.mapM f) (as.map value) (as.flatMap told) := by
  induction as with
  | nil => exact pure []
  | cons a as ih =>
    rw [List.forall_mem_cons] at h
    rw [List.mapM_cons, List.flatMap_cons]
    exact h.1.bind ((ih h.2).bind_pure _)

end Tells

def Determinate {α : Type} (key : String) (x : Note σ α) : Prop := ∃ a ns, Tells key x a ns

namespace Determinate

variable {α β : Type} {key : String} {x : Note σ α}

lemma pure (a : α) : Determinate key (Pure.pure a : Note σ α) := ⟨a, [], .pure a⟩

lemma bind {f : α → Note σ β} (h : Determinate key x) (h' : ∀ a, Determinate key (f a)) :
    Determinate key (x >>= f) := by
  obtain ⟨a, ns, ha⟩ := h
  obtain ⟨b, ns', hb⟩ := h' a
  exact ⟨b, ns ++ ns', ha.bind hb⟩

lemma report (n : Notice) :
    Determinate key (LayeredConfig.report n.severity n.name none (some key) n.more : Note σ Unit) :=
  ⟨(), [n], .report n⟩

lemma mapM {f : α → Note σ β} (h : ∀ a, Determinate key (f a)) (as : List α) :
    Determinate key (as.mapM f) := by
  choose value told htells using h
  exact ⟨_, _, .mapM fun a _ => htells a⟩

end Determinate

namespace Conversion

def skipped (t : Target) (token : String) : Notice :=
  ⟨.warning, "collection_item_skipped", [("item", .text token), ("target", .text t.label)]⟩

def itemNotices (t : Target) (token : String) (account : Account) (told : List Notice) : List Notice :=
  told ++ if account.value.isNone then [skipped t token] else []

lemma Request.convertItem_tells {q : Request σ} {place : Nat} {convert : String → Note σ Account}
    (h : (q.items[place]?).join = some convert) {token : String} {account : Account}
    {told : List Notice} (htells : Tells q.subject.key (convert token) account told) :
    Tells q.subject.key (q.convertItem place token) account
      (itemNotices (q.target.argument place) token account told) := by
  rw [convertItem, h]
  dsimp only
  refine htells.bind ?_
  split
  · exact (Tells.report (skipped _ token)).bind (.pure _)
  · exact .pure _

namespace Converter

def failure (c : Converter σ) (fault : Fault) : Notice :=
  ⟨.debug, "converter_failed", [("converter", .text c.name), ("error", .text fault.message)]⟩

def exhaustion (t : Target) (formats : List String) : Notice :=
  ⟨.debug, "conversion_exhausted", [("target", .text t.label), ("formats", Journal.strings formats)]⟩

variable {raw : String} {q : Request σ} {c : Converter σ} {formats inner : List String}
  {ns : List Notice}

lemma tryAll_tells_found {rest : List (Converter σ)} {v : Value}
    (h : Tells q.subject.key (c.run raw q) ⟨inner, .ok (some v)⟩ ns) :
    Tells q.subject.key (tryAll raw q formats (c :: rest)) ⟨formats ++ c.advertised :: inner, some v⟩
      ns := by
  rw [tryAll, ← List.append_nil ns]
  exact h.bind (.pure _)

lemma tryAll_tells_failed {fault : Fault}
    (h : Tells q.subject.key (c.run raw q) ⟨inner, .error fault⟩ ns) :
    Tells q.subject.key (tryAll raw q formats [c]) ⟨formats ++ c.advertised :: inner, none⟩
      (ns ++ [c.failure fault, exhaustion q.target (formats ++ c.advertised :: inner)]) := by
  rw [tryAll]
  refine h.bind ((Tells.report (c.failure fault)).bind ?_)
  exact (Tells.report (exhaustion q.target _)).bind (.pure _)

lemma runCollection_tells (runtime : Runtime) {tokens : List String} {account : String → Account}
    {told : String → List Notice} (hsplit : Tokens.split? raw (itemSeparator q) = some tokens)
    (h : ∀ token, Tells q.subject.key (q.convertItem 0 token) (account token) (told token)) :
    Tells q.subject.key (runCollection runtime raw q)
      ⟨(tokens.map Text.strip).flatMap fun token => (account token).formats,
        runtime.build (Builder.choose q.target.cls q.subject.metadata)
          ((tokens.map Text.strip).filterMap fun token => (account token).value)⟩
      ((tokens.map Text.strip).flatMap told) := by
  have hitem : ∀ token ∈ tokens, Tells q.subject.key (q.convertItem 0 (Text.strip token))
      (account (Text.strip token)) (told (Text.strip token)) := fun token _ => h (Text.strip token)
  have hitems := (Tells.mapM hitem).bind_pure fun accounts => Result.mk (accounts.flatMap (·.formats))
    (runtime.build (Builder.choose q.target.cls q.subject.metadata) (accounts.filterMap (·.value)))
  rw [runCollection, hsplit]
  simpa only [List.flatMap_map, List.filterMap_map, Function.comp_def] using hitems

def Candid (c : Converter σ) : Prop :=
  ∀ raw (q : Request σ), (∀ convert, some convert ∈ q.items →
    ∀ token, Determinate q.subject.key (convert token)) → Determinate q.subject.key (c.run raw q)

lemma convertItem_determinate
    (h : ∀ convert, some convert ∈ q.items → ∀ token, Determinate q.subject.key (convert token))
    (place : Nat) (token : String) : Determinate q.subject.key (q.convertItem place token) := by
  cases hplace : (q.items[place]?).join with
  | none =>
    rw [Request.convertItem, hplace]
    exact .pure _
  | some convert =>
    have hmem : some convert ∈ q.items :=
      List.mem_of_getElem? (Option.join_eq_some_iff.1 hplace)
    obtain ⟨account, told, htells⟩ := h convert hmem token
    exact ⟨account, _, Request.convertItem_tells hplace htells⟩

lemma candid_pureRun (id : Nat) (name format : String) (read : String → Target → Outcome) :
    Candid (⟨id, name, format, pureRun read⟩ : Converter σ) := fun _ _ _ => .pure _

lemma candid_collection (runtime : Runtime) (id : Nat) : Candid (collection runtime id : Converter σ) := by
  intro raw q hitems
  change Determinate _ (runCollection runtime raw q)
  rw [runCollection]
  split
  · exact .pure _
  · refine (Determinate.mapM (fun token => ?_) _).bind fun _ => .pure _
    exact convertItem_determinate hitems 0 _

lemma candid_mapping (id : Nat) : Candid (mapping id : Converter σ) := by
  intro raw q hitems
  change Determinate _ (runMapping raw q)
  rw [runMapping]
  split
  · exact .pure _
  · split
    · exact .pure _
    · refine (Determinate.mapM (fun token => ?_) _).bind fun _ => .pure _
      rw [convertEntry]
      split
      · exact .pure _
      · exact (convertItem_determinate hitems 1 _).bind fun _ => .pure _

lemma tryAll_determinate {chain : List (Converter σ)}
    (h : ∀ c ∈ chain, Determinate q.subject.key (c.run raw q)) :
    Determinate q.subject.key (tryAll raw q formats chain) := by
  induction chain generalizing formats with
  | nil => exact (Determinate.report (exhaustion q.target formats)).bind fun _ => .pure _
  | cons c rest ih =>
    rw [List.forall_mem_cons] at h
    refine h.1.bind fun result => ?_
    cases result.outcome with
    | ok value =>
      cases value with
      | none => exact ih h.2
      | some v => exact .pure _
    | error fault => exact (Determinate.report (c.failure fault)).bind fun _ => ih h.2

end Converter

lemma Target.by_arguments {P : Target → Prop} (h : ∀ t, (∀ u ∈ t.args, P u) → P t) (t : Target) :
    P t := by
  refine h t fun u hu => ?_
  cases t with
  | generic c ts =>
    change u ∈ ts at hu
    have hlt := List.sizeOf_lt_of_mem hu
    exact by_arguments h u
  | bare c | ellipsis => cases hu
termination_by sizeOf t

namespace Registry

variable {r : Registry σ} {s : Subject}

lemma mem_convertEach {linked : Bool} {convert : String → Note σ Account} {ts : List Target}
    (h : some convert ∈ r.convertEach s linked ts) : ∃ t ∈ ts, convert = r.convert s linked t := by
  induction ts with
  | nil => cases h
  | cons t ts ih =>
    have hrest (h : some convert ∈ r.convertEach s linked ts) :
        ∃ u ∈ t :: ts, convert = r.convert s linked u := by
      obtain ⟨u, hu, hconvert⟩ := ih h
      exact ⟨u, List.mem_cons_of_mem t hu, hconvert⟩
    rw [convertEach.eq_def] at h
    split at h
    · cases h
    · cases ‹_ :: _ = _›
      exact hrest (by simpa using h)
    · cases ‹_ :: _ = _›
      exact hrest (by simpa using h)
    · cases ‹_ :: _ = _›
      rw [List.mem_cons, Option.some.injEq] at h
      exact h.elim (fun h => ⟨_, List.mem_cons_self, h⟩) hrest

lemma mem_chain_of_mem_convertersFor {c : Class} {converter : Converter σ}
    (h : converter ∈ r.convertersFor c) : ∃ d, converter ∈ r.chain d := by
  rw [convertersFor] at h
  cases hfound : ((servants c).map r.chain).find? (!·.isEmpty) with
  | none =>
    rw [hfound] at h
    cases h
  | some chain =>
    rw [hfound] at h
    obtain ⟨d, -, rfl⟩ := List.mem_map.1 (List.mem_of_find?_eq_some hfound)
    exact ⟨d, h⟩

lemma mem_chain_registerAll {pairs : List (Class × Converter σ)} {c : Class}
    {converter : Converter σ}
    (h : converter ∈ (pairs.foldl (fun r p => r.register p.1 p.2) r).chain c) :
    converter ∈ r.chain c ∨ converter ∈ pairs.map Prod.snd := by
  induction pairs generalizing r with
  | nil => exact .inl h
  | cons p pairs ih =>
    rw [List.map_cons, List.mem_cons]
    obtain h | h := ih h
    · rw [chain_register] at h
      split at h
      · rename_i hsame
        rw [List.mem_append, List.mem_singleton] at h
        rw [chain, hsame]
        exact h.imp_right .inl
      · exact .inl h
    · exact .inr (.inr h)

lemma standard_candid (runtime : Runtime) {c : Class} {converter : Converter σ}
    (h : converter ∈ (standard runtime).chain c) : converter.Candid := by
  obtain h | h := mem_chain_registerAll h
  · cases h
  · simp only [List.map_cons, List.map_nil, List.mem_cons, List.not_mem_nil, or_false] at h
    obtain rfl | rfl | rfl | rfl | rfl | rfl | rfl | rfl | rfl | rfl | rfl | rfl := h
    iterate 7 exact Converter.candid_pureRun _ _ _ _
    iterate 4 exact Converter.candid_collection runtime 7
    exact Converter.candid_mapping 8

lemma convert_determinate (hr : ∀ c converter, converter ∈ r.chain c → converter.Candid)
    (s : Subject) (t : Target) (raw : String) : Determinate s.key (r.convert s true t raw) := by
  -- The converters of a target are given the conversions to its arguments and no others.
  refine Target.by_arguments (P := fun t => ∀ raw, Determinate s.key (r.convert s true t raw))
    (fun t ih raw => ?_) t raw
  cases htext : t.isText with
  | true =>
    unfold Target.isText at htext
    split at htext
    · rw [convert]
      exact .pure _
    · cases htext
  | false =>
    rw [convert_eq_tryAll r s htext]
    refine Converter.tryAll_determinate fun converter hmem => ?_
    obtain ⟨c, hc⟩ := mem_chain_of_mem_convertersFor hmem
    refine hr c converter hc raw (r.asked s t) fun convert hconvert token => ?_
    rw [asked, request, if_pos rfl] at hconvert
    obtain ⟨u, hu, rfl⟩ := mem_convertEach hconvert
    exact ih u hu token

lemma convert_generic {c : Class} {chain : List (Converter σ)} (hr : r.convertersFor c = chain)
    {ts : List Target} {raw : String} :
    r.convert s true (.generic c ts) raw =
      Converter.tryAll raw (r.asked s (.generic c ts)) [] chain := by
  rw [convert_eq_tryAll r s rfl, ← hr]
  rfl

end Registry

structure Distinct (items members : List Value) : Prop where
  sublist : members.Sublist items
  covers : ∀ v ∈ items, v ∈ members ∨ ∃ u ∈ members, v.same u = true
  apart : members.Pairwise fun u v => v.same u = false

lemma Distinct.concat {items members : List Value} (h : Distinct items members) (v : Value) :
    Distinct (items ++ [v]) (if members.any v.same then members else members ++ [v]) := by
  split
  · rename_i hsame
    refine ⟨h.sublist.trans (List.sublist_append_left _ _), fun u hu => ?_, h.apart⟩
    rw [List.mem_append, List.mem_singleton] at hu
    obtain hu | rfl := hu
    · exact h.covers u hu
    · exact .inr (List.any_eq_true.1 hsame)
  · rename_i hnew
    refine ⟨h.sublist.append (List.Sublist.refl _), fun u hu => ?_, ?_⟩
    · rw [List.mem_append] at hu ⊢
      obtain hu | hu := hu
      · refine (h.covers u hu).imp .inl fun ⟨x, hx, hsame⟩ => ⟨x, List.mem_append_left _ hx, hsame⟩
      · exact .inl (.inr hu)
    · rw [List.pairwise_append]
      refine ⟨h.apart, List.pairwise_singleton _ _, fun x hx u hu => ?_⟩
      rw [List.mem_singleton] at hu
      rw [hu]
      simpa using fun hsame => hnew (List.any_eq_true.2 ⟨x, hx, hsame⟩)

lemma hashableAll_eq_all (items : List Value) : Value.hashableAll items = items.all Value.hashable := by
  induction items with
  | nil => rfl
  | cons v items ih => rw [Value.hashableAll, ih, List.all_cons]

lemma distinct_of_hashable {items : List Value} (h : ∀ v ∈ items, v.hashable = true) :
    ∃ members, Value.distinct? items = some members ∧ Distinct items members := by
  have hall : Value.hashableAll items = true := by
    rw [hashableAll_eq_all]
    exact List.all_eq_true.2 h
  rw [Value.distinct?, if_pos hall]
  refine ⟨_, rfl, ?_⟩
  clear h hall
  -- The fold takes the items from the left, so the last one is the last that is added.
  induction items using List.reverseRecOn with
  | nil => exact ⟨List.Sublist.refl _, by simp, List.Pairwise.nil⟩
  | append_singleton items v ih =>
    rw [List.foldl_append]
    exact ih.concat v

lemma distinct?_eq_none {items : List Value} (h : ∃ v ∈ items, v.hashable = false) :
    Value.distinct? items = none := by
  rw [Value.distinct?, hashableAll_eq_all, if_neg]
  obtain ⟨v, hv, hunhashable⟩ := h
  intro hall
  rw [List.all_eq_true.1 hall v hv] at hunhashable
  cases hunhashable

lemma Builder.choose_stock {metadata : Ledger String String} (c : Class)
    (hkind : metadata.get? MetaKeys.collectionType = none)
    (hreadOnly : metadata.get? MetaKeys.readOnly = none) : choose c metadata = .cls c := by
  have hplain : isReadOnly metadata = false := by
    rw [isReadOnly, Ledger.getD, hreadOnly]
    decide +kernel
  rw [choose, hplain, Ledger.getD, hkind]
  rfl

section Items

variable (account : String → Account) (told : String → List Notice)

def tokenValues (tokens : List String) : List Value :=
  tokens.filterMap fun token => (account token).value

def tokenFormats (tokens : List String) : List String :=
  tokens.flatMap fun token => (account token).formats

def tokenNotices (t : Target) (tokens : List String) : List Notice :=
  tokens.flatMap fun token => itemNotices t token (account token) (told token)

end Items

lemma argument_generic {t : Target} (h : t ≠ .ellipsis) (c : Class) (ts : List Target) :
    (Target.generic c (t :: ts)).argument 0 = t := by
  rw [Target.argument]
  cases t with
  | bare c | generic c us => rfl
  | ellipsis => exact absurd rfl h

section Collected

variable {r : Registry σ} {s : Subject} {t : Target} (htext : t.isText = false)
  (hellipsis : t ≠ .ellipsis)
include htext hellipsis

lemma Registry.items_asked (c : Class) (ts : List Target) :
    ((r.asked s (.generic c (t :: ts))).items[0]?).join = some (r.convert s true t) := by
  have hne : t ≠ .bare .text := by
    rintro rfl
    cases htext
  change ((r.convertEach s true (t :: ts))[0]?).join = _
  rw [convertEach]
  · rfl
  · exact hne
  · exact hellipsis

variable {raw : String} {tokens : List String} {account : String → Account}
  {told : String → List Notice}
  (hkind : s.metadata.get? MetaKeys.collectionType = none)
  (hreadOnly : s.metadata.get? MetaKeys.readOnly = none)
  (hsplit : Tokens.split? raw
    (s.metadata.getD MetaKeys.itemSeparator Tokens.defaultItemSeparator) = some tokens)
  (h : ∀ token, Tells s.key (r.convert s true t token) (account token) (told token))
include hkind hreadOnly hsplit h

lemma collection_tells (runtime : Runtime) (c : Class) (ts : List Target) :
    Tells s.key ((Converter.collection runtime 7).run raw (r.asked s (.generic c (t :: ts))))
      ⟨tokenFormats account (tokens.map Text.strip),
        runtime.build (.cls c) (tokenValues account (tokens.map Text.strip))⟩
      (tokenNotices account told t (tokens.map Text.strip)) := by
  have hitem : ∀ token, Tells s.key ((r.asked s (.generic c (t :: ts))).convertItem 0 token)
      (account token) (itemNotices t token (account token) (told token)) := fun token => by
    have hconverts := Request.convertItem_tells (q := r.asked s (.generic c (t :: ts)))
      (Registry.items_asked htext hellipsis c ts) (h token)
    change Tells s.key _ _ (itemNotices ((Target.generic c (t :: ts)).argument 0) token _ _) at hconverts
    rwa [argument_generic hellipsis] at hconverts
  have hcollection := Converter.runCollection_tells runtime (q := r.asked s (.generic c (t :: ts)))
    hsplit hitem
  change Tells s.key _ (Result.mk _ (runtime.build (Builder.choose c s.metadata) _)) _ at hcollection
  rwa [Builder.choose_stock c hkind hreadOnly] at hcollection

variable {runtime : Runtime} {c : Class} {ts : List Target} (hr : r.convertersFor c = [.collection runtime 7])
include hr

lemma convert_tells_built {v : Value}
    (hbuild : Builder.buildClass? c (tokenValues account (tokens.map Text.strip)) = some v) :
    Tells s.key (r.convert s true (.generic c (t :: ts)) raw)
      ⟨(Converter.collection runtime 7 : Converter σ).advertised ::
        tokenFormats account (tokens.map Text.strip), some v⟩
      (tokenNotices account told t (tokens.map Text.strip)) := by
  have hcollection := collection_tells htext hellipsis hkind hreadOnly hsplit h runtime c ts
  rw [Runtime.build, Builder.build?, hbuild] at hcollection
  rw [Registry.convert_generic hr]
  exact Converter.tryAll_tells_found (q := r.asked s (.generic c (t :: ts))) hcollection

lemma convert_tells_refused
    (hbuild : Builder.buildClass? c (tokenValues account (tokens.map Text.strip)) = none) :
    let fault := Fault.foreign
      (runtime.complaint (.cls c) (tokenValues account (tokens.map Text.strip)))
    let formats := (Converter.collection runtime 7 : Converter σ).advertised ::
      tokenFormats account (tokens.map Text.strip)
    Tells s.key (r.convert s true (.generic c (t :: ts)) raw) ⟨formats, none⟩
      (tokenNotices account told t (tokens.map Text.strip) ++
        [(Converter.collection runtime 7 : Converter σ).failure fault,
          Converter.exhaustion (.generic c (t :: ts)) formats]) := by
  have hcollection := collection_tells htext hellipsis hkind hreadOnly hsplit h runtime c ts
  rw [Runtime.build, Builder.build?, hbuild] at hcollection
  rw [Registry.convert_generic hr]
  exact Converter.tryAll_tells_failed (q := r.asked s (.generic c (t :: ts))) hcollection

end Collected

/-- Converting text to a collection converts each token on its own. A list or a tuple holds the values
in the order of the tokens, and a set those without repetition, or there is no set if a value cannot be
in one. A token without a value adds one notice to those of its own conversion and leaves the other items
as they are. The account records the format of collections, then the formats of each token in turn. -/
theorem convert_itemwise (runtime : Runtime) (s : Subject) {t : Target} (htext : t.isText = false)
    (hellipsis : t ≠ .ellipsis) (sep : String)
    (hsep : s.metadata.getD MetaKeys.itemSeparator Tokens.defaultItemSeparator = sep) (hne : sep ≠ "")
    (hkind : s.metadata.get? MetaKeys.collectionType = none)
    (hreadOnly : s.metadata.get? MetaKeys.readOnly = none) (raw : String) {r : Registry σ}
    (hr : r = .standard runtime) :
    ∃ (account : String → Account) (told : String → List Notice) (tokens : List String),
      (∀ token, Tells s.key (r.convert s true t token) (account token) (told token)) ∧
      Tokens.split? raw sep = some tokens ∧
      ∀ values formats notices, values = tokenValues account (tokens.map Text.strip) →
        formats = (Converter.collection runtime 7 : Converter σ).advertised ::
          tokenFormats account (tokens.map Text.strip) →
        notices = tokenNotices account told t (tokens.map Text.strip) →
        Tells s.key (r.convert s true (.generic .list [t]) raw)
          ⟨formats, some (.collection .list values)⟩ notices ∧
        Tells s.key (r.convert s true (.generic .tuple [t, .ellipsis]) raw)
          ⟨formats, some (.collection .tuple values)⟩ notices ∧
        ∀ c, c = .set ∨ c = .frozenset →
          ((∀ v ∈ values, v.hashable = true) → ∃ members, Distinct values members ∧
            Tells s.key (r.convert s true (.generic c [t]) raw)
              ⟨formats, some (.collection c members)⟩ notices) ∧
          ((∃ v ∈ values, v.hashable = false) →
            Tells s.key (r.convert s true (.generic c [t]) raw) ⟨formats, none⟩
              (notices ++ [(Converter.collection runtime 7 : Converter σ).failure
                  (.foreign (runtime.complaint (.cls c) values)),
                Converter.exhaustion (.generic c [t]) formats])) := by
  -- A token is converted to the same in every world, so its account can be chosen once.
  have hdeterminate : ∀ token, Determinate s.key (r.convert s true t token) :=
    Registry.convert_determinate (fun c converter hc => Registry.standard_candid runtime (hr ▸ hc)) s t
  choose account told htells using hdeterminate
  have hsplit := Tokens.split?_eq_items hne raw
  refine ⟨account, told, _, htells, hsplit, ?_⟩
  rintro values formats notices rfl rfl rfl
  rw [← hsep] at hsplit ⊢
  have hserves {c : Class} (hc : c = .list ∨ c = .tuple ∨ c = .set ∨ c = .frozenset) :
      r.convertersFor c = [.collection runtime 7] := hr ▸ Registry.standard_collection runtime hc
  refine ⟨?_, ?_, fun c hc => ⟨fun hhashable => ?_, fun hunhashable => ?_⟩⟩
  · exact convert_tells_built htext hellipsis hkind hreadOnly hsplit htells (hserves (.inl rfl)) rfl
  · exact convert_tells_built htext hellipsis hkind hreadOnly hsplit htells (hserves (.inr (.inl rfl)))
      rfl
  · obtain ⟨members, hmembers, hdistinct⟩ := distinct_of_hashable hhashable
    refine ⟨members, hdistinct, convert_tells_built htext hellipsis hkind hreadOnly hsplit htells
      (hserves (.inr (.inr hc))) ?_⟩
    obtain rfl | rfl := hc
    all_goals simp only [Builder.buildClass?, Class.collection?, hmembers, Option.map_some]
  · refine convert_tells_refused htext hellipsis hkind hreadOnly hsplit htells
      (hserves (.inr (.inr hc))) ?_
    obtain rfl | rfl := hc
    all_goals
      simp only [Builder.buildClass?, Class.collection?, distinct?_eq_none hunhashable, Option.map_none]

def switches : Subject := ⟨"switches", none, none, .ofList [(MetaKeys.itemSeparator, ";")]⟩

theorem convert_itemwise_switches :
    ∃ account w',
      ((Registry.standard .silent).convert switches true (.generic .list [.bare .boolean])
        "on; maybe;off").run (.initial .warning ()) = (account, w') ∧
      account.value = some (.collection .list [.boolean true, .boolean false]) ∧
      w'.journal.events.map (·.name) = ["collection_item_skipped"] := by
  obtain ⟨account, told, tokens, htells, hsplit, hcollections⟩ :=
    convert_itemwise (σ := Unit) .silent switches (t := .bare .boolean) rfl (by simp)
      ";" (by decide) (by decide) (by decide) (by decide) "on; maybe;off" rfl
  obtain rfl : ["on", " maybe", "off"] = tokens := Option.some.inj (.trans (by decide +kernel) hsplit)
  obtain ⟨hlist, -⟩ := hcollections _ _ _ rfl rfl rfl
  have hrun := hlist (.initial .warning ())
  have hevents : (((Registry.standard .silent).convert switches true
      (.generic .list [.bare .boolean]) "on; maybe;off").run
        (.initial .warning ())).2.journal.events.map (·.name) = ["collection_item_skipped"] := by
    decide +kernel
  rw [hrun] at hevents
  refine ⟨_, _, hrun, ?_, hevents⟩
  have hon : (account "on").value = some (.boolean true) :=
    congrArg (·.1.value) (htells "on" (.initial .warning ())).symm
  have hmaybe : (account "maybe").value = none :=
    congrArg (·.1.value) (htells "maybe" (.initial .warning ())).symm
  have hoff : (account "off").value = some (.boolean false) :=
    congrArg (·.1.value) (htells "off" (.initial .warning ())).symm
  have htexts : ["on", " maybe", "off"].map Text.strip = ["on", "maybe", "off"] := by decide +kernel
  simp only [htexts, tokenValues, List.filterMap_cons, List.filterMap_nil, hon, hmaybe, hoff]

end Conversion

end LayeredConfig
