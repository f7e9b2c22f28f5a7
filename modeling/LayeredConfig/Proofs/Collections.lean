import LayeredConfig.Conversion.Registry
import Mathlib.Data.List.Forall2
import Mathlib.Tactic.Common

/-! The converters that serve a class in the standard registry, and the conversion of a list item
by item: if every token of the text reads as a value, the list reads as the list of these values. -/

namespace LayeredConfig.Conversion

variable {σ : Type}

lemma mapM_eq_pure {α β : Type} {f : α → Note σ β} {xs : List α} {ys : List β}
    (h : List.Forall₂ (fun x y => f x = pure y) xs ys) : xs.mapM f = pure ys := by
  induction h with
  | nil => rfl
  | cons hx _ ih => rw [List.mapM_cons, hx, pure_bind, ih, pure_bind]

namespace Converter

lemma tryAll_eq_pure {raw : String} {q : Request σ} {formats inner : List String}
    {c : Converter σ} {rest : List (Converter σ)} {v : Value}
    (h : c.run raw q = pure ⟨inner, .ok (some v)⟩) :
    tryAll raw q formats (c :: rest) = pure ⟨formats ++ c.advertised :: inner, some v⟩ := by
  rw [tryAll, h]
  rfl

lemma runCollection_eq_pure (runtime : Runtime) {raw : String} {q : Request σ}
    {tokens : List String} {accounts : List Account} (hsplit : Tokens.split? raw (itemSeparator q) = some tokens)
    (h : List.Forall₂ (fun token account => q.convertItem 0 (Text.strip token) = pure account)
      tokens accounts) :
    runCollection runtime raw q = pure ⟨accounts.flatMap (·.formats),
      runtime.build (Builder.choose q.target.cls q.subject.metadata)
        (accounts.filterMap (·.value))⟩ := by
  rw [runCollection, hsplit]
  simp only [mapM_eq_pure h, pure_bind]

end Converter

namespace Registry

lemma chain_empty (c : Class) : (empty : Registry σ).chain c = [] := rfl

lemma chain_register (r : Registry σ) (c : Class) (converter : Converter σ) (c' : Class) :
    (r.register c converter).chain c' =
      if c'.qualified = c.qualified then r.chain c ++ [converter] else r.chain c' := by
  rw [register, chain, Ledger.getD, Ledger.get?_put]
  split
  · rfl
  · rfl

lemma convertersFor_of_chain {r : Registry σ} {c : Class} {converter : Converter σ}
    {rest : List (Converter σ)} (h : r.chain c = converter :: rest) :
    r.convertersFor c = converter :: rest := by
  simp [convertersFor, servants, h]

lemma standard_boolean (runtime : Runtime) :
    (standard runtime : Registry σ).convertersFor .boolean = [.boolean 0] :=
  convertersFor_of_chain (by simp [standard, chain_register, chain_empty, Class.qualified])

lemma standard_integer (runtime : Runtime) :
    (standard runtime : Registry σ).convertersFor .integer = [.integer 1] :=
  convertersFor_of_chain (by simp [standard, chain_register, chain_empty, Class.qualified])

lemma standard_collection (runtime : Runtime) {c : Class}
    (h : c = .list ∨ c = .tuple ∨ c = .set ∨ c = .frozenset) :
    (standard runtime : Registry σ).convertersFor c = [.collection runtime 7] := by
  obtain rfl | rfl | rfl | rfl := h
  all_goals
    exact convertersFor_of_chain (by simp [standard, chain_register, chain_empty, Class.qualified])

lemma standard_list (runtime : Runtime) :
    (standard runtime : Registry σ).convertersFor .list = [.collection runtime 7] :=
  standard_collection runtime (.inl rfl)

end Registry
variable (r : Registry σ) (s : Subject)

def Reads (t : Target) (text : String) (v : Value) : Prop :=
  ∃ formats, r.convert s true t text = pure ⟨formats, some v⟩

def listRequest (t : Target) : Request σ :=
  Registry.request s true (.generic .list [t]) (r.convertEach s true [t])

def ReadsItem (t : Target) (token : String) (v : Value) : Prop :=
  ∃ formats, (listRequest r s t).convertItem 0 token = pure ⟨formats, some v⟩

variable {r : Registry σ} {s : Subject} {t : Target}

lemma Reads.leaf {c : Class} (hc : c ≠ .text) {converter : Converter σ} {rest : List (Converter σ)}
    (hr : r.convertersFor c = converter :: rest) {text : String} {v : Value}
    (h : converter.run text (Registry.request s true (.bare c) []) = pure ⟨[], .ok (some v)⟩) :
    Reads r s (.bare c) text v := by
  unfold Reads
  rw [Registry.convert, hr]
  · exact ⟨_, Converter.tryAll_eq_pure h⟩
  · exact hc

lemma readsItem_text (token : String) : ReadsItem r s (.bare .text) token (.text token) :=
  ⟨[], by simp [listRequest, Registry.request, Request.convertItem, Registry.convertEach]⟩

lemma Reads.item {token : String} {v : Value} (h : Reads r s t token v)
    (ht : r.convertEach s true [t] = [some (r.convert s true t)]) : ReadsItem r s t token v := by
  obtain ⟨formats, hconvert⟩ := h
  refine ⟨formats, ?_⟩
  rw [Request.convertItem, listRequest, Registry.request, ht]
  simp only [if_true, List.getElem?_cons_zero, Option.join_some, hconvert]
  rfl

lemma accounts_of_readsItem {tokens : List String} {vs : List Value}
    (h : List.Forall₂ (fun token v => ReadsItem r s t (Text.strip token) v) tokens vs) :
    ∃ accounts : List Account, accounts.filterMap (·.value) = vs ∧
      List.Forall₂ (fun token account =>
        (listRequest r s t).convertItem 0 (Text.strip token) = pure account) tokens accounts := by
  induction h with
  | nil => exact ⟨[], rfl, .nil⟩
  | cons htoken _ ih =>
    obtain ⟨formats, hconvert⟩ := htoken
    obtain ⟨accounts, hvalues, haccounts⟩ := ih
    exact ⟨⟨formats, some _⟩ :: accounts, by simp [hvalues], .cons hconvert haccounts⟩

lemma Reads.list {text : String} {tokens : List String} {vs : List Value}
    (hsplit : Tokens.split? text
      (s.metadata.getD MetaKeys.itemSeparator Tokens.defaultItemSeparator) = some tokens)
    (h : List.Forall₂ (fun token v => ReadsItem r s t (Text.strip token) v) tokens vs)
    (hbuilder : Builder.choose .list s.metadata = .cls .list)
    {runtime : Runtime} {id : Nat} (hr : r.convertersFor .list = [.collection runtime id]) :
    Reads r s (.generic .list [t]) text (.collection .list vs) := by
  obtain ⟨accounts, hvalues, haccounts⟩ := accounts_of_readsItem h
  have hrun : (Converter.collection runtime id).run text (listRequest r s t) =
      pure ⟨accounts.flatMap (·.formats), .ok (some (.collection .list vs))⟩ := by
    change Converter.runCollection runtime text (listRequest r s t) = _
    rw [Converter.runCollection_eq_pure runtime (q := listRequest r s t) hsplit haccounts, hvalues]
    change (pure (Result.mk _ (runtime.build (Builder.choose .list s.metadata) vs)) : Note σ _) = _
    rw [hbuilder]
    rfl
  unfold Reads
  rw [Registry.convert, hr]
  exact ⟨_, Converter.tryAll_eq_pure hrun⟩

end LayeredConfig.Conversion
