import LayeredConfig.Proofs.Collections
import LayeredConfig.Proofs.Literals
import LayeredConfig.Proofs.Sequences

/-! Nested lists of integers or booleans, rendered and converted back. Each level of nesting is
one step of the induction: splitting takes off exactly the escapes that joining put on. -/

namespace LayeredConfig

variable {α σ : Type}

/-- Lists nested to a depth, with leaves at depth zero. -/
def Nested (α : Type) : Nat → Type
  | 0 => α
  | d + 1 => List (Nested α d)

namespace Nested

def data (leaf : α → Data) : (d : Nat) → Nested α d → Data
  | 0, a => leaf a
  | d + 1, (xs : List (Nested α d)) => .collection .list (xs.map (data leaf d))

def value (leaf : α → Conversion.Value) : (d : Nat) → Nested α d → Conversion.Value
  | 0, a => leaf a
  | d + 1, (xs : List (Nested α d)) => .collection .list (xs.map (value leaf d))

/-- At every level the last item of a list has text, so that it is not taken for a trailing
separator. -/
def Closed (leaf : α → Data) : (d : Nat) → Nested α d → Prop
  | 0, _ => True
  | d + 1, (xs : List (Nested α d)) =>
    (∀ x ∈ xs.getLast?, (data leaf d x).render ≠ some "") ∧ ∀ x ∈ xs, Closed leaf d x

instance decidableClosed (leaf : α → Data) : (d : Nat) → (x : Nested α d) →
    Decidable (Closed leaf d x)
  | 0, _ => isTrue trivial
  | d + 1, (xs : List (Nested α d)) =>
    have := decidableClosed leaf d
    inferInstanceAs (Decidable ((∀ x ∈ xs.getLast?, (data leaf d x).render ≠ some "") ∧
      ∀ x ∈ xs, Closed leaf d x))

end Nested

namespace Data

lemma mem_escapeItem {item : String} {c : Char} (hc : c ∈ (escapeItem item).toList) :
    c = itemSeparator ∨ c = Tokens.escape ∨ c ∈ item.toList := by
  rw [toList_escapeItem, Text.substitute, List.mem_flatMap] at hc
  obtain ⟨d, hd, hc⟩ := hc
  split at hc
  · rcases List.mem_pair.1 hc with rfl | rfl
    · exact .inr (.inl rfl)
    · exact .inl rfl
  · obtain rfl := List.mem_singleton.1 hc
    exact .inr (.inr hd)

lemma mem_joinItems {items : List String} {c : Char} (hc : c ∈ (joinItems items).toList) :
    c = itemSeparator ∨ c = Tokens.escape ∨ ∃ item ∈ items, c ∈ item.toList := by
  induction items with
  | nil => cases hc
  | cons item items ih =>
    have hitem : c ∈ (escapeItem item).toList →
        c = itemSeparator ∨ c = Tokens.escape ∨ ∃ other ∈ item :: items, c ∈ other.toList :=
      fun h => (mem_escapeItem h).imp_right (.imp_right fun h => ⟨item, by simp, h⟩)
    cases items with
    | nil => exact hitem hc
    | cons next rest =>
      rw [joinItems_cons, List.mem_append, List.mem_append, List.mem_singleton] at hc
      rcases hc with hc | hc | hc
      · exact hitem hc
      · exact .inl hc
      · rcases ih hc with h | h | ⟨other, hother, h⟩
        · exact .inl h
        · exact .inr (.inl h)
        · exact .inr (.inr ⟨other, by simp [hother], h⟩)

lemma not_endsInEscape_joinItems {items : List String} (h : ∀ item ∈ items, ¬ EndsInEscape item) :
    ¬ EndsInEscape (joinItems items) := by
  induction items with
  | nil => simp [joinItems, Text.join, EndsInEscape]
  | cons item items ih =>
    cases items with
    | nil =>
      intro hends
      exact h item (by simp) ((getLast?_escapeItem item).1 hends)
    | cons next rest =>
      have hrest := ih fun other hother => h other (by simp [hother])
      rw [EndsInEscape, joinItems_cons, List.getLast?_append, List.getLast?_append]
      cases hlast : (joinItems (next :: rest)).toList.getLast? with
      | none => simp [itemSeparator, Tokens.escape]
      | some c => simpa [EndsInEscape, hlast] using hrest

structure Safe (x : Data) : Prop where
  render_eq : x.render = some x.itemText
  blanks : ∀ c ∈ x.itemText.toList, Text.isBlank c = false
  ends : ¬ EndsInEscape x.itemText

lemma itemText_list (xs : List Data) :
    (collection .list xs).itemText = joinItems (xs.map itemText) := by
  rw [itemText, render, renderItems_eq_map]
  rfl

lemma Safe.strip_itemText {x : Data} (h : x.Safe) : Text.strip x.itemText = x.itemText := by
  rw [Text.strip, Text.trim_of_no_blank h.blanks, String.ofList_toList]

lemma Safe.list {xs : List Data} (h : ∀ x ∈ xs, x.Safe) : (collection .list xs).Safe where
  render_eq := by
    rw [itemText, render]
    rfl
  blanks := by
    intro c hc
    rw [itemText_list] at hc
    rcases mem_joinItems hc with rfl | rfl | ⟨item, hitem, hc⟩
    · rfl
    · rfl
    · obtain ⟨x, hx, rfl⟩ := List.mem_map.1 hitem
      exact (h x hx).blanks c hc
  ends := by
    rw [itemText_list]
    apply not_endsInEscape_joinItems
    intro item hitem
    obtain ⟨x, hx, rfl⟩ := List.mem_map.1 hitem
    exact (h x hx).ends

lemma split?_of_safe {xs : List Data} (h : ∀ x ∈ xs, x.Safe)
    (hlast : ∀ x ∈ xs.getLast?, x.render ≠ some "") :
    Tokens.split? (collection .list xs).itemText Tokens.defaultItemSeparator =
      some (xs.map itemText) := by
  rw [itemText_list]
  rcases List.eq_nil_or_concat xs with rfl | ⟨front, last, rfl⟩
  · exact split?_joinItems_nil
  · apply split?_of_recoverable
    have hne := hlast last (by simp)
    rw [(h last (by simp)).render_eq] at hne
    refine ⟨⟨last.itemText, by simp, by simpa using hne⟩, ?_⟩
    intro item hitem
    obtain ⟨x, hx, rfl⟩ := List.mem_map.1 (List.mem_of_mem_dropLast hitem)
    exact (h x hx).ends

lemma safe_integer (n : Int) : (integer n).Safe where
  render_eq := rfl
  blanks := by
    intro c hc
    have h := Number.Integer.literal_toDigits n.natAbs
    rw [show (integer n).itemText = Number.Integer.text n from rfl,
      Number.Integer.toList_text] at hc
    exact (h.plain _ c hc).isBlank
  ends := by
    intro hends
    have h := Number.Integer.literal_toDigits n.natAbs
    have hc := List.mem_of_mem_getLast? hends
    rw [show (integer n).itemText = Number.Integer.text n from rfl,
      Number.Integer.toList_text] at hc
    exact (h.plain _ _ hc).ne_of_toNat (d := Tokens.escape) (by decide) rfl

lemma itemText_boolean (b : Bool) : (boolean b).itemText = if b then "true" else "false" := by
  rw [itemText, render]
  rfl

lemma safe_boolean (b : Bool) : (boolean b).Safe where
  render_eq := by
    rw [itemText, render]
    rfl
  blanks := by
    have hall : ((boolean b).itemText.toList.all fun c => !Text.isBlank c) = true := by
      rw [itemText_boolean]
      cases b
      all_goals decide
    simpa using hall
  ends := by
    rw [itemText_boolean]
    cases b
    all_goals decide

end Data

namespace Nested

lemma safe_data {leaf : α → Data} (hleaf : ∀ a, (leaf a).Safe) (d : Nat) (x : Nested α d) :
    (data leaf d x).Safe := by
  induction d with
  | zero => exact hleaf x
  | succ d ih =>
    apply Data.Safe.list
    intro y hy
    obtain ⟨x', -, rfl⟩ := List.mem_map.1 hy
    exact ih x'

end Nested

namespace Conversion

namespace Target

def nested (leaf : Class) : Nat → Target
  | 0 => .bare leaf
  | d + 1 => .generic .list [nested leaf d]

end Target

variable {r : Registry σ} {s : Subject}

lemma convertEach_nested {c : Class}
    (hc : r.convertEach s true [.bare c] = [some (r.convert s true (.bare c))]) (d : Nat) :
    r.convertEach s true [.nested c d] = [some (r.convert s true (.nested c d))] := by
  cases d with
  | zero => exact hc
  | succ d => simp [Target.nested, Registry.convertEach]

lemma Reads.list_of_safe {t : Target} {runtime : Runtime} {id : Nat}
    (hs : s.metadata = .empty) (hr : r.convertersFor .list = [.collection runtime id])
    (ht : r.convertEach s true [t] = [some (r.convert s true t)])
    {xs : List Data} {vs : List Value} (hsafe : ∀ x ∈ xs, x.Safe)
    (hlast : ∀ x ∈ xs.getLast?, x.render ≠ some "")
    (h : List.Forall₂ (fun x v => Reads r s t x.itemText v) xs vs) :
    Reads r s (.generic .list [t]) (Data.collection .list xs).itemText (.collection .list vs) := by
  have hsep : s.metadata.getD MetaKeys.itemSeparator Tokens.defaultItemSeparator =
      Tokens.defaultItemSeparator := by
    rw [hs]
    rfl
  refine Reads.list (hsep ▸ Data.split?_of_safe hsafe hlast) ?_ (by rw [hs]; rfl) hr
  -- The tokens are the texts of the items, and each item is read one level further in.
  rw [List.forall₂_map_left_iff]
  refine ((List.forall₂_and_left _ _).2 ⟨hsafe, h⟩).imp ?_
  rintro x v ⟨hx, hread⟩
  rw [hx.strip_itemText]
  exact hread.item ht

lemma reads_nested {leaf : α → Data} {leafValue : α → Value} {c : Class}
    {runtime : Runtime} {id : Nat} (hs : s.metadata = .empty)
    (hr : r.convertersFor .list = [.collection runtime id])
    (hc : r.convertEach s true [.bare c] = [some (r.convert s true (.bare c))])
    (hsafe : ∀ a, (leaf a).Safe)
    (hleaf : ∀ a, Reads r s (.bare c) (leaf a).itemText (leafValue a))
    (d : Nat) (x : Nested α d) (hx : x.Closed leaf) :
    Reads r s (.nested c d) (x.data leaf).itemText (x.value leafValue) := by
  induction d with
  | zero => exact hleaf x
  | succ d ih =>
    obtain ⟨hlast, hitems⟩ := hx
    refine Reads.list_of_safe hs hr (convertEach_nested hc d) ?_ ?_ ?_
    · intro y hy
      obtain ⟨x', -, rfl⟩ := List.mem_map.1 hy
      exact Nested.safe_data hsafe d x'
    · intro y hy
      obtain ⟨x', hx', rfl⟩ := Option.map_eq_some_iff.1 (List.getLast?_map.symm.trans hy)
      exact hlast x' hx'
    · exact List.forall₂_map_left_iff.2 (List.forall₂_map_right_iff.2
        (List.forall₂_same.2 fun x' hx' => ih x' (hitems x' hx')))

lemma reads_integer {runtime : Runtime} (n : Int)
    (hn : (Nat.toDigits 10 n.natAbs).length ≤ Number.Integer.maxDigits) :
    Reads (Registry.standard runtime) s (.bare .integer) (Data.integer n).itemText
      (.integer n) (σ := σ) := by
  refine Reads.leaf (by simp) (Registry.standard_integer runtime) ?_
  exact congrArg (fun outcome => (pure ⟨[], outcome⟩ : Note σ Result))
    (Scalar.readInteger_text n hn)

lemma reads_boolean {runtime : Runtime} (b : Bool) :
    Reads (Registry.standard runtime) s (.bare .boolean) (Data.boolean b).itemText
      (.boolean b) (σ := σ) := by
  refine Reads.leaf (by simp) (Registry.standard_boolean runtime) ?_
  cases b
  all_goals rfl

abbrev ShortInteger : Type := {n : Int // (Nat.toDigits 10 n.natAbs).length ≤ 4300}

/-- Nested lists of integers and of booleans come back from their text as they were. -/
theorem convert_render_nested (runtime : Runtime) (key : String)
    (config : Option (Ledger String Entry)) (annotated : Option String) (d : Nat) :
    (∀ x : Nested ShortInteger (d + 1), x.Closed (fun n : ShortInteger => .integer n) →
      ∃ text formats, (x.data fun n : ShortInteger => .integer n).render = some text ∧
        (Registry.standard runtime : Registry σ).convert ⟨key, config, annotated, .empty⟩ true
            (.nested .integer (d + 1)) text =
          pure ⟨formats, some (x.value fun n : ShortInteger => .integer n)⟩) ∧
    (∀ x : Nested Bool (d + 1), x.Closed .boolean →
      ∃ text formats, (x.data .boolean).render = some text ∧
        (Registry.standard runtime : Registry σ).convert ⟨key, config, annotated, .empty⟩ true
            (.nested .boolean (d + 1)) text =
          pure ⟨formats, some (x.value .boolean)⟩) := by
  let s : Subject := ⟨key, config, annotated, .empty⟩
  have hs : s.metadata = .empty := rfl
  have hr := Registry.standard_list (σ := σ) runtime
  constructor
  · intro x hx
    have hsafe : ∀ n : ShortInteger, (Data.integer n).Safe := fun n => Data.safe_integer n
    obtain ⟨formats, hconvert⟩ := reads_nested hs hr (by simp [Registry.convertEach]) hsafe
      (fun n => reads_integer n n.2) (d + 1) x hx
    exact ⟨_, formats, (Nested.safe_data hsafe (d + 1) x).render_eq, hconvert⟩
  · intro x hx
    obtain ⟨formats, hconvert⟩ := reads_nested hs hr (by simp [Registry.convertEach])
      Data.safe_boolean reads_boolean (d + 1) x hx
    exact ⟨_, formats, (Nested.safe_data Data.safe_boolean (d + 1) x).render_eq, hconvert⟩

def unevenIntegers : Nested ShortInteger 3 :=
  [[[], [⟨1, by decide⟩, ⟨-20, by decide⟩]], [[⟨0, by decide⟩]]]

def unevenBooleans : Nested Bool 2 := [[], [true, false], [false]]

theorem convert_render_uneven :
    (∃ text formats, (unevenIntegers.data fun n : ShortInteger => .integer n).render = some text ∧
      (Registry.standard .silent : Registry Unit).convert
          ⟨"k", none, none, .empty⟩ true (.nested .integer 3) text =
        pure ⟨formats, some (unevenIntegers.value fun n : ShortInteger => .integer n)⟩) ∧
    ∃ text formats, (unevenBooleans.data .boolean).render = some text ∧
      (Registry.standard .silent : Registry Unit).convert
          ⟨"k", none, none, .empty⟩ true (.nested .boolean 2) text =
        pure ⟨formats, some (unevenBooleans.value .boolean)⟩ :=
  ⟨(convert_render_nested .silent "k" none none 2).1 unevenIntegers
      (by decide +kernel),
    (convert_render_nested .silent "k" none none 1).2 unevenBooleans
      (by decide +kernel)⟩

end Conversion

end LayeredConfig
