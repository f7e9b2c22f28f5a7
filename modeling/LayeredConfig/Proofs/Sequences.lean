import LayeredConfig.Data.Flat
import LayeredConfig.Proofs.Segments

/-! Rendered sequences, split again. Every item but the last must not run into the separator
behind it, and the last one must not be empty; otherwise items are merged or lost. -/

namespace LayeredConfig.Data

open Tokens

def itemText (x : Data) : String := x.render.getD ""

lemma renderItems_eq_map (xs : List Data) : renderItems xs = xs.map itemText := by
  induction xs with
  | nil => rfl
  | cons x xs ih => rw [renderItems, ih]; rfl

def EndsInEscape (item : String) : Prop := item.toList.getLast? = some escape

instance (item : String) : Decidable (EndsInEscape item) :=
  inferInstanceAs (Decidable (_ = _))

lemma toList_escapeItem (item : String) :
    (escapeItem item).toList = Text.substitute itemSeparator [escape, itemSeparator] item.toList :=
  String.toList_ofList

lemma segments_escapeItem (item : String) :
    segments [itemSeparator] (by simp) (escapeItem item).toList = [item.toList] := by
  rw [toList_escapeItem]
  exact segments_escaped (by decide) item.toList

lemma getLast?_escapeItem (item : String) :
    (escapeItem item).toList.getLast? = some escape ↔ EndsInEscape item := by
  rw [EndsInEscape, ← getLast?_escaped itemSeparator item]
  rfl

lemma joinItems_cons (item next : String) (rest : List String) :
    (joinItems (item :: next :: rest)).toList =
      (escapeItem item).toList ++ ([itemSeparator] ++ (joinItems (next :: rest)).toList) :=
  joinEscaped_cons itemSeparator item next rest

lemma joinItems_singleton (item : String) : joinItems [item] = escapeItem item := rfl

lemma length_segments_joinItems {items : List String} (h : items ≠ []) :
    (segments [itemSeparator] (by simp) (joinItems items).toList).length +
      items.dropLast.countP (EndsInEscape ·) = items.length := by
  induction items with
  | nil => exact absurd rfl h
  | cons item items ih =>
    cases items with
    | nil => simp [joinItems_singleton, segments_escapeItem]
    | cons next rest =>
      have hlen := @length_segments_append _ (by simp) (Text.unbordered_singleton itemSeparator)
        (by decide) (escapeItem item).toList (joinItems (next :: rest)).toList
      rw [segments_escapeItem] at hlen
      simp only [getLast?_escapeItem] at hlen
      have hrest := ih (by simp)
      rw [joinItems_cons, List.dropLast_cons_cons, List.countP_cons]
      simp only [List.length_cons, List.length_nil, decide_eq_true_eq] at hlen hrest ⊢
      omega

/-- No item but the last runs into the separator behind it, and the last one is not lost. -/
def Recoverable (items : List String) : Prop :=
  (∃ last, items.getLast? = some last ∧ last ≠ "") ∧ ∀ item ∈ items.dropLast, ¬ EndsInEscape item

lemma split?_joinItems (items : List String) :
    split? (joinItems items) defaultItemSeparator =
      some ((dropEmptyEnd (segments [itemSeparator] (by simp) (joinItems items).toList)).map
        String.ofList) :=
  split?_eq (c := itemSeparator) (by decide) (joinItems items)

lemma split?_joinItems_nil : split? (joinItems []) defaultItemSeparator = some [] :=
  split?_joinEscaped (c := itemSeparator) (by decide) (by simp) (by simp)

lemma split?_of_recoverable {items : List String} (h : Recoverable items) :
    split? (joinItems items) defaultItemSeparator = some items := by
  obtain ⟨⟨last, hlast, hne⟩, hends⟩ := h
  refine split?_joinEscaped (c := itemSeparator) (by decide) hends fun other hother => ?_
  cases hlast.symm.trans hother
  exact hne

lemma recoverable_of_split? {items : List String} (hitems : items ≠ [])
    (h : split? (joinItems items) defaultItemSeparator = some items) : Recoverable items := by
  rw [split?_joinItems, Option.some.injEq] at h
  have hlen := congrArg List.length h
  have hcount := length_segments_joinItems hitems
  rw [List.length_map] at hlen
  -- An item that runs into a separator or gets lost leaves fewer items than were joined.
  have hend : (segments [itemSeparator] (by simp) (joinItems items).toList).getLast? ≠ some [] := by
    intro hend
    have hpos := List.length_pos_iff.2 (@segments_ne_nil [itemSeparator] (by simp)
      (joinItems items).toList)
    rw [dropEmptyEnd, if_pos hend, List.length_dropLast] at hlen
    omega
  rw [dropEmptyEnd, if_neg hend] at hlen h
  refine ⟨⟨items.getLast hitems, List.getLast?_eq_some_getLast hitems, ?_⟩, ?_⟩
  · intro hlast
    have hmap := congrArg List.getLast? h
    rw [List.getLast?_map, List.getLast?_eq_some_getLast hitems, hlast] at hmap
    obtain ⟨segment, hsegment, hempty⟩ := Option.map_eq_some_iff.1 hmap
    obtain rfl : segment = [] := by simpa using hempty
    exact hend hsegment
  · have hzero : items.dropLast.countP (EndsInEscape ·) = 0 := by omega
    simpa using List.countP_eq_zero.1 hzero

/-- A rendered sequence splits into the texts of its items exactly when it has no items, or none
but the last ends in the escape and the last is not empty. -/
theorem split?_render_eq_iff (xs : List Data) :
    ∃ text, (collection .list xs).render = some text ∧ (collection .tuple xs).render = some text ∧
      (split? text defaultItemSeparator = some (xs.map itemText) ↔
        xs = [] ∨ Recoverable (xs.map itemText)) := by
  refine ⟨joinItems (xs.map itemText), ?_, ?_, ?_⟩
  · rw [render, renderItems_eq_map]
  · rw [render, renderItems_eq_map]
  · by_cases hxs : xs = []
    · subst hxs
      exact ⟨fun _ => .inl rfl, fun _ => split?_joinItems_nil⟩
    · constructor
      · exact fun h => .inr (recoverable_of_split? (by simpa using hxs) h)
      · rintro (h | h)
        · exact absurd h hxs
        · exact split?_of_recoverable h

end LayeredConfig.Data
