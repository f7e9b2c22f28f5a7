import LayeredConfig.Tokens
import Mathlib.Data.List.Infix
import Mathlib.Tactic.Common

/-! Text cut into segments at the unescaped occurrences of a separator. Where a separator has no
proper part that both begins and ends it, the segments of text in front of one and of the text
behind it are the segments of the whole. -/

namespace LayeredConfig.Text

lemma cut?_append {sep cs a b : List Char} (h : cut? sep cs = some (a, b)) (rest : List Char) :
    cut? sep (cs ++ rest) = some (a, b ++ rest) := by
  induction cs generalizing a with
  | nil => cases sep <;> cases rest <;> simp_all [cut?]
  | cons c cs ih =>
    rw [cut?] at h
    rw [List.cons_append, cut?]
    split at h
    · rename_i hp
      have hp' : sep <+: c :: cs := List.isPrefixOf_iff_prefix.1 hp
      have hp'' : sep <+: c :: (cs ++ rest) := hp'.trans (List.prefix_append (c :: cs) rest)
      rw [if_pos (List.isPrefixOf_iff_prefix.2 hp'')]
      obtain ⟨rfl, rfl⟩ := by simpa using h
      rw [← List.cons_append, List.drop_append_of_le_length hp'.length_le]
    · rename_i hp
      obtain ⟨p, hcut, he⟩ := Option.map_eq_some_iff.1 h
      cases he
      have hlen := congrArg List.length (eq_of_cut? hcut)
      -- The occurrence found later shows that the text is long enough for one at its start.
      have hp'' : ¬ sep <+: c :: (cs ++ rest) := by
        intro hs
        apply hp
        rw [List.isPrefixOf_iff_prefix]
        refine List.prefix_of_prefix_length_le hs (List.prefix_append (c :: cs) rest) ?_
        simp only [List.length_append, List.length_cons] at hlen ⊢
        omega
      rw [if_neg (fun hs => hp'' (List.isPrefixOf_iff_prefix.1 hs)), ih hcut]
      rfl

def Unbordered (sep : List Char) : Prop := ∀ p, p <+: sep → p <:+ sep → p = [] ∨ p = sep

instance (sep : List Char) : Decidable (Unbordered sep) :=
  decidable_of_iff (∀ p ∈ sep.inits, p <:+ sep → p = [] ∨ p = sep) (by simp [Unbordered])

lemma unbordered_singleton (c : Char) : Unbordered [c] := by
  intro p hp _
  simpa [List.prefix_cons_iff] using hp

lemma cut?_singleton {c : Char} {cs : List Char} (h : c ∉ cs) : cut? [c] cs = none := by
  induction cs with
  | nil => rfl
  | cons d cs ih =>
    obtain ⟨hd, hcs⟩ : c ≠ d ∧ c ∉ cs := by simpa using h
    simp [cut?, hd, ih hcs]

lemma cut?_append_sep {sep v : List Char} (hs : sep ≠ []) (hsep : Unbordered sep)
    (h : cut? sep v = none) (w : List Char) : cut? sep (v ++ (sep ++ w)) = some (v, w) := by
  induction v with
  | nil =>
    obtain ⟨c, cs, rfl⟩ := List.exists_cons_of_ne_nil hs
    simp [cut?]
  | cons c v ih =>
    rw [cut?] at h
    split at h
    · cases h
    · rename_i hp
      rw [List.cons_append, cut?, if_neg, ih (by simpa using h)]
      · rfl
      · intro hp'
        rw [List.isPrefixOf_iff_prefix] at hp hp'
        rw [← List.cons_append] at hp'
        rcases List.prefix_or_prefix_of_prefix hp' (List.prefix_append (c :: v) (sep ++ w)) with
          hv | ⟨t, ht⟩
        · exact hp hv
        -- The separator reaches over the end of the text, so its rest is a border.
        · have hlen := congrArg List.length ht
          simp only [List.length_append, List.length_cons] at hlen
          have htw : t <+: sep ++ w := by
            rw [← List.prefix_append_right_inj (c :: v), ht]
            exact hp'
          have htp : t <+: sep :=
            List.prefix_of_prefix_length_le htw (List.prefix_append sep w) (by omega)
          rcases hsep t htp ⟨c :: v, ht⟩ with rfl | rfl
          · exact hp ⟨[], by simpa using ht.symm⟩
          · omega

end LayeredConfig.Text

namespace LayeredConfig.Tokens

open Text

def segments (sep : List Char) (hs : sep ≠ []) (cs : List Char) : List (List Char) :=
  match _h : cut? sep cs with
  | none => [cs]
  | some (a, b) =>
    if a.getLast? = some escape then attach (a.dropLast ++ sep) (segments sep hs b)
    else a :: segments sep hs b
termination_by cs.length
decreasing_by all_goals exact length_lt_of_cut? hs _h

def dropEmptyEnd (items : List (List Char)) : List (List Char) :=
  if items.getLast? = some [] then items.dropLast else items

lemma attach_ne_nil (lead : List Char) (items : List (List Char)) : attach lead items ≠ [] := by
  cases items <;> simp [attach]

lemma attach_append (lead : List Char) {items : List (List Char)} (h : items ≠ [])
    (more : List (List Char)) : attach lead (items ++ more) = attach lead items ++ more := by
  obtain ⟨x, xs, rfl⟩ := List.exists_cons_of_ne_nil h
  rfl

lemma length_attach (lead : List Char) {items : List (List Char)} (h : items ≠ []) :
    (attach lead items).length = items.length := by
  obtain ⟨x, xs, rfl⟩ := List.exists_cons_of_ne_nil h
  rfl

lemma dropEmptyEnd_append (items : List (List Char)) {more : List (List Char)} (h : more ≠ []) :
    dropEmptyEnd (items ++ more) = items ++ dropEmptyEnd more := by
  simp only [dropEmptyEnd, List.getLast?_append_of_ne_nil _ h, List.dropLast_append_of_ne_nil h]
  split <;> rfl

lemma dropEmptyEnd_attach {lead : List Char} (h : lead ≠ []) {items : List (List Char)}
    (hitems : items ≠ []) :
    dropEmptyEnd (attach lead items) = attach lead (dropEmptyEnd items) := by
  obtain ⟨x, xs, rfl⟩ := List.exists_cons_of_ne_nil hitems
  cases xs with
  | nil => cases x <;> simp [attach, dropEmptyEnd, h]
  | cons y ys =>
    simp only [attach, dropEmptyEnd, List.getLast?_cons_cons]
    split <;> simp

variable {sep : List Char} {hs : sep ≠ []}

lemma segments_of_none {cs : List Char} (h : cut? sep cs = none) : segments sep hs cs = [cs] := by
  rw [segments]
  split <;> simp_all

lemma segments_of_some {cs a b : List Char} (h : cut? sep cs = some (a, b)) :
    segments sep hs cs =
      if a.getLast? = some escape then attach (a.dropLast ++ sep) (segments sep hs b)
      else a :: segments sep hs b := by
  rw [segments]
  split <;> simp_all

lemma segments_ne_nil (cs : List Char) : segments sep hs cs ≠ [] := by
  rw [segments]
  split
  · simp
  · split
    · exact attach_ne_nil _ _
    · simp

lemma or_eq_escape_iff {before : Option Char} (h : before ≠ some escape) (last : Option Char) :
    last.or before = some escape ↔ last = some escape := by
  cases last <;> simp [h]

lemma splitFrom_eq (hsep : sep.getLast? ≠ some escape) {before : Option Char}
    (hbefore : before ≠ some escape) (cs : List Char) :
    splitFrom sep hs before cs = dropEmptyEnd (segments sep hs cs) := by
  fun_induction splitFrom sep hs before cs with
  | case1 before cs hcut hempty =>
    obtain rfl : cs = [] := List.isEmpty_iff.1 hempty
    rw [segments_of_none hcut]
    rfl
  | case2 before cs hcut hempty =>
    rw [segments_of_none hcut, dropEmptyEnd, if_neg]
    simpa using hempty
  | case3 before cs a b hcut hescaped ih =>
    rw [or_eq_escape_iff hbefore] at hescaped
    rw [ih hsep, segments_of_some hcut, if_pos hescaped]
    exact (dropEmptyEnd_attach (by simp [hs]) (segments_ne_nil b)).symm
  | case4 before cs a b hcut hescaped ih =>
    rw [or_eq_escape_iff hbefore] at hescaped
    rw [ih hsep, segments_of_some hcut, if_neg hescaped]
    exact (dropEmptyEnd_append [a] (segments_ne_nil b)).symm

lemma getLast?_of_cut? (hs : sep ≠ []) (hsep : sep.getLast? ≠ some escape) {v a b : List Char}
    (h : cut? sep v = some (a, b)) : b.getLast? = some escape ↔ v.getLast? = some escape := by
  rw [eq_of_cut? h]
  cases b with
  | nil => rw [List.append_nil, List.getLast?_append_of_ne_nil _ hs]; simp [hsep]
  | cons c b => simp [List.getLast?_append]

lemma segments_append (hsep : Unbordered sep) (hescape : sep.getLast? ≠ some escape) {v : List Char}
    (hv : v.getLast? ≠ some escape) (w : List Char) :
    segments sep hs (v ++ (sep ++ w)) = segments sep hs v ++ segments sep hs w := by
  fun_induction segments sep hs v with
  | case1 v hcut =>
    rw [segments_of_some (cut?_append_sep hs hsep hcut w), if_neg hv]
    rfl
  | case2 v a b hcut ha ih =>
    rw [segments_of_some (cut?_append hcut _), if_pos ha, ih, attach_append _ (segments_ne_nil b)]
    rwa [ne_eq, getLast?_of_cut? hs hescape hcut]
  | case3 v a b hcut ha ih =>
    rw [segments_of_some (cut?_append hcut _), if_neg ha, ih, List.cons_append]
    rwa [ne_eq, getLast?_of_cut? hs hescape hcut]

lemma length_segments_append (hsep : Unbordered sep) (hescape : sep.getLast? ≠ some escape)
    (v w : List Char) :
    (segments sep hs (v ++ (sep ++ w))).length + (if v.getLast? = some escape then 1 else 0) =
      (segments sep hs v).length + (segments sep hs w).length := by
  fun_induction segments sep hs v with
  | case1 v hcut =>
    rw [segments_of_some (cut?_append_sep hs hsep hcut w)]
    -- An escape at the end swallows the separator, which costs one segment.
    split
    · rw [length_attach _ (segments_ne_nil w), List.length_singleton]
      omega
    · simp
      omega
  | case2 v a b hcut ha ih =>
    rw [segments_of_some (cut?_append hcut _), if_pos ha, length_attach _ (segments_ne_nil _),
      length_attach _ (segments_ne_nil b), ← ih]
    simp only [getLast?_of_cut? hs hescape hcut]
  | case3 v a b hcut ha ih =>
    rw [segments_of_some (cut?_append hcut _), if_neg ha, List.length_cons, List.length_cons]
    simp only [getLast?_of_cut? hs hescape hcut] at ih
    omega

def EndsInSeparator (sep v : List Char) : Prop := ∃ a, v = a ++ sep ∧ a.getLast? ≠ some escape

lemma EndsInSeparator.of_cut? (hescape : sep.getLast? ≠ some escape) (hs : sep ≠ [])
    {v a b : List Char} (h : cut? sep v = some (a, b)) (hb : EndsInSeparator sep b) :
    EndsInSeparator sep v := by
  obtain ⟨a', rfl, ha'⟩ := hb
  refine ⟨a ++ sep ++ a', by rw [eq_of_cut? h]; simp, ?_⟩
  cases a' with
  | nil => rwa [List.append_nil, List.getLast?_append_of_ne_nil _ hs]
  | cons c a' => rwa [List.getLast?_append_of_ne_nil _ (by simp)]

lemma endsInSeparator_of_segments (hescape : sep.getLast? ≠ some escape) {v : List Char}
    (hv : v ≠ []) (h : (segments sep hs v).getLast? = some []) : EndsInSeparator sep v := by
  fun_induction segments sep hs v with
  | case1 v hcut => simp [hv] at h
  | case2 v a b hcut ha ih =>
    obtain ⟨x, xs, hx⟩ := List.exists_cons_of_ne_nil (@segments_ne_nil sep hs b)
    rw [hx] at ih h
    cases xs with
    | nil => simp [attach, hs] at h
    | cons y ys =>
      have hb : b ≠ [] := by
        rintro rfl
        rw [segments_of_none (by simp [cut?, hs])] at hx
        cases hx
      exact .of_cut? hescape hs hcut (ih hb (by simpa [attach] using h))
  | case3 v a b hcut ha ih =>
    rw [List.getLast?_cons_of_ne_nil (segments_ne_nil b)] at h
    by_cases hb : b = []
    · subst hb
      exact ⟨a, by simpa using eq_of_cut? hcut, ha⟩
    · exact .of_cut? hescape hs hcut (ih hb h)

lemma getLast?_substitute (c : Char) (lead v : List Char) :
    (substitute c (lead ++ [c]) v).getLast? = v.getLast? := by
  obtain rfl | ⟨front, d, rfl⟩ := List.eq_nil_or_concat v
  · rfl
  · by_cases hd : d = c <;> simp [substitute, hd]

lemma substitute_eq_self {c : Char} {v : List Char} (h : c ∉ v) (by' : List Char) :
    substitute c by' v = v := by
  induction v with
  | nil => rfl
  | cons d v ih =>
    obtain ⟨hd, hv⟩ : c ≠ d ∧ c ∉ v := by simpa using h
    have ih' : v.flatMap (fun d => if d = c then by' else [d]) = v := ih hv
    simp [substitute, hd.symm, ih']

lemma segments_escaped {c : Char} (hc : c ≠ escape) (v : List Char) :
    segments [c] (by simp) (substitute c [escape, c] v) = [v] := by
  induction hn : v.length using Nat.strong_induction_on generalizing v with
  | h n ih =>
    by_cases hv : c ∈ v
    · obtain ⟨a, b, rfl, ha⟩ := List.eq_append_cons_of_mem hv
      have hsub : substitute c [escape, c] (a ++ c :: b) =
          (a ++ [escape]) ++ ([c] ++ substitute c [escape, c] b) := by
        have hfront : a.flatMap (fun d => if d = c then [escape, c] else [d]) = a :=
          substitute_eq_self ha _
        simp [substitute, hfront]
      have hcut : cut? [c] (a ++ [escape]) = none := cut?_singleton (by simp [ha, hc])
      rw [hsub, segments_of_some (cut?_append_sep (by simp) (unbordered_singleton c) hcut _)]
      rw [if_pos (by simp), ih b.length (by simp at hn; omega) b rfl]
      simp [attach]
    · rw [substitute_eq_self hv, segments_of_none (cut?_singleton hv)]

def escaped (c : Char) (item : String) : String :=
  String.ofList (substitute c [escape, c] item.toList)

def joinEscaped (c : Char) (items : List String) : String :=
  join (String.singleton c) (items.map (escaped c))

section Joined

variable {c : Char} {items : List String}

lemma toList_escaped (c : Char) (item : String) :
    (escaped c item).toList = substitute c [escape, c] item.toList :=
  String.toList_ofList

lemma getLast?_escaped (c : Char) (item : String) :
    (escaped c item).toList.getLast? = item.toList.getLast? := by
  rw [toList_escaped]
  exact getLast?_substitute c [escape] item.toList

lemma joinEscaped_cons (c : Char) (item next : String) (rest : List String) :
    (joinEscaped c (item :: next :: rest)).toList =
      (escaped c item).toList ++ ([c] ++ (joinEscaped c (next :: rest)).toList) := by
  simp [joinEscaped, join]

lemma segments_joinEscaped (hc : c ≠ escape) (h : items ≠ [])
    (hends : ∀ item ∈ items.dropLast, item.toList.getLast? ≠ some escape) :
    segments [c] (by simp) (joinEscaped c items).toList = items.map String.toList := by
  induction items with
  | nil => exact absurd rfl h
  | cons item items ih =>
    have hitem : segments [c] (by simp) (escaped c item).toList = [item.toList] := by
      rw [toList_escaped]
      exact segments_escaped hc item.toList
    cases items with
    | nil => exact hitem
    | cons next rest =>
      have hend : item.toList.getLast? ≠ some escape := hends item (by simp)
      have hrest := ih (by simp) fun other hother => hends other (by simp [hother])
      rw [joinEscaped_cons, segments_append (unbordered_singleton c) (by simpa using hc)
        (by rwa [getLast?_escaped]), hitem, hrest]
      rfl

lemma split?_eq (hc : c ≠ escape) (value : String) :
    split? value (String.singleton c) =
      some ((dropEmptyEnd (segments [c] (by simp) value.toList)).map String.ofList) := by
  have hsep : (String.singleton c).toList = [c] := String.toList_singleton c
  have hsplit := @splitFrom_eq [c] (by simp) (by simpa using hc) none (by simp) value.toList
  rw [← hsplit, split?, dif_pos (by simp [hsep])]
  simp only [hsep]

lemma split?_joinEscaped (hc : c ≠ escape)
    (hends : ∀ item ∈ items.dropLast, item.toList.getLast? ≠ some escape)
    (hlast : ∀ last ∈ items.getLast?, last ≠ "") :
    split? (joinEscaped c items) (String.singleton c) = some items := by
  by_cases h : items = []
  · subst h
    rw [split?_eq hc, segments_of_none rfl]
    rfl
  · rw [split?_eq hc, segments_joinEscaped hc h hends, dropEmptyEnd, if_neg]
    · simp
    · simpa using fun hempty => hlast _ hempty rfl

end Joined

end LayeredConfig.Tokens
