import LayeredConfig.Proofs.Segments

/-! Text joined from pieces and cut again. The pieces come back if no separator begins inside a piece,
one that reaches over its end into the separator behind it included. -/

namespace LayeredConfig.Text

variable {sep : List Char} {hs : sep ≠ []}

lemma cut?_eq_none_iff {cs : List Char} : cut? sep cs = none ↔ ¬ sep <:+: cs := by
  induction cs with
  | nil => cases sep <;> simp [cut?]
  | cons c cs ih =>
    rw [cut?, List.infix_cons_iff, not_or, ← List.isPrefixOf_iff_prefix, ← ih]
    by_cases h : sep.isPrefixOf (c :: cs) = true <;> simp [h]

lemma cut?_append_first {v : List Char} (h : ¬ sep <:+: v ++ sep.dropLast) (w : List Char) :
    cut? sep (v ++ (sep ++ w)) = some (v, w) := by
  rw [← cut?_eq_none_iff] at h
  induction v with
  | nil =>
    cases sep with
    | nil => simp [cut?] at h
    | cons c sep => simp [cut?]
  | cons c v ih =>
    rw [List.cons_append, cut?] at h
    rw [List.cons_append, cut?]
    split at h
    · cases h
    · rename_i hp
      -- An occurrence here would not reach beyond the separator without its last character.
      have hp' : ¬ sep <+: c :: (v ++ (sep ++ w)) := by
        intro hprefix
        refine hp (List.isPrefixOf_iff_prefix.2 (List.prefix_of_prefix_length_le hprefix ?_ ?_))
        · rw [List.cons_prefix_cons, List.prefix_append_right_inj]
          exact ⟨rfl, (List.dropLast_prefix sep).trans (List.prefix_append sep w)⟩
        · simp only [List.length_cons, List.length_append, List.length_dropLast]
          omega
      rw [if_neg fun hprefix => hp' (List.isPrefixOf_iff_prefix.1 hprefix), ih (by simpa using h)]
      rfl

lemma pieces_of_none {cs : List Char} (h : cut? sep cs = none) : pieces sep hs cs = [cs] := by
  rw [pieces]
  split <;> simp_all

lemma pieces_of_some {cs a b : List Char} (h : cut? sep cs = some (a, b)) :
    pieces sep hs cs = a :: pieces sep hs b := by
  rw [pieces]
  split <;> simp_all

lemma pieces_intercalate {vs : List (List Char)} (hne : vs ≠ []) (h : ∀ v ∈ vs, ¬ sep <:+: v)
    (hfront : ∀ v ∈ vs.dropLast, ¬ sep <:+: v ++ sep.dropLast) :
    pieces sep hs (sep.intercalate vs) = vs := by
  induction vs with
  | nil => exact absurd rfl hne
  | cons v vs ih =>
    cases vs with
    | nil =>
      rw [List.intercalate_singleton]
      exact pieces_of_none (cut?_eq_none_iff.2 (h v (by simp)))
    | cons v' vs =>
      rw [List.intercalate_cons_cons, List.append_assoc,
        pieces_of_some (cut?_append_first (hfront v (by simp)) _),
        ih (by simp) (fun u hu => h u (by simp_all)) fun u hu => hfront u (by simp_all)]

lemma pieces_intercalate_singleton {c : Char} {vs : List (List Char)} (hne : vs ≠ [])
    (h : ∀ v ∈ vs, c ∉ v) : pieces [c] (by simp) ([c].intercalate vs) = vs := by
  have hinfix : ∀ v ∈ vs, ¬ [c] <:+: v := fun v hv => cut?_eq_none_iff.1 (cut?_singleton (h v hv))
  refine pieces_intercalate hne hinfix fun v hv => ?_
  rw [List.dropLast_singleton, List.append_nil]
  exact hinfix v (List.mem_of_mem_dropLast hv)

lemma not_mem_of_cut? {s : Char} {cs a b : List Char} (h : cut? [s] cs = some (a, b)) : s ∉ a := by
  induction cs generalizing a with
  | nil => simp [cut?] at h
  | cons d cs ih =>
    rw [cut?] at h
    split at h
    · obtain ⟨rfl, -⟩ := by simpa using h
      exact List.not_mem_nil
    · rename_i hd
      obtain ⟨p, hp, he⟩ := Option.map_eq_some_iff.1 h
      cases he
      have hne : s ≠ d := by simpa using hd
      rw [List.mem_cons, not_or]
      exact ⟨hne, ih hp⟩

lemma not_mem_of_mem_pieces {s : Char} {cs p : List Char} (hp : p ∈ pieces [s] (by simp) cs) : s ∉ p := by
  fun_induction pieces [s] (by simp) cs with
  | case1 cs hcut =>
    obtain rfl := List.mem_singleton.1 hp
    intro hs
    obtain ⟨a, b, rfl, ha⟩ := List.eq_append_cons_of_mem hs
    have hcut' := cut?_append_sep (by simp) (unbordered_singleton s) (cut?_singleton ha) b
    rw [List.singleton_append, hcut] at hcut'
    cases hcut'
  | case2 cs a b hcut ih =>
    rcases List.mem_cons.1 hp with rfl | hp
    · exact not_mem_of_cut? hcut
    · exact ih hp

lemma toList_join (s : String) (vs : List String) :
    (join s vs).toList = s.toList.intercalate (vs.map String.toList) := by
  induction vs with
  | nil => rfl
  | cons v vs ih =>
    cases vs with
    | nil => simp [join]
    | cons v' vs =>
      rw [join, String.toList_append, String.toList_append, ih]
      simp only [List.map_cons, List.intercalate_cons_cons, List.append_assoc]

end LayeredConfig.Text
