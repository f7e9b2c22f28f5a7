import Mathlib.Data.List.Forall2

/-! Stable sorts by an integer rank. A stable sort leaves the only arrangement in which the ranks
ascend and the items of one rank stand as they stood. -/

namespace LayeredConfig.Ranking

variable {α β : Type} {rank : α → Int}

def sort (rank : α → Int) (xs : List α) : List α := xs.mergeSort fun a b => rank a ≤ rank b

def Sorted (rank : α → Int) (xs : List α) : Prop := xs.Pairwise fun a b => rank a ≤ rank b

lemma Sorted.append {xs ys : List α} (hxs : Sorted rank xs) (hys : Sorted rank ys) (n : Int)
    (hlow : ∀ x ∈ xs, rank x ≤ n) (hhigh : ∀ y ∈ ys, n ≤ rank y) : Sorted rank (xs ++ ys) :=
  List.pairwise_append.2 ⟨hxs, hys, fun x hx y hy => Int.le_trans (hlow x hx) (hhigh y hy)⟩

lemma Sorted.of_const {xs : List α} {n : Int} (h : ∀ x ∈ xs, rank x = n) : Sorted rank xs :=
  List.pairwise_of_forall_mem_list fun x hx y hy => Int.le_of_eq ((h x hx).trans (h y hy).symm)

def Agree (rank : α → Int) (xs ys : List α) : Prop :=
  ∀ n, xs.filter (rank · = n) = ys.filter (rank · = n)

namespace Agree

variable {xs ys xs' ys' : List α}

lemma refl (xs : List α) : Agree rank xs xs := fun _ => rfl

lemma symm (h : Agree rank xs ys) : Agree rank ys xs := fun n => (h n).symm

lemma trans {zs : List α} (h : Agree rank xs ys) (h' : Agree rank ys zs) : Agree rank xs zs :=
  fun n => (h n).trans (h' n)

lemma append (h : Agree rank xs ys) (h' : Agree rank xs' ys') :
    Agree rank (xs ++ xs') (ys ++ ys') := by
  intro n
  rw [List.filter_append, List.filter_append, h n, h' n]

lemma swap (h : ∀ x ∈ xs, ∀ y ∈ ys, rank x ≠ rank y) : Agree rank (xs ++ ys) (ys ++ xs) := by
  intro n
  rw [List.filter_append, List.filter_append]
  by_cases hn : ∃ x ∈ xs, rank x = n
  · obtain ⟨x, hx, rfl⟩ := hn
    have hys : ys.filter (rank · = rank x) = [] := by
      simpa [List.filter_eq_nil_iff] using fun y hy => (h x hx y hy).symm
    rw [hys, List.append_nil, List.nil_append]
  · have hxs : xs.filter (rank · = n) = [] := by
      simpa [List.filter_eq_nil_iff] using hn
    rw [hxs, List.append_nil, List.nil_append]

lemma mem {x : α} (h : Agree rank xs ys) (hx : x ∈ xs) : x ∈ ys := by
  have hfilter : x ∈ xs.filter (rank · = rank x) := List.mem_filter.2 ⟨hx, by simp⟩
  rw [h] at hfilter
  exact List.mem_of_mem_filter hfilter

lemma of_perm (h : xs.Perm ys) (hdistinct : xs.Pairwise (rank · ≠ rank ·)) : Agree rank xs ys := by
  intro n
  have hperm := h.filter (rank · = n)
  -- At most one item has the rank, and a list of one item has no other order.
  have hone : (xs.filter (rank · = n)).length ≤ 1 := by
    have hfilter := hdistinct.filter (rank · = n)
    match hxs : xs.filter (rank · = n) with
    | [] | [_] => simp
    | a :: b :: rest =>
      have ha : a ∈ xs.filter (rank · = n) := by simp [hxs]
      have hb : b ∈ xs.filter (rank · = n) := by simp [hxs]
      rw [hxs] at hfilter
      simp only [List.mem_filter, decide_eq_true_eq] at ha hb
      exact absurd (ha.2.trans hb.2.symm) ((List.pairwise_cons.1 hfilter).1 b (by simp))
  match hxs : xs.filter (rank · = n) with
  | [] =>
    rw [hxs] at hperm
    exact hperm.nil_eq
  | [x] =>
    rw [hxs] at hperm
    exact hperm.symm.eq_singleton.symm
  | a :: b :: rest => simp [hxs] at hone

lemma eq_of_sorted (h : Agree rank xs ys) (hxs : Sorted rank xs) (hys : Sorted rank ys) :
    xs = ys := by
  induction xs generalizing ys with
  | nil =>
    cases ys with
    | nil => rfl
    | cons y ys => cases h.symm.mem List.mem_cons_self
  | cons x xs ih =>
    obtain ⟨hx, hrest⟩ := List.pairwise_cons.1 hxs
    cases ys with
    | nil => cases h.mem List.mem_cons_self
    | cons y ys =>
      obtain ⟨hy, htail⟩ := List.pairwise_cons.1 hys
      -- Each list has the other's head, so neither head outranks the other.
      have hxy : rank x = rank y := by
        apply Int.le_antisymm
        · rcases List.mem_cons.1 (h.symm.mem List.mem_cons_self) with rfl | hmem
          · exact Int.le_refl _
          · exact hx y hmem
        · rcases List.mem_cons.1 (h.mem List.mem_cons_self) with rfl | hmem
          · exact Int.le_refl _
          · exact hy x hmem
      have hhead := h (rank x)
      rw [List.filter_cons_of_pos (by simp), List.filter_cons_of_pos (by simp [hxy])] at hhead
      obtain ⟨rfl, -⟩ := List.cons.inj hhead
      refine congrArg _ (ih (fun n => ?_) hrest htail)
      have hn := h n
      by_cases hrank : rank x = n
      · rw [List.filter_cons_of_pos (by simpa), List.filter_cons_of_pos (by simpa)] at hn
        exact (List.cons.inj hn).2
      · rwa [List.filter_cons_of_neg (by simpa), List.filter_cons_of_neg (by simpa)] at hn

lemma insert {low high : List α} {n : Int} (h : Sorted rank (low ++ high))
    (hlow : ∀ x ∈ low, rank x ≤ n) (hhigh : ∀ x ∈ high, n < rank x) (hys : ∀ y ∈ ys, rank y = n) :
    Agree rank (low ++ high ++ ys) (low ++ ys ++ high) ∧ Sorted rank (low ++ ys ++ high) := by
  have hswap : Agree rank (high ++ ys) (ys ++ high) := swap fun x hx y hy he =>
    Int.ne_of_gt (hhigh x hx) (he.trans (hys y hy))
  obtain ⟨hsortedLow, hsortedHigh, _⟩ := List.pairwise_append.1 h
  refine ⟨by simpa using (refl low).append hswap, ?_⟩
  have hfront : Sorted rank (low ++ ys) :=
    .append hsortedLow (.of_const hys) n hlow fun y hy => Int.le_of_eq (hys y hy).symm
  refine hfront.append hsortedHigh n (List.forall_mem_append.2 ⟨hlow, fun y hy => ?_⟩)
    fun x hx => Int.le_of_lt (hhigh x hx)
  exact Int.le_of_eq (hys y hy)

end Agree

variable (xs : List α)

lemma sort_perm : (sort rank xs).Perm xs := List.mergeSort_perm _ _

lemma sort_sorted : Sorted rank (sort rank xs) := by
  refine (List.pairwise_mergeSort (fun a b c hab hbc => ?_) (fun a b => ?_) xs).imp
    fun h => of_decide_eq_true h
  · simp only [decide_eq_true_eq] at *
    omega
  · simp only [Bool.or_eq_true, decide_eq_true_eq]
    omega

lemma sort_agree : Agree rank (sort rank xs) xs := by
  intro n
  have hties : (xs.filter (rank · = n)).Pairwise fun a b => decide (rank a ≤ rank b) = true := by
    apply List.pairwise_of_forall_mem_list
    intro a ha b hb
    simp only [List.mem_filter, decide_eq_true_eq] at ha hb
    simp [ha.2, hb.2]
  have hsub := (List.sublist_mergeSort (fun a b c hab hbc => ?_) (fun a b => ?_) hties
    List.filter_sublist).filter fun x => decide (rank x = n)
  · simp only [List.filter_filter, Bool.and_self] at hsub
    exact (hsub.eq_of_length ((sort_perm xs).filter _).length_eq.symm).symm
  · simp only [decide_eq_true_eq] at *
    omega
  · simp only [Bool.or_eq_true, decide_eq_true_eq]
    omega

lemma sort_eq_of_agree {ys : List α} (h : Agree rank xs ys) (hys : Sorted rank ys) :
    sort rank xs = ys :=
  ((sort_agree xs).trans h).eq_of_sorted (sort_sorted xs) hys

lemma sort_filterMap {rank' : β → Int} {f : α → Option β}
    (hrank : ∀ a b, f a = some b → rank' b = rank a) :
    sort rank' (xs.filterMap f) = (sort rank xs).filterMap f := by
  have hpick (ys : List α) (n : Int) :
      (ys.filterMap f).filter (rank' · = n) = (ys.filter (rank · = n)).filterMap f := by
    rw [List.filter_filterMap, List.filterMap_filter]
    apply List.filterMap_congr
    intro a _
    cases hf : f a with
    | none => simp
    | some b => simp [Option.filter, hrank a b hf]
  apply sort_eq_of_agree
  · intro n
    rw [hpick, hpick, sort_agree]
  · refine List.Pairwise.filterMap f (fun a a' haa' b hb b' hb' => ?_) (sort_sorted xs)
    rwa [hrank a b hb, hrank a' b' hb']

lemma forall₂_sort {R : α → β → Prop} {rank' : β → Int} {xs : List α} {ys : List β}
    (h : List.Forall₂ R xs ys) (hrank : ∀ a b, R a b → rank a = rank' b) :
    List.Forall₂ R (sort rank xs) (sort rank' ys) := by
  obtain ⟨hlen, hzip⟩ := List.forall₂_iff_zip.1 h
  -- The ranks of a pair are equal, so sorting the pairs by the first sorts both sides.
  let pairs := sort (fun p => rank p.1) (xs.zip ys)
  have hfst : pairs.map Prod.fst = sort rank xs := by
    conv_rhs => rw [← List.map_fst_zip (Nat.le_of_eq hlen)]
    exact List.map_mergeSort fun _ _ _ _ => rfl
  have hsnd : pairs.map Prod.snd = sort rank' ys := by
    conv_rhs => rw [← List.map_snd_zip (Nat.le_of_eq hlen.symm)]
    refine List.map_mergeSort fun p hp q hq => ?_
    simp only [hrank _ _ (hzip hp), hrank _ _ (hzip hq)]
  rw [← hfst, ← hsnd, List.forall₂_map_left_iff, List.forall₂_map_right_iff, List.forall₂_same]
  exact fun p hp => hzip ((sort_perm _).mem_iff.1 hp)

end LayeredConfig.Ranking
