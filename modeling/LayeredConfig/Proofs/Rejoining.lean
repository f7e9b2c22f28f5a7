import LayeredConfig.Proofs.Collecting

/-! Items joined back into the value they were split from. Every separator inside an item gets its
escape again and one stands between two items; only a separator behind the last item is lost. -/

namespace LayeredConfig

namespace Text

variable {sep : List Char} {hs : sep ≠ []}

def replace (sep : List Char) (hs : sep ≠ []) (by' cs : List Char) : List Char :=
  by'.intercalate (pieces sep hs cs)

lemma replace_of_none {cs : List Char} (h : cut? sep cs = none) (by' : List Char) :
    replace sep hs by' cs = cs := by
  rw [replace, pieces]
  split <;> simp_all

lemma replace_of_some {cs a b : List Char} (h : cut? sep cs = some (a, b)) (by' : List Char) :
    replace sep hs by' cs = a ++ by' ++ replace sep hs by' b := by
  have hpieces : pieces sep hs cs = a :: pieces sep hs b := by
    rw [pieces]
    split <;> simp_all
  rw [replace, hpieces, List.intercalate_cons_of_ne_nil (pieces_ne_nil sep hs b), replace]

lemma cut?_front (hs : sep ≠ []) {cs a b v : List Char} (h : cut? sep cs = some (a, b))
    (hv : v <+: a) : cut? sep v = none := by
  by_contra hsome
  obtain ⟨⟨x, y⟩, hxy⟩ := Option.ne_none_iff_exists'.1 hsome
  obtain ⟨rest, rfl⟩ := hv
  -- An occurrence inside `v` would be the first one of the whole text too.
  have hcs : cs = v ++ (rest ++ sep ++ b) := by simpa using eq_of_cut? h
  have hfirst := cut?_append hxy (rest ++ sep ++ b)
  rw [← hcs, h] at hfirst
  obtain rfl : v ++ rest = x := congrArg Prod.fst (Option.some.inj hfirst)
  have hlen := congrArg List.length (eq_of_cut? hxy)
  have hpos : 0 < sep.length := List.length_pos_iff.2 hs
  simp only [List.length_append] at hlen
  omega

end Text

namespace Tokens

open Text

section Segments

variable {sep : List Char} {hs : sep ≠ []}

lemma intercalate_attach (lead : List Char) (items : List (List Char)) :
    sep.intercalate (attach lead items) = lead ++ sep.intercalate items := by
  cases items with
  | nil => simp [attach]
  | cons x xs => cases xs <;> simp [attach]

lemma map_attach {f : List Char → List Char} {lead lead' : List Char} {items : List (List Char)}
    (hne : items ≠ []) (h : ∀ x, f (lead ++ x) = lead' ++ f x) :
    (attach lead items).map f = attach lead' (items.map f) := by
  obtain ⟨x, xs, rfl⟩ := List.exists_cons_of_ne_nil hne
  simp [attach, h]

lemma replace_dropLast (hsep : Unbordered sep) {cs a b : List Char}
    (h : cut? sep cs = some (a, b)) (by' x : List Char) :
    replace sep hs by' (a.dropLast ++ sep ++ x) = a.dropLast ++ by' ++ replace sep hs by' x := by
  have hfront : cut? sep a.dropLast = none := cut?_front hs h a.dropLast_prefix
  apply replace_of_some
  rw [List.append_assoc]
  exact cut?_append_sep hs hsep hfront x

lemma intercalate_segments (hsep : Unbordered sep) (cs : List Char) :
    sep.intercalate ((segments sep hs cs).map (replace sep hs (escape :: sep))) = cs := by
  fun_induction segments sep hs cs with
  | case1 cs hcut => simp [replace_of_none hcut]
  | case2 cs a b hcut ha ih =>
    obtain ⟨front, rfl⟩ := List.getLast?_eq_some_iff.1 ha
    have hlead := @replace_dropLast sep hs hsep _ _ _ hcut (escape :: sep)
    rw [map_attach (segments_ne_nil b) hlead, intercalate_attach, ih]
    simpa using (eq_of_cut? hcut).symm
  | case3 cs a b hcut ha ih =>
    have hitem : replace sep hs (escape :: sep) a = a :=
      replace_of_none (cut?_front hs hcut (List.prefix_refl a)) _
    rw [List.map_cons, hitem, List.intercalate_cons_of_ne_nil (by simp [segments_ne_nil]), ih]
    exact (eq_of_cut? hcut).symm

lemma segments_nil : segments sep hs [] = [[]] := segments_of_none (by simp [cut?, hs])

lemma dropEmptyEnd_segments (hsep : Unbordered sep) (hescape : sep.getLast? ≠ some escape)
    {a : List Char} (ha : a.getLast? ≠ some escape) :
    dropEmptyEnd (segments sep hs (a ++ sep)) = segments sep hs a := by
  have happend := @segments_append sep hs hsep hescape a ha []
  rw [List.append_nil, segments_nil] at happend
  simp [happend, dropEmptyEnd]

lemma segments_kept (hescape : sep.getLast? ≠ some escape) {v : List Char} (hv : v ≠ [])
    (hend : ¬ EndsInSeparator sep v) : dropEmptyEnd (segments sep hs v) = segments sep hs v := by
  rw [dropEmptyEnd, if_neg]
  exact fun hlast => hend (endsInSeparator_of_segments hescape hv hlast)

end Segments

def guarded (sep : String) (h : sep ≠ "") (item : String) : String :=
  String.ofList (replace sep.toList (by simpa using h) (escape :: sep.toList) item.toList)

theorem rejoin_split? {sep : String} (h : Clear sep) (value : String) :
    ∃ items, split? value sep = some items ∧
      (EndsInSeparator sep.toList value.toList →
        sep.intercalate (items.map (guarded sep h.ne_empty)) ++ sep = value) ∧
      (¬ EndsInSeparator sep.toList value.toList →
        sep.intercalate (items.map (guarded sep h.ne_empty)) = value) := by
  have hs := h.toList_ne
  have hsplit := @splitFrom_eq _ hs h.getLast?_ne none (by simp) value.toList
  refine ⟨items sep value, split?_eq_items h.ne_empty value, ?_⟩
  have hjoin : (sep.intercalate ((items sep value).map (guarded sep h.ne_empty))).toList =
      sep.toList.intercalate ((dropEmptyEnd (segments sep.toList hs value.toList)).map
        (replace sep.toList hs (escape :: sep.toList))) := by
    rw [String.toList_intercalate, items_eq hs, hsplit]
    simp [guarded, Function.comp_def]
  constructor
  · rintro ⟨a, hvalue, ha⟩
    apply String.toList_injective
    rw [String.toList_append, hjoin, hvalue, dropEmptyEnd_segments h.unbordered h.getLast?_ne ha,
      intercalate_segments h.unbordered]
  · intro hend
    apply String.toList_injective
    rw [hjoin]
    by_cases hv : value.toList = []
    · simp [hv, segments_nil, dropEmptyEnd]
    · rw [segments_kept h.getLast?_ne hv hend, intercalate_segments h.unbordered]

theorem rejoin_split?_arrows :
    let items := ["a=>b", "", "=>", "\\\\=>c"]
    Clear "=>" ∧ split? "a\\=>b=>=>\\=>=>\\\\\\=>c=>" "=>" = some items ∧
      "=>".intercalate (items.map (guarded "=>" (by decide))) ++ "=>" =
        "a\\=>b=>=>\\=>=>\\\\\\=>c=>" := by
  have hclear : Clear "=>" := ⟨by decide, by decide, by decide⟩
  have hsplit : split? "a\\=>b=>=>\\=>=>\\\\\\=>c=>" "=>" = some ["a=>b", "", "=>", "\\\\=>c"] := by
    decide +kernel
  obtain ⟨items, hitems, hends, _⟩ := rejoin_split? hclear "a\\=>b=>=>\\=>=>\\\\\\=>c=>"
  obtain rfl := Option.some.inj (hsplit.symm.trans hitems)
  exact ⟨hclear, hsplit, hends ⟨"a\\=>b=>=>\\=>=>\\\\\\=>c".toList, by decide, by decide⟩⟩

end Tokens

end LayeredConfig
