import LayeredConfig.Proofs.Pieces
import LayeredConfig.Proofs.Portability

/-! Quoted values with a comment behind them. Quotes come off where they are the first and the last
character of what is assigned, and a comment comes off only if they are not. So the value is never what
stands between the quotes: a quote is always left over. -/

namespace LayeredConfig.Source.Dotenv

open Text

structure Assigns (row : List Char) (name : String) (value : List Char) : Prop where
  line : lines row = [row]
  settles : ∀ ls settings, Settles ls settings →
    Settles (row :: ls) ((Environment.key name, String.ofList value) :: settings)

lemma Assigns.unique {row : List Char} {name : String} {value value' : List Char}
    (h : Assigns row name value) (h' : Assigns row name value') : value = value' := by
  have hread := (h.settles [] [] .nil .empty 1).symm.trans (h'.settles [] [] .nil .empty 1)
  have hfound := congrArg (Ledger.get? · (Environment.key name)) (Except.ok.inj hread)
  simp only [Ledger.putAll, List.foldl_cons, List.foldl_nil, Ledger.get?_put_self] at hfound
  exact String.ofList_injective (Option.some.inj hfound)

lemma Portable.assigns {name : String} (h : Portable name) {value : List Char}
    (hvalue : Unbroken value) : Assigns (assigned name value) name (unquote (trim value)) where
  line := by
    have hsign : Unbroken ['='] := by decide
    exact lines_of_unbroken (h.unbroken.append (hsign.append hvalue)) (by simp [assigned])
  settles ls settings hls := by
    apply Settles.setting _ hls
    rw [String.toList_ofList]
    exact h.readLine_assigned value false

variable {q : Char} {v : List Char}

def remnant (q : Char) (v c : List Char) : List Char :=
  if (trimEnd c).getLast? = some q then v ++ q :: (comment ++ (trimEnd c).dropLast)
  else match cut? comment v with
    | some (front, _) => q :: trimEnd front
    | none => enclosed q v

lemma mem_remnant (q : Char) (v c : List Char) : q ∈ remnant q v c := by
  rw [remnant]
  split
  · simp
  · split
    · exact List.mem_cons_self
    · exact List.mem_cons_self

section Quote

variable (hq : isQuote q = true)

include hq

lemma ne_of_isQuote : q ≠ ' ' ∧ q ≠ '#' := by
  constructor <;> rintro rfl <;> cases hq

lemma cut?_comment_cons (cs : List Char) :
    cut? comment (q :: cs) = (cut? comment cs).map fun p => (q :: p.1, p.2) := by
  have hne : ' ' ≠ q := (ne_of_isQuote hq).1.symm
  rw [cut?, if_neg]
  simp [comment, hne]

lemma cut?_comment_enclosed (h : cut? comment v = none) : cut? comment (enclosed q v) = none := by
  have hconcat : cut? comment (v ++ [q]) = none := by
    rw [cut?_eq_none_iff] at h ⊢
    intro hinfix
    rcases List.infix_concat_iff.1 hinfix with hend | hinside
    · have hlast := hend.getLast (show comment ≠ [] by decide)
      rw [List.getLast_concat] at hlast
      exact (ne_of_isQuote hq).2 hlast.symm
    · exact h hinside
  rw [enclosed, cut?_comment_cons hq, hconcat]
  rfl

lemma trim_remarked (v c : List Char) :
    trim (enclosed q v ++ (comment ++ c)) = enclosed q v ++ (comment ++ trimEnd c) := by
  have hstart : trimStart (enclosed q v ++ (comment ++ c)) = enclosed q v ++ (comment ++ c) := by
    apply trimStart_eq_self
    rintro d ⟨⟩
    exact isBlank_of_isQuote hq
  have hmark : enclosed q v ++ (comment ++ c) = (enclosed q v ++ [' ']) ++ '#' :: c := by
    simp [comment]
  rw [trim, hstart, hmark, trimEnd_append_cons rfl]
  simp [comment]

lemma unquote_of_open {cs : List Char} (h : cs.getLast? ≠ some q) :
    unquote (q :: cs) = match cut? comment (q :: cs) with
      | some (front, _) => trim front
      | none => q :: cs := by
  have hclosed : (isQuote q && !cs.isEmpty && cs.getLast? == some q) = false := by simp [h]
  rw [unquote, hclosed, if_neg (ne_of_isQuote hq).2]
  rfl

lemma unquote_remarked (v c : List Char) :
    unquote (trim (enclosed q v ++ (comment ++ c))) = remnant q v c := by
  rw [trim_remarked hq, remnant]
  split
  · rename_i hlast
    obtain ⟨front, hfront⟩ := List.getLast?_eq_some_iff.1 hlast
    -- The quote at the end of the comment passes for the closing one.
    have hwhole : enclosed q v ++ (comment ++ trimEnd c) =
        enclosed q (v ++ q :: (comment ++ front)) := by
      simp [enclosed, hfront]
    rw [hwhole, unquote_enclosed hq, hfront, List.dropLast_concat]
  · rename_i hlast
    have hopen : (v ++ [q] ++ (comment ++ trimEnd c)).getLast? ≠ some q := by
      rw [List.getLast?_append_of_ne_nil _ (by simp [comment]), List.getLast?_append]
      cases hend : (trimEnd c).getLast? with
      | none => simpa [comment] using (ne_of_isQuote hq).2.symm
      | some d => rwa [Option.some_or, ← hend]
    have hunquote := unquote_of_open hq hopen
    rw [← List.cons_append] at hunquote
    change unquote (enclosed q v ++ _) = match cut? comment (enclosed q v ++ _) with
      | some (front, _) => trim front
      | none => enclosed q v ++ _ at hunquote
    rw [hunquote]
    cases hcut : cut? comment v with
    | none =>
      rw [cut?_append_sep (by decide) (by decide) (cut?_comment_enclosed hq hcut)]
      exact trim_enclosed hq v
    | some p =>
      obtain ⟨front, rest⟩ := p
      have hfront : cut? comment (q :: v) = some (q :: front, rest) := by
        rw [cut?_comment_cons hq, hcut]
        rfl
      rw [show enclosed q v ++ (comment ++ trimEnd c) = q :: v ++ ([q] ++ (comment ++ trimEnd c)) by
        simp [enclosed], cut?_append hfront]
      change trim (q :: front) = q :: trimEnd front
      rw [trim, trimStart_eq_self (by rintro d ⟨⟩; exact isBlank_of_isQuote hq)]
      exact trimEnd_append_cons (isBlank_of_isQuote hq) [] front

end Quote

/-- A quoted value is read as it stands between the quotes. With a comment behind it a quote is left
over, so the two lines never set the same value. -/
theorem comment_keeps_quotes {name : String} (hname : Portable name) (hq : isQuote q = true)
    (hv : q ∉ v ∧ Unbroken v) {c : List Char} (hc : Unbroken c) :
    Assigns (assigned name (enclosed q v)) name v ∧
      Assigns (assigned name (enclosed q v ++ (comment ++ c))) name (remnant q v c) ∧
      ¬ Assigns (assigned name (enclosed q v ++ (comment ++ c))) name v := by
  have hquote : Unbroken [q] := by
    intro d hd
    obtain rfl := List.mem_singleton.1 hd
    constructor <;> rintro rfl <;> cases hq
  have henclosed : Unbroken (enclosed q v) := hquote.append (hv.2.append hquote)
  have hmark : Unbroken comment := by decide
  have hplain := hname.assigns henclosed
  rw [trim_enclosed hq, unquote_enclosed hq] at hplain
  have hremarked := hname.assigns (henclosed.append (hmark.append hc))
  rw [unquote_remarked hq] at hremarked
  refine ⟨hplain, hremarked, fun hsame => hv.1 ?_⟩
  rw [hsame.unique hremarked]
  exact mem_remnant q v c

theorem comment_keeps_quotes_marked :
    Assigns "DB__URL='a  #b'".toList "DB__URL" "a  #b".toList ∧
      Assigns "DB__URL='a  #b' # \"c\"".toList "DB__URL" "'a".toList := by
  obtain ⟨hplain, hremarked, -⟩ := comment_keeps_quotes (show Portable "DB__URL" by decide)
    (show isQuote '\'' = true from rfl) (v := "a  #b".toList) (by decide) (c := " \"c\"".toList)
    (by decide)
  exact ⟨hplain, hremarked⟩

theorem remark_not_removed :
    Portable "NAME" ∧ isQuote '"' = true ∧ '"' ∉ ['v'] ∧ Unbroken ['v'] ∧ Unbroken [' ', 'c'] ∧
      Assigns "NAME=\"v\"".toList "NAME" ['v'] ∧ ¬ Assigns "NAME=\"v\" # c".toList "NAME" ['v'] := by
  have hname : Portable "NAME" := by decide
  have hplain : Assigns "NAME=\"v\"".toList "NAME" ['v'] :=
    hname.assigns (show Unbroken "\"v\"".toList by decide)
  have hremarked : Assigns "NAME=\"v\" # c".toList "NAME" "\"v\"".toList :=
    hname.assigns (show Unbroken "\"v\" # c".toList by decide)
  refine ⟨hname, rfl, by decide, by decide, by decide, hplain, fun hsame => ?_⟩
  exact absurd (hsame.unique hremarked) (by decide)

end LayeredConfig.Source.Dotenv
