import LayeredConfig.Conversion.Scalar
import Mathlib.Data.List.TakeWhile
import Mathlib.Tactic.Common

/-! Decimal text of integers, read back. It is a sign and ASCII digits, so that no step of the
reader before the digits themselves changes it. -/

namespace LayeredConfig.Number.Integer

open Text

def Plain (c : Char) : Prop := c = '-' ∨ c.isDigit = true

lemma toNat_of_isDigit {c : Char} (h : c.isDigit = true) : 0x30 ≤ c.toNat ∧ c.toNat ≤ 0x39 := by
  simp only [Char.isDigit, Bool.and_eq_true, decide_eq_true_eq] at h
  exact ⟨h.1, h.2⟩

namespace Plain

variable {c : Char}

lemma toNat (h : Plain c) : 0x2d ≤ c.toNat ∧ c.toNat ≤ 0x39 := by
  rcases h with rfl | h
  · decide
  · have := toNat_of_isDigit h
    omega

lemma ne_of_toNat (h : Plain c) {d : Char} (hd : d.toNat < 0x2d ∨ 0x39 < d.toNat) : c ≠ d := by
  rintro rfl
  have := h.toNat
  omega

lemma val_lt (h : Plain c) : c.val < 0x80 := by
  have : c.toNat < 0x80 := by
    have := h.toNat
    omega
  exact this

lemma isBlank (h : Plain c) : isBlank c = false := by
  have := h.toNat
  simp [Text.isBlank]
  omega

lemma isPadding (h : Plain c) : isPadding c = false := by
  have hc := h.toNat
  rw [Integer.isPadding, if_pos h.val_lt]
  have hne : c ≠ ' ' := h.ne_of_toNat (by decide)
  simp [hne]
  omega

lemma asciiDigit (h : Plain c) : asciiDigit c = c := by
  rcases h with rfl | h
  · rfl
  · have hc := toNat_of_isDigit h
    rw [Text.asciiDigit, decimalValue?_of_isDigit h]
    simp only
    rw [Nat.add_sub_cancel' hc.1, Char.ofNat_toNat]

lemma toLower (h : Plain c) : c.toLower = c := by
  have hc := h.toNat
  have hupper : ¬ ('A'.val ≤ c.val ∧ c.val ≤ 'Z'.val) := by
    rintro ⟨hA, -⟩
    have : 'A'.toNat ≤ c.toNat := hA
    have : 'A'.toNat = 0x41 := rfl
    omega
  exact dif_neg hupper

end Plain

lemma digitValue?_ten {c : Char} (h : c.isDigit = true) :
    digitValue? 10 c = some (c.toNat - 0x30) := by
  have := toNat_of_isDigit h
  simp only [digitValue?, h, if_true]
  rw [if_pos (by omega)]

lemma value_ten {ds : List Char} (h : ∀ c ∈ ds, c.isDigit = true) :
    value 10 ds = Nat.ofDigitChars 10 ds 0 := by
  suffices hfold : ∀ n : Nat, ds.foldl (fun n c => n * 10 + (digitValue? 10 c).getD 0) n =
      ds.foldl (fun n c => 10 * n + (c.toNat - '0'.toNat)) n by
    rw [Nat.ofDigitChars_eq_foldl]
    exact hfold 0
  induction ds with
  | nil => intro n; rfl
  | cons c ds ih =>
    intro n
    rw [List.foldl_cons, List.foldl_cons, digitValue?_ten (h c (by simp)), Nat.mul_comm]
    exact ih (fun d hd => h d (by simp [hd])) _

structure Literal (ds : List Char) : Prop where
  ne_nil : ds ≠ []
  digits : ∀ c ∈ ds, c.isDigit = true

lemma literal_toDigits (n : Nat) : Literal (Nat.toDigits 10 n) :=
  ⟨Nat.toDigits_ne_nil, fun _ hc => Nat.isDigit_of_mem_toDigits (by decide) (by decide) hc⟩

def signed (negative : Bool) (ds : List Char) : List Char := if negative then '-' :: ds else ds

lemma toList_text (n : Int) :
    (text n).toList = signed (n < 0) (Nat.toDigits 10 n.natAbs) := by
  cases n with
  | ofNat m =>
    change (Nat.repr m).toList = _
    simp [signed]
  | negSucc m =>
    change ("-" ++ Nat.repr (m + 1)).toList = _
    simp [signed, String.toList_append, Int.negSucc_lt_zero]

namespace Literal

variable {ds : List Char}

lemma plain (h : Literal ds) (negative : Bool) : ∀ c ∈ signed negative ds, Plain c := by
  intro c hc
  cases negative with
  | false => exact .inr (h.digits c hc)
  | true =>
    rcases List.mem_cons.1 hc with rfl | hc
    · exact .inl rfl
    · exact .inr (h.digits c hc)

lemma signed_ne_nil (h : Literal ds) (negative : Bool) : signed negative ds ≠ [] := by
  cases negative with
  | false => exact h.ne_nil
  | true => exact List.cons_ne_nil _ _

lemma head_ne (h : Literal ds) {d : Char} (hd : d.toNat < 0x30) : ds.head? ≠ some d := by
  intro hhead
  have := toNat_of_isDigit (h.digits d (List.mem_of_mem_head? hhead))
  omega

lemma sign_signed (h : Literal ds) (negative : Bool) :
    sign (signed negative ds) = (negative, ds) := by
  cases negative with
  | true => rfl
  | false =>
    change sign ds = _
    rw [sign.eq_def]
    split
    · exact absurd rfl (h.head_ne (by decide))
    · exact absurd rfl (h.head_ne (by decide))
    · rfl

lemma dropWhile_sign (h : Literal ds) (negative : Bool) :
    ((signed negative ds).dropWhile fun c => c == '+' || c == '-') = ds := by
  have hds : (ds.dropWhile fun c => c == '+' || c == '-') = ds := by
    obtain ⟨c, cs, rfl⟩ := List.exists_cons_of_ne_nil h.ne_nil
    have hplus : c ≠ '+' := by simpa using h.head_ne (d := '+') (by decide)
    have hminus : c ≠ '-' := by simpa using h.head_ne (d := '-') (by decide)
    simp [hplus, hminus]
  cases negative with
  | false => exact hds
  | true => rw [signed, if_pos rfl, List.dropWhile_cons_of_pos (by decide), hds]

lemma dropWhile_isPadding (h : Literal ds) (negative : Bool) :
    (signed negative ds).dropWhile Integer.isPadding = signed negative ds := by
  obtain ⟨c, cs, hcs⟩ := List.exists_cons_of_ne_nil (h.signed_ne_nil negative)
  have hc := h.plain negative c (by simp [hcs])
  rw [hcs, List.dropWhile_cons_of_neg]
  simp [hc.isPadding]

lemma map_asciiDigit (h : Literal ds) (negative : Bool) :
    (signed negative ds).map asciiDigit = signed negative ds := by
  calc (signed negative ds).map asciiDigit = (signed negative ds).map id :=
        List.map_congr_left fun c hc => (h.plain negative c hc).asciiDigit
    _ = signed negative ds := List.map_id _

lemma dropMark_ten (ds : List Char) : dropMark 10 ds = ds := by
  rw [dropMark.eq_def]
  split
  · simp
  · rfl

lemma takeWhile_digits (h : Literal ds) :
    ds.takeWhile (fun c => (digitValue? 10 c).isSome) = ds := by
  rw [List.takeWhile_eq_self_iff]
  intro c hc
  simp [digitValue?_ten (h.digits c hc)]

lemma readSigned (h : Literal ds) (negative : Bool) (hlen : ds.length ≤ maxDigits) :
    readSigned 10 (signed negative ds) =
      .ok (if negative then -(value 10 ds : Int) else value 10 ds) := by
  have hempty : ds.isEmpty = false := by simpa using h.ne_nil
  simp only [Integer.readSigned, h.map_asciiDigit, h.dropWhile_isPadding, h.sign_signed,
    dropMark_ten, h.takeWhile_digits]
  rw [hempty, if_neg (by decide), if_neg (by omega), List.drop_length, if_pos (by rfl)]

lemma markedBase (h : Literal ds) : markedBase ds = none := by
  rw [Integer.markedBase.eq_def]
  split
  · rename_i m cs
    have hm : Plain m := .inr (h.digits m (by simp))
    have hne : ∀ {d : Char}, 0x39 < d.toNat → m ≠ d := fun hd => hm.ne_of_toNat (.inr hd)
    simp [hne (d := 'x') (by decide), hne (d := 'X') (by decide), hne (d := 'o') (by decide),
      hne (d := 'O') (by decide), hne (d := 'b') (by decide), hne (d := 'B') (by decide)]
  · rfl

end Literal

lemma readDecimal_text (n : Int) (hlen : (Nat.toDigits 10 n.natAbs).length ≤ maxDigits) :
    readDecimal (text n) = .ok n := by
  have h := literal_toDigits n.natAbs
  rw [readDecimal, toList_text, h.readSigned _ hlen, value_ten h.digits,
    Nat.ofDigitChars_ten_toDigits]
  simp only [Except.mapError, decide_eq_true_eq]
  split
  all_goals
    congr 1
    omega

end LayeredConfig.Number.Integer

namespace LayeredConfig.Text

lemma trim_of_no_blank {cs : List Char} (h : ∀ c ∈ cs, isBlank c = false) : trim cs = cs :=
  trim_eq_self (fun c hc => h c (List.mem_of_mem_head? hc))
    (fun c hc => h c (List.mem_of_mem_getLast? hc))

end LayeredConfig.Text

namespace LayeredConfig.Conversion.Scalar

open Number Text

lemma readInteger_text (n : Int) (hlen : (Nat.toDigits 10 n.natAbs).length ≤ Integer.maxDigits) :
    readInteger (Integer.text n) = .ok (some (.integer n)) := by
  have h := Integer.literal_toDigits n.natAbs
  have hplain := h.plain (n < 0)
  -- Neither trimming nor the loss of underscores nor lower case changes what is written here.
  have htrim : trim (Integer.text n).toList = (Integer.text n).toList := by
    rw [Integer.toList_text]
    exact trim_of_no_blank fun c hc => (hplain c hc).isBlank
  have hfilter : (Integer.text n).toList.filter (· != '_') = (Integer.text n).toList := by
    rw [Integer.toList_text, List.filter_eq_self]
    intro c hc
    simpa using (hplain c hc).ne_of_toNat (d := '_') (by decide)
  have hlower : lowerChars (Integer.text n).toList = (Integer.text n).toList := by
    rw [Integer.toList_text, lowerChars_ascii fun c hc => (hplain c hc).val_lt]
    calc _ = (Integer.signed (n < 0) (Nat.toDigits 10 n.natAbs)).map id :=
          List.map_congr_left fun c hc => (hplain c hc).toLower
      _ = _ := List.map_id _
  have hunsigned : ((Integer.text n).toList.dropWhile fun c => c == '+' || c == '-') =
      Nat.toDigits 10 n.natAbs := by
    rw [Integer.toList_text, h.dropWhile_sign]
  have hempty : (Integer.text n).toList.isEmpty = false := by
    simpa [Integer.toList_text] using h.signed_ne_nil (n < 0)
  simp only [readInteger, htrim, hfilter, hlower, hunsigned, hempty, h.markedBase]
  rw [String.ofList_toList]
  simp [Integer.readDecimal_text n hlen]

end LayeredConfig.Conversion.Scalar
