import LayeredConfig.Conversion.Registry
import LayeredConfig.Proofs.Literals

/-! Integers in every spelling: with a sign or without, in base ten or behind the mark of another base,
with decimal digits of any script, underscores anywhere and blanks around the whole. Each of them reads
as the number that its digits amount to. -/

namespace LayeredConfig.Text

/-! ### Decimal digits of any script -/

lemma zeros_not_blank : ∀ z ∈ zeros, ∀ i < 10, isBlank (Char.ofNat (z + i)) = false := by
  decide +kernel

lemma zeros_apart_lowering :
    (zeros.toList.all fun z => lowering.toList.all fun t => t.2.1 < z || z + 9 < t.1) = true := by
  decide +kernel

lemma sigma_lt_zeros : ∀ z ∈ zeros, 0x3a3 < z := by decide +kernel

variable {c : Char}

lemma decimal_cases {d : Nat} (h : decimalValue? c = some d) :
    (c.isDigit = true ∧ d = c.toNat - 0x30) ∨
      ∃ z ∈ zeros, ¬ c.val < 0x80 ∧ c.toNat = z + d ∧ d < 10 := by
  rw [decimalValue?] at h
  split at h
  · split at h
    · rename_i hdigit
      cases h
      exact .inl ⟨hdigit, rfl⟩
    · cases h
  · rename_i hascii
    obtain ⟨z, hfound, rfl⟩ := Option.map_eq_some_iff.1 h
    have hz := Array.find?_some hfound
    simp only [Bool.and_eq_true, decide_eq_true_eq] at hz
    exact .inr ⟨z, Array.mem_of_find?_eq_some hfound, hascii, by omega, by omega⟩

lemma isBlank_of_decimal {d : Nat} (h : decimalValue? c = some d) : isBlank c = false := by
  obtain ⟨hdigit, -⟩ | ⟨z, hz, -, hc, hd⟩ := decimal_cases h
  · exact Number.Integer.Plain.isBlank (.inr hdigit)
  · rw [← Char.ofNat_toNat c, hc]
    exact zeros_not_blank z hz d hd

lemma lowerChar_of_decimal {d : Nat} (h : decimalValue? c = some d) : lowerChar c = [c] := by
  obtain ⟨hdigit, -⟩ | ⟨z, hz, hascii, hc, hd⟩ := decimal_cases h
  · have hplain : Number.Integer.Plain c := .inr hdigit
    rw [lowerChar, if_pos hplain.val_lt, hplain.toLower]
  · have hsigma := sigma_lt_zeros z hz
    have hdotted : c.val ≠ 0x130 := by
      intro he
      have : c.toNat = 0x130 := congrArg UInt32.toNat he
      omega
    rw [lowerChar, if_neg hascii, if_neg hdotted, Shifts.move]
    split
    · rename_i hfound
      have hin := Array.find?_some hfound
      simp only [Bool.and_eq_true, decide_eq_true_eq] at hin
      have hapart := zeros_apart_lowering
      simp only [List.all_eq_true, Array.mem_toList_iff, Bool.or_eq_true, decide_eq_true_eq] at hapart
      have := hapart z hz _ (Array.mem_of_find?_eq_some hfound)
      simp only at this
      omega
    · rfl

lemma lowerFrom_cons_of_ne_sigma (h : c.val ≠ 0x3a3) (b : Bool) (cs : List Char) :
    ∃ b', lowerFrom b (c :: cs) = lowerChar c ++ lowerFrom b' cs := by
  rw [lowerFrom, if_neg (by simp [h])]
  exact ⟨_, rfl⟩

lemma lowerFrom_cons_ascii (h : c.val < 0x80) (b : Bool) (cs : List Char) :
    ∃ b', lowerFrom b (c :: cs) = c.toLower :: lowerFrom b' cs := by
  have hsigma : c.val ≠ 0x3a3 := by
    rintro he
    rw [he] at h
    exact absurd h (by decide)
  obtain ⟨b', h'⟩ := lowerFrom_cons_of_ne_sigma hsigma b cs
  refine ⟨b', ?_⟩
  rw [h', lowerChar, if_pos h]
  rfl

lemma lowerFrom_ascii {cs : List Char} (h : ∀ c ∈ cs, c.val < 0x80) (b : Bool) :
    lowerFrom b cs = cs.map Char.toLower := by
  induction cs generalizing b with
  | nil => rfl
  | cons c cs ih =>
    rw [List.forall_mem_cons] at h
    obtain ⟨b', hc⟩ := lowerFrom_cons_ascii h.1 b cs
    rw [hc, ih h.2, List.map_cons]

lemma lowerChars_eq_lowerFrom (cs : List Char) : lowerChars cs = lowerFrom false cs := by
  rw [lowerChars]
  split
  · rename_i h
    rw [lowerFrom_ascii (by simpa using h)]
  · rfl

lemma lowerFrom_decimals {cs : List Char} (h : ∀ c ∈ cs, isDecimal c = true) (b : Bool) :
    lowerFrom b cs = cs := by
  induction cs generalizing b with
  | nil => rfl
  | cons c cs ih =>
    rw [List.forall_mem_cons] at h
    obtain ⟨d, hd⟩ := Option.isSome_iff_exists.1 h.1
    have hsigma : c.val ≠ 0x3a3 := by
      intro he
      have hc : c = Char.ofNat 0x3a3 := Char.ext he
      have hnone : decimalValue? (Char.ofNat 0x3a3) = none := by decide +kernel
      rw [hc, hnone] at hd
      cases hd
    obtain ⟨b', hc⟩ := lowerFrom_cons_of_ne_sigma hsigma b cs
    rw [hc, lowerChar_of_decimal hd, ih h.2]
    rfl

end LayeredConfig.Text

namespace LayeredConfig.Number.Integer

open Text

inductive Amounts (base : Nat) : List Char → Nat → Prop
  | first {c d} (h : digitValue? base (asciiDigit c) = some d) : Amounts base [c] d
  | next {ds n c d} (h : Amounts base ds n) (hc : digitValue? base (asciiDigit c) = some d) :
      Amounts base (ds ++ [c]) (n * base + d)

def marks : List (Nat × Char) := [(16, 'x'), (16, 'X'), (8, 'o'), (8, 'O'), (2, 'b'), (2, 'B')]

inductive Unsigned : List Char → Nat → Prop
  | decimal {ds n} (h : Amounts 10 ds n) (hlen : ds.length ≤ maxDigits) : Unsigned ds n
  | marked {base mark ds n} (hmark : (base, mark) ∈ marks) (h : Amounts base ds n) :
      Unsigned ('0' :: mark :: ds) n

inductive Sign
  | none
  | plus
  | minus

namespace Sign

def text : Sign → List Char
  | none => []
  | plus => ['+']
  | minus => ['-']

def isMinus : Sign → Bool
  | minus => true
  | _ => false

def apply (s : Sign) (n : Nat) : Int := if s.isMinus then -n else n

end Sign

inductive Spells : List Char → Int → Prop
  | signed (s : Sign) {body n} (h : Unsigned body n) : Spells (s.text ++ body) (s.apply n)

variable {base : Nat} {ds : List Char} {n : Nat}

def Inner (c : Char) : Prop := 0x30 ≤ c.toNat ∧ c.toNat ≤ 0x7a

lemma inner_of_digitValue? {c : Char} {d : Nat} (h : digitValue? base c = some d) : Inner c := by
  simp only [digitValue?] at h
  split at h
  · rename_i hdigit
    have := toNat_of_isDigit hdigit
    exact ⟨this.1, by omega⟩
  · split at h
    · rename_i hlower
      obtain ⟨hlow, hhigh⟩ : 0x61 ≤ c.toNat ∧ c.toNat ≤ 0x7a := hlower
      exact ⟨by omega, hhigh⟩
    · split at h
      · rename_i hupper
        obtain ⟨hlow, hhigh⟩ : 0x41 ≤ c.toNat ∧ c.toNat ≤ 0x5a := hupper
        exact ⟨by omega, by omega⟩
      · rw [if_neg (Nat.lt_irrefl base)] at h
        cases h

namespace Inner

variable {c : Char}

lemma ne (h : Inner c) {d : Char} (hd : d.toNat < 0x30) : c ≠ d := by
  rintro rfl
  exact absurd h.1 (by omega)

lemma isPadding (h : Inner c) : isPadding c = false := by
  have hval : c.val < 0x80 := by
    have : c.toNat < 0x80 := by
      have := h.2
      omega
    exact this
  have hspace : c ≠ ' ' := h.ne (by decide)
  have := h.1
  rw [Integer.isPadding, if_pos hval]
  simp [hspace]
  omega

lemma isBlank (h : Inner c) : isBlank c = false := by
  have := h.1
  have := h.2
  simp [Text.isBlank]
  omega

end Inner

lemma isBlank_of_digit {c : Char} (h : Inner (asciiDigit c)) : isBlank c = false := by
  cases hc : decimalValue? c with
  | some d => exact isBlank_of_decimal hc
  | none =>
    rw [asciiDigit, hc] at h
    exact h.isBlank

lemma isDecimal_of_digit {c : Char} {d : Nat} (h : digitValue? 10 (asciiDigit c) = some d) :
    isDecimal c = true := by
  cases hc : decimalValue? c with
  | some d => rw [isDecimal, hc, Option.isSome_some]
  | none =>
    rw [asciiDigit, hc] at h
    have hdigit : c.isDigit = false := by
      by_contra hdigit
      rw [decimalValue?_of_isDigit (by simpa using hdigit)] at hc
      cases hc
    simp only [digitValue?, hdigit, Bool.false_eq_true, if_false, Option.ite_none_right_eq_some] at h
    -- Letters count from ten, so none of them is a decimal digit.
    have hlt := h.1
    split at hlt
    · omega
    · split at hlt <;> omega

namespace Amounts

lemma ne_nil (h : Amounts base ds n) : ds ≠ [] := by
  cases h with
  | first => exact List.cons_ne_nil _ _
  | next => simp

lemma digits (h : Amounts base ds n) : ∀ c ∈ ds, ∃ d, digitValue? base (asciiDigit c) = some d := by
  induction h with
  | first hc => simpa using ⟨_, hc⟩
  | next _ hc ih =>
    intro c hmem
    rw [List.mem_append, List.mem_singleton] at hmem
    obtain hmem | rfl := hmem
    · exact ih c hmem
    · exact ⟨_, hc⟩

lemma inner (h : Amounts base ds n) : ∀ c ∈ ds, Inner (asciiDigit c) := by
  intro c hmem
  obtain ⟨d, hd⟩ := h.digits c hmem
  exact inner_of_digitValue? hd

lemma value_eq (h : Amounts base ds n) : value base (ds.map asciiDigit) = n := by
  induction h with
  | first hc => simp [value, hc]
  | next _ hc ih =>
    rw [value, List.map_append, List.foldl_append]
    change value base _ * base + _ = _
    rw [ih, hc]
    rfl

lemma takeWhile_digits (h : Amounts base ds n) :
    (ds.map asciiDigit).takeWhile (fun c => (digitValue? base c).isSome) = ds.map asciiDigit := by
  rw [List.takeWhile_eq_self_iff]
  intro c hmem
  obtain ⟨c, hc, rfl⟩ := List.mem_map.1 hmem
  obtain ⟨d, hd⟩ := h.digits c hc
  rw [hd, Option.isSome_some]

end Amounts

structure Firm (c : Char) : Prop where
  ne_plus : c ≠ '+'
  ne_minus : c ≠ '-'
  isPadding : isPadding c = false

lemma Inner.firm {c : Char} (h : Inner c) : Firm c :=
  ⟨h.ne (by decide), h.ne (by decide), h.isPadding⟩

namespace Sign

lemma map_asciiDigit (s : Sign) (cs : List Char) :
    (s.text ++ cs).map asciiDigit = s.text ++ cs.map asciiDigit := by
  cases s <;> rfl

variable {c : Char} {cs : List Char}

lemma sign_text (h : Firm c) (s : Sign) : sign (s.text ++ c :: cs) = (s.isMinus, c :: cs) := by
  cases s with
  | none =>
    rw [text, List.nil_append, sign.eq_def]
    split
    · rename_i he
      exact absurd (List.cons.inj he).1 h.ne_minus
    · rename_i he
      exact absurd (List.cons.inj he).1 h.ne_plus
    · rfl
  | plus => rfl
  | minus => rfl

lemma dropWhile_isPadding (h : Firm c) (s : Sign) :
    (s.text ++ c :: cs).dropWhile isPadding = s.text ++ c :: cs := by
  cases s with
  | none => exact List.dropWhile_cons_of_neg (by simp [h.isPadding])
  | plus | minus => rfl

lemma dropWhile_text (h : Inner (asciiDigit c)) (s : Sign) :
    ((s.text ++ c :: cs).dropWhile fun c => c == '+' || c == '-') = c :: cs := by
  have hplus : c ≠ '+' := by
    rintro rfl
    exact absurd h.1 (by decide)
  have hminus : c ≠ '-' := by
    rintro rfl
    exact absurd h.1 (by decide)
  cases s with
  | none | plus | minus => simp [text, hplus, hminus]

end Sign

lemma readSigned_of_dropMark {body : List Char} (s : Sign) (h : Amounts base ds n)
    (hlen : base = 10 → ds.length ≤ maxDigits)
    (hbody : ∀ c ∈ body.head?, Inner (asciiDigit c)) (hne : body ≠ [])
    (hmark : dropMark base (body.map asciiDigit) = ds.map asciiDigit) :
    readSigned base (s.text ++ body) = .ok (s.apply n) := by
  obtain ⟨c, cs, rfl⟩ := List.exists_cons_of_ne_nil hne
  have hc : Inner (asciiDigit c) := hbody c rfl
  have hempty : (ds.map asciiDigit).isEmpty = false := by simpa using h.ne_nil
  rw [List.map_cons] at hmark
  simp only [readSigned, s.map_asciiDigit, List.map_cons, s.dropWhile_isPadding hc.firm,
    s.sign_text hc.firm, hmark, h.takeWhile_digits, h.value_eq, List.length_map]
  rw [hempty, if_neg (by decide), if_neg (fun hlong => absurd (hlen hlong.1) (by omega)),
    ← List.length_map (f := asciiDigit), List.drop_length, if_pos (by rfl)]
  rfl

lemma Unsigned.head (h : Unsigned ds n) : ∃ c cs, ds = c :: cs ∧ Inner (asciiDigit c) := by
  cases h with
  | decimal h =>
    obtain ⟨c, cs, rfl⟩ := List.exists_cons_of_ne_nil h.ne_nil
    exact ⟨c, cs, rfl, h.inner c (by simp)⟩
  | marked => exact ⟨_, _, rfl, by decide, by decide⟩

section Marked

variable {mark : Char} (h : (base, mark) ∈ marks)
include h

lemma mark_plain : asciiDigit mark = mark ∧ isBlank mark = false ∧ mark.val < 0x80 ∧ base ≠ 10 := by
  have hall : ∀ p ∈ marks, asciiDigit p.2 = p.2 ∧ isBlank p.2 = false ∧ p.2.val < 0x80 ∧ p.1 ≠ 10 := by
    decide
  exact hall _ h

lemma markedBase_mark (cs : List Char) :
    markedBase ('0' :: mark :: cs) = some base ∧ markedBase ('0' :: mark.toLower :: cs) = some base := by
  simp only [marks, List.mem_cons, Prod.mk.injEq, List.not_mem_nil, or_false] at h
  obtain ⟨rfl, rfl⟩ | ⟨rfl, rfl⟩ | ⟨rfl, rfl⟩ | ⟨rfl, rfl⟩ | ⟨rfl, rfl⟩ | ⟨rfl, rfl⟩ := h <;>
    exact ⟨rfl, rfl⟩

lemma dropMark_mark (cs : List Char) : dropMark base ('0' :: mark :: cs) = cs := by
  simp only [marks, List.mem_cons, Prod.mk.injEq, List.not_mem_nil, or_false] at h
  obtain ⟨rfl, rfl⟩ | ⟨rfl, rfl⟩ | ⟨rfl, rfl⟩ | ⟨rfl, rfl⟩ | ⟨rfl, rfl⟩ | ⟨rfl, rfl⟩ := h <;> rfl

end Marked

lemma markedBase_decimals (h : ∀ c ∈ ds, isDecimal c = true) : markedBase ds = none := by
  have hmarks : ∀ p ∈ marks, isDecimal p.2 = false := by decide +kernel
  rw [markedBase.eq_def]
  split
  · rename_i m cs
    have hne : ∀ p ∈ marks, m ≠ p.2 := by
      rintro p hp rfl
      have := hmarks p hp
      rw [h p.2 (by simp)] at this
      cases this
    simp only [marks, List.forall_mem_cons] at hne
    simp [hne]
  · rfl

lemma Unsigned.isBlank (h : Unsigned ds n) : ∀ c ∈ ds, isBlank c = false := by
  cases h with
  | decimal h => exact fun c hc => isBlank_of_digit (h.inner c hc)
  | marked hmark h =>
    rw [List.forall_mem_cons, List.forall_mem_cons]
    exact ⟨rfl, (mark_plain hmark).2.1, fun c hc => isBlank_of_digit (h.inner c hc)⟩

lemma Spells.isBlank {cs : List Char} {k : Int} (h : Spells cs k) : ∀ c ∈ cs, isBlank c = false := by
  obtain ⟨s, h⟩ := h
  intro c hc
  rw [List.mem_append] at hc
  obtain hc | hc := hc
  · have hsign : s.text.all (!Text.isBlank ·) = true := by cases s <;> rfl
    simpa using List.all_eq_true.1 hsign c hc
  · exact h.isBlank c hc

lemma Sign.lowerChars_text (s : Sign) (body : List Char) :
    ∃ b, lowerChars (s.text ++ body) = s.text ++ lowerFrom b body := by
  rw [lowerChars_eq_lowerFrom]
  cases s with
  | none => exact ⟨false, rfl⟩
  | plus => exact lowerFrom_cons_ascii (by decide) false body
  | minus => exact lowerFrom_cons_ascii (by decide) false body

lemma Spells.read_decimal (s : Sign) (h : Amounts 10 ds n) (hlen : ds.length ≤ maxDigits) :
    markedBase ((lowerChars (s.text ++ ds)).dropWhile fun c => c == '+' || c == '-') = none ∧
      readDecimal (String.ofList (s.text ++ ds)) = .ok (s.apply n) := by
  have hdecimal : ∀ c ∈ ds, isDecimal c = true := by
    intro c hc
    obtain ⟨d, hd⟩ := h.digits c hc
    exact isDecimal_of_digit hd
  obtain ⟨b, hlower⟩ := s.lowerChars_text ds
  obtain ⟨c, cs, rfl⟩ := List.exists_cons_of_ne_nil h.ne_nil
  have hc : Inner (asciiDigit c) := h.inner c (by simp)
  refine ⟨?_, ?_⟩
  · rw [hlower, lowerFrom_decimals hdecimal, s.dropWhile_text hc, markedBase_decimals hdecimal]
  · rw [readDecimal, String.toList_ofList, readSigned_of_dropMark s h (fun _ => hlen)
      (by simpa using hc) h.ne_nil (Literal.dropMark_ten _)]
    rfl

lemma Spells.read_marked {mark : Char} (s : Sign) (hmark : (base, mark) ∈ marks)
    (h : Amounts base ds n) :
    (markedBase ((lowerChars (s.text ++ '0' :: mark :: ds)).dropWhile
        fun c => c == '+' || c == '-')).isSome = true ∧
      readMarked (String.ofList (s.text ++ '0' :: mark :: ds)) = .ok (s.apply n) := by
  obtain ⟨hkept, -, hascii, hbase⟩ := mark_plain hmark
  have hzero : Inner (asciiDigit '0') := ⟨by decide, by decide⟩
  obtain ⟨b, hlower⟩ := s.lowerChars_text ('0' :: mark :: ds)
  obtain ⟨b', hlower'⟩ := lowerFrom_cons_ascii (c := '0') (by decide) b (mark :: ds)
  obtain ⟨b'', hlower''⟩ := lowerFrom_cons_ascii hascii b' ds
  refine ⟨?_, ?_⟩
  · rw [hlower, hlower', hlower'']
    change (markedBase ((s.text ++ '0' :: mark.toLower :: lowerFrom b'' ds).dropWhile _)).isSome = true
    rw [s.dropWhile_text hzero, (markedBase_mark hmark _).2, Option.isSome_some]
  · have hdrop : dropMark base (('0' :: mark :: ds).map asciiDigit) = ds.map asciiDigit := by
      rw [List.map_cons, List.map_cons, hkept]
      exact dropMark_mark hmark _
    have hread := readSigned_of_dropMark s h (fun he => absurd he hbase) (by simpa using hzero)
      (List.cons_ne_nil _ _) hdrop
    rw [readMarked, String.toList_ofList, s.dropWhile_text hzero, (markedBase_mark hmark ds).1]
    simp only [hread]
    rfl

end LayeredConfig.Number.Integer

namespace LayeredConfig.Conversion

open Number Integer Text

variable {σ : Type}

lemma Scalar.readInteger_spelled {raw : String} {cs : List Char} {n : Int}
    (htrim : (trim raw.toList).filter (· != '_') = cs) (h : Spells cs n) :
    readInteger raw = .ok (some (.integer n)) := by
  obtain ⟨s, hbody⟩ := h
  rename_i body k
  obtain ⟨c, rest, rfl, -⟩ := hbody.head
  have hempty : (s.text ++ c :: rest).isEmpty = false := by simp
  simp only [readInteger, htrim, hempty]
  cases hbody with
  | decimal hdigits hlen =>
    obtain ⟨hmark, hread⟩ := Spells.read_decimal s hdigits hlen
    rw [hmark, hread]
    rfl
  | marked hmark hdigits =>
    obtain ⟨hmark, hread⟩ := Spells.read_marked s hmark hdigits
    rw [hmark, hread]
    rfl

/-- Every spelling of an integer, with underscores anywhere in it and blanks around the whole, is
converted to that integer. -/
theorem Converter.integer_reads_every_spelling {literal written before after : List Char} {n : Int}
    (h : Spells literal n) (hwritten : written.filter (· != '_') = literal)
    (hbefore : ∀ c ∈ before, isBlank c = true) (hafter : ∀ c ∈ after, isBlank c = true)
    (id : Nat) (q : Request σ) :
    (Converter.integer id).run (String.ofList (before ++ written ++ after)) q =
      pure ⟨[], .ok (some (.integer n))⟩ := by
  have hblank : ∀ c ∈ written, isBlank c = false := by
    intro c hc
    by_cases hunderscore : c = '_'
    · rw [hunderscore]
      rfl
    · refine h.isBlank c ?_
      rw [← hwritten, List.mem_filter]
      exact ⟨hc, by simpa using hunderscore⟩
  have htrim : (trim (String.ofList (before ++ written ++ after)).toList).filter (· != '_') = literal := by
    rw [String.toList_ofList, trim_surrounded hbefore hafter
      (fun c hc => hblank c (List.mem_of_mem_head? hc)) (fun c hc => hblank c (List.mem_of_getLast? hc)),
      hwritten]
  have hread := Scalar.readInteger_spelled htrim h
  change pure (Result.mk [] (Scalar.readInteger _)) = _
  rw [hread]

theorem Converter.integer_reads_scattered :
    Spells ['-', '0', 'X', 'f', 'F'] (-255) ∧
      (Converter.integer 1).run (String.ofList ([' ', '\t'] ++
          ['_', '-', '0', '_', '_', 'X', '_', 'f', '_', 'F', '_', '_'] ++ ['\n']))
        (Registry.request ⟨"port", none, none, .empty⟩ true (.bare .integer) [] : Request Unit) =
      pure ⟨[], .ok (some (.integer (-255)))⟩ := by
  have hdigits : Amounts 16 ['f', 'F'] 255 := .next (.first (d := 15) rfl) (d := 15) rfl
  have hspells : Spells ['-', '0', 'X', 'f', 'F'] (-255) :=
    .signed .minus (.marked (by decide) hdigits)
  exact ⟨hspells, Converter.integer_reads_every_spelling hspells (by decide) (List.all_eq_true.1 rfl)
    (List.all_eq_true.1 rfl) 1 _⟩

end LayeredConfig.Conversion
