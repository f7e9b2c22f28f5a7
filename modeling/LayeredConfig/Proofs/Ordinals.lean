import LayeredConfig.CommandLine
import LayeredConfig.Proofs.Numerals
import Mathlib.Data.List.Forall2
import Mathlib.Data.List.Induction

/-! File options, which are a path with or without a colon and an ordinal behind it. What lets an ordinal
pass are dashes and digits of whatever kind, and what reads it takes one dash and decimal digits, not too
many of them. A word that lies between the two is no file but a failure. -/

namespace LayeredConfig

section Each

variable {ε α β : Type} {f : α → Except ε β} {xs : List α}

lemma mapM_eq_ok_iff {ys : List β} :
    xs.mapM f = .ok ys ↔ List.Forall₂ (fun x y => f x = .ok y) xs ys := by
  induction xs generalizing ys with
  | nil => cases ys <;> simp [pure, Except.pure]
  | cons x xs ih =>
    rw [List.mapM_cons]
    cases hx : f x with
    | error e => cases ys <;> simp [bind, Except.bind, hx]
    | ok y =>
      cases hxs : xs.mapM f with
      | error e => cases ys <;> simp [bind, Except.bind, ← ih, hxs, hx]
      | ok rest => cases ys <;> simp [bind, Except.bind, pure, Except.pure, ← ih, hxs, hx]

lemma exists_of_mapM_ok {ys : List β} (h : xs.mapM f = .ok ys) : ∀ x ∈ xs, ∃ y, f x = .ok y := by
  rw [mapM_eq_ok_iff] at h
  induction h with
  | nil => exact List.forall_mem_nil _
  | cons hx _ ih => exact List.forall_mem_cons.2 ⟨⟨_, hx⟩, ih⟩

lemma exists_of_mapM_error {e : ε} (h : xs.mapM f = .error e) : ∃ x ∈ xs, f x = .error e := by
  induction xs with
  | nil => cases h
  | cons x xs ih =>
    rw [List.mapM_cons] at h
    cases hx : f x with
    | error e' =>
      rw [hx] at h
      cases h
      exact ⟨x, by simp, hx⟩
    | ok y =>
      cases hxs : xs.mapM f with
      | error e' =>
        rw [hx, hxs] at h
        cases h
        obtain ⟨x', hx', hfailed⟩ := ih hxs
        exact ⟨x', by simp [hx'], hfailed⟩
      | ok rest =>
        rw [hx, hxs] at h
        cases h

lemma eq_ok_of_toOption {r : Except ε α} {a : α} (h : r.toOption = some a) : r = .ok a := by
  cases r with
  | error e => cases h
  | ok a' =>
    cases h
    rfl

end Each

namespace Text

lemma cutLast?_append {c : Char} {b : List Char} (h : c ∉ b) (a : List Char) :
    cutLast? c (a ++ c :: b) = some (a, b) := by
  have hfront : ∀ d ∈ b.reverse, (d != c) = true := by
    intro d hd
    rw [bne_iff_ne]
    rintro rfl
    exact h (List.mem_reverse.1 hd)
  have hreverse : (a ++ c :: b).reverse = b.reverse ++ c :: a.reverse := by simp
  rw [cutLast?, if_pos (by simp), hreverse, List.takeWhile_append_of_pos hfront,
    List.dropWhile_append_of_pos hfront]
  simp

lemma eq_of_cutLast? {c : Char} {cs a b : List Char} (h : cutLast? c cs = some (a, b)) :
    cs = a ++ c :: b := by
  have hmem : c ∈ cs := by
    rw [cutLast?] at h
    split at h
    · assumption
    · cases h
  obtain ⟨b', a', hcs, hb⟩ := List.eq_append_cons_of_mem (List.mem_reverse.2 hmem)
  have hcut : cs = a'.reverse ++ c :: b'.reverse := by
    rw [← List.reverse_reverse cs, hcs]
    simp
  rw [hcut, cutLast?_append (by simpa using hb)] at h
  cases h
  exact hcut

/-! ### Digits that are not decimal -/

lemma kin_not_blank : ∀ r ∈ digitsOutsideDecimal, 0x80 ≤ r.1 ∧
    ∀ i ≤ r.2 - r.1, isBlank (Char.ofNat (r.1 + i)) = false := by decide +kernel

variable {c : Char}

lemma asciiDigit_of_decimal {d : Nat} (h : decimalValue? c = some d) :
    d < 10 ∧ asciiDigit c = Char.ofNat (0x30 + d) := by
  refine ⟨?_, by rw [asciiDigit, h]⟩
  obtain ⟨hdigit, rfl⟩ | ⟨z, -, -, -, hd⟩ := decimal_cases h
  · have := Number.Integer.toNat_of_isDigit hdigit
    omega
  · exact hd

end Text

namespace Number.Integer

open Text

variable {c : Char}

lemma isSome_digitValue? (c : Char) : (digitValue? 10 (asciiDigit c)).isSome = isDecimal c := by
  cases hc : decimalValue? c with
  | some d =>
    have hdigits : ∀ d < 10, (digitValue? 10 (Char.ofNat (0x30 + d))).isSome = true := by decide
    obtain ⟨hd, hascii⟩ := asciiDigit_of_decimal hc
    rw [hascii, hdigits d hd, isDecimal, hc, Option.isSome_some]
  | none =>
    have hdecimal : isDecimal c = false := by rw [isDecimal, hc, Option.isSome_none]
    cases hvalue : digitValue? 10 (asciiDigit c) with
    | none => exact hdecimal.symm
    | some d => exact absurd (isDecimal_of_digit hvalue) (by simp [hdecimal])

lemma firm_of_isDigit (h : isDigit c = true) : Firm (asciiDigit c) := by
  cases hc : decimalValue? c with
  | some d =>
    have hvalue := isSome_digitValue? c
    rw [isDecimal, hc] at hvalue
    obtain ⟨v, hv⟩ := Option.isSome_iff_exists.1 hvalue
    exact (inner_of_digitValue? hv).firm
  -- A digit of no decimal value stays as it is. It lies in one of few ranges, which hold no blanks.
  | none =>
    have hkin : digitsOutsideDecimal.has c = true := by
      rw [isDigit, isDecimal, hc] at h
      exact h
    obtain ⟨r, hr, hlow, hhigh⟩ := (Ranges.has_iff _ _).1 hkin
    obtain ⟨hascii, hblank⟩ := kin_not_blank r hr
    have hnot := hblank (c.toNat - r.1) (by omega)
    rw [Nat.add_sub_cancel' hlow, Char.ofNat_toNat] at hnot
    have hval : ¬ c.val < 0x80 := by
      have : ¬ c.toNat < 0x80 := by omega
      exact this
    rw [asciiDigit, hc]
    refine ⟨?_, ?_, ?_⟩
    · rintro rfl
      exact hval (by decide)
    · rintro rfl
      exact hval (by decide)
    · rw [isPadding, if_neg hval]
      exact hnot

lemma takeWhile_eq_self_of_rest {p q : Char → Bool} {cs : List Char} (hq : ∀ c ∈ cs, q c = false)
    (h : (cs.drop (cs.takeWhile p).length).all q = true) : cs.takeWhile p = cs := by
  have hend : cs.drop (cs.takeWhile p).length = [] := by
    apply List.eq_nil_iff_forall_not_mem.2
    intro c hc
    have hrest := List.all_eq_true.1 h c hc
    rw [hq c (List.mem_of_mem_drop hc)] at hrest
    cases hrest
  exact (List.takeWhile_prefix p).eq_of_length_le (List.drop_eq_nil_iff.1 hend)

lemma decimal_of_readSigned {ds : List Char} (s : Sign) (hne : ds ≠ [])
    (hds : ∀ c ∈ ds, isDigit c = true) {n : Int} (h : readSigned 10 (s.text ++ ds) = .ok n) :
    (∀ c ∈ ds, isDecimal c = true) ∧ ds.length ≤ maxDigits := by
  have hfirm : ∀ c ∈ ds.map asciiDigit, Firm c := by
    intro c hc
    obtain ⟨d, hd, rfl⟩ := List.mem_map.1 hc
    exact firm_of_isDigit (hds d hd)
  have hmap : ds.map asciiDigit ≠ [] := by simpa using hne
  obtain ⟨c, cs, hcs⟩ := List.exists_cons_of_ne_nil hmap
  have hc : Firm c := hfirm c (by simp [hcs])
  simp only [readSigned, s.map_asciiDigit, hcs, s.dropWhile_isPadding hc, s.sign_text hc,
    Literal.dropMark_ten] at h
  rw [← hcs] at h
  split at h
  · cases h
  · split at h
    · cases h
    · rename_i hshort
      split at h
      · rename_i hpadding
        -- No digit is padding, so nothing is left of the text where the decimal ones end.
        have hwhole := takeWhile_eq_self_of_rest (fun c hc => (hfirm c hc).isPadding) hpadding
        rw [hwhole, List.length_map] at hshort
        refine ⟨fun c hc => ?_, Nat.le_of_not_lt fun hlong => hshort ⟨trivial, hlong⟩⟩
        rw [← isSome_digitValue?]
        exact List.takeWhile_eq_self_iff.1 hwhole _ (List.mem_map_of_mem hc)
      · cases h

lemma readSigned_dashes (cs : List Char) : readSigned 10 ('-' :: '-' :: cs) = .error .notDigits :=
  rfl

lemma decimal_of_readDecimal {dashes : Nat} {ds : List Char} (hne : ds ≠ [])
    (hds : ∀ c ∈ ds, isDigit c = true) {n : Int}
    (h : readDecimal (String.ofList (List.replicate dashes '-' ++ ds)) = .ok n) :
    dashes ≤ 1 ∧ (∀ c ∈ ds, isDecimal c = true) ∧ ds.length ≤ maxDigits := by
  obtain ⟨m, hread⟩ : ∃ m, readSigned 10 (List.replicate dashes '-' ++ ds) = .ok m := by
    rw [readDecimal, String.toList_ofList] at h
    cases hread : readSigned 10 (List.replicate dashes '-' ++ ds) with
    | error unread => simp [hread, Except.mapError] at h
    | ok m => exact ⟨m, rfl⟩
  have hdashes : dashes ≤ 1 := by
    by_contra hmany
    obtain ⟨k, rfl⟩ : ∃ k, dashes = k + 2 := ⟨dashes - 2, by omega⟩
    rw [List.replicate_succ, List.replicate_succ, List.cons_append, List.cons_append,
      readSigned_dashes] at hread
    cases hread
  have hsign : ∃ s : Sign, List.replicate dashes '-' = s.text := by
    obtain rfl | rfl : dashes = 0 ∨ dashes = 1 := by omega
    · exact ⟨.none, rfl⟩
    · exact ⟨.minus, rfl⟩
  obtain ⟨s, hs⟩ := hsign
  rw [hs] at hread
  exact ⟨hdashes, decimal_of_readSigned s hne hds hread⟩

lemma exists_amounts {ds : List Char} (hne : ds ≠ []) (h : ∀ c ∈ ds, isDecimal c = true) :
    ∃ n, Amounts 10 ds n := by
  have hvalue : ∀ c ∈ ds, ∃ d, digitValue? 10 (asciiDigit c) = some d := by
    intro c hc
    rw [← Option.isSome_iff_exists, isSome_digitValue?]
    exact h c hc
  clear h
  induction ds using List.reverseRecOn with
  | nil => exact absurd rfl hne
  | append_singleton ds c ih =>
    obtain ⟨d, hd⟩ := hvalue c (by simp)
    obtain rfl | hds := eq_or_ne ds []
    · exact ⟨d, .first hd⟩
    · obtain ⟨n, hn⟩ := ih hds fun c hc => hvalue c (by simp [hc])
      exact ⟨n * 10 + d, hn.next hd⟩

end Number.Integer

namespace CommandLine

open Number Integer Text

/-- The word is a path, a colon, dashes, and digits of any kind. -/
structure Numbered (word path : String) (dashes : Nat) (digits : List Char) : Prop where
  eq : word = path ++ ":" ++ String.ofList (List.replicate dashes '-' ++ digits)
  path_ne : path ≠ ""
  digits_ne : digits ≠ []
  isDigit : ∀ c ∈ digits, isDigit c = true

inductive Specifies : String → String × Option Int → Prop
  | numbered {word path : String} {dashes : Nat} {digits : List Char} {n : Nat}
      (h : Numbered word path dashes digits) (hdashes : dashes ≤ 1) (hdigits : Amounts 10 digits n)
      (hlen : digits.length ≤ maxDigits) :
      Specifies word (path, some (if dashes = 1 then -n else n))
  | bare {word : String} (h : ∀ path dashes digits, ¬ Numbered word path dashes digits) :
      Specifies word (word, none)

def Misnumbered (word : String) : Prop :=
  ∃ path dashes digits, Numbered word path dashes digits ∧
    (2 ≤ dashes ∨ (∃ c ∈ digits, isDecimal c = false) ∨ maxDigits < digits.length)

lemma specifies_or_misnumbered (word : String) :
    (∃ spec, Specifies word spec) ∨ Misnumbered word := by
  by_cases h : ∃ path dashes digits, Numbered word path dashes digits
  · obtain ⟨path, dashes, digits, h⟩ := h
    by_cases hdigits : ∀ c ∈ digits, isDecimal c = true
    · obtain ⟨n, hn⟩ := exists_amounts h.digits_ne hdigits
      rcases Nat.lt_or_ge 1 dashes with hdashes | hdashes
      · exact .inr ⟨path, dashes, digits, h, .inl hdashes⟩
      · rcases Nat.lt_or_ge maxDigits digits.length with hlen | hlen
        · exact .inr ⟨path, dashes, digits, h, .inr (.inr hlen)⟩
        · exact .inl ⟨_, .numbered h hdashes hn hlen⟩
    · exact .inr ⟨path, dashes, digits, h, .inr (.inl (by simpa using hdigits))⟩
  · exact .inl ⟨_, .bare fun path dashes digits hword => h ⟨path, dashes, digits, hword⟩⟩

section Word

variable {word path : String} {dashes : Nat} {digits : List Char}

lemma Numbered.cutLast?_eq (h : Numbered word path dashes digits) :
    cutLast? ':' word.toList = some (path.toList, List.replicate dashes '-' ++ digits) := by
  have hcolon : ':' ∉ List.replicate dashes '-' ++ digits := by
    intro hmem
    rcases List.mem_append.1 hmem with hmem | hmem
    · exact absurd (List.eq_of_mem_replicate hmem) (by decide)
    · exact absurd (h.isDigit _ hmem) (by decide +kernel)
  have hlist : word.toList = path.toList ++ ':' :: (List.replicate dashes '-' ++ digits) := by
    rw [h.eq]
    simp [String.toList_append]
  rw [hlist, cutLast?_append hcolon]

lemma Numbered.dropWhile_dashes (h : Numbered word path dashes digits) :
    (List.replicate dashes '-' ++ digits).dropWhile (· == '-') = digits := by
  obtain ⟨c, cs, hcs⟩ := List.exists_cons_of_ne_nil h.digits_ne
  have hc : c ≠ '-' := by
    rintro rfl
    exact absurd (h.isDigit '-' (by simp [hcs])) (by decide +kernel)
  rw [List.dropWhile_append_of_pos (by simp), hcs, List.dropWhile_cons_of_neg (by simpa using hc)]

lemma Numbered.fileAndOrdinal_eq (h : Numbered word path dashes digits) :
    fileAndOrdinal word =
      match readDecimal (String.ofList (List.replicate dashes '-' ++ digits)) with
      | .ok n => .ok (path, some n)
      | .error fault => .error (.badNumber fault) := by
  have hpath : path.toList.isEmpty = false := by simpa using h.path_ne
  have hdigits : digits.isEmpty = false := by simpa using h.digits_ne
  have hall : digits.all Text.isDigit = true := List.all_eq_true.2 h.isDigit
  simp only [fileAndOrdinal, h.cutLast?_eq, h.dropWhile_dashes, hpath, hdigits, hall]
  rw [String.ofList_toList]
  rfl

lemma fileAndOrdinal_bare (h : ∀ path dashes digits, ¬ Numbered word path dashes digits) :
    fileAndOrdinal word = .ok (word, none) := by
  rw [fileAndOrdinal]
  split
  · rename_i path ordinal hcut
    dsimp only
    split
    · rename_i hpasses
      simp only [Bool.and_eq_true, Bool.not_eq_true', List.isEmpty_eq_false_iff, List.all_eq_true]
        at hpasses
      -- Where the number is taken off, the word has the form.
      refine absurd ⟨?_, ?_, hpasses.1.2, hpasses.2⟩ (h (String.ofList path)
        (ordinal.takeWhile (· == '-')).length (ordinal.dropWhile (· == '-')))
      · have hdashes : ordinal.takeWhile (· == '-') =
            List.replicate (ordinal.takeWhile (· == '-')).length '-' := by
          apply List.eq_replicate_of_mem
          intro c hc
          simpa using List.mem_takeWhile_imp hc
        rw [← hdashes, List.takeWhile_append_dropWhile]
        apply String.toList_inj.1
        rw [eq_of_cutLast? hcut]
        simp [String.toList_append]
      · simpa using hpasses.1.1
    · rfl
  · rfl

lemma Numbered.read_number (h : Numbered word path dashes digits) (hdashes : dashes ≤ 1) {n : Nat}
    (hdigits : Amounts 10 digits n) (hlen : digits.length ≤ maxDigits) :
    readDecimal (String.ofList (List.replicate dashes '-' ++ digits)) =
      .ok (if dashes = 1 then -n else n) := by
  obtain rfl | rfl : dashes = 0 ∨ dashes = 1 := by omega
  · exact (Spells.read_decimal .none hdigits hlen).2
  · exact (Spells.read_decimal .minus hdigits hlen).2

lemma Specifies.read {spec : String × Option Int} (h : Specifies word spec) :
    fileAndOrdinal word = .ok spec := by
  cases h with
  | numbered h hdashes hdigits hlen => rw [h.fileAndOrdinal_eq, h.read_number hdashes hdigits hlen]
  | bare h => exact fileAndOrdinal_bare h

lemma Misnumbered.read (h : Misnumbered word) :
    ∃ fault, fileAndOrdinal word = .error (.badNumber fault) := by
  obtain ⟨path, dashes, digits, h, hbad⟩ := h
  rw [h.fileAndOrdinal_eq]
  cases hread : readDecimal (String.ofList (List.replicate dashes '-' ++ digits)) with
  | error fault => exact ⟨fault, rfl⟩
  | ok n =>
    obtain ⟨hdashes, hdecimal, hlen⟩ := decimal_of_readDecimal h.digits_ne h.isDigit hread
    rcases hbad with hbad | ⟨c, hc, hbad⟩ | hbad
    · omega
    · rw [hdecimal c hc] at hbad
      cases hbad
    · omega

end Word

lemma fileAndOrdinal_eq_ok_iff {word : String} {spec : String × Option Int} :
    fileAndOrdinal word = .ok spec ↔ Specifies word spec := by
  refine ⟨fun h => ?_, Specifies.read⟩
  rcases specifies_or_misnumbered word with ⟨spec', hspec⟩ | hbad
  · cases h.symm.trans hspec.read
    exact hspec
  · obtain ⟨fault, hfault⟩ := hbad.read
    cases h.symm.trans hfault

lemma misnumbered_of_error {word : String} {f : Failure} (h : fileAndOrdinal word = .error f) :
    Misnumbered word ∧ ∃ fault, f = .badNumber fault := by
  rcases specifies_or_misnumbered word with ⟨spec, hspec⟩ | hbad
  · cases h.symm.trans hspec.read
  · obtain ⟨fault, hfault⟩ := hbad.read
    cases h.symm.trans hfault
    exact ⟨hbad, fault, rfl⟩

def written (spec : String × Int) : String := spec.1 ++ ":" ++ text spec.2

lemma numbered_written {spec : String × Int} (hpath : spec.1 ≠ "") :
    ∃ dashes digits, Numbered (written spec) spec.1 dashes digits ∧
      String.ofList (List.replicate dashes '-' ++ digits) = text spec.2 := by
  have hliteral := literal_toDigits spec.2.natAbs
  have htext : String.ofList (List.replicate (if spec.2 < 0 then 1 else 0) '-' ++
      Nat.toDigits 10 spec.2.natAbs) = text spec.2 := by
    apply String.toList_inj.1
    rw [String.toList_ofList, toList_text]
    by_cases hnegative : spec.2 < 0 <;> simp [hnegative, signed]
  refine ⟨_, _, ⟨?_, hpath, hliteral.ne_nil, fun c hc => ?_⟩, htext⟩
  · rw [htext, written]
  · rw [Text.isDigit, isDecimal, decimalValue?_of_isDigit (hliteral.digits c hc)]
    rfl

lemma fileAndOrdinal_written {spec : String × Int} (hpath : spec.1 ≠ "")
    (hlen : (Nat.toDigits 10 spec.2.natAbs).length ≤ maxDigits) :
    fileAndOrdinal (written spec) = .ok (spec.1, some spec.2) := by
  obtain ⟨dashes, digits, hword, htext⟩ := numbered_written hpath
  rw [hword.fileAndOrdinal_eq, htext, readDecimal_text _ hlen]

/-- The words are read as what they specify, and fail only if one of them is misnumbered. Files that are
written with their numbers come back. -/
theorem files_read_or_misnumbered (words : List String) (specs : List (String × Int)) :
    (∀ files, words.mapM fileAndOrdinal = .ok files ↔ List.Forall₂ Specifies words files) ∧
      ((∃ fault, words.mapM fileAndOrdinal = .error (.badNumber fault)) ↔
        ∃ word ∈ words, Misnumbered word) ∧
      ((∀ spec ∈ specs, spec.1 ≠ "" ∧ (Nat.toDigits 10 spec.2.natAbs).length ≤ maxDigits) →
        (specs.map written).mapM fileAndOrdinal =
          .ok (specs.map fun spec => (spec.1, some spec.2))) := by
  refine ⟨fun files => ?_, ⟨?_, ?_⟩, fun hspecs => ?_⟩
  · simp only [mapM_eq_ok_iff, fileAndOrdinal_eq_ok_iff]
  · rintro ⟨fault, hfault⟩
    obtain ⟨word, hword, hfailed⟩ := exists_of_mapM_error hfault
    exact ⟨word, hword, (misnumbered_of_error hfailed).1⟩
  · rintro ⟨word, hword, hbad⟩
    cases hread : words.mapM fileAndOrdinal with
    | error f =>
      obtain ⟨word', -, hfailed⟩ := exists_of_mapM_error hread
      obtain ⟨-, fault, rfl⟩ := misnumbered_of_error hfailed
      exact ⟨fault, rfl⟩
    | ok files =>
      obtain ⟨fault, hfault⟩ := hbad.read
      obtain ⟨spec, hspec⟩ := exists_of_mapM_ok hread word hword
      cases hfault.symm.trans hspec
  · rw [mapM_eq_ok_iff, List.forall₂_map_left_iff, List.forall₂_map_right_iff, List.forall₂_same]
    exact fun spec hspec => fileAndOrdinal_written (hspecs spec hspec).1 (hspecs spec hspec).2

theorem files_read_drive :
    List.Forall₂ Specifies ["C:/cfg.toml", "C:/cfg.toml:5", "a:+5"]
        [("C:/cfg.toml", none), ("C:/cfg.toml", some 5), ("a:+5", none)] ∧
      ["C:/cfg.toml:-7", "a::0"].mapM fileAndOrdinal =
        .ok [("C:/cfg.toml", some (-7)), ("a:", some 0)] := by
  have hfiles : (["C:/cfg.toml", "C:/cfg.toml:5", "a:+5"].mapM fileAndOrdinal).toOption =
      some [("C:/cfg.toml", none), ("C:/cfg.toml", some 5), ("a:+5", none)] := by decide +kernel
  have hwritten : [("C:/cfg.toml", -7), ("a:", 0)].map written = ["C:/cfg.toml:-7", "a::0"] := by
    decide +kernel
  obtain ⟨hread, -, hback⟩ := files_read_or_misnumbered
    ["C:/cfg.toml", "C:/cfg.toml:5", "a:+5"] [("C:/cfg.toml", -7), ("a:", 0)]
  rw [hwritten] at hback
  exact ⟨(hread _).1 (eq_ok_of_toOption hfiles), hback (by decide)⟩

theorem files_misnumbered :
    (∀ ordinal ∈ ["--5", "²"], ∀ digits, ordinal.toList = digits ∨ ordinal.toList = '-' :: digits →
        ∃ c ∈ digits, isDecimal c = false) ∧
      ∀ word ∈ ["a:--5", "a:²"],
        ∃ fault, [word].mapM fileAndOrdinal = .error (.badNumber fault) := by
  have hdashes : Misnumbered "a:--5" :=
    ⟨"a", 2, ['5'], ⟨rfl, by decide, by decide, List.all_eq_true.1 (by decide)⟩,
      .inl (Nat.le_refl 2)⟩
  have hsquare : Misnumbered "a:²" :=
    ⟨"a", 0, ['²'], ⟨rfl, by decide, by decide, List.all_eq_true.1 (by decide +kernel)⟩,
      .inr (.inl ⟨'²', List.mem_singleton_self _, by decide +kernel⟩)⟩
  have hread : ∀ word ∈ ["a:--5", "a:²"], Misnumbered word :=
    List.forall_mem_cons.2 ⟨hdashes, List.forall_mem_singleton.2 hsquare⟩
  refine ⟨?_, fun word hword => ?_⟩
  · rw [List.forall_mem_cons, List.forall_mem_singleton]
    constructor
    · rintro digits (rfl | hdigits)
      · exact ⟨'-', by decide, by decide +kernel⟩
      · cases hdigits
        exact ⟨'-', by decide, by decide +kernel⟩
    · rintro digits (rfl | hdigits)
      · exact ⟨'²', by decide, by decide +kernel⟩
      · cases hdigits
  · obtain ⟨fault, hfault⟩ := (hread word hword).read
    rw [List.mapM_cons, hfault]
    exact ⟨fault, rfl⟩

end CommandLine

end LayeredConfig
