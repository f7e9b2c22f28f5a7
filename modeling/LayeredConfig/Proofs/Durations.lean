import LayeredConfig.Conversion.Registry
import LayeredConfig.Proofs.Literals
import LayeredConfig.Proofs.Rounding

/-! Durations written as a whole number of units. The number is read as a binary one, so the duration is
exact if and only if binary floating point has the number; only in milliseconds do the numbers that it
lacks come before the longest duration. -/

namespace LayeredConfig.Number.Integer.Literal

open Text

variable {ds : List Char}

lemma asciiDigit_eq (h : Literal ds) : ds.map asciiDigit = ds := h.map_asciiDigit false

lemma isDecimal (h : Literal ds) : ∀ c ∈ ds, isDecimal c = true := by
  intro c hc
  rw [Text.isDecimal, decimalValue?_of_isDigit (h.digits c hc), Option.isSome_some]

lemma toLower_eq (h : Literal ds) : ds.map Char.toLower = ds := by
  calc ds.map Char.toLower = ds.map id :=
        List.map_congr_left fun c hc => Plain.toLower (.inr (h.digits c hc))
    _ = ds := List.map_id _

end LayeredConfig.Number.Integer.Literal

namespace LayeredConfig.Number.Binary64

open Integer

variable {ds : List Char}

lemma dropUnderscores?_digits (h : ∀ c ∈ ds, c.isDigit = true) (b : Bool) :
    dropUnderscores? b ds = some ds := by
  induction ds generalizing b with
  | nil => rw [dropUnderscores?]
  | cons c cs ih =>
    rw [List.forall_mem_cons] at h
    have hc : c ≠ '_' := Plain.ne_of_toNat (.inr h.1) (.inr (by decide))
    rw [dropUnderscores?, ih h.2]
    · rfl
    · exact fun _ _ he => absurd he hc
    · exact fun he => absurd he hc

lemma readUnsigned?_digits (h : Literal ds) :
    readUnsigned? false ds = some (ofDecimal false (Nat.ofDigitChars 10 ds 0) 0) := by
  have hwhole : ds.takeWhile Char.isDigit = ds := List.takeWhile_eq_self_iff.2 h.digits
  have hempty : ds.isEmpty = false := by simpa using h.ne_nil
  have hfold : ds.foldl (fun n c => n * 10 + (c.toNat - 0x30)) 0 = Nat.ofDigitChars 10 ds 0 := by
    simp only [Nat.ofDigitChars_eq_foldl, Nat.mul_comm 10]
    rfl
  simp [readUnsigned?, hwhole, hempty, hfold]

lemma read?_digits (h : Literal ds) :
    read? (String.ofList ds) = some (ofDecimal false (Nat.ofDigitChars 10 ds 0) 0) := by
  obtain ⟨c, cs, hcs⟩ := List.exists_cons_of_ne_nil h.ne_nil
  have hc : c.isDigit = true := h.digits c (by simp [hcs])
  have hsign : sign ds = (false, ds) := h.sign_signed false
  have hword : ∀ word : String, word.toList.head?.any Char.isDigit = false →
      lowerWord (sign ds).2 ≠ word := by
    rintro word hword rfl
    rw [hsign, lowerWord, h.toLower_eq, String.toList_ofList, hcs, List.head?_cons, Option.any_some,
      hc] at hword
    cases hword
  rw [read?, String.toList_ofList, h.asciiDigit_eq, dropUnderscores?_digits h.digits]
  simp only [Option.bind_eq_bind, Option.bind_some]
  split
  · exact absurd ‹_› (hword "inf" (by decide))
  · exact absurd ‹_› (hword "infinity" (by decide))
  · exact absurd ‹_› (hword "nan" (by decide))
  · change readUnsigned? (sign ds).1 (sign ds).2 = _
    rw [hsign, readUnsigned?_digits h]

end LayeredConfig.Number.Binary64

namespace LayeredConfig.Duration

open Number Binary64 Integer Text

lemma microseconds?_whole {x : Binary64} {n : Nat} (h : x.IsWhole n) (unit : Unit) :
    microseconds? unit x = some (n * unit.microseconds) := by
  obtain ⟨m, e, rfl, hnum⟩ := h
  have hround : Binary64.round false 0 (denominator e) = .finite false 0 minExponent := if_pos rfl
  simp only [microseconds?, hnum, Nat.mul_mod_left, Nat.mul_div_cancel _ (denominator_pos e),
    Nat.mul_zero, hround, roundDiv_zero, Nat.add_zero]

def letters : Option Unit → List Char
  | none => []
  | some .millisecond => ['m', 's']
  | some .second => ['s']
  | some .minute => ['m']
  | some .hour => ['h']
  | some .day => ['d']

def unitOf (unit : Option Unit) : Unit := unit.getD .second

def range : Nat := (maxDays.toNat + 1) * Unit.day.microseconds

lemma range_eq : range = 86400000000000000000 := rfl

lemma microseconds_pos (unit : Unit) : 0 < unit.microseconds := by cases unit <;> decide

variable {ds : List Char}

lemma written?_whole (h : Literal ds) (unit : Option Unit) :
    written? (ds ++ letters unit) = some ⟨ds, letters unit⟩ := by
  obtain ⟨c, cs, hcs⟩ := List.exists_cons_of_ne_nil h.ne_nil
  have hstart : trimStart (ds ++ letters unit) = ds ++ letters unit := by
    refine trimStart_eq_self fun d hd => ?_
    rw [hcs, List.cons_append, List.head?_cons, Option.mem_some_iff] at hd
    exact Plain.isBlank (.inr (h.digits d (by simp [hcs, hd])))
  have hwhole : (ds ++ letters unit).takeWhile isDecimal = ds := by
    rw [List.takeWhile_append_of_pos h.isDecimal]
    cases unit with
    | none => exact List.append_nil ds
    | some unit => cases unit <;> exact List.append_nil ds
  have hempty : ds.isEmpty = false := by simpa using h.ne_nil
  simp only [written?, hstart, hwhole, List.drop_left, hempty]
  cases unit with
  | none => exact congrArg (fun amount => some (Written.mk amount [])) (List.append_nil ds)
  | some unit =>
    cases unit <;> exact congrArg (fun amount => some (Written.mk amount _)) (List.append_nil ds)

lemma unit?_letters (unit : Option Unit) : unit? (letters unit) = some (unitOf unit) := by
  cases unit with
  | none => rfl
  | some unit => cases unit <;> rfl

lemma lt_of_range {n : Nat} {unit : Unit} (h : n * unit.microseconds < range) : n < 10 ^ 20 := by
  have hle : n * 1000 ≤ n * unit.microseconds :=
    Nat.mul_le_mul_left n (by cases unit <;> decide)
  rw [range_eq] at h
  omega

lemma lt_of_range_of_ne {n : Nat} {unit : Option Unit} (hunit : unit ≠ some .millisecond)
    (h : n * (unitOf unit).microseconds < range) : n < 2 ^ 53 := by
  have hle : n * 1000000 ≤ n * (unitOf unit).microseconds := by
    refine Nat.mul_le_mul_left n ?_
    cases unit with
    | none => decide
    | some unit =>
      cases unit with
      | millisecond => exact absurd rfl hunit
      | second | minute | hour | day => decide
  rw [range_eq] at h
  omega

lemma read_whole (h : Literal ds) {n : Nat} (hn : Nat.ofDigitChars 10 ds 0 = n) (hmax : n < 10 ^ 20)
    (unit : Option Unit) {k : Nat} (hk : nearest n * (unitOf unit).microseconds = k) :
    read (String.ofList (ds ++ letters unit)) =
      if k < range then .ok (some k) else .error (.tooManyDays (k / Unit.day.microseconds : Nat)) := by
  have hwhole := microseconds?_whole (ofDecimal_whole hmax) (unitOf unit)
  rw [read, String.toList_ofList, written?_whole h unit]
  simp only [ofWritten, unit?_letters, read?_digits h, hn, Option.bind_some, hwhole, hk]
  by_cases hrange : k < range
  · have hdays : ¬ maxDays < (k : Int) / 86400000000 := by
      rw [range_eq] at hrange
      rw [maxDays]
      omega
    rw [if_pos hrange, if_neg hdays]
    rfl
  · have hdays : maxDays < (k : Int) / 86400000000 := by
      rw [range_eq] at hrange
      rw [maxDays]
      omega
    rw [if_neg hrange, if_pos hdays]
    rfl

end LayeredConfig.Duration

namespace LayeredConfig.Conversion

open Number Integer Binary64

variable {σ : Type}

lemma Scalar.readDuration_whole {ds : List Char} (h : Literal ds) {n : Nat}
    (hn : Nat.ofDigitChars 10 ds 0 = n) (hmax : n < 10 ^ 20) (unit : Option Duration.Unit) {k : Nat}
    (hk : nearest n * (Duration.unitOf unit).microseconds = k) :
    readDuration (String.ofList (ds ++ Duration.letters unit)) =
      if k < Duration.range then .ok (some (.duration k))
      else .error (.duration (.tooManyDays (k / Duration.Unit.day.microseconds : Nat))) := by
  rw [readDuration, Duration.read_whole h hn hmax unit hk]
  by_cases hrange : k < Duration.range
  · rw [if_pos hrange, if_pos hrange]
    rfl
  · rw [if_neg hrange, if_neg hrange]

/-- A whole number of units is converted to a nearest number that binary floating point has, and so to
the exact duration if and only if it has the number itself. In every unit but the millisecond it has all
numbers within the range of durations. A number that is rounded up beyond the range is refused. -/
theorem Converter.duration_exact_iff {ds : List Char} {n u : Nat} (h : Literal ds)
    (hn : Nat.ofDigitChars 10 ds 0 = n) (unit : Option Duration.Unit)
    (hu : (Duration.unitOf unit).microseconds = u) (hrange : n * u < Duration.range)
    (id : Nat) (q : Request σ) :
    ∃ outcome k, (Converter.duration id).run (String.ofList (ds ++ Duration.letters unit)) q =
        pure ⟨[], outcome⟩ ∧
      (outcome = .ok (some (.duration (n * u : Nat))) ↔ Holds n) ∧
      (unit ≠ some .millisecond → Holds n) ∧
      Nearest n k ∧ outcome = if k * u < Duration.range then .ok (some (.duration (k * u : Nat)))
        else .error (.duration (.tooManyDays (k * u / Duration.Unit.day.microseconds : Nat))) := by
  subst hu
  have hpos := Duration.microseconds_pos (Duration.unitOf unit)
  have hnearest := nearest_spec n
  have hread := Scalar.readDuration_whole h hn (Duration.lt_of_range hrange) unit rfl
  refine ⟨_, nearest n, congrArg (fun outcome => pure (Result.mk [] outcome)) hread, ?_,
    fun hunit => holds_of_lt (Duration.lt_of_range_of_ne hunit hrange), hnearest, rfl⟩
  rw [← hnearest.eq_iff]
  constructor
  · intro hexact
    split at hexact
    · simp only [Except.ok.injEq, Option.some.injEq, Value.duration.injEq] at hexact
      exact Nat.eq_of_mul_eq_mul_right hpos (Int.ofNat_inj.1 hexact)
    · cases hexact
  · intro hkept
    rw [hkept, if_pos hrange]

theorem Converter.duration_exact_beyond_mantissa :
    (Converter.duration 6).run (String.ofList (['0', '9', '0', '0', '7', '1', '9', '9', '2', '5', '4', '7',
        '4', '0', '9', '9', '4'] ++ ['m', 's']))
      (Registry.request ⟨"timeout", none, none, .empty⟩ true (.bare .duration) [] : Request Unit) =
    pure ⟨[], .ok (some (.duration 9007199254740994000))⟩ := by
  have hdigits : Literal ['0', '9', '0', '0', '7', '1', '9', '9', '2', '5', '4', '7', '4', '0', '9', '9',
    '4'] := ⟨by decide, List.all_eq_true.1 rfl⟩
  obtain ⟨outcome, k, hrun, hexact, -⟩ := duration_exact_iff hdigits rfl (some .millisecond) rfl
    (by decide) 6 (Registry.request ⟨"timeout", none, none, .empty⟩ true (.bare .duration) [] : Request Unit)
  exact hrun.trans (congrArg (fun outcome => pure (Result.mk [] outcome))
    (hexact.2 ⟨4503599627370497, 1, by decide, rfl⟩))

theorem Converter.duration_drops_millisecond :
    9007199254740993 * Duration.Unit.millisecond.microseconds < Duration.range ∧
      (Converter.duration 6).run "9007199254740993ms"
        (Registry.request ⟨"timeout", none, none, .empty⟩ true (.bare .duration) [] : Request Unit) =
        pure ⟨[], .ok (some (.duration 9007199254740992000))⟩ ∧
      Value.duration 9007199254740992000 ≠
        .duration (9007199254740993 * Duration.Unit.millisecond.microseconds) := by
  have hread : Duration.read "9007199254740993ms" = .ok (some 9007199254740992000) := by
    decide +kernel
  refine ⟨by decide, ?_, ?_⟩
  · change pure (Result.mk [] (Scalar.readDuration _)) = _
    rw [Scalar.readDuration, hread]
    rfl
  · rw [Ne, Value.duration.injEq]
    decide

end LayeredConfig.Conversion
