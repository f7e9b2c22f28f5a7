/-! Blank characters, and text with the blanks at its ends removed. -/

namespace LayeredConfig.Text

def isBlank (c : Char) : Bool :=
  let n := c.toNat
  (0x09 ≤ n && n ≤ 0x0d) || (0x1c ≤ n && n ≤ 0x20) || n == 0x85 || n == 0xa0 || n == 0x1680 ||
    (0x2000 ≤ n && n ≤ 0x200a) || n == 0x2028 || n == 0x2029 || n == 0x202f || n == 0x205f ||
    n == 0x3000

instance (found : Option Char) : Decidable (∀ c ∈ found, isBlank c = false) :=
  Option.decidableForallMem found

def trimStart (cs : List Char) : List Char := cs.dropWhile isBlank

def trimEnd (cs : List Char) : List Char := (cs.reverse.dropWhile isBlank).reverse

def trim (cs : List Char) : List Char := trimEnd (trimStart cs)

def strip (s : String) : String := String.ofList (trim s.toList)

@[simp] theorem trim_nil : trim [] = [] := rfl

theorem trimStart_eq_self {cs : List Char} (h : ∀ c ∈ cs.head?, isBlank c = false) :
    trimStart cs = cs := by
  cases cs with
  | nil => rfl
  | cons c cs => simp [trimStart, h c rfl]

theorem trimEnd_eq_self {cs : List Char} (h : ∀ c ∈ cs.getLast?, isBlank c = false) :
    trimEnd cs = cs := by
  have : trimStart cs.reverse = cs.reverse :=
    trimStart_eq_self fun c hc => h c (by simpa [List.head?_reverse] using hc)
  show (trimStart cs.reverse).reverse = cs
  rw [this, List.reverse_reverse]

theorem trim_eq_self {cs : List Char} (h : ∀ c ∈ cs.head?, isBlank c = false)
    (h' : ∀ c ∈ cs.getLast?, isBlank c = false) : trim cs = cs := by
  rw [trim, trimStart_eq_self h, trimEnd_eq_self h']

theorem trimStart_append {lead cs : List Char} (h : ∀ c ∈ lead, isBlank c = true) :
    trimStart (lead ++ cs) = trimStart cs :=
  List.dropWhile_append_of_pos h

theorem trimEnd_append {cs tail : List Char} (h : ∀ c ∈ tail, isBlank c = true) :
    trimEnd (cs ++ tail) = trimEnd cs := by
  rw [trimEnd, trimEnd, List.reverse_append]
  congr 1
  exact trimStart_append fun c hc => h c (List.mem_reverse.1 hc)

theorem trim_surrounded {lead cs tail : List Char} (hlead : ∀ c ∈ lead, isBlank c = true)
    (htail : ∀ c ∈ tail, isBlank c = true) (hstart : ∀ c ∈ cs.head?, isBlank c = false)
    (hend : ∀ c ∈ cs.getLast?, isBlank c = false) : trim (lead ++ cs ++ tail) = cs := by
  rw [trim, List.append_assoc, trimStart_append hlead]
  cases cs with
  | nil =>
    have htrim : trimStart (tail ++ []) = trimStart [] := trimStart_append htail
    rw [List.append_nil] at htrim
    rw [List.nil_append, htrim]
    rfl
  | cons c cs =>
    rw [trimStart_eq_self (by simpa using hstart), trimEnd_append htail, trimEnd_eq_self hend]

theorem trimEnd_append_cons {c : Char} (h : isBlank c = false) (cs tail : List Char) :
    trimEnd (cs ++ c :: tail) = cs ++ c :: trimEnd tail := by
  rw [trimEnd, trimEnd, List.reverse_append, List.reverse_cons, List.append_assoc,
    List.singleton_append, List.dropWhile_append]
  split
  · rename_i hempty
    simp [List.isEmpty_iff.1 hempty, h]
  · simp

theorem trim_trimEnd (cs : List Char) : trim (trimEnd cs) = trim cs := by
  let tail := (cs.reverse.takeWhile isBlank).reverse
  have htail : ∀ c ∈ tail, isBlank c = true := fun c hc =>
    List.all_eq_true.1 List.all_takeWhile c (List.mem_reverse.1 hc)
  have hcs : trimEnd cs ++ tail = cs := by
    rw [trimEnd, ← List.reverse_append, List.takeWhile_append_dropWhile, List.reverse_reverse]
  have hstart : trimStart cs =
      if (trimStart (trimEnd cs)).isEmpty then trimStart tail else trimStart (trimEnd cs) ++ tail :=
    (congrArg trimStart hcs).symm.trans List.dropWhile_append
  rw [trim, trim, hstart]
  split
  · rename_i hempty
    have hnil : trimStart (tail ++ []) = trimStart [] := trimStart_append htail
    rw [List.append_nil] at hnil
    rw [List.isEmpty_iff.1 hempty, hnil]
    rfl
  · rw [trimEnd_append htail]

end LayeredConfig.Text
