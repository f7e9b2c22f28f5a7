/-! Cutting text at a literal separator. -/

namespace LayeredConfig.Text

def cut? (sep : List Char) : List Char → Option (List Char × List Char)
  | [] => if sep.isEmpty then some ([], []) else none
  | c :: cs =>
    if sep.isPrefixOf (c :: cs) then some ([], (c :: cs).drop sep.length)
    else (cut? sep cs).map fun p => (c :: p.1, p.2)

theorem eq_of_cut? {sep cs a b : List Char} (h : cut? sep cs = some (a, b)) :
    cs = a ++ sep ++ b := by
  induction cs generalizing a b with
  | nil => cases sep <;> simp_all [cut?]
  | cons c cs ih =>
    rw [cut?] at h
    split at h
    · rename_i hp
      obtain ⟨rfl, rfl⟩ := by simpa using h
      obtain ⟨t, ht⟩ := List.isPrefixOf_iff_prefix.1 hp
      simp [← ht]
    · obtain ⟨p, hp, e⟩ := Option.map_eq_some_iff.1 h
      obtain ⟨rfl, rfl⟩ := by simpa using e
      simp [ih hp]

theorem length_lt_of_cut? {sep cs a b : List Char} (hs : sep ≠ []) (h : cut? sep cs = some (a, b)) :
    b.length < cs.length := by
  have := congrArg List.length (eq_of_cut? h)
  have : 0 < sep.length := List.length_pos_iff.2 hs
  simp at *
  omega

def pieces (sep : List Char) (hs : sep ≠ []) (cs : List Char) : List (List Char) :=
  match _h : cut? sep cs with
  | none => [cs]
  | some (a, b) => a :: pieces sep hs b
termination_by cs.length
decreasing_by exact length_lt_of_cut? hs _h

theorem pieces_ne_nil (sep : List Char) (hs : sep ≠ []) (cs : List Char) :
    pieces sep hs cs ≠ [] := by
  rw [pieces]
  split <;> simp

theorem eq_of_pieces_singleton {sep cs p : List Char} {hs : sep ≠ []}
    (h : pieces sep hs cs = [p]) : p = cs := by
  rw [pieces] at h
  split at h
  · exact (List.cons.inj h).1.symm
  · exact absurd (List.cons.inj h).2 (pieces_ne_nil _ _ _)

def contains (sub cs : List Char) : Bool := (cut? sub cs).isSome

def cutLast? (c : Char) (cs : List Char) : Option (List Char × List Char) :=
  if c ∈ cs then
    some ((cs.reverse.dropWhile (· != c)).tail.reverse, (cs.reverse.takeWhile (· != c)).reverse)
  else none

def substitute (c : Char) (by' : List Char) (cs : List Char) : List Char :=
  cs.flatMap fun d => if d = c then by' else [d]

def startsWith (lead s : String) : Bool := lead.toList.isPrefixOf s.toList

def after? (lead s : String) : Option String :=
  if startsWith lead s then some (String.ofList (s.toList.drop lead.toList.length)) else none

def join (sep : String) : List String → String
  | [] => ""
  | [s] => s
  | s :: t :: r => s ++ sep ++ join sep (t :: r)

theorem join_append_cons (sep s t : String) (r : List String) :
    join sep ((s ++ sep ++ t) :: r) = join sep (s :: t :: r) := by
  cases r with
  | nil => rfl
  | cons u r => simp [join, String.append_assoc]

theorem join_ne_empty {sep : String} (h : sep ≠ "") (s t : String) (r : List String) :
    join sep (s :: t :: r) ≠ "" := by
  simp [join, h]

theorem after?_append (lead s : String) : after? lead (lead ++ s) = some s := by
  simp [after?, startsWith, String.toList_append]

end LayeredConfig.Text
