import LayeredConfig.Conversion.Registry
import Mathlib.Data.List.Nodup
import Mathlib.Tactic.Common

/-! Names of enumerations, read in any letter case. The name that a member goes by is found whatever
the values are written like. An alias is not looked for, so its text is taken for a value. -/

namespace LayeredConfig

lemma find?_eq_some_of_unique {α : Type} {l : List α} {p : α → Bool} {a : α} (ha : a ∈ l)
    (hp : p a = true) (hunique : ∀ b ∈ l, p b = true → b = a) : l.find? p = some a := by
  obtain ⟨b, hb⟩ := Option.isSome_iff_exists.1 (List.find?_isSome.2 ⟨a, ha, hp⟩)
  rw [hb, hunique b (List.mem_of_find?_eq_some hb) (List.find?_some hb)]

namespace Text

variable {c d : Char}

lemma toNat_toLower (c : Char) :
    c.toLower.toNat = if 0x41 ≤ c.toNat ∧ c.toNat ≤ 0x5a then c.toNat + 0x20 else c.toNat := by
  by_cases h : 0x41 ≤ c.toNat ∧ c.toNat ≤ 0x5a
  · have hlower : c.toLower.toNat = (c.val + ('a'.val - 'A'.val)).toNat :=
      congrArg Char.toNat (dif_pos h)
    have hsum : (c.val + ('a'.val - 'A'.val)).toNat = (c.toNat + 0x20) % 2 ^ 32 := rfl
    rw [if_pos h, hlower, hsum]
    omega
  · have hlower : c.toLower = c := dif_neg h
    rw [if_neg h, hlower]

lemma ascii_of_toLower (h : c.toLower = d.toLower) (hd : d.val < 0x80) : c.val < 0x80 := by
  have hc := congrArg Char.toNat h
  have hd' : d.toNat < 0x80 := hd
  rw [toNat_toLower, toNat_toLower] at hc
  change c.toNat < 0x80
  split at hc <;> split at hc <;> omega

lemma isBlank_toLower (c : Char) : isBlank c.toLower = isBlank c := by
  by_cases h : 0x41 ≤ c.toNat ∧ c.toNat ≤ 0x5a
  · have hc : isBlank c = false := by
      simp [isBlank]
      omega
    have hlower : isBlank c.toLower = false := by
      simp [isBlank, toNat_toLower, h]
      omega
    rw [hc, hlower]
  · have hc : c.toLower = c := Char.toNat_inj.1 (by rw [toNat_toLower, if_neg h])
    rw [hc]

def Recased (letters : List Char) (name : String) : Prop :=
  letters.map Char.toLower = name.toList.map Char.toLower

namespace Recased

variable {letters : List Char} {name : String}

lemma lower_eq (h : Recased letters name) (hname : ∀ c ∈ name.toList, c.val < 0x80) :
    lower (String.ofList letters) = lower name := by
  have hletters : ∀ c ∈ letters, c.val < 0x80 := by
    intro c hc
    have hmem : c.toLower ∈ name.toList.map Char.toLower := h ▸ List.mem_map_of_mem hc
    obtain ⟨d, hd, heq⟩ := List.mem_map.1 hmem
    exact ascii_of_toLower heq.symm (hname d hd)
  rw [lower, lower, String.toList_ofList, lowerChars_ascii hletters, lowerChars_ascii hname]
  exact congrArg String.ofList h

lemma solid {found found' : Option Char}
    (h : found.map Char.toLower = found'.map Char.toLower)
    (hsolid : ∀ c ∈ found', isBlank c = false) : ∀ c ∈ found, isBlank c = false := by
  rintro c rfl
  cases found' with
  | none => cases h
  | some d =>
    rw [Option.map_some, Option.map_some, Option.some.injEq] at h
    rw [← isBlank_toLower, h, isBlank_toLower]
    exact hsolid d rfl

lemma strip_surrounded (h : Recased letters name) {before after : List Char}
    (hbefore : ∀ c ∈ before, isBlank c = true) (hafter : ∀ c ∈ after, isBlank c = true)
    (hstart : ∀ c ∈ name.toList.head?, isBlank c = false)
    (hend : ∀ c ∈ name.toList.getLast?, isBlank c = false) :
    strip (String.ofList (before ++ letters ++ after)) = String.ofList letters := by
  have hhead : letters.head?.map Char.toLower = name.toList.head?.map Char.toLower := by
    rw [← List.head?_map, ← List.head?_map, h]
  have hlast : letters.getLast?.map Char.toLower = name.toList.getLast?.map Char.toLower := by
    rw [← List.getLast?_map, ← List.getLast?_map, h]
  rw [strip, String.toList_ofList,
    trim_surrounded hbefore hafter (solid hhead hstart) (solid hlast hend)]

end Recased

end Text

namespace Conversion

open Text

namespace Enumeration

variable {e : Enumeration} {d : String × Data} {m : Member}

/-- ASCII names, aliases included, no two of them alike but for letter case. -/
structure Named (e : Enumeration) : Prop where
  ascii : ∀ d ∈ e.defined, ∀ c ∈ d.1.toList, c.val < 0x80
  apart : (e.defined.map fun d => lower d.1).Nodup

lemma exists_foldl_define (ds : List (String × Data)) (start : List Member) :
    ∃ more, ds.foldl define start = start ++ more ∧
      (more.map fun m => (m.name, m.value)).Sublist ds := by
  induction ds generalizing start with
  | nil => exact ⟨[], (List.append_nil start).symm, List.Sublist.slnil⟩
  | cons d ds ih =>
    rw [List.foldl_cons, define]
    split
    · obtain ⟨more, hmore, hsub⟩ := ih start
      exact ⟨more, hmore, hsub.cons d⟩
    · obtain ⟨more, hmore, hsub⟩ := ih (start ++ [⟨d.1, d.2⟩])
      exact ⟨⟨d.1, d.2⟩ :: more, by rw [hmore, List.append_assoc, List.singleton_append],
        hsub.cons_cons d⟩

lemma defined_of_member (hm : m ∈ e.members) : (m.name, m.value) ∈ e.defined := by
  obtain ⟨more, hmore, hsub⟩ := exists_foldl_define e.defined []
  rw [members, hmore, List.nil_append] at hm
  exact hsub.subset (List.mem_map_of_mem hm)

lemma exists_member_foldl {ds : List (String × Data)} (start : List Member) (hd : d ∈ ds) :
    ∃ m ∈ ds.foldl define start, m = ⟨d.1, d.2⟩ ∨ m.value.equal d.2 = true := by
  induction ds generalizing start with
  | nil => cases hd
  | cons d' ds ih =>
    rcases List.mem_cons.1 hd with rfl | hd
    · have hnow : ∃ m ∈ define start d, m = ⟨d.1, d.2⟩ ∨ m.value.equal d.2 = true := by
        rw [define]
        split
        · rename_i hany
          obtain ⟨m, hm, hequal⟩ := List.any_eq_true.1 hany
          exact ⟨m, hm, .inr hequal⟩
        · exact ⟨⟨d.1, d.2⟩, by simp, .inl rfl⟩
      obtain ⟨m, hm, hstands⟩ := hnow
      obtain ⟨more, hmore, -⟩ := exists_foldl_define ds (define start d)
      exact ⟨m, by rw [List.foldl_cons, hmore]; exact List.mem_append_left more hm, hstands⟩
    · exact ih (define start d') hd

namespace Named

variable (h : e.Named)

include h

lemma eq_of_lower {d' : String × Data} (hd : d ∈ e.defined) (hd' : d' ∈ e.defined)
    (heq : lower d.1 = lower d'.1) : d = d' :=
  List.inj_on_of_nodup_map h.apart hd hd' heq

lemma eq_of_name {m' : Member} (hm : m ∈ e.members) (hm' : m' ∈ e.members)
    (heq : lower m.name = lower m'.name) : m = m' := by
  have hdefined := h.eq_of_lower (defined_of_member hm) (defined_of_member hm') heq
  cases m
  cases m'
  cases hdefined
  rfl

lemma exists_denotes (hd : d ∈ e.defined) :
    ∃ m ∈ e.members, e.denotes? d.1 = some m ∧
      (m.name = d.1 ∨ m.name ≠ d.1 ∧ ∀ m' ∈ e.members, lower m'.name ≠ lower d.1) := by
  rw [denotes?]
  cases hown : e.members.find? (·.name = d.1) with
  | some m =>
    have hname : m.name = d.1 := by simpa using List.find?_some hown
    exact ⟨m, List.mem_of_find?_eq_some hown, rfl, .inl hname⟩
  | none =>
    -- The name is an alias, and no member has it, whatever the case of its letters.
    have hnone : ∀ m' ∈ e.members, m'.name ≠ d.1 := by simpa using hown
    have hfirst : e.defined.find? (·.1 = d.1) = some d :=
      find?_eq_some_of_unique hd (decide_eq_true rfl) fun d' hd' hname =>
        h.eq_of_lower hd' hd (congrArg lower (of_decide_eq_true hname))
    have hvalue : ∃ m ∈ e.members, m.value.equal d.2 = true := by
      obtain ⟨m, hm, rfl | hequal⟩ := exists_member_foldl [] hd
      · exact absurd rfl (hnone ⟨d.1, d.2⟩ hm)
      · exact ⟨m, hm, hequal⟩
    obtain ⟨m, hm⟩ := Option.isSome_iff_exists.1 (List.find?_isSome.2 hvalue)
    have hapart : ∀ m' ∈ e.members, lower m'.name ≠ lower d.1 := fun m' hm' heq =>
      hnone m' hm' (congrArg Prod.fst (h.eq_of_lower (defined_of_member hm') hd heq))
    refine ⟨m, List.mem_of_find?_eq_some hm, ?_, .inr ⟨?_, hapart⟩⟩
    · simp [hfirst, hm]
    · exact hnone m (List.mem_of_find?_eq_some hm)

end Named

end Enumeration

namespace Scalar

variable {e : Enumeration} {raw : String} {m : Member}

open Enumeration

lemma readMember?_named (h : e.Named) (hm : m ∈ e.members)
    (hname : lower m.name = lower (strip raw)) : readMember? e raw = some m := by
  have hfound : (e.members.find? fun m => lower m.name = lower (strip raw)) = some m :=
    find?_eq_some_of_unique hm (decide_eq_true hname) fun m' hm' hname' =>
      h.eq_of_name hm' hm ((of_decide_eq_true hname').trans hname.symm)
  rw [readMember?, hfound, Option.some_or]

lemma readMember?_unnamed (hname : ∀ m ∈ e.members, lower m.name ≠ lower (strip raw)) :
    readMember? e raw = e.members.find? fun m => m.value.display = strip raw := by
  have hfound : (e.members.find? fun m => lower m.name = lower (strip raw)) = none := by
    simpa using hname
  rw [readMember?, hfound, Option.none_or]

end Scalar

namespace Converter

open Enumeration

variable {σ : Type} {e : Enumeration} {d : String × Data} {q : Request σ}
  {before letters after : List Char}

/-- A defined name, in any letter case and between any blanks, gives the member that it stands for if
the member goes by that name. An alias is taken for a value: it gives the first member whose value is
written so, which is the member it stands for only by chance. -/
theorem enum_reads_names (id : Nat) (hq : q.target.cls = .enumeration e) (h : e.Named)
    (hd : d ∈ e.defined) (hstart : ∀ c ∈ d.1.toList.head?, isBlank c = false)
    (hend : ∀ c ∈ d.1.toList.getLast?, isBlank c = false) (hletters : Recased letters d.1)
    (hbefore : ∀ c ∈ before, isBlank c = true) (hafter : ∀ c ∈ after, isBlank c = true) :
    ∃ m ∈ e.members, e.denotes? d.1 = some m ∧
      (enum id).run (String.ofList (before ++ letters ++ after)) q =
        pure ⟨[], .ok ((if m.name = d.1 then some m
          else e.members.find? fun m' => m'.value.display = String.ofList letters).map
            (.member e))⟩ := by
  obtain ⟨m, hm, hdenotes, hname⟩ := h.exists_denotes hd
  have hstrip := hletters.strip_surrounded hbefore hafter hstart hend
  have hlower := hletters.lower_eq (h.ascii d hd)
  have hread : Scalar.readMember? e (String.ofList (before ++ letters ++ after)) =
      if m.name = d.1 then some m
      else e.members.find? fun m' => m'.value.display = String.ofList letters := by
    obtain hown | ⟨halias, hapart⟩ := hname
    · rw [if_pos hown]
      exact Scalar.readMember?_named h hm (by rw [hstrip, hlower, hown])
    · rw [if_neg halias, Scalar.readMember?_unnamed (by rw [hstrip, hlower]; exact hapart), hstrip]
  refine ⟨m, hm, hdenotes, ?_⟩
  simp only [enum, pureRun, hq, Scalar.readEnum, hread]

def naming (e : Enumeration) : Request Unit :=
  ⟨⟨"colour", none, none, .empty⟩, .bare (.enumeration e), false, []⟩

def crossed : Enumeration := ⟨"demo", "Crossed", .none, [("A", .text "b"), ("B", .text "a")]⟩

lemma crossed_named : crossed.Named where
  ascii := by
    have hall : (crossed.defined.all fun d => d.1.toList.all fun c => c.val < 0x80) = true := by decide
    simpa using hall
  apart := by decide

theorem enum_reads_names_crossed :
    crossed.Named ∧ (enum 0).run "\ta " (naming crossed) =
      pure ⟨[], .ok (some (.member crossed ⟨"A", .text "b"⟩))⟩ := by
  have hdefined : ("A", .text "b") ∈ crossed.defined := by simp [crossed]
  have hcase : Recased ['a'] "A" := rfl
  have hsolid : isBlank 'A' = false := rfl
  have hbefore : ∀ c ∈ ['\t'], isBlank c = true := List.forall_mem_singleton.2 rfl
  have hafter : ∀ c ∈ [' '], isBlank c = true := List.forall_mem_singleton.2 rfl
  obtain ⟨m, -, hdenotes, hrun⟩ := enum_reads_names 0 (q := naming crossed) rfl crossed_named
    hdefined (fun _ hc => Option.some.inj hc ▸ hsolid) (fun _ hc => Option.some.inj hc ▸ hsolid) hcase
    hbefore hafter
  have hm : ⟨"A", .text "b"⟩ = m := Option.some.inj hdenotes
  subst hm
  exact ⟨crossed_named, hrun⟩

def colour : Enumeration :=
  ⟨"demo", "Colour", .none, [("RED", .text "r"), ("GREEN", .text "g"), ("CRIMSON", .text "r")]⟩

lemma colour_named : colour.Named where
  ascii := by
    have hall : (colour.defined.all fun d => d.1.toList.all fun c => c.val < 0x80) = true := by decide
    simpa using hall
  apart := by decide

theorem enum_misses_crimson :
    colour.Named ∧ ("CRIMSON", .text "r") ∈ colour.defined ∧
      colour.denotes? "CRIMSON" = some ⟨"RED", .text "r"⟩ ∧
      (enum 0).run "CRIMSON" (naming colour) = pure ⟨[], .ok none⟩ := by
  exact ⟨colour_named, by simp [colour], rfl, rfl⟩

end Converter

end Conversion

end LayeredConfig
