import LayeredConfig.MetaKeys
import Mathlib.Tactic.Common

/-! Which meta-entries configure a key. A meta-entry that is attributed to a key and a name has one
of the two spellings of that name, so a group of meta-entries holds under each name what its
spellings are worth, the plain one first. -/

namespace LayeredConfig.MetaKeys

lemma targetOf?_eq_some_iff {key name target : String} :
    targetOf? key name = some target ↔ key = keyFor target name ∧ target ≠ "" := by
  have hkey : (keyFor target name).toList = target.toList ++ '.' :: name.toList := by
    simp [keyFor]
  simp only [targetOf?]
  constructor
  · intro h
    split at h
    · rename_i hs
      rw [Bool.and_eq_true, List.isSuffixOf_iff_suffix, decide_eq_true_eq] at hs
      obtain ⟨⟨front, hfront⟩, hlen⟩ := hs
      -- The suffix is shorter than the key, so something stands in front of it.
      have hlen' : front.length ≠ 0 := by
        have := congrArg List.length hfront
        simp only [List.length_append] at this
        omega
      have htake : key.toList.take (key.toList.length - ('.' :: name.toList).length) = front := by
        rw [← hfront, List.length_append, Nat.add_sub_cancel, List.take_left']
        rfl
      rw [htake, Option.some.injEq] at h
      subst h
      refine ⟨String.toList_injective ?_, ?_⟩
      · rw [hkey, ← hfront, String.toList_ofList]
      · intro he
        apply hlen'
        rw [← String.toList_ofList (l := front), he]
        rfl
    · simp at h
  · rintro ⟨rfl, ht⟩
    have hne : target.toList ≠ [] := fun he => ht (String.toList_injective (by simpa using he))
    have hpos := List.length_pos_iff.2 hne
    rw [hkey, if_pos]
    · simp
    · simp [List.isSuffixOf_iff_suffix, hpos]

lemma split?_mem {m : MetaKeys} {key target name : String} (h : m.split? key = some (target, name)) :
    name ∈ m.names ∧ targetOf? (m.bare key) name = some target := by
  obtain ⟨n, hn, hs⟩ := List.exists_of_findSome?_eq_some h
  obtain ⟨t, ht, he⟩ := Option.map_eq_some_iff.1 hs
  cases he
  exact ⟨hn, ht⟩

lemma bare_of_not_isReserved {m : MetaKeys} {key : String} (h : m.isReserved key = false) :
    m.bare key = key := by
  simp [bare, h]

lemma eq_lead_append_bare {m : MetaKeys} {key : String} (h : m.isReserved key = true) :
    key = m.lead ++ m.bare key := by
  have hs : Text.startsWith m.lead key = true := by
    rw [isReserved, Bool.and_eq_true] at h
    exact h.2
  obtain ⟨rest, hrest⟩ := List.isPrefixOf_iff_prefix.1 hs
  apply String.toList_injective
  simp [bare, h, Text.after?, hs, ← hrest]

lemma isReserved_lead_append (m : MetaKeys) (key : String) :
    m.isReserved (m.lead ++ key) = !m.lead.isEmpty := by
  simp [isReserved, Text.startsWith]

lemma bare_lead_append (m : MetaKeys) (key : String) : m.bare (m.lead ++ key) = key := by
  by_cases h : m.lead = ""
  · simp [bare, isReserved, h]
  · simp [bare, isReserved_lead_append, h, Text.after?_append]

def Separate (m : MetaKeys) : Prop :=
  ∀ name ∈ m.names, ∀ other ∈ m.names, ¬ '.' :: other.toList <:+ name.toList

instance (m : MetaKeys) : Decidable m.Separate :=
  inferInstanceAs (Decidable
    (∀ name ∈ m.names, ∀ other ∈ m.names, ¬ '.' :: other.toList <:+ name.toList))

lemma Separate.eq_of_targetOf? {m : MetaKeys} (h : m.Separate) {key target name other : String}
    (hname : name ∈ m.names) (hother : other ∈ m.names)
    (ht : targetOf? (keyFor key name) other = some target) : other = name := by
  have hkey : (keyFor key name).toList = (keyFor target other).toList :=
    congrArg String.toList (targetOf?_eq_some_iff.1 ht).1
  have hends (k n : String) : '.' :: n.toList <:+ (keyFor k n).toList :=
    ⟨k.toList, by simp [keyFor]⟩
  -- Both names end the key after a dot, so one of the two ends the other.
  rcases List.suffix_or_suffix_of_suffix (hends key name) (hkey ▸ hends target other) with hs | hs
  · rcases List.suffix_cons_iff.1 hs with he | hs
    · exact String.toList_injective (List.cons.inj he).2.symm
    · exact absurd hs (h other hother name hname)
  · rcases List.suffix_cons_iff.1 hs with he | hs
    · exact String.toList_injective (List.cons.inj he).2
    · exact absurd hs (h name hname other hother)

lemma Separate.split?_eq {m : MetaKeys} (h : m.Separate) {key name entry : String} (hne : key ≠ "")
    (hname : name ∈ m.names) (hbare : m.bare entry = keyFor key name) :
    m.split? entry = some (key, name) := by
  have hself : targetOf? (m.bare entry) name = some key :=
    hbare ▸ targetOf?_eq_some_iff.2 ⟨rfl, hne⟩
  cases hs : m.split? entry with
  | none =>
    have := List.findSome?_eq_none_iff.1 hs name hname
    simp [hself] at this
  | some found =>
    obtain ⟨target, other⟩ := found
    obtain ⟨hother, ht⟩ := split?_mem hs
    obtain rfl := h.eq_of_targetOf? hname hother (hbare ▸ ht)
    rw [hself] at ht
    cases ht
    rfl

lemma isReserved_keyFor {m : MetaKeys} (hlead : m.lead.length ≤ 1) {key : String} (hne : key ≠ "")
    (name : String) : m.isReserved (keyFor key name) = m.isReserved key := by
  have hkey : key.toList ≠ [] := fun he => hne (String.toList_injective (by simpa using he))
  obtain ⟨c, cs, hcs⟩ := List.exists_cons_of_ne_nil hkey
  have hlen : m.lead.toList.length ≤ 1 := by rwa [String.length_toList]
  simp only [isReserved, Text.startsWith]
  rw [show (keyFor key name).toList = key.toList ++ '.' :: name.toList by simp [keyFor], hcs]
  rcases hl : m.lead.toList with _ | ⟨d, _ | ⟨e, ds⟩⟩
  · rfl
  · simp [List.isPrefixOf]
  · simp [hl] at hlen

def spelling (m : MetaKeys) (reserved : Bool) (key name : String) : String :=
  if reserved then (m.candidates key name).2 else (m.candidates key name).1

def Attributed (m : MetaKeys) (reserved : Bool) (key name entry : String) : Prop :=
  m.isReserved entry = reserved ∧ m.split? entry = some (key, name)

instance (m : MetaKeys) (reserved : Bool) (key name entry : String) :
    Decidable (m.Attributed reserved key name entry) :=
  inferInstanceAs (Decidable (_ ∧ _))

lemma Attributed.eq_spelling {m : MetaKeys} {reserved : Bool} {key name entry : String}
    (h : m.Attributed reserved key name entry) : entry = m.spelling reserved key name := by
  obtain ⟨hr, hs⟩ := h
  have hb := (targetOf?_eq_some_iff.1 (split?_mem hs).2).1
  cases reserved with
  | false => rwa [bare_of_not_isReserved hr] at hb
  | true => exact (eq_lead_append_bare hr).trans (congrArg (m.lead ++ ·) hb)

lemma Attributed.mem_names {m : MetaKeys} {reserved : Bool} {key name entry : String}
    (h : m.Attributed reserved key name entry) : name ∈ m.names :=
  (split?_mem h.2).1

def spelled (m : MetaKeys) (worth : String → Option String) (reserved : Bool)
    (key name : String) : Option String :=
  let entry := m.spelling reserved key name
  if m.Attributed reserved key name entry then worth entry else none

def inEffect (m : MetaKeys) (worth : String → Option String) (key name : String) :
    Option String :=
  (m.spelled worth false key name).or (m.spelled worth true key name)

lemma inEffect_eq_none {m : MetaKeys} {worth : String → Option String} {key name : String}
    (h : name ∉ m.names) : m.inEffect worth key name = none := by
  have hs (reserved : Bool) : m.spelled worth reserved key name = none :=
    if_neg fun ha => h ha.mem_names
  simp [inEffect, hs]

lemma inEffect_congr {m : MetaKeys} {worth worth' : String → Option String} {key name : String}
    (h : ∀ reserved, worth (m.spelling reserved key name) = worth' (m.spelling reserved key name)) :
    m.inEffect worth key name = m.inEffect worth' key name := by
  simp [inEffect, spelled, h]

lemma isReserved_of_visible {m : MetaKeys} {key : String} (h : m.isMeta key = false) :
    m.isReserved key = false :=
  (Bool.or_eq_false_iff.1 h).1

lemma attributed_plain {m : MetaKeys} (hlead : m.lead.length ≤ 1) (h : m.Separate)
    {key name : String} (hne : key ≠ "") (hplain : m.isReserved key = false)
    (hname : name ∈ m.names) : m.Attributed false key name (keyFor key name) := by
  have hr : m.isReserved (keyFor key name) = false := by rw [isReserved_keyFor hlead hne, hplain]
  exact ⟨hr, h.split?_eq hne hname (bare_of_not_isReserved hr)⟩

lemma attributed_reserved {m : MetaKeys} (hlead : m.lead ≠ "") (h : m.Separate)
    {key name : String} (hne : key ≠ "") (hname : name ∈ m.names) :
    m.Attributed true key name (m.lead ++ keyFor key name) := by
  refine ⟨?_, h.split?_eq hne hname (bare_lead_append m _)⟩
  rw [isReserved_lead_append]
  simpa using hlead

lemma inEffect_eq {m : MetaKeys} (hlead : m.lead.length ≤ 1) (h : m.Separate) {key name : String}
    (hne : key ≠ "") (hvisible : m.isMeta key = false) (hname : name ∈ m.names)
    (worth : String → Option String) :
    m.inEffect worth key name =
      (worth (keyFor key name)).or (worth (m.lead ++ keyFor key name)) := by
  have hplain : m.spelled worth false key name = worth (keyFor key name) :=
    if_pos (attributed_plain hlead h hne (isReserved_of_visible hvisible) hname)
  rw [inEffect, hplain]
  by_cases he : m.lead = ""
  · have hnone : m.spelled worth true key name = none := by
      refine if_neg fun ha => ?_
      have := ha.1
      simp [isReserved, he] at this
    rw [hnone, he, String.empty_append]
    cases worth (keyFor key name) <;> rfl
  · congr 1
    exact if_pos (attributed_reserved he h hne hname)

def Part.valueFor (key name : String) (p : Part) : Option String :=
  if p.target = key ∧ p.name = name then some p.value else none

lemma get?_addPlain (g : Grouped) (target n value key name : String) :
    ((addPlain g target n value).at key).get? name =
      if target = key ∧ n = name then some value else (g.at key).get? name := by
  simp only [addPlain, Grouped.at, Ledger.getD]
  rw [Ledger.get?_put]
  by_cases ht : target = key
  · subst ht
    simp [Ledger.get?_put, eq_comm]
  · simp [ht, Ne.symm ht]

lemma get?_addReserved (g : Grouped) (target n value key name : String) :
    ((addReserved g target n value).at key).get? name =
      ((g.at key).get? name).or (if target = key ∧ n = name then some value else none) := by
  simp only [addReserved, Grouped.at, Ledger.getD]
  rw [Ledger.get?_put]
  by_cases ht : target = key
  · subst ht
    simp [Ledger.get?_putNew, eq_comm]
  · simp [ht, Ne.symm ht]

lemma get?_foldl_addPlain (ps : List Part) (g : Grouped) (key name : String) :
    ((ps.foldl (fun g p => addPlain g p.target p.name p.value) g).at key).get? name =
      (ps.filterMap (Part.valueFor key name)).getLast?.or ((g.at key).get? name) := by
  induction ps generalizing g with
  | nil => rfl
  | cons p ps ih =>
    rw [List.foldl_cons, ih, get?_addPlain, List.filterMap_cons, Part.valueFor]
    split
    · rw [List.getLast?_cons]
      cases (ps.filterMap (Part.valueFor key name)).getLast? <;> rfl
    · rfl

lemma get?_foldl_addReserved (ps : List Part) (g : Grouped) (key name : String) :
    ((ps.foldl (fun g p => addReserved g p.target p.name p.value) g).at key).get? name =
      ((g.at key).get? name).or (ps.filterMap (Part.valueFor key name)).head? := by
  induction ps generalizing g with
  | nil => simp
  | cons p ps ih =>
    rw [List.foldl_cons, ih, get?_addReserved, List.filterMap_cons, Part.valueFor, Option.or_assoc]
    split <;> rfl

lemma bind_part (m : MetaKeys) (reserved : Bool) (key name : String) (p : String × Option String) :
    ((do
      let value ← p.2
      let (target, n) ← m.split? p.1
      return (⟨m.isReserved p.1, target, n, value⟩ : Part)).bind
        fun q => if q.reserved == reserved then q.valueFor key name else none) =
      if m.Attributed reserved key name p.1 then p.2 else none := by
  cases hv : p.2 with
  | none => simp
  | some value =>
    cases hs : m.split? p.1 with
    | none => simp [Attributed, hs]
    | some s =>
      by_cases hr : m.isReserved p.1 = reserved <;>
        simp [Attributed, hs, hr, Part.valueFor, Prod.ext_iff]

lemma filterMap_parts (m : MetaKeys) (reserved : Bool) (key name : String)
    (values : Ledger String (Option String)) :
    ((m.parts values.pairs).filter (·.reserved == reserved)).filterMap (Part.valueFor key name) =
      (m.spelled (fun entry => (values.get? entry).join) reserved key name).toList := by
  let entry := m.spelling reserved key name
  have hone : ∀ p : String × Option String,
      (if m.Attributed reserved key name p.1 then p.2 else none) =
        if p.1 = entry then (if m.Attributed reserved key name entry then p.2 else none) else none := by
    intro p
    by_cases he : p.1 = entry
    · rw [if_pos he, he]
    · rw [if_neg he, if_neg fun ha => he ha.eq_spelling]
  rw [parts, List.filterMap_filter, List.filterMap_filterMap]
  simp only [bind_part, hone]
  rw [Ledger.filterMap_key entry (fun v => if m.Attributed reserved key name entry then v else none)
    values.nodup]
  congr 1
  change (values.get? entry).bind _ = if m.Attributed reserved key name entry then _ else none
  split
  · cases values.get? entry <;> rfl
  · exact Option.bind_fun_none _

theorem get?_collect (m : MetaKeys) (values : Ledger String (Option String)) (key name : String) :
    ((m.collect values.pairs).at key).get? name =
      m.inEffect (fun entry => (values.get? entry).join) key name := by
  have hplain : (m.parts values.pairs).filter (!·.reserved) =
      (m.parts values.pairs).filter (·.reserved == false) := by simp
  have hreserved : (m.parts values.pairs).filter (·.reserved) =
      (m.parts values.pairs).filter (·.reserved == true) := by simp
  simp only [collect]
  rw [get?_foldl_addReserved, get?_foldl_addPlain, hplain, hreserved, filterMap_parts,
    filterMap_parts, inEffect]
  cases m.spelled (fun entry => (values.get? entry).join) false key name <;>
    cases m.spelled (fun entry => (values.get? entry).join) true key name <;> rfl

end LayeredConfig.MetaKeys
