import LayeredConfig.Proofs.Collections
import LayeredConfig.Proofs.Segments

/-! Mappings written with a bracket around each entry, and read back. The brackets keep whatever
blanks the values have, and the escapes keep the separators, so that nothing is asked of the values
at all. -/

namespace LayeredConfig

namespace Text

lemma trimEnd_append_singleton {c : Char} (h : isBlank c = false) (cs : List Char) :
    trimEnd (cs ++ [c]) = cs ++ [c] :=
  trimEnd_eq_self (by simpa using h)

lemma getLast?_trim_append_singleton {c : Char} (h : isBlank c = false) (cs : List Char) :
    (trim (cs ++ [c])).getLast? = some c := by
  have hstart : ∃ cs', trimStart (cs ++ [c]) = cs' ++ [c] := by
    induction cs with
    | nil => exact ⟨[], trimStart_eq_self (by simpa using h)⟩
    | cons d cs ih =>
      cases hd : isBlank d with
      | true =>
        obtain ⟨cs', hcs⟩ := ih
        exact ⟨cs', by rw [trimStart, List.cons_append, List.dropWhile_cons_of_pos hd]; exact hcs⟩
      | false => exact ⟨d :: cs, trimStart_eq_self (by simpa using hd)⟩
  obtain ⟨cs', hcs⟩ := hstart
  rw [trim, hcs, trimEnd_append_singleton h]
  simp

end Text

namespace Tokens

open Text

def bracketed (e : Char) (p : String × String) : String :=
  "[" ++ p.1 ++ String.singleton e ++ p.2 ++ "]"

def bracketText (s e : Char) (dict : Ledger String String) : String :=
  joinEscaped s (dict.pairs.map (bracketed e))

/-- The key is over where the entry separator begins, and does not end in blanks. -/
structure Quotable (e : Char) (key : String) : Prop where
  separator : e ∉ key.toList
  blank : ∀ c ∈ key.toList.getLast?, isBlank c = false

instance (e : Char) (key : String) : Decidable (Quotable e key) :=
  decidable_of_iff (e ∉ key.toList ∧ ∀ c ∈ key.toList.getLast?, isBlank c = false)
    ⟨fun h => ⟨h.1, h.2⟩, fun h => ⟨h.separator, h.blank⟩⟩

lemma toList_bracketed (e : Char) (p : String × String) :
    (bracketed e p).toList = ('[' :: p.1.toList) ++ ([e] ++ (p.2.toList ++ [']'])) := by
  simp [bracketed]

lemma closeValue_bracketed (value : List Char) : closeValue (value ++ [']']) = value := by
  rw [closeValue, if_pos (getLast?_trim_append_singleton rfl value), trimEnd_append_singleton rfl,
    List.dropLast_concat]

lemma splitEntry?_bracketed {e : Char} (he : e ≠ '[') {p : String × String} (h : Quotable e p.1) :
    splitEntry? (bracketed e p) (String.singleton e) = some p := by
  have hsep : (String.singleton e).toList = [e] := String.toList_singleton e
  have hfirst : cut? [e] ('[' :: p.1.toList) = none := cut?_singleton (by simp [he, h.separator])
  have hcut := cut?_append_sep (by simp) (unbordered_singleton e) hfirst (p.2.toList ++ [']'])
  -- The bracket stands at the edge, so there is nothing to trim on either side of the key.
  have hkey : trim ('[' :: p.1.toList) = '[' :: p.1.toList := by
    refine trim_eq_self (by simp; rfl) fun c hc => ?_
    rw [List.getLast?_cons] at hc
    cases hlast : p.1.toList.getLast? with
    | none =>
      rw [hlast] at hc
      cases hc
      rfl
    | some d =>
      rw [hlast] at hc
      cases hc
      exact h.blank d hlast
  unfold splitEntry?
  rw [if_neg (by simp), hsep, entryParts, toList_bracketed, hcut, Option.getD_some]
  simp only [hkey, dropOpening, closeValue_bracketed, String.ofList_toList]

lemma split?_bracketText {s : Char} (hs : s ≠ escape) (e : Char) (dict : Ledger String String) :
    split? (bracketText s e dict) (String.singleton s) = some (dict.pairs.map (bracketed e)) := by
  have hlast (item : String) (hitem : item ∈ dict.pairs.map (bracketed e)) :
      item.toList.getLast? = some ']' := by
    obtain ⟨p, _, rfl⟩ := List.mem_map.1 hitem
    rw [toList_bracketed, ← List.append_assoc, ← List.append_assoc, List.getLast?_concat]
  refine split?_joinEscaped hs (fun item hitem => ?_) fun last hmem => ?_
  · rw [hlast item (List.mem_of_mem_dropLast hitem)]
    decide
  · rintro rfl
    cases hlast "" (List.mem_of_mem_getLast? hmem)

end Tokens

namespace Conversion

open Tokens

variable {σ : Type}

def dictTarget : Target := .generic .mapping [.bare .text, .bare .text]

def dictRequest (r : Registry σ) (subject : Subject) (linked : Bool) : Request σ :=
  Registry.request subject linked dictTarget
    (r.convertEach subject linked [.bare .text, .bare .text])

def textMapping (subject : Subject) (dict : Ledger String String) : Value :=
  .mapping (Builder.isReadOnly subject.metadata) (dict.map .text).pairs

lemma convertItem_dictRequest (r : Registry σ) (subject : Subject) (linked : Bool) (token : String) :
    (dictRequest r subject linked).convertItem 1 token = pure ⟨[], some (.text token)⟩ := by
  have hitem : ((dictRequest r subject linked).items[1]?).join = none := by
    cases linked <;> simp [dictRequest, Registry.request, Registry.convertEach]
  rw [Request.convertItem, hitem]

lemma Converter.runMapping_eq_pure {raw : String} {q : Request σ} {tokens : List String}
    {entries : List (String × Account)}
    (hsplit : Tokens.split? raw (itemSeparator q) = some tokens) (hsep : entrySeparator q ≠ "")
    (h : List.Forall₂ (fun token entry => convertEntry q (entrySeparator q) token = pure entry)
      tokens entries) :
    runMapping raw q = pure ⟨entries.flatMap (·.2.formats), .ok (some
      (.mapping (Builder.isReadOnly q.subject.metadata)
        (Ledger.ofList (entries.filterMap fun e => e.2.value.map (e.1, ·))).pairs))⟩ := by
  have hsep' : (entrySeparator q).isEmpty = false := by simpa using hsep
  rw [runMapping, hsplit]
  simp only [hsep', Bool.false_and, Bool.false_eq_true, if_false, mapM_eq_pure h, pure_bind]

def textEntries (dict : Ledger String String) : List (String × Account) :=
  dict.pairs.map fun p => (p.1, ⟨[], some (.text p.2)⟩)

lemma formats_textEntries (dict : Ledger String String) :
    (textEntries dict).flatMap (·.2.formats) = [] := by
  rw [List.flatMap_eq_nil_iff]
  intro entry hentry
  obtain ⟨p, _, rfl⟩ := List.mem_map.1 hentry
  rfl

lemma values_textEntries (dict : Ledger String String) :
    (textEntries dict).filterMap (fun entry => entry.2.value.map (entry.1, ·)) =
      (dict.map Value.text).pairs := by
  simp [textEntries, Ledger.map]

lemma forall₂_convertEntry (r : Registry σ) (subject : Subject) (linked : Bool) {e : Char}
    (he : e ≠ '[') {dict : Ledger String String} (hkeys : ∀ key ∈ dict.keys, Quotable e key) :
    List.Forall₂ (fun token entry => Converter.convertEntry (dictRequest r subject linked)
        (String.singleton e) token = pure entry)
      (dict.pairs.map (bracketed e)) (textEntries dict) := by
  rw [textEntries, List.forall₂_map_left_iff, List.forall₂_map_right_iff, List.forall₂_same]
  intro p hp
  have hkey : Quotable e p.1 := hkeys p.1 (List.mem_map_of_mem hp)
  rw [Converter.convertEntry, splitEntry?_bracketed he hkey]
  simp only [convertItem_dictRequest, pure_bind]

/-- Whatever the values are, bracketed text reads as the mapping that was written. -/
theorem runMapping_bracketText (r : Registry σ) (subject : Subject) (linked : Bool) (id : Nat)
    {s e : Char} {dict : Ledger String String}
    (hs : subject.metadata.getD MetaKeys.itemSeparator defaultItemSeparator = String.singleton s)
    (he : subject.metadata.getD MetaKeys.entrySeparator defaultEntrySeparator = String.singleton e)
    (hescape : s ≠ escape) (hopening : e ≠ '[') (hkeys : ∀ key ∈ dict.keys, Quotable e key) :
    (Converter.mapping id).run (bracketText s e dict) (dictRequest r subject linked) =
      pure ⟨[], .ok (some (textMapping subject dict))⟩ := by
  let q := dictRequest r subject linked
  have hitem : Converter.itemSeparator q = String.singleton s := hs
  have hentry : Converter.entrySeparator q = String.singleton e := he
  have hsplit : split? (bracketText s e dict) (Converter.itemSeparator q) =
      some (dict.pairs.map (bracketed e)) := by
    rw [hitem]
    exact split?_bracketText hescape e dict
  have hrun := Converter.runMapping_eq_pure hsplit (by rw [hentry]; simp)
    (by rw [hentry]; exact forall₂_convertEntry r subject linked hopening hkeys)
  rw [values_textEntries, formats_textEntries, Ledger.ofList_pairs] at hrun
  exact hrun

def awkward : Ledger String String :=
  ⟨[("", "]"), ("[[", " x]\\"), (" k", "")], by decide⟩

def closing : Subject where
  key := "limits"
  config := none
  annotated := none
  metadata := ⟨[(MetaKeys.itemSeparator, "]"), (MetaKeys.entrySeparator, "]")], by decide⟩

theorem runMapping_closing :
    (∀ key ∈ awkward.keys, Quotable ']' key) ∧
      bracketText ']' ']' awkward = "[\\]\\]\\]][[[\\] x\\]\\\\]][ k\\]\\]" ∧
      ((Converter.mapping 8).run (bracketText ']' ']' awkward)
          (dictRequest Registry.empty closing true) : Note Unit Result) =
        pure ⟨[], .ok (some (.mapping false
          [("", .text "]"), ("[[", .text " x]\\"), (" k", .text "")]))⟩ :=
  ⟨by decide, by decide +kernel, runMapping_bracketText Registry.empty closing true 8
    (s := ']') (e := ']') (by decide) (by decide) (by decide) (by decide) (by decide)⟩

end Conversion

end LayeredConfig
