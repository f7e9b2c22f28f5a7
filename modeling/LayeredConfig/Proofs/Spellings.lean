import LayeredConfig.Merge
import LayeredConfig.Proofs.Attribution

/-! Keys taken apart and put together. A key that is taken apart into a key and a meta name is one of
the two spellings of that name, and by the standard convention each spelling is taken apart into what
it was made of. So a merge that asks for the spellings of a visible key asks for all that configures
it. -/

namespace LayeredConfig.MetaKeys

lemma isMeta_of_split? {m : MetaKeys} {entry : String} {found : String × String}
    (h : m.split? entry = some found) : m.isMeta entry = true := by
  simp [isMeta, h]

lemma target_ne_empty {m : MetaKeys} {entry key name : String}
    (h : m.split? entry = some (key, name)) : key ≠ "" :=
  (targetOf?_eq_some_iff.1 (split?_mem h).2).2

lemma eq_candidate_of_split? {m : MetaKeys} {entry key name : String}
    (h : m.split? entry = some (key, name)) :
    entry = (m.candidates key name).1 ∨ entry = (m.candidates key name).2 := by
  have hattributed : m.Attributed (m.isReserved entry) key name entry := ⟨rfl, h⟩
  have hspelled := hattributed.eq_spelling
  cases hreserved : m.isReserved entry with
  | false =>
    rw [hreserved] at hspelled
    exact .inl hspelled
  | true =>
    rw [hreserved] at hspelled
    exact .inr hspelled

lemma mem_candidates_iff {m : MetaKeys} {entry key : String} :
    entry ∈ Merge.candidates m key ↔
      ∃ name ∈ m.names, entry = (m.candidates key name).1 ∨ entry = (m.candidates key name).2 := by
  simp only [Merge.candidates, List.mem_flatMap, List.mem_cons, List.not_mem_nil, or_false]

section Spelled

variable {m : MetaKeys} (h : m.Separate) (hlead : m.lead.length = 1) {key : String} (hne : key ≠ "")
  (hplain : m.isReserved key = false)

include h hlead hne hplain

lemma split?_candidates {name : String} (hname : name ∈ m.names) :
    m.split? (m.candidates key name).1 = some (key, name) ∧
      m.split? (m.candidates key name).2 = some (key, name) := by
  have hlead' : m.lead ≠ "" := by
    intro he
    rw [he] at hlead
    cases hlead
  exact ⟨(attributed_plain (Nat.le_of_eq hlead) h hne hplain hname).2,
    (attributed_reserved hlead' h hne hname).2⟩

lemma split?_iff_mem_candidates (entry : String) :
    (∃ name, m.split? entry = some (key, name)) ↔ entry ∈ Merge.candidates m key := by
  rw [mem_candidates_iff]
  constructor
  · rintro ⟨name, hsplit⟩
    exact ⟨name, (split?_mem hsplit).1, eq_candidate_of_split? hsplit⟩
  · rintro ⟨name, hname, rfl | rfl⟩
    · exact ⟨name, (split?_candidates h hlead hne hplain hname).1⟩
    · exact ⟨name, (split?_candidates h hlead hne hplain hname).2⟩

end Spelled

lemma isReserved_standard (key : String) : standard.isReserved key = Text.startsWith "_" key := rfl

/-- By any convention, what a key is taken apart into is what it is a spelling of. By the standard one,
both spellings of a name of a key that has no reserved lead are taken apart into that key and that name,
and so the keys that configure a visible key are the ones that a merge asks for. -/
theorem split?_inverts_candidates :
    (∀ (m : MetaKeys) (entry key name : String), m.split? entry = some (key, name) →
      m.isMeta entry = true ∧ key ≠ "" ∧
        (entry = (m.candidates key name).1 ∨ entry = (m.candidates key name).2)) ∧
    (∀ key name : String, key ≠ "" → Text.startsWith "_" key = false → name ∈ standard.names →
      standard.split? (standard.candidates key name).1 = some (key, name) ∧
        standard.split? (standard.candidates key name).2 = some (key, name)) ∧
    ∀ key : String, key ≠ "" → standard.isMeta key = false → ∀ entry,
      (∃ name, standard.split? entry = some (key, name)) ↔ entry ∈ Merge.candidates standard key := by
  have hseparate : standard.Separate := by decide
  refine ⟨fun m entry key name hsplit => ?_, fun key name hne hplain hname => ?_,
    fun key hne hvisible entry => ?_⟩
  · exact ⟨isMeta_of_split? hsplit, target_ne_empty hsplit, eq_candidate_of_split? hsplit⟩
  · rw [← isReserved_standard] at hplain
    exact split?_candidates hseparate rfl hne hplain hname
  · exact split?_iff_mem_candidates hseparate rfl hne (isReserved_of_visible hvisible) entry

theorem split?_inverts_candidates_nested :
    (standard.split? "a.read-only.item-separator" = some ("a.read-only", itemSeparator) ∧
      standard.split? "_a.read-only.item-separator" = some ("a.read-only", itemSeparator)) ∧
    standard.isMeta "a" = false ∧
    ∀ entry, (∃ name, standard.split? entry = some ("a", name)) ↔
      entry ∈ Merge.candidates standard "a" := by
  obtain ⟨-, hspelled, hattributed⟩ := split?_inverts_candidates
  have hvisible : standard.isMeta "a" = false := by decide
  exact ⟨hspelled "a.read-only" itemSeparator (by decide) (by decide) (by decide), hvisible,
    hattributed "a" (by decide) hvisible⟩

end LayeredConfig.MetaKeys
