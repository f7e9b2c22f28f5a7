import LayeredConfig.Proofs.Pieces
import LayeredConfig.Proofs.StockSources

/-! Keys spelled as variables. The segments of a key are put in upper case, joined by double underscores
and put behind the lead. Where no segment but the last ends in an underscore, each key has a variable of
its own, which sets this key and no other. -/

namespace LayeredConfig.Text

lemma toLower_toUpper_of_lt :
    ∀ n < 0x80, (Char.ofNat n).isUpper = false → (Char.ofNat n).toUpper.toLower = Char.ofNat n := by
  decide +kernel

lemma toUpper_ascii_of_lt : ∀ n < 0x80, (Char.ofNat n).toUpper.val < 0x80 := by decide +kernel

variable {c : Char}

lemma toLower_toUpper (h : c.val < 0x80) (hupper : c.isUpper = false) : c.toUpper.toLower = c := by
  have hlower := toLower_toUpper_of_lt c.toNat h
  rw [Char.ofNat_toNat] at hlower
  exact hlower hupper

lemma toUpper_ascii (h : c.val < 0x80) : c.toUpper.val < 0x80 := by
  have hascii := toUpper_ascii_of_lt c.toNat h
  rwa [Char.ofNat_toNat] at hascii

end LayeredConfig.Text

namespace LayeredConfig.Source.Environment

open Text

/-! ### Spelling -/

structure Segment (s : String) : Prop where
  ne_empty : s ≠ ""
  ascii : ∀ c ∈ s.toList, c.val < 0x80
  lower : ∀ c ∈ s.toList, c.isUpper = false
  undotted : '.' ∉ s.toList
  unnested : ¬ ['_', '_'] <:+: s.toList

instance (s : String) : Decidable (Segment s) :=
  decidable_of_iff (s ≠ "" ∧ (s.toList.all fun c => c.val < 0x80) = true ∧
      (s.toList.all fun c => !c.isUpper) = true ∧ '.' ∉ s.toList ∧ ¬ ['_', '_'] <:+: s.toList)
    ⟨fun ⟨h₁, h₂, h₃, h₄, h₅⟩ => ⟨h₁, by simpa using h₂, by simpa using h₃, h₄, h₅⟩,
      fun h => ⟨h.1, by simpa using h.2, by simpa using h.3, h.4, h.5⟩⟩

/-- Only the last segment may end in an underscore. -/
structure Spellable (segments : List String) : Prop where
  ne_nil : segments ≠ []
  segment : ∀ s ∈ segments, Segment s
  closed : ∀ s ∈ segments.dropLast, s.toList.getLast? ≠ some '_'

instance (segments : List String) : Decidable (Spellable segments) :=
  decidable_of_iff (segments ≠ [] ∧ (∀ s ∈ segments, Segment s) ∧
      ∀ s ∈ segments.dropLast, s.toList.getLast? ≠ some '_')
    ⟨fun ⟨h₁, h₂, h₃⟩ => ⟨h₁, h₂, h₃⟩, fun h => ⟨h.1, h.2, h.3⟩⟩

def dotted (segments : List String) : String := join "." segments

def spelled (segments : List String) : String := join "__" (segments.map upper)

def variableFor (lead : String) (segments : List String) : String :=
  (if lead.toList.getLast? = some '_' then lead else lead ++ "_") ++ spelled segments

namespace Segment

variable {s : String}

lemma toList_upper (h : Segment s) : (upper s).toList = s.toList.map Char.toUpper := by
  rw [upper, String.toList_ofList, upperChars_ascii h.ascii]

lemma map_toLower (h : Segment s) : (upper s).toList.map Char.toLower = s.toList := by
  rw [h.toList_upper, List.map_map]
  calc s.toList.map (Char.toLower ∘ Char.toUpper) = s.toList.map fun c => c :=
        List.map_congr_left fun c hc => toLower_toUpper (h.ascii c hc) (h.lower c hc)
    _ = s.toList := List.map_id' _

lemma lowerChars_upper (h : Segment s) : String.ofList (lowerChars (upper s).toList) = s := by
  rw [lowerChars_ascii, h.map_toLower, String.ofList_toList]
  intro c hc
  rw [h.toList_upper] at hc
  obtain ⟨d, hd, rfl⟩ := List.mem_map.1 hc
  exact toUpper_ascii (h.ascii d hd)

lemma not_infix_upper (h : Segment s) : ¬ nesting <:+: (upper s).toList := by
  intro hinfix
  -- Lower case takes the occurrence back to the segment itself.
  have hlower := hinfix.map Char.toLower
  rw [h.map_toLower] at hlower
  exact h.unnested hlower

end Segment

lemma nesting_infix_concat {cs : List Char} (h : nesting <:+: cs ++ ['_']) :
    nesting <:+: cs ∨ cs.getLast? = some '_' := by
  rcases List.infix_concat_iff.1 h with hend | hinside
  · have hend' : ['_'] ++ ['_'] <:+ cs ++ ['_'] := hend
    rw [List.suffix_append_inj_of_length_eq rfl] at hend'
    exact .inr (List.singleton_suffix_iff_getLast?_eq_some.1 hend'.1)
  · exact .inl hinside

namespace Spellable

variable {segments : List String}

lemma pieces_spelled (h : Spellable segments) :
    pieces nesting (by simp [nesting]) (spelled segments).toList =
      (segments.map upper).map String.toList := by
  rw [spelled, toList_join]
  refine pieces_intercalate (by simpa using h.ne_nil) ?_ ?_
  · simp only [List.mem_map]
    rintro _ ⟨_, ⟨s, hs, rfl⟩, rfl⟩
    exact (h.segment s hs).not_infix_upper
  · simp only [← List.map_dropLast, List.mem_map]
    rintro _ ⟨_, ⟨s, hs, rfl⟩, rfl⟩
    have hsegment := h.segment s (List.mem_of_mem_dropLast hs)
    rintro hinfix
    rcases nesting_infix_concat hinfix with hinside | hend
    · exact hsegment.not_infix_upper hinside
    · have hlower := congrArg (Option.map Char.toLower) hend
      rw [← List.getLast?_map, hsegment.map_toLower] at hlower
      exact h.closed s hs hlower

lemma key_spelled (h : Spellable segments) : key (spelled segments) = dotted segments := by
  rw [key, h.pieces_spelled, dotted, List.map_map, List.map_map]
  congr 1
  calc segments.map _ = segments.map fun s => s :=
        List.map_congr_left fun s hs => (h.segment s hs).lowerChars_upper
    _ = segments := List.map_id' _

lemma spelled_ne_empty (h : Spellable segments) : spelled segments ≠ "" := by
  match segments, h with
  | [], h => exact absurd rfl h.ne_nil
  | [s], h =>
    intro hempty
    have hs : Segment s := h.segment s (by simp)
    have hlower := hs.map_toLower
    rw [show upper s = "" from hempty] at hlower
    exact hs.ne_empty (String.toList_injective hlower.symm)
  | s :: t :: rest, _ => exact join_ne_empty (by decide) _ _ _

lemma eq_of_dotted {others : List String} (h : Spellable segments) (h' : Spellable others)
    (hdotted : dotted segments = dotted others) : segments = others := by
  have hpieces {ss : List String} (hss : Spellable ss) :
      pieces ['.'] (by simp) (dotted ss).toList = ss.map String.toList := by
    rw [dotted, toList_join]
    refine pieces_intercalate_singleton (by simpa using hss.ne_nil) fun v hv => ?_
    obtain ⟨s, hs, rfl⟩ := List.mem_map.1 hv
    exact (hss.segment s hs).undotted
  refine List.map_injective_iff.2 (fun _ _ => String.toList_injective) ?_
  rw [← hpieces h, ← hpieces h', hdotted]

end Spellable

/-! ### Variables and what they set -/

def target? (lead x : String) : Option String :=
  (after? lead x).bind fun rest => if rest.isEmpty then none else some (key rest)

lemma assign_eq (lead : String) (found : Ledger String String) (p : String × String) :
    assign lead found p = ((target? lead p.1).map (found.put · p.2)).getD found := by
  rw [assign, target?]
  cases after? lead p.1 with
  | none => rfl
  | some rest =>
    rw [Option.bind_some]
    change (if rest.isEmpty then _ else _) = _
    cases rest.isEmpty <;> rfl

lemma get?_settings {lead x k : String} {M : Ledger String String} (hx : target? lead x = some k)
    (halone : ∀ y ∈ M.keys, target? lead y = some k → y = x) :
    (settings lead M).get? k = M.get? x := by
  -- From any start on, the variables still to come are asked first.
  suffices hfold : ∀ (ps : List (String × String)) (start : Ledger String String),
      (ps.map Prod.fst).Nodup → (∀ y ∈ ps.map Prod.fst, target? lead y = some k → y = x) →
      (ps.foldl (assign lead) start).get? k = (Ledger.lookup x ps).or (start.get? k) by
    rw [settings, hfold M.pairs .empty M.nodup halone, Ledger.get?_empty, Option.or_none, Ledger.get?]
  intro ps
  induction ps with
  | nil => exact fun start _ _ => rfl
  | cons p ps ih =>
    intro start hnodup halone
    rw [List.map_cons, List.nodup_cons] at hnodup
    rw [List.map_cons, List.forall_mem_cons] at halone
    rw [List.foldl_cons, ih _ hnodup.2 halone.2, assign_eq, Ledger.lookup]
    by_cases hp : p.1 = x
    · have hlater : Ledger.lookup x ps = none := Ledger.lookup_eq_none_iff.2 (hp ▸ hnodup.1)
      rw [if_pos hp, hlater, hp, hx]
      exact Ledger.get?_put_self _ _ _
    · rw [if_neg hp]
      congr 1
      cases htarget : target? lead p.1 with
      | none => rfl
      | some j =>
        have hj : k ≠ j := fun e => hp (halone.1 (e ▸ htarget))
        exact (Ledger.get?_put _ _ _ _).trans (if_neg hj)

lemma variableFor_eq {lead : String} (hlead : lead ≠ "") (segments : List String) :
    variableFor lead segments = complete lead ++ spelled segments := by
  have hempty : lead.isEmpty = false := by simpa using hlead
  simp [variableFor, complete, hempty]

lemma Spellable.target?_variableFor {lead : String} (hlead : lead ≠ "") {segments : List String}
    (h : Spellable segments) :
    target? (complete lead) (variableFor lead segments) = some (dotted segments) := by
  have hspelled : (spelled segments).isEmpty = false := by simpa using h.spelled_ne_empty
  rw [target?, variableFor_eq hlead, after?_append, Option.bind_some, hspelled, h.key_spelled]
  rfl

lemma Spellable.variableFor_eq_iff {lead : String} (hlead : lead ≠ "") {segments others : List String}
    (h : Spellable segments) (h' : Spellable others) :
    variableFor lead segments = variableFor lead others ↔ dotted segments = dotted others := by
  constructor
  · intro hvariable
    have htarget := h.target?_variableFor hlead
    rw [hvariable, h'.target?_variableFor hlead] at htarget
    exact (Option.some.inj htarget).symm
  · intro hdotted
    rw [h.eq_of_dotted h' hdotted]

/-- Every variable that is spelled like this is exposed under its key with its value unchanged, whatever
other variables there are that do not come to this key. Different keys have different variables, so
variables for any number of keys leave each other alone. -/
theorem spelled_variables_exposed {σ : Type} {P : Circumstance σ} {lead : String} (hlead : lead ≠ "")
    {environment : Note σ (Ledger String String)} {M : Ledger String String}
    (henvironment : Ensures P.world environment (· = M)) (id : Nat) (name : String) (ordinal : Int) :
    (∃ entries : Ledger String Entry,
      Yields P.world (source id lead name ordinal environment).properties (.ok entries) ∧
      (∀ key, Yields P.world ((source id lead name ordinal environment).get key)
        (.ok (entries.get? key))) ∧
      ∀ segments, Spellable segments →
        (∀ x ∈ M.keys, target? (complete lead) x = some (dotted segments) →
          ∃ others, Spellable others ∧ x = variableFor lead others) →
        (entries.get? (dotted segments)).map (fun e => (e.key, e.value, e.source)) =
          (M.get? (variableFor lead segments)).map fun v => (dotted segments, some v, name)) ∧
    ∀ segments others, Spellable segments → Spellable others →
      (variableFor lead segments = variableFor lead others ↔ dotted segments = dotted others) := by
  obtain ⟨entries, hentries, hunchanging⟩ :=
    unchanging_environment id lead name ordinal henvironment
  refine ⟨⟨entries, hunchanging.properties rfl, hunchanging.get, fun segments h hothers => ?_⟩,
    fun segments others h h' => h.variableFor_eq_iff hlead h'⟩
  -- A variable that comes to this key is spelled for it, and only one is.
  have halone : ∀ x ∈ M.keys, target? (complete lead) x = some (dotted segments) →
      x = variableFor lead segments := by
    intro x hx htarget
    obtain ⟨others, h', rfl⟩ := hothers x hx htarget
    rw [h'.target?_variableFor hlead] at htarget
    exact (h'.variableFor_eq_iff hlead h).2 (Option.some.inj htarget)
  have hvalue := Entry.value_of_all hentries (dotted segments)
  rw [Ledger.get?_map, get?_settings (h.target?_variableFor hlead) halone] at hvalue
  cases hentry : entries.get? (dotted segments) with
  | none =>
    rw [hentry, Option.map_none, eq_comm, Option.map_eq_none_iff] at hvalue
    rw [hvalue]
    rfl
  | some e =>
    obtain ⟨hkey, -, hsource, -⟩ := Entry.make_eq_ok_iff.1 (Entry.make_of_all hentries hentry)
    rw [hentry, Option.map_some, eq_comm, Option.map_eq_some_iff] at hvalue
    obtain ⟨v, hv, hsome⟩ := hvalue
    rw [hv, Option.map_some, Option.map_some, hkey, hsource, hsome]

def exports : Ledger String String :=
  ⟨[("DEMO_DB___URL", "a__b"), ("DEMO__X__Y_", ""), ("DEMO__", "u"), ("DEMO_A_B__C-1", "A.b"),
    ("DEMO_zone", "z"), ("OTHER", "o")], by decide⟩

def exported : List (List String × String) :=
  [(["db", "_url"], "a__b"), (["_x", "y_"], ""), (["_"], "u"), (["a_b", "c-1"], "A.b")]

theorem exported_variables_exposed :
    (∀ p ∈ exported, Spellable p.1 ∧ exports.get? (variableFor "DEMO" p.1) = some p.2) ∧
    ∃ entries : Ledger String Entry,
      Yields Circumstance.always.world (source 0 "DEMO" "env" 300 (pure exports)).properties
        (.ok entries) ∧
      ∀ p ∈ exported, (entries.get? (dotted p.1)).map (fun e => (e.key, e.value, e.source)) =
        some (dotted p.1, some p.2, "env") := by
  have hset : ∀ p ∈ exported,
      Spellable p.1 ∧ exports.get? (variableFor "DEMO" p.1) = some p.2 := by decide +kernel
  have halone : ∀ p ∈ exported, ∀ x ∈ exports.keys,
      target? (complete "DEMO") x = some (dotted p.1) → x = variableFor "DEMO" p.1 := by
    decide +kernel
  obtain ⟨⟨entries, hproperties, -, hexposed⟩, -⟩ := spelled_variables_exposed
    (P := Circumstance.always) (M := exports) (show "DEMO" ≠ "" by decide) (Ensures.pure rfl) 0 "env" 300
  refine ⟨hset, entries, hproperties, fun p hp => ?_⟩
  obtain ⟨hspellable, hvalue⟩ := hset p hp
  rw [hexposed p.1 hspellable fun x hx htarget => ⟨p.1, hspellable, halone p hp x hx htarget⟩, hvalue]
  rfl

end LayeredConfig.Source.Environment
