import LayeredConfig.Proofs.Loading
import LayeredConfig.Proofs.Segments
import LayeredConfig.Proofs.StockSources

/-! Variables written down in a dotenv file. In double quotes a value stands for itself, whatever is
in it, so that the file sets what the variables would set, under the same keys and in the same
order. -/

namespace LayeredConfig.Source.Dotenv

open Text

/-! ### Lines -/

def Unbroken (cs : List Char) : Prop := ∀ c ∈ cs, c ≠ '\n' ∧ c ≠ '\r'

instance (cs : List Char) : Decidable (Unbroken cs) := List.decidableBAll _ cs

lemma Unbroken.append {cs ds : List Char} (h : Unbroken cs) (h' : Unbroken ds) :
    Unbroken (cs ++ ds) :=
  List.forall_mem_append.2 ⟨h, h'⟩

inductive Break
  | feed
  | carriage
  | both

def Break.chars : Break → List Char
  | feed => ['\n']
  | carriage => ['\r']
  | both => ['\r', '\n']

lemma lines_cons {c : Char} (hc : c ≠ '\n' ∧ c ≠ '\r') (cs : List Char) :
    lines (c :: cs) = match lines cs with
      | [] => [[c]]
      | l :: ls =>
        if cs.head? = some '\n' ∨ cs.head? = some '\r' then [c] :: ls else (c :: l) :: ls :=
  lines.eq_5 c cs (fun _ h _ => hc.2 h) hc.2 hc.1

lemma lines_append {row rest : List Char} {ls : List (List Char)} (h : Unbroken row)
    (hbreak : rest.head? = some '\n' ∨ rest.head? = some '\r') (hrest : lines rest = [] :: ls) :
    lines (row ++ rest) = row :: ls := by
  induction row with
  | nil => exact hrest
  | cons c row ih =>
    obtain ⟨hc, hrow⟩ := List.forall_mem_cons.1 h
    rw [List.cons_append, lines_cons hc, ih hrow]
    cases row with
    | nil => simp [hbreak]
    | cons d row =>
      obtain ⟨hd, _⟩ := List.forall_mem_cons.1 hrow
      simp [hd.1, hd.2]

lemma lines_of_unbroken {row : List Char} (h : Unbroken row) (hne : row ≠ []) :
    lines row = [row] := by
  induction row with
  | nil => exact absurd rfl hne
  | cons c row ih =>
    obtain ⟨hc, hrow⟩ := List.forall_mem_cons.1 h
    rw [lines_cons hc]
    cases row with
    | nil => rfl
    | cons d row =>
      obtain ⟨hd, _⟩ := List.forall_mem_cons.1 hrow
      rw [ih hrow (by simp)]
      simp [hd.1, hd.2]

lemma lines_break (b : Break) (rest : List Char) :
    lines (b.chars ++ rest) = [] :: lines rest ∨
      ∃ cs, rest = '\n' :: cs ∧ lines (b.chars ++ rest) = [] :: lines cs := by
  -- Only a carriage return can merge with what follows, when that begins with a line feed.
  cases b with
  | feed => exact .inl (by simp [Break.chars, lines])
  | both => exact .inl (by simp [Break.chars, lines])
  | carriage =>
    by_cases h : ∃ cs, rest = '\n' :: cs
    · obtain ⟨cs, rfl⟩ := h
      exact .inr ⟨cs, rfl, by simp [Break.chars, lines]⟩
    · refine .inl ?_
      rw [Break.chars, List.singleton_append, lines]
      exact fun cs hcs => h ⟨cs, hcs⟩

/-! ### Settings -/

lemma readLines_of_ok {ls : List (List Char)} {start found : Ledger String String} {number : Nat}
    (h : readLines start number ls = .ok found) (number' : Nat) :
    readLines start number' ls = .ok found := by
  -- Numbers are read for the report of a faulty line alone.
  induction ls generalizing start number number' with
  | nil => exact h
  | cons raw ls ih =>
    rw [readLines] at h ⊢
    cases hline : readLine raw with
    | skipped | setting =>
      rw [hline] at h
      exact ih h (number' + 1)
    | malformed | nameless =>
      rw [hline] at h
      cases h

def Settles (ls : List (List Char)) (settings : List (String × String)) : Prop :=
  ∀ start number, readLines start number ls = .ok (start.putAll settings)

namespace Settles

variable {raw : List Char} {ls : List (List Char)} {settings : List (String × String)}

lemma nil : Settles [] [] := fun _ _ => rfl

lemma skip_iff (h : readLine raw = .skipped) : Settles (raw :: ls) settings ↔ Settles ls settings := by
  constructor
  · intro hls start number
    have hrest := hls start number
    rw [readLines, h] at hrest
    exact readLines_of_ok hrest number
  · intro hls start number
    rw [readLines, h]
    exact hls start (number + 1)

lemma setting {name value : String} (h : readLine raw = .setting name.toList value.toList)
    (hls : Settles ls settings) :
    Settles (raw :: ls) ((Environment.key name, value) :: settings) := by
  intro start number
  rw [readLines, h]
  simp only [String.ofList_toList]
  exact hls (start.put (Environment.key name) value) (number + 1)

end Settles

/-! ### Rows -/

structure Filler where
  text : String
  unbroken : Unbroken text.toList
  idle : trim text.toList = [] ∨ (trim text.toList).head? = some '#'

inductive Row
  | setting (exported : Bool) (name value : String)
  | filler (f : Filler)

def assigned (name : String) (value : List Char) : List Char := name.toList ++ (['='] ++ value)

def exportedIf (exported : Bool) : List Char := if exported then Dotenv.exported else []

def enclosed (q : Char) (value : List Char) : List Char := q :: (value ++ [q])

def quoted (name value : String) : List Char := assigned name (enclosed '"' value.toList)

def Row.text : Row → List Char
  | setting exported name value => exportedIf exported ++ quoted name value
  | filler f => f.text.toList

def Row.setting? : Row → Option (String × String)
  | setting _ name value => some (name, value)
  | filler _ => none

/-- What a name must be like to be read as it was written. -/
structure Portable (name : String) : Prop where
  ne_empty : name ≠ ""
  separator : '=' ∉ name.toList
  unbroken : Unbroken name.toList
  front : ∀ c ∈ name.toList.head?, isBlank c = false
  back : ∀ c ∈ name.toList.getLast?, isBlank c = false
  comment : name.toList.head? ≠ some '#'
  exported : ¬ Dotenv.exported <+: name.toList

instance (name : String) : Decidable (Portable name) :=
  decidable_of_iff (name ≠ "" ∧ '=' ∉ name.toList ∧ Unbroken name.toList ∧
      (∀ c ∈ name.toList.head?, isBlank c = false) ∧
      (∀ c ∈ name.toList.getLast?, isBlank c = false) ∧ name.toList.head? ≠ some '#' ∧
      ¬ Dotenv.exported <+: name.toList)
    ⟨fun ⟨h₁, h₂, h₃, h₄, h₅, h₆, h₇⟩ => ⟨h₁, h₂, h₃, h₄, h₅, h₆, h₇⟩,
      fun h => ⟨h.1, h.2, h.3, h.4, h.5, h.6, h.7⟩⟩

def Row.Good : Row → Prop
  | setting _ name value => Portable name ∧ Unbroken value.toList
  | filler _ => True

lemma isBlank_of_isQuote {q : Char} (h : isQuote q = true) : isBlank q = false := by
  rw [isQuote, Bool.or_eq_true, beq_iff_eq, beq_iff_eq] at h
  rcases h with rfl | rfl <;> rfl

lemma trim_enclosed {q : Char} (h : isQuote q = true) (value : List Char) :
    trim (enclosed q value) = enclosed q value := by
  apply trim_eq_self
  · rintro c ⟨⟩
    exact isBlank_of_isQuote h
  · intro c hc
    rw [enclosed, ← List.cons_append, List.getLast?_concat] at hc
    cases hc
    exact isBlank_of_isQuote h

lemma unquote_enclosed {q : Char} (h : isQuote q = true) (value : List Char) :
    unquote (enclosed q value) = value := by
  rw [enclosed, unquote, if_pos (by simp [h]), List.dropLast_concat]

namespace Portable

variable {name : String} (h : Portable name) (value : List Char)

include h

lemma head?_assigned : (assigned name value).head? = name.toList.head? :=
  List.head?_append_of_ne_nil _ (by simpa using h.ne_empty)

lemma not_exported_assigned : ¬ Dotenv.exported <+: assigned name value := by
  intro hprefix
  rcases List.prefix_or_prefix_of_prefix hprefix (List.prefix_append name.toList _) with
    hshort | ⟨t, ht⟩
  · exact h.exported hshort
  -- The word ends behind the name, so there is an equality sign in it unless it is the name.
  · rw [← ht, assigned, List.prefix_append_right_inj] at hprefix
    cases t with
    | nil =>
      rw [List.append_nil] at ht
      exact h.exported (ht ▸ List.prefix_rfl)
    | cons d t =>
      obtain rfl : d = '=' := (List.cons_prefix_cons.1 hprefix).1
      have hmem : '=' ∈ Dotenv.exported := ht ▸ (by simp)
      exact absurd hmem (by decide)

lemma cut?_assigned : cut? ['='] (assigned name value) = some (name.toList, value) :=
  cut?_append_sep (by simp) (unbordered_singleton '=') (cut?_singleton h.separator) _

lemma trim_name : trim name.toList = name.toList := trim_eq_self h.front h.back

lemma head?_line (exported : Bool) : ∃ c,
    (exportedIf exported ++ assigned name value).head? = some c ∧ isBlank c = false ∧ c ≠ '#' := by
  cases exported with
  | true => exact ⟨'e', rfl, rfl, by decide⟩
  | false =>
    obtain ⟨c, hc⟩ := Option.isSome_iff_exists.1
      (List.isSome_head?.2 (show name.toList ≠ [] by simpa using h.ne_empty))
    refine ⟨c, (h.head?_assigned value).trans hc, h.front c hc, fun he => h.comment ?_⟩
    rw [hc, he]

lemma trim_line (exported : Bool) :
    trim (exportedIf exported ++ assigned name value) =
      exportedIf exported ++ assigned name (trimEnd value) := by
  obtain ⟨c, hhead, hblank, -⟩ := h.head?_line value exported
  rw [trim, trimStart_eq_self fun d hd => by cases hhead.symm.trans hd; exact hblank]
  rw [assigned, ← List.append_assoc, List.singleton_append, trimEnd_append_cons rfl,
    List.append_assoc]
  rfl

lemma readLine_assigned (exported : Bool) :
    readLine (exportedIf exported ++ assigned name value) =
      .setting name.toList (unquote (trim value)) := by
  obtain ⟨c, hhead, -, hcomment⟩ := h.head?_line (trimEnd value) exported
  have hstart : ((exportedIf exported ++ assigned name (trimEnd value)).isEmpty ||
      (exportedIf exported ++ assigned name (trimEnd value)).head? == some '#') = false := by
    rw [hhead, List.isEmpty_eq_false_iff.2 fun hnil => by rw [hnil] at hhead; cases hhead]
    simpa using hcomment
  have hline : (if Dotenv.exported.isPrefixOf (exportedIf exported ++ assigned name (trimEnd value))
      then trimStart ((exportedIf exported ++ assigned name (trimEnd value)).drop
        Dotenv.exported.length)
      else exportedIf exported ++ assigned name (trimEnd value)) = assigned name (trimEnd value) := by
    cases exported with
    | true =>
      rw [exportedIf, if_pos rfl, if_pos (List.isPrefixOf_iff_prefix.2 (List.prefix_append _ _)),
        List.drop_left]
      exact trimStart_eq_self fun d hd => h.front d ((h.head?_assigned _).symm.trans hd)
    | false =>
      exact if_neg fun hprefix => h.not_exported_assigned _ (List.isPrefixOf_iff_prefix.1 hprefix)
  have hname : name.toList.isEmpty = false := by simpa using h.ne_empty
  simp only [readLine, h.trim_line, hstart, hline, h.cut?_assigned, h.trim_name, hname, trim_trimEnd,
    Bool.false_eq_true, if_false]

lemma readLine_setting (value : String) (exported : Bool) :
    readLine (Row.setting exported name value).text = .setting name.toList value.toList := by
  have hline := h.readLine_assigned (enclosed '"' value.toList) exported
  rwa [trim_enclosed rfl, unquote_enclosed rfl] at hline

end Portable

lemma Filler.readLine (f : Filler) : readLine f.text.toList = .skipped := by
  rw [Dotenv.readLine, if_pos]
  rcases f.idle with hempty | hcomment
  · simp [hempty]
  · simp [hcomment]

lemma Row.unbroken_text {row : Row} (h : row.Good) : Unbroken row.text := by
  cases row with
  | setting exported name value =>
    have hlead : Unbroken (exportedIf exported) := by
      cases exported <;> decide
    have hsign : Unbroken ['='] := by decide
    have hquote : Unbroken ['"'] := by decide
    have hvalue : Unbroken (['"'] ++ (value.toList ++ ['"'])) := hquote.append (h.2.append hquote)
    exact hlead.append (h.1.unbroken.append (hsign.append hvalue))
  | filler f => exact f.unbroken

def keyed (p : String × String) : String × String := (Environment.key p.1, p.2)

def Row.settings (rows : List Row) : List (String × String) := rows.filterMap Row.setting?

lemma Row.settles {row : Row} (h : row.Good) {rows : List Row} {ls : List (List Char)}
    (hls : Settles ls ((Row.settings rows).map keyed)) :
    Settles (row.text :: ls) ((Row.settings (row :: rows)).map keyed) := by
  cases row with
  | setting exported name value => exact .setting (h.1.readLine_setting value exported) hls
  | filler f => exact (Settles.skip_iff f.readLine).2 hls

structure Sheet where
  rows : List (Row × Break)
  last : Option Row

namespace Sheet

def written : List (Row × Break) → Option Row → List Char
  | [], last => (last.map Row.text).getD []
  | (row, b) :: rows, last => row.text ++ (b.chars ++ written rows last)

def text (s : Sheet) : String := String.ofList (written s.rows s.last)

def settings (s : Sheet) : List (String × String) :=
  Row.settings (s.rows.map Prod.fst ++ s.last.toList)

lemma settles_break {rest : List Char} {settings : List (String × String)}
    (h : Settles (lines rest) settings) (b : Break) :
    ∃ ls, lines (b.chars ++ rest) = [] :: ls ∧ Settles ls settings := by
  rcases lines_break b rest with hls | ⟨cs, rfl, hls⟩
  · exact ⟨_, hls, h⟩
  -- The empty line between the two is lost, and there was nothing on it.
  · rw [show lines ('\n' :: cs) = [] :: lines cs by simp [lines]] at h
    exact ⟨_, hls, (Settles.skip_iff rfl).1 h⟩

lemma settles_written {rows : List (Row × Break)} {last : Option Row}
    (h : ∀ row ∈ rows.map Prod.fst ++ last.toList, row.Good) :
    Settles (lines (written rows last))
      ((Row.settings (rows.map Prod.fst ++ last.toList)).map keyed) := by
  -- Induction on the rows: each is one line, since it has no break inside and one behind it.
  induction rows with
  | nil =>
    cases last with
    | none => exact .nil
    | some row =>
      have hgood : row.Good := h row (by simp)
      have hrow : Settles [row.text] ((Row.settings [row]).map keyed) := row.settles hgood .nil
      by_cases hempty : row.text = []
      · rw [hempty] at hrow
        have hnone := (Settles.skip_iff rfl).1 hrow
        change Settles (lines row.text) _
        rwa [hempty]
      · change Settles (lines row.text) _
        rwa [lines_of_unbroken (Row.unbroken_text hgood) hempty]
  | cons p rows ih =>
    obtain ⟨row, b⟩ := p
    have hgood : row.Good := h row (by simp)
    obtain ⟨ls, hbreak, hls⟩ := settles_break (ih fun other hother => h other (by simp_all)) b
    have hhead : (b.chars ++ written rows last).head? = some '\n' ∨
        (b.chars ++ written rows last).head? = some '\r' := by
      cases b <;> simp [Break.chars]
    rw [written, lines_append (Row.unbroken_text hgood) hhead hbreak]
    exact row.settles hgood hls

lemma parse_text {s : Sheet} (h : ∀ p ∈ s.settings, Portable p.1 ∧ Unbroken p.2.toList) :
    parse s.text.toList = .ok (Ledger.ofList (s.settings.map keyed)) := by
  have hgood : ∀ row ∈ s.rows.map Prod.fst ++ s.last.toList, row.Good := by
    intro row hrow
    cases row with
    | setting exported name value => exact h (name, value) (List.mem_filterMap.2 ⟨_, hrow, rfl⟩)
    | filler f => trivial
  rw [text, String.toList_ofList]
  exact settles_written hgood .empty 1

end Sheet

/-! ### The environment -/

lemma settings_of_ne_empty {M : Ledger String String} (h : ∀ p ∈ M.pairs, p.1 ≠ "") :
    Environment.settings "" M = Ledger.ofList (M.pairs.map keyed) := by
  rw [Environment.settings, Ledger.ofList, Ledger.putAll, List.foldl_map]
  refine List.foldl_ext _ _ _ fun found p hp => ?_
  have hafter : after? "" p.1 = some p.1 := by simp [after?, startsWith]
  rw [Environment.assign, hafter]
  simp [h p hp, keyed]

lemma fromUTF8?_toUTF8 (text : String) : String.fromUTF8? text.toUTF8 = some text := by
  rw [String.fromUTF8?, dif_pos (show text.toUTF8.IsValidUTF8 from text.isValidUTF8)]
  rfl

/-- Variables can be moved to a dotenv file that has a line for each of them: the file sets the same
keys to the same values, in the same order. -/
theorem source_of_variables {σ : Type} {P : Circumstance σ} {fs : Files} {path : String}
    (sheet : Sheet) {M : Ledger String String} {environment : Note σ (Ledger String String)}
    (hnames : ∀ p ∈ M.pairs, Portable p.1 ∧ Unbroken p.2.toList)
    (hsheet : sheet.settings = M.pairs)
    (hread : fs.read (Path.ofString path) = .ok (some sheet.text.toUTF8))
    (henvironment : Ensures P.world environment (· = M))
    (id id' : Nat) (name : String) (ordinal ordinal' : Int) :
    ∃ (file : Source σ) (written set : Ledger String Entry),
      Yields P.world (source fs id path ordinal) (.ok file) ∧
      Yields P.world file.properties (.ok written) ∧
      Yields P.world (Environment.source id' "" name ordinal' environment).properties (.ok set) ∧
      written.map (·.value) = set.map (·.value) ∧
      set.map (·.value) = (Ledger.ofList (M.pairs.map keyed)).map some := by
  have hparse := Sheet.parse_text (hsheet ▸ hnames)
  rw [hsheet] at hparse
  have hreading : Reading fs path (.ok (Ledger.ofList (M.pairs.map keyed))) :=
    .settings hread (fromUTF8?_toUTF8 sheet.text) hparse
  obtain ⟨written, hwritten, hfile⟩ := hreading.source_ok (P := P) id ordinal
  obtain ⟨set, hset, hunchanging⟩ := unchanging_environment id' "" name ordinal' henvironment
  have hwritten' := Entry.map_value_of_all hwritten
  have hset' := Entry.map_value_of_all hset
  rw [show Environment.complete "" = "" from rfl,
    settings_of_ne_empty fun p hp => (hnames p hp).1.ne_empty] at hset'
  exact ⟨_, written, set, hfile, Yields.pure _, hunchanging.properties rfl,
    hwritten'.trans hset'.symm, hset'⟩

def moved : Ledger String String :=
  ⟨[("DB__URL", "a = \"b\" # c "), ("export", "'"), ("db__url", ""), ("My key", "#\\")], by decide⟩

def movedSheet : Sheet where
  rows := [
    (.filler ⟨"\t# moved here", by decide, by decide⟩, .feed),
    (.setting true "DB__URL" "a = \"b\" # c ", .carriage),
    (.filler ⟨"", by decide, by decide⟩, .feed),
    (.setting false "export" "'", .both),
    (.filler ⟨" ", by decide, by decide⟩, .carriage),
    (.setting true "db__url" "", .feed)]
  last := some (.setting false "My key" "#\\")

def movedFiles : Files :=
  Files.empty.addAt (Path.ofString "moved.env") (.file movedSheet.text.toUTF8)

theorem source_of_moved :
    (∀ p ∈ moved.pairs, Portable p.1 ∧ Unbroken p.2.toList) ∧ movedSheet.settings = moved.pairs ∧
      (Ledger.ofList (moved.pairs.map keyed)).pairs =
        [("db.url", ""), ("export", "'"), ("my key", "#\\")] ∧
      ∃ (file : Source Unit) (written set : Ledger String Entry),
        Yields Circumstance.always.world (source movedFiles 0 "moved.env" 250) (.ok file) ∧
        Yields Circumstance.always.world file.properties (.ok written) ∧
        Yields Circumstance.always.world (Environment.source 1 "" "env" 300 (pure moved)).properties
          (.ok set) ∧
        written.map (·.value) = set.map (·.value) ∧
        set.map (·.value) = (Ledger.ofList (moved.pairs.map keyed)).map some :=
  ⟨by decide, by decide, by decide +kernel, source_of_variables movedSheet (by decide) (by decide)
    (by decide +kernel) (Ensures.pure rfl) 0 1 "env" 250 300⟩

end LayeredConfig.Source.Dotenv
