import LayeredConfig.Assembly
import LayeredConfig.Proofs.Settling

/-! How the reading of files ends, and what an assembly makes of it. A missing file is passed over
and a file at fault is a failure of access; what else escapes is told in full. -/

namespace LayeredConfig

variable {σ α β : Type} {P : Circumstance σ}

lemma anywhere : Circumstance.always.world (.initial .critical ()) := trivial

namespace Source

inductive Unfit (data : List (Data × Data)) : Failure → Prop
  | unwritable : Data.pairsWritable data = false → Unfit data (.badNumber .unwritable)
  | emptyKey : "" ∈ (Data.flatten "" data).keys → Unfit data .emptyKey

lemma Unfit.kind_eq {data : List (Data × Data)} {f : Failure} (h : Unfit data f) :
    f.kind = .value := by
  cases h <;> rfl

def Fit (data : List (Data × Data)) : Prop := ∀ f, ¬ Unfit data f

lemma fit_iff {data : List (Data × Data)} :
    Fit data ↔ Data.pairsWritable data = true ∧ "" ∉ (Data.flatten "" data).keys := by
  constructor
  · intro h
    refine ⟨?_, fun hkey => h _ (.emptyKey hkey)⟩
    by_contra hwritable
    exact h _ (.unwritable (by simpa using hwritable))
  · rintro ⟨hwritable, hkey⟩ _ (hnot | hmem)
    · simp [hwritable] at hnot
    · exact hkey hmem

lemma fit_nil : Fit [] := fit_iff.2 ⟨rfl, by simp [Data.flatten, Data.flattenOnto]⟩

namespace Mapping

variable (name : String) (data : List (Data × Data)) (ordinal : Int) (scannable : Bool)
  (metadata : Ledger String String)

lemma unfit_of_make {f : Failure} (h : make name data ordinal scannable metadata = .error f) :
    Unfit data f := by
  rw [make] at h
  cases hwritable : Data.pairsWritable data with
  | false =>
    rw [hwritable] at h
    cases h
    exact .unwritable hwritable
  | true =>
    rw [hwritable] at h
    change (Entry.all name metadata _ >>= _) = _ at h
    cases hall : Entry.all name metadata ((Data.flatten "" data).map some) with
    | error failure =>
      have hkey := (Entry.all_eq_error_iff.1 hall).2
      rw [Ledger.keys_map] at hkey
      rw [hall] at h
      cases h
      rw [(Entry.all_eq_error_iff.1 hall).1]
      exact .emptyKey hkey
    | ok entries =>
      rw [hall] at h
      cases h

lemma make_of_fit (h : Fit data) : ∃ entries,
    Entry.all name metadata ((Data.flatten "" data).map some) = .ok entries ∧
      make name data ordinal scannable metadata = .ok ⟨name, ordinal, scannable, entries⟩ := by
  obtain ⟨hwritable, hkey⟩ := fit_iff.1 h
  rw [← Ledger.keys_map some] at hkey
  obtain ⟨entries, hentries⟩ := Entry.all_ok name metadata hkey
  exact ⟨entries, hentries, make_eq_ok_iff.2 ⟨hwritable, entries, hentries, rfl⟩⟩

lemma fit_of_make {m : Mapping} (h : make name data ordinal scannable metadata = .ok m) :
    Fit data := by
  obtain ⟨hwritable, entries, hentries, _⟩ := make_eq_ok_iff.1 h
  refine fit_iff.2 ⟨hwritable, fun hkey => ?_⟩
  rw [← Ledger.keys_map some] at hkey
  rw [Entry.all_eq_error_iff.2 ⟨rfl, hkey⟩] at hentries
  cases hentries

lemma exists_make_eq_ok_iff :
    (∃ m, make name data ordinal scannable metadata = .ok m) ↔ Fit data := by
  refine ⟨fun ⟨_, h⟩ => fit_of_make _ _ _ _ _ h, fun h => ?_⟩
  obtain ⟨entries, _, h⟩ := make_of_fit name data ordinal scannable metadata h
  exact ⟨_, h⟩

end Mapping

end Source

namespace Source.File

structure Suited (s : Surroundings) (path : String) (format : Format) (read : Document.Decoder) :
    Prop where
  suffix : Format.ofPath? (Path.ofString path) = some format
  decoder : format.decoder? s = some read

structure Opens (s : Surroundings) (path : String) (format : Format) (read : Document.Decoder)
    (content : ByteArray) : Prop extends Suited s path format read where
  found : s.files.read (Path.ofString path) = .ok (some content)

def fault (format : Format) (path : String) : Document.Fault → Failure
  | .malformed complaint => .malformedFile format path complaint
  | .number f => .badNumber f
  | .calendar f => .badCalendar f
  | .endless complaint => .endless complaint
  | .foreign kind text => .foreign kind text

inductive Reading (s : Surroundings) (path : String) : Except Failure (List (Data × Data)) → Prop
  | unsupported : Format.ofPath? (Path.ofString path) = none →
    Reading s path (.error (.unsupportedFile path))
  | unavailable {format : Format} : Format.ofPath? (Path.ofString path) = some format →
    format.decoder? s = none → Reading s path (.error .yamlUnavailable)
  | refused {format : Format} {read : Document.Decoder} {complaint : String} :
    Suited s path format read → s.files.read (Path.ofString path) = .error complaint →
    Reading s path (.error (.refused complaint))
  | missing {format : Format} {read : Document.Decoder} : Suited s path format read →
    s.files.read (Path.ofString path) = .ok none → Reading s path (.error (.fileNotFound path))
  | faulty {format : Format} {read : Document.Decoder} {content : ByteArray} {f : Document.Fault} :
    Opens s path format read content → read content = .error f →
    Reading s path (.error (fault format path f))
  | noMapping {format : Format} {read : Document.Decoder} {content : ByteArray} {data : Data} :
    Opens s path format read content → read content = .ok data → mapping? format data = none →
    Reading s path (.error (.notAMapping path))
  | document {format : Format} {read : Document.Decoder} {content : ByteArray} {data : Data}
    {pairs : List (Data × Data)} :
    Opens s path format read content → read content = .ok data → mapping? format data = some pairs →
    Reading s path (.ok pairs)

lemma exists_reading (s : Surroundings) (path : String) : ∃ r, Reading s path r := by
  cases hformat : Format.ofPath? (Path.ofString path) with
  | none => exact ⟨_, .unsupported hformat⟩
  | some format =>
    cases hdecoder : format.decoder? s with
    | none => exact ⟨_, .unavailable hformat hdecoder⟩
    | some read =>
      have hsuited : Suited s path format read := ⟨hformat, hdecoder⟩
      cases hfile : s.files.read (Path.ofString path) with
      | error complaint => exact ⟨_, .refused hsuited hfile⟩
      | ok content? =>
        cases content? with
        | none => exact ⟨_, .missing hsuited hfile⟩
        | some content =>
          have hopens : Opens s path format read content := ⟨hsuited, hfile⟩
          cases hread : read content with
          | error f => exact ⟨_, .faulty hopens hread⟩
          | ok data =>
            cases hpairs : mapping? format data with
            | none => exact ⟨_, .noMapping hopens hread hpairs⟩
            | some pairs => exact ⟨_, .document hopens hread hpairs⟩

lemma Opens.reading {s : Surroundings} {path : String} {format : Format}
    {read : Document.Decoder} {content : ByteArray} (h : Opens s path format read content)
    {pairs : List (Data × Data)}
    (hpairs : (read content).toOption.bind (mapping? format) = some pairs) :
    Reading s path (.ok pairs) := by
  cases hread : read content with
  | error f =>
    rw [hread] at hpairs
    cases hpairs
  | ok data =>
    rw [hread] at hpairs
    exact .document h hread hpairs

lemma reportLoaded_yields (format : Format) (path : String) {f : Call σ α} {r : Except Failure α}
    (h : Yields P.world f r) :
    Yields P.world ((reportLoaded format path : Call σ Unit) >>= fun _ => f) r :=
  Yields.report_call _ _ _ _ _ h

lemma parse_yields (read : Document.Decoder) (format : Format) (path : String)
    (content : ByteArray) :
    Yields P.world (parse read format path content)
      ((read content).mapError (fault format path)) := by
  rw [parse]
  cases read content with
  | ok data => exact Yields.pure _
  | error f =>
    cases f with
    | malformed complaint => exact Yields.report_call _ _ _ _ _ (Yields.throw _)
    | endless complaint => exact reportLoaded_yields format path (Yields.throw _)
    | number _ | calendar _ | foreign _ _ => exact Yields.throw _

lemma Opens.load_yields {s : Surroundings} {path : String} {format : Format}
    {read : Document.Decoder} {content : ByteArray} (h : Opens s path format read content)
    {r : Except Failure (List (Data × Data))}
    (hr : ((read content).mapError (fault format path) >>= fun data =>
      match mapping? format data with
      | some pairs => .ok pairs
      | none => .error (.notAMapping path)) = r) : Yields P.world (load s path) r := by
  rw [← hr]
  delta load
  simp only [h.suffix, h.decoder, h.found]
  refine Yields.report_call _ _ _ _ _
    ((parse_yields read format path content).bind fun data _ => ?_)
  cases mapping? format data with
  | none => exact Yields.throw _
  | some pairs => exact reportLoaded_yields format path (Yields.pure _)

lemma Reading.yields {s : Surroundings} {path : String}
    {r : Except Failure (List (Data × Data))} (h : Reading s path r) :
    Yields P.world (load s path) r := by
  cases h with
  | unsupported hformat =>
    delta load
    simp only [hformat]
    exact Yields.throw _
  | unavailable hformat hdecoder =>
    delta load
    simp only [hformat, hdecoder]
    exact Yields.throw _
  | refused hsuited hfile | missing hsuited hfile =>
    delta load
    simp only [hsuited.suffix, hsuited.decoder, hfile]
    exact Yields.throw _
  | faulty hopens hread => exact hopens.load_yields (by rw [hread]; rfl)
  | noMapping hopens hread hpairs =>
    refine hopens.load_yields ?_
    rw [hread]
    change (match mapping? _ _ with | some pairs => _ | none => _) = _
    rw [hpairs]
  | document hopens hread hpairs =>
    refine hopens.load_yields ?_
    rw [hread]
    change (match mapping? _ _ with | some pairs => _ | none => _) = _
    rw [hpairs]

lemma Reading.make_yields {s : Surroundings} {path : String}
    {r : Except Failure (List (Data × Data))} (h : Reading s path r) (ordinal : Int) :
    Yields P.world (make s path ordinal none)
      (r >>= fun data => Mapping.make path data ordinal true .empty) := by
  refine h.yields.bind fun data _ => ?_
  exact (Yields.make _).keep fun m => Yields.report_call _ _ _ _ _ (Yields.pure m)

def Passes (s : Surroundings) (path : String) : Prop :=
  ∃ r, Reading s path r ∧ ((∃ f, r = .error f ∧ f.isNotFound = true) ∨ ∃ data, r = .ok data ∧ Fit data)

/-- What escapes when a file is read: the system's refusals, data that makes no source, and what a
reader finds besides faults of the text. -/
inductive Escapes (s : Surroundings) (path : String) : Failure → Prop
  | refused {format : Format} {read : Document.Decoder} {complaint : String} :
    Suited s path format read → s.files.read (Path.ofString path) = .error complaint →
    Escapes s path (.refused complaint)
  | unfit {data : List (Data × Data)} {f : Failure} :
    Reading s path (.ok data) → Unfit data f → Escapes s path f
  | number {format : Format} {read : Document.Decoder} {content : ByteArray}
    {f : Number.Integer.Fault} : Opens s path format read content →
    read content = .error (.number f) → Escapes s path (.badNumber f)
  | calendar {format : Format} {read : Document.Decoder} {content : ByteArray}
    {f : Calendar.Fault} : Opens s path format read content →
    read content = .error (.calendar f) → Escapes s path (.badCalendar f)
  | endless {format : Format} {read : Document.Decoder} {content : ByteArray} {complaint : String} :
    Opens s path format read content → read content = .error (.endless complaint) →
    Escapes s path (.endless complaint)
  | foreign {format : Format} {read : Document.Decoder} {content : ByteArray}
    {kind text : String} : Opens s path format read content →
    read content = .error (.foreign kind text) → Escapes s path (.foreign kind text)

lemma Reading.escapes {s : Surroundings} {path : String} {f : Failure}
    (h : Reading s path (.error f)) :
    f.isNotFound = true ∨ f.isInvalidFormat = true ∨ Escapes s path f := by
  generalize hr : (Except.error f : Except Failure (List (Data × Data))) = r at h
  cases h with
  | unsupported => cases hr; exact .inr (.inl rfl)
  | unavailable => cases hr; exact .inl rfl
  | refused hsuited hfile => cases hr; exact .inr (.inr (.refused hsuited hfile))
  | missing => cases hr; exact .inl rfl
  | noMapping => cases hr; exact .inr (.inl rfl)
  | document => cases hr
  | @faulty format read content fault hopens hread =>
    cases hr
    cases fault with
    | malformed complaint => exact .inr (.inl rfl)
    | number g => exact .inr (.inr (.number hopens hread))
    | calendar g => exact .inr (.inr (.calendar hopens hread))
    | endless complaint => exact .inr (.inr (.endless hopens hread))
    | foreign kind text => exact .inr (.inr (.foreign hopens hread))

lemma Reading.unique {s : Surroundings} {path : String} {r r' : Except Failure (List (Data × Data))}
    (h : Reading s path r) (h' : Reading s path r') : r = r' :=
  h.yields.unique h'.yields anywhere

lemma Reading.passes_iff {s : Surroundings} {path : String}
    {r : Except Failure (List (Data × Data))} (h : Reading s path r) :
    Passes s path ↔ (∃ f, r = .error f ∧ f.isNotFound = true) ∨ ∃ data, r = .ok data ∧ Fit data := by
  refine ⟨?_, fun hr => ⟨r, h, hr⟩⟩
  rintro ⟨r', h', hr'⟩
  rwa [h.unique h']

end Source.File

namespace Source.Dotenv

inductive Reading (fs : Files) (path : String) : Except Failure (Ledger String String) → Prop
  | refused {complaint : String} : fs.read (Path.ofString path) = .error complaint →
    Reading fs path (.error (.refused complaint))
  | missing : fs.read (Path.ofString path) = .ok none →
    Reading fs path (.error (.dotenvNotFound path))
  | settings {content : ByteArray} {text : String} {found : Ledger String String} :
    fs.read (Path.ofString path) = .ok (some content) → String.fromUTF8? content = some text →
    parse text.toList = .ok found → Reading fs path (.ok found)
  | faulty {content : ByteArray} {text : String} {f : Fault} :
    fs.read (Path.ofString path) = .ok (some content) → String.fromUTF8? content = some text →
    parse text.toList = .error f →
    Reading fs path (.error (f.toFailure (Path.ofString path).text))
  | faultyFront {content : ByteArray} {f : Fault} :
    fs.read (Path.ofString path) = .ok (some content) → String.fromUTF8? content = none →
    parse (endedLines (Text.Blocks.readable [] (Text.Blocks.ofBytes content))) = .error f →
    Reading fs path (.error (f.toFailure (Path.ofString path).text))
  | undecodable {content : ByteArray} {found : Ledger String String} :
    fs.read (Path.ofString path) = .ok (some content) → String.fromUTF8? content = none →
    parse (endedLines (Text.Blocks.readable [] (Text.Blocks.ofBytes content))) = .ok found →
    Reading fs path (.error (.undecodable "not UTF-8"))

lemma exists_reading (fs : Files) (path : String) : ∃ r, Reading fs path r := by
  cases hfile : fs.read (Path.ofString path) with
  | error complaint => exact ⟨_, .refused hfile⟩
  | ok content? =>
    cases content? with
    | none => exact ⟨_, .missing hfile⟩
    | some content =>
      cases htext : String.fromUTF8? content with
      | some text =>
        cases hparse : parse text.toList with
        | ok found => exact ⟨_, .settings hfile htext hparse⟩
        | error f => exact ⟨_, .faulty hfile htext hparse⟩
      | none =>
        cases hparse : parse (endedLines (Text.Blocks.readable [] (Text.Blocks.ofBytes content))) with
        | ok found => exact ⟨_, .undecodable hfile htext hparse⟩
        | error f => exact ⟨_, .faultyFront hfile htext hparse⟩

lemma name_ne_nil {raw name value : List Char} (h : readLine raw = .setting name value) :
    name ≠ [] := by
  simp only [readLine] at h
  split at h
  · cases h
  · split at h
    · cases h
    · split at h
      · cases h
      · rename_i hname
        cases h
        simpa using hname

lemma empty_not_mem_readLines {lines : List (List Char)} {found settings : Ledger String String}
    {number : Nat} (h : readLines found number lines = .ok settings) (hfound : "" ∉ found.keys) :
    "" ∉ settings.keys := by
  induction lines generalizing found number with
  | nil =>
    cases h
    exact hfound
  | cons raw rest ih =>
    rw [readLines] at h
    cases hline : readLine raw with
    | malformed => rw [hline] at h; cases h
    | nameless => rw [hline] at h; cases h
    | skipped =>
      rw [hline] at h
      exact ih h hfound
    | setting name value =>
      rw [hline] at h
      have hname : String.ofList name ≠ "" := by simpa using name_ne_nil hline
      apply ih h
      rw [Ledger.mem_keys_put, not_or]
      exact ⟨(Environment.key_ne_empty hname).symm, hfound⟩

lemma Reading.empty_not_mem {fs : Files} {path : String} {found : Ledger String String}
    (h : Reading fs path (.ok found)) : "" ∉ found.keys := by
  cases h with
  | settings _ _ hparse => exact empty_not_mem_readLines hparse (by simp)

lemma readText_yields (name : String) (cs : List Char) :
    Yields P.world (readText name cs) ((parse cs).mapError (Fault.toFailure name)) := by
  rw [readText]
  cases parse cs with
  | ok found => exact Yields.pure _
  | error f => exact Yields.report_call _ _ _ _ _ (Yields.throw _)

lemma readBytes_yields (name : String) (content : ByteArray) :
    Yields P.world (readBytes name content)
      (match String.fromUTF8? content with
      | some text => (parse text.toList).mapError (Fault.toFailure name)
      | none =>
        (parse (endedLines (Text.Blocks.readable [] (Text.Blocks.ofBytes content)))).mapError
          (Fault.toFailure name) >>= fun _ => .error (.undecodable "not UTF-8")) := by
  rw [readBytes]
  cases String.fromUTF8? content with
  | some text => exact readText_yields name _
  | none =>
    -- The lines in front of the bytes at fault are read first, and may be at fault themselves.
    have hfront := readText_yields (P := P) name
      (endedLines (Text.Blocks.readable [] (Text.Blocks.ofBytes content)))
    have hlast : Yields P.world (throw (.undecodable "not UTF-8") : Call σ (Ledger String String))
      (.error (.undecodable "not UTF-8")) := Yields.throw _
    simpa [discard, Functor.discard, map_const] using hfront.bind fun _ _ => hlast

lemma Reading.readBytes {fs : Files} {path : String} {r : Except Failure (Ledger String String)}
    (h : Reading fs path r) {content : ByteArray}
    (hcontent : fs.read (Path.ofString path) = .ok (some content)) :
    Yields P.world (Dotenv.readBytes (Path.ofString path).text content) r := by
  have hread := readBytes_yields (P := P) (Path.ofString path).text content
  cases h with
  | refused hfile | missing hfile => cases hfile.symm.trans hcontent
  | settings hsome htext hparse | faulty hsome htext hparse | faultyFront hsome htext hparse
  | undecodable hsome htext hparse =>
    cases hsome.symm.trans hcontent
    rw [htext] at hread
    simp only [hparse] at hread
    exact hread

lemma Reading.eq_of_refused {fs : Files} {path complaint : String}
    {r : Except Failure (Ledger String String)} (h : Reading fs path r)
    (hfile : fs.read (Path.ofString path) = .error complaint) : r = .error (.refused complaint) := by
  cases h with
  | refused hrefused =>
    cases hfile.symm.trans hrefused
    rfl
  | missing hother | settings hother | faulty hother | faultyFront hother | undecodable hother =>
    cases hfile.symm.trans hother

lemma Reading.eq_of_missing {fs : Files} {path : String}
    {r : Except Failure (Ledger String String)} (h : Reading fs path r)
    (hfile : fs.read (Path.ofString path) = .ok none) : r = .error (.dotenvNotFound path) := by
  cases h with
  | missing => rfl
  | refused hother | settings hother | faulty hother | faultyFront hother | undecodable hother =>
    cases hfile.symm.trans hother

lemma Reading.source_yields {fs : Files} {path : String} {r : Except Failure (Ledger String String)}
    (h : Reading fs path r) (id : Nat) (ordinal : Int) :
    Yields P.world (source fs id path ordinal) (do
      let entries ← Entry.all (Path.ofString path).text .empty ((← r).map some)
      return ofEntries id (Path.ofString path).text ordinal true entries) := by
  have hload : Yields P.world (load fs path)
      (r >>= fun found => Entry.all (Path.ofString path).text .empty (found.map some)) := by
    delta load
    cases hfile : fs.read (Path.ofString path) with
    | error complaint =>
      simp only [hfile]
      obtain rfl := h.eq_of_refused hfile
      exact Yields.throw _
    | ok content? =>
      cases content? with
      | none =>
        simp only [hfile]
        obtain rfl := h.eq_of_missing hfile
        exact Yields.throw _
      | some content =>
        simp only [hfile]
        refine (h.readBytes hfile).bind fun found _ => ?_
        exact (Yields.make _).keep fun entries =>
          Yields.report_call _ _ _ _ _ (Yields.pure entries)
  have hsource := hload.bind fun entries _ =>
    Yields.pure (ofEntries (σ := σ) id (Path.ofString path).text ordinal true entries)
  cases r <;> exact hsource

lemma Reading.source_ok {fs : Files} {path : String} {found : Ledger String String}
    (h : Reading fs path (.ok found)) (id : Nat) (ordinal : Int) : ∃ entries,
      Entry.all (Path.ofString path).text .empty (found.map some) = .ok entries ∧
        Yields P.world (source fs id path ordinal)
          (.ok (ofEntries id (Path.ofString path).text ordinal true entries)) := by
  obtain ⟨entries, hentries⟩ := Entry.all_ok (Path.ofString path).text .empty
    (show "" ∉ (found.map some).keys by rw [Ledger.keys_map]; exact h.empty_not_mem)
  have hsource := h.source_yields (P := P) id ordinal
  change Yields P.world _ (Entry.all _ _ _ >>= _) at hsource
  rw [hentries] at hsource
  exact ⟨entries, hentries, hsource⟩

def Passes (fs : Files) (path : String) : Prop :=
  ∃ r, Reading fs path r ∧ ((∃ f, r = .error f ∧ f.isNotFound = true) ∨ ∃ found, r = .ok found)

lemma Reading.unique {fs : Files} {path : String} {r r' : Except Failure (Ledger String String)}
    (h : Reading fs path r) (h' : Reading fs path r') : r = r' := by
  cases hfile : fs.read (Path.ofString path) with
  | ok content? =>
    cases content? with
    | some content => exact (h.readBytes hfile).unique (h'.readBytes hfile) anywhere
    | none =>
      obtain rfl := h.eq_of_missing hfile
      exact (h'.eq_of_missing hfile).symm
  | error complaint =>
    obtain rfl := h.eq_of_refused hfile
    exact (h'.eq_of_refused hfile).symm

lemma Reading.passes_iff {fs : Files} {path : String} {r : Except Failure (Ledger String String)}
    (h : Reading fs path r) :
    Passes fs path ↔ (∃ f, r = .error f ∧ f.isNotFound = true) ∨ ∃ found, r = .ok found := by
  refine ⟨?_, fun hr => ⟨r, h, hr⟩⟩
  rintro ⟨r', h', hr'⟩
  rwa [h.unique h']

inductive Escapes (fs : Files) (path : String) : Failure → Prop
  | refused {complaint : String} : fs.read (Path.ofString path) = .error complaint →
    Escapes fs path (.refused complaint)
  | undecodable {content : ByteArray} : fs.read (Path.ofString path) = .ok (some content) →
    String.fromUTF8? content = none → Escapes fs path (.undecodable "not UTF-8")

lemma Reading.escapes {fs : Files} {path : String} {f : Failure}
    (h : Reading fs path (.error f)) :
    f.isNotFound = true ∨ f.isInvalidFormat = true ∨ Escapes fs path f := by
  generalize hr : (Except.error f : Except Failure (Ledger String String)) = r at h
  cases h with
  | refused hfile => cases hr; exact .inr (.inr (.refused hfile))
  | missing => cases hr; exact .inl rfl
  | settings => cases hr
  | @faulty _ _ fault | @faultyFront _ fault =>
    cases hr
    cases fault <;> exact .inr (.inl rfl)
  | undecodable hcontent htext => cases hr; exact .inr (.inr (.undecodable hcontent htext))

end Source.Dotenv

namespace Assembly

def translated (wrap : Failure → Failure) : Except Failure α → Except Failure (Option α)
  | .ok a => .ok (some a)
  | .error f =>
    if f.isNotFound then .ok none else if f.isInvalidFormat then .error (wrap f) else .error f

lemma orSkip_yields {x : Call σ α} {r : Except Failure α} (hx : Yields P.world x r) (path : String)
    (wrap : Failure → Failure) : Yields P.world (orSkip path wrap x) (translated wrap r) := by
  refine Yields.lift hx fun outcome houtcome => ?_
  rw [houtcome]
  cases r with
  | ok a => exact Yields.pure _
  | error f =>
    cases hmissing : f.isNotFound with
    | true =>
      simp only [translated, hmissing]
      exact Yields.report_call _ _ _ _ _ (Yields.pure _)
    | false =>
      cases hinvalid : f.isInvalidFormat with
      | true =>
        simp only [translated, hmissing, hinvalid]
        exact Yields.throw _
      | false =>
        simp only [translated, hmissing, hinvalid]
        exact Yields.throw _

lemma exists_translated_eq_ok_iff {wrap : Failure → Failure} {r : Except Failure α} :
    (∃ a?, translated wrap r = .ok a?) ↔
      (∃ f, r = .error f ∧ f.isNotFound = true) ∨ ∃ a, r = .ok a := by
  cases r with
  | ok a => simp [translated]
  | error f =>
    cases hmissing : f.isNotFound with
    | true => simp [translated, hmissing]
    | false => cases hinvalid : f.isInvalidFormat <;> simp [translated, hmissing, hinvalid]

lemma translated_eq_error {wrap : Failure → Failure} {r : Except Failure α} {f : Failure}
    (h : translated wrap r = .error f) :
    (∃ g, f = wrap g) ∨ r = .error f ∧ f.isNotFound = false ∧ f.isInvalidFormat = false := by
  cases r with
  | ok a => cases h
  | error g =>
    cases hmissing : g.isNotFound with
    | true => simp [translated, hmissing] at h
    | false =>
      cases hinvalid : g.isInvalidFormat with
      | true =>
        simp only [translated, hmissing, hinvalid] at h
        cases h
        exact .inl ⟨g, rfl⟩
      | false =>
        simp only [translated, hmissing, hinvalid] at h
        cases h
        exact .inr ⟨rfl, hmissing, hinvalid⟩

/-- How a part of an assembly ends: it succeeds if it is sound, and else fails to be accessed,
unless its failure is one of those overlooked. -/
def Ends (P : Circumstance σ) (x : Call σ α) (sound : Prop) (overlooked : Failure → Prop) : Prop :=
  ∃ r, Yields P.world x r ∧ ((∃ a, r = .ok a) ↔ sound) ∧
    ∀ f, r = .error f → f.kind = .sourceAccess ∨ overlooked f

namespace Ends

variable {x : Call σ α} {f : α → Call σ β} {p q : Prop} {l l' : Failure → Prop}

lemma pure (a : α) : Ends P (Pure.pure a) True l :=
  ⟨_, Yields.pure a, by simp, fun _ h => by cases h⟩

lemma bind (hx : Ends P x p l) (hf : ∀ a, Ends P (f a) q l) : Ends P (x >>= f) (p ∧ q) l := by
  obtain ⟨r, hyields, hsound, hleft⟩ := hx
  cases r with
  | error failure =>
    refine ⟨.error failure, hyields.bind (g := fun _ => .error failure) (fun _ h => by cases h),
      by simp [← hsound], fun g hg => ?_⟩
    cases hg
    exact hleft failure rfl
  | ok a =>
    obtain ⟨r', hyields', hsound', hleft'⟩ := hf a
    refine ⟨r', hyields.bind_ok hyields', ?_, hleft'⟩
    rw [hsound', ← hsound]
    simp

lemma weaken (hx : Ends P x p l) (hq : p ↔ q) (hl : ∀ f, l f → l' f) : Ends P x q l' := by
  obtain ⟨r, hyields, hsound, hleft⟩ := hx
  exact ⟨r, hyields, hsound.trans hq, fun f hf => (hleft f hf).imp_right (hl f)⟩

lemma make {r : Except Failure α} (h : (∃ a, r = .ok a) ↔ p) (hl : ∀ f, r = .error f → l f) :
    Ends P (ExceptT.mk (Pure.pure r)) p l :=
  ⟨r, Yields.make r, h, fun f hf => .inr (hl f hf)⟩

lemma orSkip {r : Except Failure α} (hx : Yields P.world x r) (path : String)
    {wrap : Failure → Failure} (hwrap : ∀ f, (wrap f).kind = .sourceAccess)
    (hl : ∀ f, r = .error f → f.isNotFound = false → f.isInvalidFormat = false → l f) :
    Ends P (Assembly.orSkip path wrap x)
      ((∃ f, r = .error f ∧ f.isNotFound = true) ∨ ∃ a, r = .ok a) l := by
  refine ⟨_, orSkip_yields hx path wrap, exists_translated_eq_ok_iff, fun f hf => ?_⟩
  obtain ⟨g, rfl⟩ | ⟨herror, hmissing, hinvalid⟩ := translated_eq_error hf
  · exact .inl (hwrap g)
  · exact .inr (hl f herror hmissing hinvalid)

end Ends

variable (s : Surroundings)

lemma file_ends (path : String) (ordinal : Int) :
    Ends P (orSkip path (.fileNotLoaded path) (Source.File.make s path ordinal none))
      (Source.File.Passes s path) (Source.File.Escapes s path) := by
  obtain ⟨r, hr⟩ := Source.File.exists_reading s path
  refine (Ends.orSkip (hr.make_yields ordinal) path (fun _ => rfl) ?_).weaken ?_ fun _ h => h
  · intro f hf hmissing hinvalid
    cases r with
    | error g =>
      cases hf
      simpa [hmissing, hinvalid] using hr.escapes
    | ok data => exact .unfit hr (Source.Mapping.unfit_of_make _ _ _ _ _ hf)
  · rw [hr.passes_iff]
    cases r with
    | error f =>
      change ((∃ g, Except.error f = .error g ∧ _) ∨ ∃ m, Except.error f = .ok m) ↔ _
      simp
    | ok data =>
      change ((∃ g, Source.Mapping.make path data ordinal true .empty = .error g ∧ _) ∨
        ∃ m, Source.Mapping.make path data ordinal true .empty = .ok m) ↔ _
      rw [Source.Mapping.exists_make_eq_ok_iff]
      -- A document that makes no source is no missing file, so it is not left out.
      have hfound (g : Failure) (hg : Source.Mapping.make path data ordinal true .empty = .error g) :
          g.isNotFound = false := by
        simp [Failure.isNotFound, (Source.Mapping.unfit_of_make _ _ _ _ _ hg).kind_eq]
      simpa using fun g hg hmissing => absurd hmissing (by simp [hfound g hg])

lemma fileSources_ends (id place : Nat) (files : List (String × Option Int)) :
    Ends P (fileSources s id place files : Call σ (List (Source σ)))
      (∀ spec ∈ files, Source.File.Passes s spec.1)
      fun f => ∃ spec ∈ files, Source.File.Escapes s spec.1 f := by
  induction files generalizing id place with
  | nil => exact (Ends.pure _).weaken (by simp) fun _ h => h
  | cons spec rest ih =>
    let escapes (f : Failure) : Prop := ∃ spec' ∈ spec :: rest, Source.File.Escapes s spec'.1 f
    have hfirst : Ends P _ _ escapes :=
      (file_ends s spec.1 (fileOrdinal place spec.2)).weaken Iff.rfl
        fun f hf => ⟨spec, List.mem_cons_self, hf⟩
    have hrest : Ends P _ _ escapes := (ih (id + 1) (place + 1)).weaken Iff.rfl
      fun f ⟨spec', hspec', hf⟩ => ⟨spec', List.mem_cons_of_mem _ hspec', hf⟩
    exact (hfirst.bind fun m? => hrest.bind fun others => Ends.pure _).weaken (by simp) fun _ h => h

variable (a : Assembly σ)

structure Sound : Prop where
  defaults : Source.Fit a.defaults
  files : ∀ spec ∈ a.files, Source.File.Passes s spec.1
  dotenv : ∀ path ∈ a.dotenv, Source.Dotenv.Passes s.files path

inductive Overlooked : Failure → Prop
  | defaults {f : Failure} : Source.Unfit a.defaults f → Overlooked f
  | file {spec : String × Option Int} {f : Failure} :
    spec ∈ a.files → Source.File.Escapes s spec.1 f → Overlooked f
  | dotenv {path : String} {f : Failure} :
    a.dotenv = some path → Source.Dotenv.Escapes s.files path f → Overlooked f

lemma defaultsSource_ends (id : Nat) :
    Ends P (ExceptT.mk (Pure.pure (a.defaultsSource id))) (Source.Fit a.defaults)
      (a.Overlooked s) := by
  rw [defaultsSource]
  by_cases hempty : a.defaults.isEmpty
  · have hfit : Source.Fit a.defaults := by
      rw [List.isEmpty_iff.1 hempty]
      exact Source.fit_nil
    rw [if_pos hempty]
    exact Ends.make ⟨fun _ => hfit, fun _ => ⟨[], rfl⟩⟩ fun f hf => by cases hf
  · rw [if_neg hempty]
    cases hmake : Source.Mapping.make defaultsName a.defaults defaultsOrdinal true .empty with
    | ok m =>
      have hfit := Source.Mapping.fit_of_make _ _ _ _ _ hmake
      exact Ends.make ⟨fun _ => hfit, fun _ => ⟨_, rfl⟩⟩ fun f hf => by cases hf
    | error f =>
      have hunfit := Source.Mapping.unfit_of_make _ _ _ _ _ hmake
      refine Ends.make ⟨fun ⟨_, h⟩ => (nomatch h), fun h => absurd hunfit (h f)⟩ fun g hg => ?_
      cases hg
      exact .defaults hunfit

lemma dotenvSource_ends (id : Nat) :
    Ends P (a.dotenvSource s id) (∀ path ∈ a.dotenv, Source.Dotenv.Passes s.files path)
      (a.Overlooked s) := by
  rw [dotenvSource]
  cases hdotenv : a.dotenv with
  | none => exact (Ends.pure _).weaken (by simp) fun _ h => h
  | some path =>
    obtain ⟨r, hr⟩ := Source.Dotenv.exists_reading s.files path
    have hpasses : Source.Dotenv.Passes s.files path ↔
        ∀ path' ∈ some path, Source.Dotenv.Passes s.files path' := by simp
    cases r with
    | error f =>
      have hsource : Yields P.world _ (.error f) :=
        hr.source_yields id Source.Dotenv.defaultOrdinal
      refine ((Ends.orSkip hsource path (fun _ => rfl) ?_).bind fun _ => Ends.pure _).weaken ?_
        fun _ h => h
      -- A missing file is passed over and a malformed one translated, so what is left escapes.
      · rintro g ⟨⟩ hmissing hinvalid
        obtain h | h | h := hr.escapes
        · cases hmissing.symm.trans h
        · cases hinvalid.symm.trans h
        · exact .dotenv hdotenv h
      · rw [← hpasses, hr.passes_iff]
        simp
    | ok found =>
      obtain ⟨entries, _, hsource⟩ := hr.source_ok (P := P) id Source.Dotenv.defaultOrdinal
      refine ((Ends.orSkip hsource path (fun _ => rfl) fun _ h => by cases h).bind
        fun _ => Ends.pure _).weaken ?_ fun _ h => h
      rw [← hpasses, hr.passes_iff]
      simp

lemma build_settles (id slot : Nat) (converters : Conversion.Registry σ) :
    Ends P (a.build s id slot converters) (a.Sound s) (a.Overlooked s) := by
  have hfiles : Ends P (fileSources s (id + 1) 0 a.files) _ (a.Overlooked s) :=
    (fileSources_ends s (id + 1) 0 a.files).weaken Iff.rfl fun _ ⟨_, hspec, hf⟩ => .file hspec hf
  have hbuild : Ends P (a.build s id slot converters) _ (a.Overlooked s) :=
    ((a.defaultsSource_ends s id).bind fun _ => hfiles.bind fun _ =>
      (a.dotenvSource_ends s (id + a.files.length + 1)).bind fun _ => Ends.pure _).bind
      fun _ => Ends.pure _
  refine hbuild.weaken ⟨?_, ?_⟩ fun _ h => h
  · rintro ⟨⟨hdefaults, hfiles, hdotenv, -⟩, -⟩
    exact ⟨hdefaults, hfiles, hdotenv⟩
  · rintro ⟨hdefaults, hfiles, hdotenv⟩
    exact ⟨⟨hdefaults, hfiles, hdotenv, trivial⟩, trivial⟩

end Assembly

end LayeredConfig
