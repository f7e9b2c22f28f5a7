import LayeredConfig.Proofs.Precedence

/-! Which files of an assembly become sources. A file is left out where nothing is at its path, and
also where it is there but its format cannot be read; and a path whose suffix names no format keeps
the assembly from being built even where nothing is. -/

namespace LayeredConfig

variable {σ : Type} {s : Surroundings}

namespace Source.File

def admits (s : Surroundings) (path : String) : Bool :=
  s.files.isFile (Path.ofString path) &&
    (Format.ofPath? (Path.ofString path)).any fun format => (format.decoder? s).isSome

def supported (path : String) : Prop := (Format.ofPath? (Path.ofString path)).isSome = true

lemma admits_of_reads {path : String} (h : supported path) (hyaml : s.readsYaml = true) :
    admits s path = s.files.isFile (Path.ofString path) := by
  obtain ⟨format, hformat⟩ := Option.isSome_iff_exists.1 h
  have hdecoder : (format.decoder? s).isSome = true := by
    cases format with
    | toml | json => rfl
    | yaml => exact hyaml
  rw [admits, hformat, Option.any_some, hdecoder, Bool.and_true]

lemma Reading.admits {path : String} {data : List (Data × Data)} (h : Reading s path (.ok data)) :
    supported path ∧ admits s path = true := by
  cases h with
  | document hopens =>
    refine ⟨by rw [supported, hopens.suffix]; rfl, ?_⟩
    rw [File.admits, Files.isFile_of_read hopens.found, hopens.suffix, Option.any_some, hopens.decoder]
    rfl

lemma Reading.not_admits {path : String} {f : Failure} (h : Reading s path (.error f))
    (hmissing : f.isNotFound = true) : supported path ∧ File.admits s path = false := by
  generalize hr : (Except.error f : Except Failure (List (Data × Data))) = r at h
  cases h with
  | unsupported => cases hr; cases hmissing
  | unavailable hformat hdecoder =>
    refine ⟨by rw [supported, hformat]; rfl, ?_⟩
    rw [File.admits, hformat, Option.any_some, hdecoder]
    exact Bool.and_false _
  | refused => cases hr; cases hmissing
  | missing hsuited hfound =>
    refine ⟨by rw [supported, hsuited.suffix]; rfl, ?_⟩
    rw [File.admits, Files.isFile_of_read hfound]
    rfl
  | @faulty format read content fault => cases hr; cases fault <;> cases hmissing
  | noMapping => cases hr; cases hmissing
  | document => cases hr

lemma exists_ranked {files : List (String × Option Int)}
    (h : ∀ spec ∈ files, Passes s spec.1) (place : Nat) :
    ∃ ranked, Ranked s place files ranked := by
  induction files generalizing place with
  | nil => exact ⟨[], .nil place⟩
  | cons spec files ih =>
    obtain ⟨hspec, hfiles⟩ := List.forall_mem_cons.1 h
    obtain ⟨ranked, hranked⟩ := ih hfiles (place + 1)
    obtain ⟨_, hreading, ⟨f, rfl, hmissing⟩ | ⟨data, rfl, hfit⟩⟩ := hspec
    · exact ⟨ranked, .missing hreading hmissing hranked⟩
    · exact ⟨_, .document hreading hfit hranked⟩

lemma Ranked.supported {place : Nat} {files : List (String × Option Int)}
    {ranked : List (Int × Layer)} (h : Ranked s place files ranked) :
    ∀ spec ∈ files, supported spec.1 := by
  induction h with
  | nil => exact List.forall_mem_nil _
  | missing hreading hmissing _ ih =>
    exact List.forall_mem_cons.2 ⟨(hreading.not_admits hmissing).1, ih⟩
  | document hreading _ _ ih => exact List.forall_mem_cons.2 ⟨hreading.admits.1, ih⟩

end Source.File

lemma Source.Dotenv.exists_ranked {fs : Files} {dotenv : Option String}
    (h : ∀ path ∈ dotenv, Passes fs path) : ∃ ranked, Ranked fs dotenv ranked := by
  cases dotenv with
  | none => exact ⟨[], .absent⟩
  | some path =>
    obtain ⟨_, hreading, ⟨f, rfl, hmissing⟩ | ⟨found, rfl⟩⟩ := h path rfl
    · exact ⟨[], .missing hreading hmissing⟩
    · exact ⟨_, .settings hreading⟩

lemma Source.registered_bears {P : Circumstance σ} {sources : List (Source σ)}
    {ranked : List (Int × Layer)} (h : List.Forall₂ (Bears P) sources ranked) :
    sources.map (fun source => (source.name, source.ordinal)) =
      ranked.map fun p => (p.2.name, p.1) := by
  induction h with
  | nil => rfl
  | cons hbears _ ih => rw [List.map_cons, List.map_cons, ih, hbears.name, hbears.ordinal]

namespace Assembly

open Source

def admitted (s : Surroundings) (place : Nat) (files : List (String × Option Int)) :
    List ((String × Option Int) × Nat) :=
  (files.zipIdx place).filter fun p => File.admits s p.1.1

def registered (p : (String × Option Int) × Nat) : String × Int :=
  (p.1.1, p.1.2.getD (100 + (p.2 : Int)))

lemma registered_ranked {place : Nat} {files : List (String × Option Int)}
    {ranked : List (Int × Layer)} (h : File.Ranked s place files ranked) :
    ranked.map (fun p => (p.2.name, p.1)) = (admitted s place files).map registered := by
  induction h with
  | nil => rfl
  | missing hreading hmissing _ ih =>
    rw [ih, admitted, admitted, List.zipIdx_cons, List.filter_cons_of_neg]
    simpa using (hreading.not_admits hmissing).2
  | document hreading _ _ ih =>
    rw [List.map_cons, ih, admitted, admitted, List.zipIdx_cons, List.filter_cons_of_pos]
    · rfl
    · exact hreading.admits.2

/-- An assembly is built over files whose suffixes name a format. Those that are there and can be
read become sources, in order and with the ordinals of their places among all; where YAML can be
read, only missing files are left out. -/
theorem build_admits (a : Assembly σ) {id slot : Nat} {converters : Conversion.Registry σ}
    {w w' : World σ} {c : Context σ}
    (h : (a.build s id slot converters).run.run w = (.ok c, w')) :
    (∀ spec ∈ a.files, File.supported spec.1) ∧
      (s.readsYaml = true → ∀ spec ∈ a.files,
        File.admits s spec.1 = s.files.isFile (Path.ofString spec.1)) ∧
      ∃ defaults documents settings layers dotenv,
        c.sources = defaults ++ documents ++ settings ++
          a.environmentSource (id + a.files.length + 2) ∧
        documents.map (fun source => (source.name, source.ordinal)) =
          (admitted s 0 a.files).map registered ∧
        File.Ranked s 0 a.files layers ∧ Dotenv.Ranked s.files a.dotenv dotenv ∧
        List.Forall₂ (Bears fun _ _ => True) defaults (a.defaultsLayers.map (defaultsOrdinal, ·)) ∧
        List.Forall₂ (Bears fun _ _ => True) documents layers ∧
        List.Forall₂ (Bears fun _ _ => True) settings dotenv := by
  let P : Circumstance σ := fun _ _ => True
  obtain ⟨r, hyields, hsound, -⟩ := a.build_settles (P := P) s id slot converters
  obtain rfl : r = .ok c := (hyields w trivial).1.symm.trans (congrArg Prod.fst h)
  have ha : a.Sound s := hsound.1 ⟨c, rfl⟩
  obtain ⟨layers, hlayers⟩ := File.exists_ranked ha.files 0
  obtain ⟨dotenv, hdotenv⟩ := Dotenv.exists_ranked ha.dotenv
  obtain ⟨defaults, documents, settings, hbuild, hdefaults, hdocuments, hsettings⟩ :=
    a.build_parts (P := P) ha.defaults hlayers hdotenv id slot converters
  obtain rfl := Except.ok.inj (hbuild.unique hyields (t := w) trivial)
  refine ⟨hlayers.supported, fun hyaml spec hspec => ?_, defaults, documents, settings, layers,
    dotenv, rfl, ?_, hlayers, hdotenv, hdefaults, hdocuments, hsettings⟩
  · exact File.admits_of_reads (hlayers.supported spec hspec) hyaml
  · rw [registered_bears hdocuments, registered_ranked hlayers]

def cabinet : Surroundings where
  files :=
    { tree := .ofList [(["a.json"], .file "\x7b\x7d".toUTF8), (["b.json"], .directory),
        (["c.yaml"], .file "k: v".toUTF8)]
      current := [] }
  yaml := none

def ofFiles (files : List (String × Option Int)) : Assembly Unit :=
  ⟨[], files, none, none, pure .empty, []⟩

def buildInCabinet (files : List (String × Option Int)) :
    Except Failure (Context Unit) × World Unit :=
  ((ofFiles files).build cabinet 0 0 .empty).run.run (.initial .critical ())

def requested : List (String × Option Int) :=
  [("a.json", some 7), ("absent.toml", none), ("b.json", none), ("c.yaml", none), ("a.json", none)]

lemma read_cabinet {path : String} {content? : Option ByteArray}
    (h : cabinet.files.content? (Path.ofString path) = content?) :
    cabinet.files.read (Path.ofString path) = .ok content? :=
  (Files.read_eq_of_open fun _ => rfl).trans (congrArg _ h)

lemma sound_requested : (ofFiles requested).Sound cabinet := by
  have hdocument : File.Passes cabinet "a.json" := by
    have hopens : File.Opens cabinet "a.json" .json Document.Json.read "\x7b\x7d".toUTF8 :=
      ⟨⟨by decide +kernel, rfl⟩, read_cabinet (by decide +kernel)⟩
    have hempty : ((Document.Json.read "\x7b\x7d".toUTF8).toOption.bind
        (File.mapping? .json)).map List.length = some 0 := by decide +kernel
    obtain ⟨pairs, hpairs, hlength⟩ := Option.map_eq_some_iff.1 hempty
    obtain rfl := List.length_eq_zero_iff.1 hlength
    exact ⟨_, hopens.reading hpairs, .inr ⟨[], rfl, fit_nil⟩⟩
  have hmissing (path : String) {format : Format} {read : Document.Decoder}
      (hsuited : File.Suited cabinet path format read)
      (h : cabinet.files.content? (Path.ofString path) = none) : File.Passes cabinet path :=
    ⟨_, .missing hsuited (read_cabinet h), .inl ⟨_, rfl, rfl⟩⟩
  have habsent : File.Passes cabinet "absent.toml" :=
    hmissing _ ⟨(by decide +kernel : _ = some .toml), rfl⟩ (by decide +kernel)
  have hdirectory : File.Passes cabinet "b.json" :=
    hmissing _ ⟨(by decide +kernel : _ = some .json), rfl⟩ (by decide +kernel)
  have hunreadable : File.Passes cabinet "c.yaml" :=
    ⟨_, .unavailable (by decide +kernel : _ = some .yaml) rfl, .inl ⟨_, rfl, rfl⟩⟩
  refine ⟨fit_nil, ?_, fun path h => absurd h (Option.not_mem_none path)⟩
  simp only [ofFiles, requested, List.forall_mem_cons]
  exact ⟨hdocument, habsent, hdirectory, hunreadable, hdocument, List.forall_mem_nil _⟩

theorem build_admits_requested :
    ∃ c w', buildInCabinet requested = (.ok c, w') ∧
      c.sources.map (fun source => (source.name, source.ordinal)) =
        [("a.json", 7), ("a.json", 104)] := by
  obtain ⟨r, hyields, hsound, -⟩ :=
    (ofFiles requested).build_settles (P := Circumstance.always) cabinet 0 0 .empty
  obtain ⟨c, rfl⟩ := hsound.2 sound_requested
  have hrun : buildInCabinet requested = (.ok c, (buildInCabinet requested).2) :=
    Prod.ext (hyields (.initial .critical ()) trivial).1 rfl
  refine ⟨c, _, hrun, ?_⟩
  obtain ⟨-, -, defaults, documents, settings, layers, dotenv, hsources, hregistered, -, hdotenv,
    hdefaults, -, hsettings⟩ := (ofFiles requested).build_admits hrun
  have hadmitted : (admitted cabinet 0 requested).map registered =
      [("a.json", 7), ("a.json", 104)] := by decide +kernel
  cases hdefaults
  cases hdotenv
  cases hsettings
  rw [hsources, List.nil_append, List.append_nil]
  exact (congrArg (List.map _) (List.append_nil documents)).trans (hregistered.trans hadmitted)

theorem build_misjudges_missing :
    (cabinet.files.isFile (Path.ofString "c.yaml") = true ∧
      ∃ c, (buildInCabinet [("c.yaml", none)]).1 = .ok c ∧ c.sources = []) ∧
    cabinet.files.isFile (Path.ofString "absent.ini") = false ∧
      ∃ f, (buildInCabinet [("absent.ini", none)]).1 = .error f ∧ f.kind = .sourceAccess := by
  have hpassed : (buildInCabinet [("c.yaml", none)]).1.toOption.map (·.sources.length) =
      some 0 := by decide +kernel
  have hfailed : (match (buildInCabinet [("absent.ini", none)]).1 with
      | .ok _ => none
      | .error f => some f.kind) = some .sourceAccess := by decide +kernel
  refine ⟨⟨by decide +kernel, ?_⟩, by decide +kernel, ?_⟩
  · generalize (buildInCabinet [("c.yaml", none)]).1 = r at hpassed ⊢
    cases r with
    | error f => cases hpassed
    | ok c => exact ⟨c, rfl, List.length_eq_zero_iff.1 (Option.some.inj hpassed)⟩
  · generalize (buildInCabinet [("absent.ini", none)]).1 = r at hfailed ⊢
    cases r with
    | ok c => cases hfailed
    | error f => exact ⟨f, rfl, Option.some.inj hfailed⟩

end Assembly

end LayeredConfig
