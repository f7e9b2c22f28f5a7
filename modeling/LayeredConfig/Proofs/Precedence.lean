import LayeredConfig.Proofs.Loading
import LayeredConfig.Proofs.Publication

/-! Which source of an assembly prevails. Its sources rank by their ordinals, and those of one
ordinal by their places; the last one that provides a key gives its value. -/

namespace LayeredConfig

variable {σ : Type} {P : Circumstance σ}

structure Layer where
  name : String
  values : Ledger String String

namespace Layer

def provided (layers : List Layer) (key : String) : List (String × String) :=
  layers.filterMap fun l => (l.values.get? key).map (l.name, ·)

def winner? (layers : List Layer) (key : String) : Option (String × String) :=
  (provided layers key).getLast?

def effective (m : MetaKeys) (layers : List Layer) (key name : String) : Option String :=
  if name ∈ m.names then
    ((winner? layers (MetaKeys.keyFor key name)).or
      (winner? layers (m.lead ++ MetaKeys.keyFor key name))).map Prod.snd
  else none

lemma winner?_append (xs ys : List Layer) (key : String) :
    winner? (xs ++ ys) key = (winner? ys key).or (winner? xs key) := by
  rw [winner?, provided, List.filterMap_append, List.getLast?_append]
  rfl

lemma winner?_eq_none {layers : List Layer} {key : String}
    (h : ∀ l ∈ layers, l.values.get? key = none) : winner? layers key = none := by
  rw [winner?, List.getLast?_eq_none_iff, provided, List.filterMap_eq_nil_iff]
  intro l hl
  rw [h l hl, Option.map_none]

end Layer

structure Source.Bears (P : Circumstance σ) (s : Source σ) (p : Int × Layer) : Prop where
  ordinal : s.ordinal = p.1
  name : s.name = p.2.name
  scannable : s.scannable = true
  holds : ∃ entries, Entry.all p.2.name .empty (p.2.values.map some) = .ok entries ∧
    s.Unchanging P entries.get? entries

lemma Source.bears_ofEntries (id : Nat) (ordinal : Int) {name : String}
    {values : Ledger String String} {entries : Ledger String Entry}
    (h : Entry.all name .empty (values.map some) = .ok entries) :
    (ofEntries id name ordinal true entries).Bears P (ordinal, ⟨name, values⟩) :=
  ⟨rfl, rfl, rfl, entries, h,
    unchanging_ofEntries _ _ _ _ (Entry.empty_not_mem_keys_of_all h)⟩

namespace Steady

open Resolver.Regular

variable {sources : List (Source σ)} (v : Steady P sources)

structure Shows (s : Source σ) (p : Int × Layer) : Prop where
  ordinal : s.ordinal = p.1
  name : s.name = p.2.name
  values : ∀ key, (v.held s key).bind (·.value) = p.2.values.get? key

lemma shows_of_bears {w : World σ} (hw : P.world w) {s : Source σ} (hs : s ∈ sources)
    {p : Int × Layer} (h : s.Bears P p) : v.Shows s p := by
  obtain ⟨entries, hentries, hunchanging⟩ := h.holds
  refine ⟨h.ordinal, h.name, fun key => ?_⟩
  have hheld := Except.ok.inj ((v.get s hs key).unique (hunchanging.get key) hw)
  have hvalue := Entry.value_of_all hentries key
  rw [Ledger.get?_map] at hvalue
  rw [hheld]
  cases hentry : entries.get? key <;> cases htext : p.2.values.get? key <;> simp_all

lemma forall₂_shows {w : World σ} (hw : P.world w) {ranked : List (Int × Layer)}
    (h : List.Forall₂ (Source.Bears P) sources ranked) : List.Forall₂ v.Shows sources ranked := by
  obtain ⟨hlen, hzip⟩ := List.forall₂_iff_zip.1 h
  exact List.forall₂_iff_zip.2
    ⟨hlen, fun hp => v.shows_of_bears hw (List.of_mem_zip hp).1 (hzip hp)⟩

variable {ordered : List (Source σ)} {ranked : List (Int × Layer)}

lemma brought_cons (s : Source σ) (rest : List (Source σ)) (key : String) :
    (v.brought (s :: rest) key).map (fun c => (c.name, c.text)) =
      (((v.held s key).bind (·.value)).map (s.name, ·)).toList ++
        (v.brought rest key).map fun c => (c.name, c.text) := by
  rw [brought, brought, contributions, contributions, List.filterMap_cons]
  cases v.held s key with
  | none => rfl
  | some e =>
    simp only [Option.map_some, List.filterMap_cons]
    cases hvalue : e.value <;> simp [hvalue]

lemma provided_eq (h : List.Forall₂ v.Shows ordered ranked) (key : String) :
    (v.brought ordered key).map (fun c => (c.name, c.text)) =
      Layer.provided (ranked.map Prod.snd) key := by
  induction h with
  | nil => rfl
  | @cons s p _ _ hs _ ih =>
    rw [brought_cons, ih, hs.values, hs.name, Layer.provided, Layer.provided, List.map_cons,
      List.filterMap_cons]
    cases p.2.values.get? key <;> rfl

lemma values_eq (h : List.Forall₂ v.Shows ordered ranked) (key : String) :
    v.values ordered key = (Layer.provided (ranked.map Prod.snd) key).map Prod.snd := by
  rw [← v.provided_eq h, List.map_map, ← v.map_text_brought]
  rfl

lemma effective_eq (h : List.Forall₂ v.Shows ordered ranked) (m : MetaKeys) (key : String) :
    v.effective m ordered key = Layer.effective m (ranked.map Prod.snd) key := by
  funext name
  simp only [effective, Layer.effective, v.values_eq h, Layer.winner?, List.getLast?_map]
  cases (Layer.provided (ranked.map Prod.snd) (MetaKeys.keyFor key name)).getLast? <;> rfl

lemma lists_of_brought (hscan : ∀ s ∈ sources, s.scannable = true) {key : String}
    (h : v.brought (Source.inOrder sources) key ≠ []) : v.Lists key := by
  obtain ⟨c, hc⟩ := List.exists_mem_of_ne_nil _ h
  obtain ⟨s, hs, hheld⟩ := v.held_of_mem_brought hc
  have hmem := mem_inOrder.1 hs
  rw [v.held_eq s hmem (hscan s hmem)] at hheld
  exact ⟨s, hmem, hscan s hmem, Ledger.mem_keys_of_get? hheld⟩

lemma bulk_winner (slot : Nat) (hempty : ∀ s ∈ sources, v.held s "" = none)
    (hscan : ∀ s ∈ sources, s.scannable = true) (h : List.Forall₂ v.Shows sources ranked)
    {layers : List Layer} (hlayers : (Ranking.sort Prod.fst ranked).map Prod.snd = layers) :
    ∃ merged, v.bulk (builtIn P slot .standard) .standard = .ok merged ∧ ∀ key,
      MetaKeys.standard.isMeta key = false →
      collects (Layer.effective .standard layers key) = false →
      (merged.get? key).bind (·.value) = (Layer.winner? layers key).map Prod.snd ∧
        (merged.get? key).map (·.source) = (Layer.winner? layers key).map Prod.fst := by
  -- Sorting keeps sources and layers in step, so the last to provide a key is the same in both.
  have hsorted : List.Forall₂ v.Shows (Source.inOrder sources) (Ranking.sort Prod.fst ranked) :=
    Ranking.forall₂_sort h fun _ _ hs => hs.ordinal
  have hnot := v.not_remains_empty .standard hempty (Source.inOrder sources)
  obtain ⟨merged, hmerged⟩ := v.bulk_builtIn slot .standard hempty
  refine ⟨merged, hmerged, fun key hvisible hcollects => ?_⟩
  have hwinner : Layer.winner? layers key =
      ((v.brought (Source.inOrder sources) key).getLast?).map fun c => (c.name, c.text) := by
    rw [← List.getLast?_map, v.provided_eq hsorted, hlayers, Layer.winner?]
  by_cases hbrought : v.brought (Source.inOrder sources) key = []
  · have hkey : key ∉ merged.keys := by
      rw [v.mem_keys_bulk slot hnot hmerged]
      exact fun hremains => hremains.2.2 hbrought
    rw [hwinner, hbrought, Ledger.get?_eq_none_iff.2 hkey]
    exact ⟨rfl, rfl⟩
  · have hremains : v.Remains .standard (Source.inOrder sources) key :=
      ⟨hvisible, v.lists_of_brought hscan hbrought, hbrought⟩
    have hne : key ≠ "" := fun he => hnot (he ▸ hremains)
    obtain ⟨last, entry, hlast, hentry, hleft⟩ := v.bulk_leaves slot hmerged hne hremains
    have heffective : (fun name => MetaKeys.standard.inEffect v.last key name) =
        Layer.effective .standard layers key := by
      rw [← hlayers, ← v.effective_eq hsorted]
      exact funext (v.inEffect_last (by decide) (by decide) hne hvisible)
    have hvalue := hleft.value
    rw [show MetaKeys.standard.inEffect v.last key = _ from heffective, combinedText,
      if_neg (by simp [hcollects])] at hvalue
    rw [hwinner, hlast, hentry]
    exact ⟨hvalue, congrArg some hleft.source⟩

end Steady

namespace Source

inductive File.Ranked (s : Surroundings) :
    Nat → List (String × Option Int) → List (Int × Layer) → Prop
  | nil (place : Nat) : Ranked s place [] []
  | missing {place : Nat} {path : String} {asked : Option Int} {f : Failure}
    {rest : List (String × Option Int)} {ranked : List (Int × Layer)} :
    Reading s path (.error f) → f.isNotFound = true → Ranked s (place + 1) rest ranked →
    Ranked s place ((path, asked) :: rest) ranked
  | document {place : Nat} {path : String} {asked : Option Int} {data : List (Data × Data)}
    {rest : List (String × Option Int)} {ranked : List (Int × Layer)} :
    Reading s path (.ok data) → Fit data → Ranked s (place + 1) rest ranked →
    Ranked s place ((path, asked) :: rest)
      ((Assembly.fileOrdinal place asked, ⟨path, Data.flatten "" data⟩) :: ranked)

inductive Dotenv.Ranked (fs : Files) : Option String → List (Int × Layer) → Prop
  | absent : Ranked fs none []
  | missing {path : String} {f : Failure} :
    Reading fs path (.error f) → f.isNotFound = true → Ranked fs (some path) []
  | settings {path : String} {found : Ledger String String} :
    Reading fs path (.ok found) →
    Ranked fs (some path) [(defaultOrdinal, ⟨(Path.ofString path).text, found⟩)]

end Source

namespace Assembly

open Source

variable {s : Surroundings}

lemma fileSources_bear {place : Nat} {files : List (String × Option Int)}
    {ranked : List (Int × Layer)} (h : File.Ranked s place files ranked) (id : Nat) :
    ∃ sources, Yields P.world (fileSources s id place files) (.ok sources) ∧
      List.Forall₂ (Bears P) sources ranked := by
  induction h generalizing id with
  | nil place => exact ⟨[], Yields.pure _, .nil⟩
  | @missing place path asked f rest ranked hreading hmissing _ ih =>
    obtain ⟨sources, hsources, hbear⟩ := ih (id + 1)
    have hmake : Yields P.world _ (.error f) := hreading.make_yields (fileOrdinal place asked)
    have hfile := orSkip_yields hmake path (.fileNotLoaded path)
    rw [translated, if_pos hmissing] at hfile
    exact ⟨sources, hfile.bind_ok (hsources.bind_ok (Yields.pure _)), hbear⟩
  | @document place path asked data rest ranked hreading hfit _ ih =>
    obtain ⟨sources, hsources, hbear⟩ := ih (id + 1)
    obtain ⟨entries, hentries, hmake⟩ :=
      Mapping.make_of_fit path data (fileOrdinal place asked) true .empty hfit
    have hmapping : Yields P.world _ (Mapping.make _ _ _ _ _) :=
      hreading.make_yields (fileOrdinal place asked)
    rw [hmake] at hmapping
    have hfile := orSkip_yields hmapping path (.fileNotLoaded path)
    exact ⟨_ :: sources, hfile.bind_ok (hsources.bind_ok (Yields.pure _)),
      .cons (bears_ofEntries id _ hentries) hbear⟩

variable (a : Assembly σ)

lemma dotenvSource_bears {ranked : List (Int × Layer)} (h : Dotenv.Ranked s.files a.dotenv ranked)
    (id : Nat) : ∃ sources, Yields P.world (a.dotenvSource s id) (.ok sources) ∧
      List.Forall₂ (Bears P) sources ranked := by
  rw [dotenvSource]
  generalize a.dotenv = dotenv at h
  cases h with
  | absent => exact ⟨[], Yields.pure _, .nil⟩
  | @missing path f hreading hmissing =>
    have hsource : Yields P.world _ (.error f) :=
      hreading.source_yields id Dotenv.defaultOrdinal
    have hdotenv := orSkip_yields hsource path (.dotenvNotLoaded path)
    rw [translated, if_pos hmissing] at hdotenv
    exact ⟨[], hdotenv.bind_ok (Yields.pure _), .nil⟩
  | @settings path found hreading =>
    obtain ⟨entries, hentries, hsource⟩ := hreading.source_ok (P := P) id Dotenv.defaultOrdinal
    exact ⟨[_], (orSkip_yields hsource path _).bind_ok (Yields.pure _),
      .cons (bears_ofEntries id _ hentries) .nil⟩

def defaultsLayers : List Layer :=
  if a.defaults.isEmpty then [] else [⟨defaultsName, Data.flatten "" a.defaults⟩]

def environmentLayers (bindings : Ledger String String) : List Layer :=
  (a.lead.map fun lead =>
    ⟨environmentName, Environment.settings (Environment.complete lead) bindings⟩).toList

lemma defaultsSource_bears (hfit : Fit a.defaults) (id : Nat) :
    ∃ sources, a.defaultsSource id = .ok sources ∧
      List.Forall₂ (Bears P) sources (a.defaultsLayers.map (defaultsOrdinal, ·)) := by
  rw [defaultsSource, defaultsLayers]
  by_cases hempty : a.defaults.isEmpty
  · rw [if_pos hempty, if_pos hempty]
    exact ⟨[], rfl, .nil⟩
  · obtain ⟨entries, hentries, hmake⟩ :=
      Mapping.make_of_fit defaultsName a.defaults defaultsOrdinal true .empty hfit
    rw [if_neg hempty, if_neg hempty, hmake]
    exact ⟨[_], rfl, .cons (bears_ofEntries id _ hentries) .nil⟩

lemma environmentSource_bears {bindings : Ledger String String}
    (h : Ensures P.world a.environment (· = bindings)) (id : Nat) :
    List.Forall₂ (Bears P) (a.environmentSource id)
      ((a.environmentLayers bindings).map (Environment.defaultOrdinal, ·)) := by
  rw [environmentSource, environmentLayers]
  cases a.lead with
  | none => exact .nil
  | some lead =>
    obtain ⟨entries, hentries, hunchanging⟩ :=
      unchanging_environment id lead environmentName Environment.defaultOrdinal h
    exact .cons ⟨rfl, rfl, rfl, entries, hentries, hunchanging⟩ .nil

lemma build_parts (hdefaults : Fit a.defaults) {files dotenv : List (Int × Layer)}
    (hfiles : File.Ranked s 0 a.files files) (hdotenv : Dotenv.Ranked s.files a.dotenv dotenv)
    (id slot : Nat) (converters : Conversion.Registry σ) : ∃ defaults documents settings,
      Yields P.world (a.build s id slot converters)
        (.ok ⟨defaults ++ documents ++ settings ++ a.environmentSource (id + a.files.length + 2),
          a.filters, converters, ⟨slot, .empty, .standard⟩⟩) ∧
      List.Forall₂ (Bears P) defaults (a.defaultsLayers.map (defaultsOrdinal, ·)) ∧
      List.Forall₂ (Bears P) documents files ∧ List.Forall₂ (Bears P) settings dotenv := by
  obtain ⟨defaults, hmake, hdefaultsBear⟩ := a.defaultsSource_bears (P := P) hdefaults id
  obtain ⟨documents, hdocuments, hdocumentsBear⟩ := fileSources_bear (P := P) hfiles (id + 1)
  obtain ⟨settings, hsettings, hsettingsBear⟩ :=
    a.dotenvSource_bears (P := P) hdotenv (id + a.files.length + 1)
  refine ⟨defaults, documents, settings, ?_, hdefaultsBear, hdocumentsBear, hsettingsBear⟩
  have hstart : Yields P.world (ExceptT.mk (pure (a.defaultsSource id))) (.ok defaults) :=
    hmake ▸ Yields.make _
  refine (hstart.bind_ok (hdocuments.bind_ok (hsettings.bind_ok ?_))).bind_ok (Yields.pure _)
  exact Yields.pure _

def ranked (bindings : Ledger String String) (files dotenv : List (Int × Layer)) :
    List (Int × Layer) :=
  a.defaultsLayers.map (defaultsOrdinal, ·) ++ files ++ dotenv ++
    (a.environmentLayers bindings).map (Environment.defaultOrdinal, ·)

structure Reads (P : Circumstance σ) (s : Surroundings) (bindings : Ledger String String)
    (files dotenv : List (Int × Layer)) : Prop where
  defaults : Fit a.defaults
  files : File.Ranked s 0 a.files files
  dotenv : Dotenv.Ranked s.files a.dotenv dotenv
  environment : Ensures P.world a.environment (· = bindings)

variable {a} {bindings : Ledger String String} {files dotenv : List (Int × Layer)}

lemma Reads.build_yields (h : a.Reads P s bindings files dotenv) (id slot : Nat)
    (converters : Conversion.Registry σ) : ∃ sources,
      Yields P.world (a.build s id slot converters)
        (.ok ⟨sources, a.filters, converters, ⟨slot, .empty, .standard⟩⟩) ∧
      List.Forall₂ (Bears P) sources (a.ranked bindings files dotenv) := by
  obtain ⟨defaults, documents, settings, hbuild, hdefaults, hdocuments, hsettings⟩ :=
    a.build_parts h.defaults h.files h.dotenv id slot converters
  refine ⟨_, hbuild, List.rel_append ?_ (a.environmentSource_bears h.environment _)⟩
  exact List.rel_append (List.rel_append hdefaults hdocuments) hsettings

lemma resolve_yields_of_context {id slot : Nat} {converters : Conversion.Registry σ}
    {c : Context σ} {config : Config σ} (hbuild : Yields P.world (a.build s id slot converters) (.ok c))
    (hresolve : Yields P.memory c.resolve (.ok config)) :
    Yields P.memory (a.resolve s id slot converters)
      (.ok (if config.isEmpty then .empty else config)) := by
  have htrace : Ensures P.memory (Note.recall (bindTrace none : Note σ Unit)) fun _ => True :=
    Ensures.recall P.within_memory fun _ hw => ⟨trivial, hw⟩
  refine Yields.lift htrace fun _ _ => (Yields.call P.within_memory hbuild).bind_ok
    (hresolve.bind_ok ?_)
  cases config.isEmpty with
  | true => exact Yields.report_act P.within_memory _ _ _ _ _ (Yields.pure _)
  | false => exact Yields.report_act P.within_memory _ _ _ _ _ (Yields.pure _)

lemma Reads.resolve_yields (h : a.Reads P s bindings files dotenv) (hP : ∃ w, P.world w)
    (hfilters : a.filters = []) {layers : List Layer}
    (hlayers : (Ranking.sort Prod.fst (a.ranked bindings files dotenv)).map Prod.snd = layers)
    (id slot : Nat) (converters : Conversion.Registry σ) :
    ∃ config, Yields P.memory (a.resolve s id slot converters) (.ok config) ∧ ∀ key,
      MetaKeys.standard.isMeta key = false →
      collects (Layer.effective .standard layers key) = false →
      config.get? key = (Layer.winner? layers key).map Prod.snd ∧
        (config.origin? key).map (·.source) = (Layer.winner? layers key).map Prod.fst := by
  obtain ⟨w, hw⟩ := hP
  obtain ⟨sources, hbuild, hbear⟩ := h.build_yields id slot converters
  have hmem : ∀ s ∈ sources, ∃ p, s.Bears P p :=
    ((List.forall₂_and_left _ _).1 (hbear.imp fun s p hs => ⟨⟨p, hs⟩, hs⟩)).1
  have hscan : ∀ s ∈ sources, s.scannable = true := fun s hs => (hmem s hs).choose_spec.scannable
  have hunchanging : ∀ s ∈ sources, ∃ held listed, s.Unchanging P held listed := fun s hs => by
    obtain ⟨p, hp⟩ := hmem s hs
    obtain ⟨entries, _, hunchanging⟩ := hp.holds
    exact ⟨_, _, hunchanging⟩
  obtain ⟨v, hempty⟩ := Steady.exists_of_unchanging hunchanging
  obtain ⟨merged, hmerged, hwinner⟩ :=
    v.bulk_winner slot hempty hscan (v.forall₂_shows hw hbear) hlayers
  have hresolve := (Context.resolve_of_bulk ⟨sources, a.filters, converters, ⟨slot, .empty, .standard⟩⟩
    hfilters v (Resolver.Regular.builtIn P slot .standard) hmerged).on
      (Resolver.Regular.builtIn_memory slot)
  refine ⟨_, resolve_yields_of_context hbuild hresolve, fun key hvisible hcollects => ?_⟩
  obtain ⟨hvalue, hsource⟩ := hwinner key hvisible hcollects
  rw [← hvalue, ← hsource]
  -- Without any entry the configuration is the empty one, which has the same entries.
  have hentries : (if Config.isEmpty ⟨merged, some converters⟩ then .empty
      else (⟨merged, some converters⟩ : Config σ)).entries = merged := by
    split
    · rename_i hnone
      exact Ledger.ext (List.isEmpty_iff.1 hnone).symm
    · rfl
  rw [Config.get?, Config.origin?, Config.entry?, hentries, Option.map_map]
  exact ⟨rfl, rfl⟩

end Assembly

lemma Data.eq_text_of_same {d : Data} {s : String} (h : d.same (.text s) = true) :
    d = .text s := by
  cases d with
  | text t =>
    rw [Data.same, beq_iff_eq] at h
    rw [h]
  | collection kind items => cases kind <;> simp [Data.same, Data.magnitude?] at h
  | _ => simp [Data.same, Data.magnitude?] at h

structure Source.File.Document (s : Surroundings) where
  path : String
  data : List (Data × Data)
  reading : Reading s path (.ok data)
  fit : Fit data

def Source.File.Document.layer {s : Surroundings} (d : Document s) : Layer :=
  ⟨d.path, Data.flatten "" d.data⟩

structure Source.Dotenv.Document (fs : Files) where
  path : String
  settings : Ledger String String
  reading : Reading fs path (.ok settings)

def Source.Dotenv.Document.layer {fs : Files} (d : Document fs) : Layer :=
  ⟨(Path.ofString d.path).text, d.settings⟩

namespace Assembly

open Source

lemma fileOrdinal_none (place : Nat) : fileOrdinal place none = 100 + (place : Int) := rfl

def byPlace (place : Nat) : List Layer → List (Int × Layer)
  | [] => []
  | l :: ls => (fileOrdinal place none, l) :: byPlace (place + 1) ls

lemma take_byPlace (place n : Nat) (ls : List Layer) :
    (byPlace place ls).take n = byPlace place (ls.take n) := by
  induction ls generalizing place n with
  | nil => simp [byPlace]
  | cons l ls ih => cases n <;> simp [byPlace, ih]

lemma drop_byPlace (place n : Nat) (ls : List Layer) :
    (byPlace place ls).drop n = byPlace (place + n) (ls.drop n) := by
  induction ls generalizing place n with
  | nil => simp [byPlace]
  | cons l ls ih =>
    cases n with
    | zero => rfl
    | succ n => simp [byPlace, ih, Nat.add_assoc, Nat.add_comm 1]

lemma map_snd_byPlace (place : Nat) (ls : List Layer) :
    (byPlace place ls).map Prod.snd = ls := by
  induction ls generalizing place with
  | nil => rfl
  | cons l ls ih => rw [byPlace, List.map_cons, ih]

lemma mem_byPlace {place : Nat} {ls : List Layer} {p : Int × Layer} (h : p ∈ byPlace place ls) :
    fileOrdinal place none ≤ p.1 ∧ p.1 < fileOrdinal (place + ls.length) none := by
  induction ls generalizing place with
  | nil => cases h
  | cons l ls ih =>
    simp only [fileOrdinal_none, List.length_cons] at ih ⊢
    rcases List.mem_cons.1 h with rfl | h
    · rw [fileOrdinal_none]
      omega
    · have hp := ih h
      omega

lemma sorted_byPlace (place : Nat) (ls : List Layer) :
    Ranking.Sorted Prod.fst (byPlace place ls) := by
  induction ls generalizing place with
  | nil => exact .nil
  | cons l ls ih =>
    refine List.pairwise_cons.2 ⟨fun p hp => ?_, ih (place + 1)⟩
    have hplace := (mem_byPlace hp).1
    simp only [fileOrdinal_none] at hplace ⊢
    omega

def filesUpTo (ordinal : Int) : Nat := (ordinal - File.defaultOrdinal + 1).toNat

lemma le_of_mem_take {ordinal : Int} (h : File.defaultOrdinal ≤ ordinal) {ls : List Layer}
    {p : Int × Layer} (hp : p ∈ (byPlace 0 ls).take (filesUpTo ordinal)) : p.1 ≤ ordinal := by
  rw [take_byPlace] at hp
  have hlength := List.length_take_le (filesUpTo ordinal) ls
  have hmost := (mem_byPlace hp).2
  simp only [fileOrdinal_none, filesUpTo, File.defaultOrdinal] at *
  omega

lemma lt_of_mem_drop {ordinal : Int} {ls : List Layer} {p : Int × Layer}
    (hp : p ∈ (byPlace 0 ls).drop (filesUpTo ordinal)) : ordinal < p.1 := by
  rw [drop_byPlace] at hp
  have hleast := (mem_byPlace hp).1
  simp only [fileOrdinal_none, filesUpTo, File.defaultOrdinal] at *
  omega

/-- From the lowest to the highest rank: files late in their list rank above the dotenv file, and
those after them above the environment. -/
def arranged (defaults files dotenv environment : List Layer) : List Layer :=
  let low := filesUpTo Dotenv.defaultOrdinal
  let high := filesUpTo Environment.defaultOrdinal
  defaults ++ files.take low ++ dotenv ++ (files.take high).drop low ++ environment ++
    files.drop high

lemma sort_ranked (defaults files dotenv environment : List Layer) :
    (Ranking.sort Prod.fst (defaults.map (defaultsOrdinal, ·) ++ byPlace 0 files ++
      dotenv.map (Dotenv.defaultOrdinal, ·) ++
      environment.map (Environment.defaultOrdinal, ·))).map Prod.snd =
      arranged defaults files dotenv environment := by
  let low := filesUpTo Dotenv.defaultOrdinal
  let high := filesUpTo Environment.defaultOrdinal
  let D : List (Int × Layer) := defaults.map (defaultsOrdinal, ·)
  let O : List (Int × Layer) := dotenv.map (Dotenv.defaultOrdinal, ·)
  let E : List (Int × Layer) := environment.map (Environment.defaultOrdinal, ·)
  let F := byPlace 0 files
  have hD : ∀ p ∈ D, p.1 = defaultsOrdinal := by simp [D]
  have hO : ∀ p ∈ O, p.1 = Dotenv.defaultOrdinal := by simp [O]
  have hE : ∀ p ∈ E, p.1 = Environment.defaultOrdinal := by simp [E]
  have hsorted : Ranking.Sorted Prod.fst (D ++ F.take low ++ F.drop low) := by
    rw [List.append_assoc, List.take_append_drop]
    refine (Ranking.Sorted.of_const hD).append (sorted_byPlace 0 files) defaultsOrdinal
      (fun p hp => Int.le_of_eq (hD p hp)) fun p hp => Int.le_trans ?_ (mem_byPlace hp).1
    decide
  have hlow : ∀ p ∈ D ++ F.take low, p.1 ≤ Dotenv.defaultOrdinal := by
    refine List.forall_mem_append.2 ⟨fun p hp => ?_, fun p hp => le_of_mem_take (by decide) hp⟩
    rw [hD p hp]
    decide
  -- The dotenv file goes in behind the files up to its rank, then the environment behind those
  -- up to its own.
  obtain ⟨hagree, hsorted⟩ := Ranking.Agree.insert hsorted hlow (fun p hp => lt_of_mem_drop hp) hO
  rw [List.append_assoc D, List.take_append_drop] at hagree
  have hmiddle : F.drop low = (F.take high).drop low ++ F.drop high := by
    rw [List.drop_take]
    conv_lhs => rw [← List.take_append_drop (high - low) (F.drop low), List.drop_drop,
      Nat.add_sub_cancel' (show low ≤ high by decide)]
  rw [hmiddle, ← List.append_assoc] at hagree hsorted
  have hhigh : ∀ p ∈ D ++ F.take low ++ O ++ (F.take high).drop low,
      p.1 ≤ Environment.defaultOrdinal := by
    refine List.forall_mem_append.2 ⟨List.forall_mem_append.2 ⟨fun p hp => ?_, fun p hp => ?_⟩,
      fun p hp => le_of_mem_take (by decide) (List.mem_of_mem_drop hp)⟩
    · exact Int.le_trans (hlow p hp) (by decide)
    · rw [hO p hp]
      decide
  obtain ⟨hagree', hsorted'⟩ :=
    Ranking.Agree.insert hsorted hhigh (fun p hp => lt_of_mem_drop hp) hE
  have hall : Ranking.Agree Prod.fst (D ++ F ++ O ++ E) _ :=
    (hagree.append (.refl E)).trans hagree'
  rw [Ranking.sort_eq_of_agree _ hall hsorted']
  simp [D, O, E, F, map_snd_byPlace, arranged, low, high, Function.comp_def]

lemma winner?_arranged (defaults : List Layer) {files : List Layer}
    (h : files.length ≤ filesUpTo Dotenv.defaultOrdinal) (dotenv environment : List Layer)
    (key : String) : Layer.winner? (arranged defaults files dotenv environment) key =
      (Layer.winner? environment key).or ((Layer.winner? dotenv key).or
        ((Layer.winner? files key).or (Layer.winner? defaults key))) := by
  have hhigh : files.length ≤ filesUpTo Environment.defaultOrdinal := Nat.le_trans h (by decide)
  rw [arranged, List.take_of_length_le h, List.take_of_length_le hhigh,
    List.drop_of_length_le h, List.drop_of_length_le hhigh, List.append_nil, List.append_nil]
  simp only [Layer.winner?_append]

lemma forall_mem_arranged {p : Layer → Prop} {defaults files dotenv environment : List Layer}
    (hdefaults : ∀ l ∈ defaults, p l) (hfiles : ∀ l ∈ files, p l) (hdotenv : ∀ l ∈ dotenv, p l)
    (henvironment : ∀ l ∈ environment, p l) :
    ∀ l ∈ arranged defaults files dotenv environment, p l := by
  simp only [arranged, List.forall_mem_append]
  exact ⟨⟨⟨⟨⟨hdefaults, fun l hl => hfiles l (List.mem_of_mem_take hl)⟩, hdotenv⟩,
    fun l hl => hfiles l (List.mem_of_mem_take (List.mem_of_mem_drop hl))⟩, henvironment⟩,
    fun l hl => hfiles l (List.mem_of_mem_drop hl)⟩

lemma documents_ranked {s : Surroundings} (documents : List (File.Document s)) (place : Nat) :
    File.Ranked s place (documents.map fun d => (d.path, none))
      (byPlace place (documents.map (·.layer))) := by
  induction documents generalizing place with
  | nil => exact .nil place
  | cons d documents ih => exact .document d.reading d.fit (ih (place + 1))

lemma dotenv_ranked {fs : Files} (dotenv : Option (Dotenv.Document fs)) :
    Dotenv.Ranked fs (dotenv.map (·.path))
      ((dotenv.map (·.layer)).toList.map (Dotenv.defaultOrdinal, ·)) := by
  cases dotenv with
  | none => exact .absent
  | some d => exact .settings d.reading

variable {a : Assembly σ} {s : Surroundings} {bindings : Ledger String String}

lemma resolve_documents (hP : ∃ w, P.world w) (hfit : Fit a.defaults)
    (documents : List (File.Document s)) (hfiles : a.files = documents.map fun d => (d.path, none))
    (dotenv : Option (Dotenv.Document s.files)) (hdotenv : a.dotenv = dotenv.map (·.path))
    (henvironment : Ensures P.world a.environment (· = bindings)) (hfilters : a.filters = [])
    {layers : List Layer}
    (hlayers : arranged a.defaultsLayers (documents.map (·.layer)) (dotenv.map (·.layer)).toList
      (a.environmentLayers bindings) = layers)
    (id slot : Nat) (converters : Conversion.Registry σ) :
    ∃ config, Yields P.memory (a.resolve s id slot converters) (.ok config) ∧ ∀ key,
      MetaKeys.standard.isMeta key = false →
      collects (Layer.effective .standard layers key) = false →
      config.get? key = (Layer.winner? layers key).map Prod.snd ∧
        (config.origin? key).map (·.source) = (Layer.winner? layers key).map Prod.fst := by
  have hreads : a.Reads P s bindings (byPlace 0 (documents.map (·.layer)))
      ((dotenv.map (·.layer)).toList.map (Dotenv.defaultOrdinal, ·)) :=
    ⟨hfit, hfiles ▸ documents_ranked documents 0, hdotenv ▸ dotenv_ranked dotenv, henvironment⟩
  exact hreads.resolve_yields hP hfilters ((sort_ranked _ _ _ _).trans hlayers) id slot converters

/-- A key comes from the highest layer that provides it. With no more files than rank up to the
dotenv file this is the environment, else the dotenv file, else the last file, else the
defaults. -/
theorem resolve_takes_highest (hP : ∃ w, P.world w) (hfit : Fit a.defaults)
    (documents : List (File.Document s)) (hfiles : a.files = documents.map fun d => (d.path, none))
    (dotenv : Option (Dotenv.Document s.files)) (hdotenv : a.dotenv = dotenv.map (·.path))
    (henvironment : Ensures P.world a.environment (· = bindings)) (hfilters : a.filters = [])
    (id slot : Nat) (converters : Conversion.Registry σ) :
    ∃ (layers : List Layer) (config : Config σ),
      layers = arranged a.defaultsLayers (documents.map (·.layer)) (dotenv.map (·.layer)).toList
        (a.environmentLayers bindings) ∧
      Yields P.memory (a.resolve s id slot converters) (.ok config) ∧
      (∀ key, MetaKeys.standard.isMeta key = false →
        collects (Layer.effective .standard layers key) = false →
        config.get? key = (Layer.winner? layers key).map Prod.snd ∧
          (config.origin? key).map (·.source) = (Layer.winner? layers key).map Prod.fst) ∧
      (documents.length ≤ filesUpTo Dotenv.defaultOrdinal → ∀ key,
        Layer.winner? layers key = (Layer.winner? (a.environmentLayers bindings) key).or
          ((Layer.winner? (dotenv.map (·.layer)).toList key).or
            ((Layer.winner? (documents.map (·.layer)) key).or
              (Layer.winner? a.defaultsLayers key)))) := by
  obtain ⟨config, hconfig, hwinner⟩ :=
    resolve_documents hP hfit documents hfiles dotenv hdotenv henvironment hfilters rfl id slot
      converters
  refine ⟨_, config, rfl, hconfig, hwinner, fun hlength key => ?_⟩
  exact winner?_arranged _ (by rwa [List.length_map]) _ _ key

def shelf : Surroundings where
  files :=
    { tree := .ofList [(["a.json"], .file "\x7b\"k\": \"file\"\x7d".toUTF8),
        (["app.env"], .file "k=dotenv".toUTF8)]
      current := [] }
  yaml := none

lemma shelf_reading : File.Reading shelf "a.json" (.ok [(.text "k", .text "file")]) := by
  have hopens : File.Opens shelf "a.json" .json Document.Json.read
      "\x7b\"k\": \"file\"\x7d".toUTF8 :=
    ⟨⟨by decide +kernel, rfl⟩,
      (Files.read_eq_of_open fun _ => rfl).trans (congrArg _ (by decide +kernel))⟩
  -- Documents have no decidable equality, so the texts read are told by `Data.same`.
  have hread : ((Document.Json.read "\x7b\"k\": \"file\"\x7d".toUTF8).toOption.bind
      (File.mapping? .json)).map (List.map fun p => (p.1.same (.text "k"), p.2.same (.text "file"))) =
      some [(true, true)] := by decide +kernel
  obtain ⟨pairs, hpairs, hsame⟩ := Option.map_eq_some_iff.1 hread
  obtain ⟨⟨key, value⟩, rfl, hpair⟩ := List.map_eq_singleton_iff.1 hsame
  obtain ⟨hkey, hvalue⟩ := Prod.mk.injEq .. ▸ hpair
  obtain rfl := Data.eq_text_of_same hkey
  obtain rfl := Data.eq_text_of_same hvalue
  exact hopens.reading hpairs

lemma fit_shelf : Fit [(.text "k", .text "file")] :=
  fit_iff.2 ⟨by decide, by
    simp [Data.flatten, Data.flattenOnto, Data.render, Data.display, Data.dotted,
      Ledger.mem_keys_put]⟩

def shelfDocument : File.Document shelf where
  path := "a.json"
  data := [(.text "k", .text "file")]
  reading := shelf_reading
  fit := fit_shelf

lemma shelf_dotenv_reading :
    Dotenv.Reading shelf.files "app.env" (.ok (Ledger.ofList [("k", "dotenv")])) := by
  have hparse : (Dotenv.parse "k=dotenv".toList).toOption =
      some (Ledger.ofList [("k", "dotenv")]) := by decide +kernel
  cases hsettings : Dotenv.parse "k=dotenv".toList with
  | error f => rw [hsettings] at hparse; cases hparse
  | ok settings =>
    rw [hsettings] at hparse
    cases hparse
    have hread : shelf.files.read (Path.ofString "app.env") = .ok (some "k=dotenv".toUTF8) :=
      (Files.read_eq_of_open fun _ => rfl).trans (congrArg _ (by decide +kernel))
    exact .settings hread (by decide +kernel) hsettings

def shelfDotenv : Dotenv.Document shelf.files where
  path := "app.env"
  settings := Ledger.ofList [("k", "dotenv")]
  reading := shelf_dotenv_reading

def crowded (count : Nat) (dotenv lead : Option String) : Assembly Unit :=
  ⟨[], List.replicate count ("a.json", none), dotenv, lead,
    pure (Ledger.ofList [("DEMO_K", "env")]), []⟩

lemma shelfDocument_layer : shelfDocument.layer = ⟨"a.json", Ledger.ofList [("k", "file")]⟩ := by
  simp [shelfDocument, File.Document.layer, Data.flatten, Data.flattenOnto, Data.render,
    Data.display, Data.dotted, Ledger.ofList, Ledger.putAll]

lemma crowded_environmentLayers (count : Nat) (dotenv : Option String) :
    (crowded count dotenv (some "DEMO")).environmentLayers (Ledger.ofList [("DEMO_K", "env")]) =
      [⟨"env", Ledger.ofList [("k", "env")]⟩] := by
  have hsettings : Environment.settings (Environment.complete "DEMO")
      (Ledger.ofList [("DEMO_K", "env")]) = Ledger.ofList [("k", "env")] := by decide +kernel
  rw [environmentLayers, crowded, Option.map_some, hsettings]
  rfl

lemma not_collects_of_keys {layers : List Layer} (h : ∀ l ∈ layers, l.values.keys = ["k"]) :
    collects (Layer.effective .standard layers "k") = false := by
  have hnone (key : String) (hkey : key ≠ "k") : Layer.winner? layers key = none := by
    refine Layer.winner?_eq_none fun l hl => ?_
    rw [Ledger.get?_eq_none_iff, h l hl]
    simpa using hkey
  have heffective : Layer.effective .standard layers "k" MetaKeys.combinationPolicy = none := by
    rw [Layer.effective, hnone _ (by decide), hnone _ (by decide)]
    simp
  rw [collects, heffective]
  rfl

lemma keys_of_mem_replicate {count : Nat} :
    ∀ l ∈ (List.replicate count shelfDocument).map (·.layer), l.values.keys = ["k"] := by
  intro l hl
  obtain ⟨d, hd, rfl⟩ := List.mem_map.1 hl
  rw [List.eq_of_mem_replicate hd, shelfDocument_layer]
  rfl

theorem crowded_takes_dotenv :
    ∃ config, Yields Circumstance.always.memory
        ((crowded 151 (some "app.env") none).resolve shelf 0 0 .empty) (.ok config) ∧
      config.get? "k" = some "dotenv" ∧
      (config.origin? "k").map (·.source) = some "app.env" := by
  obtain ⟨layers, config, hlayers, hconfig, hwinner, hshort⟩ :=
    resolve_takes_highest (P := Circumstance.always) (a := crowded 151 (some "app.env") none)
      ⟨_, anywhere⟩ fit_nil (List.replicate 151 shelfDocument) (by rw [List.map_replicate]; rfl)
      (some shelfDotenv) rfl (Ensures.pure rfl) rfl 0 0 .empty
  have hkeys : ∀ l ∈ layers, l.values.keys = ["k"] := by
    rw [hlayers]
    exact forall_mem_arranged (by simp [defaultsLayers, crowded]) keys_of_mem_replicate
      (List.forall_mem_singleton.2 (by decide))
      (by simp [environmentLayers, crowded])
  obtain ⟨hvalue, hsource⟩ := hwinner "k" (by decide) (not_collects_of_keys hkeys)
  have hdotenv : Layer.winner? layers "k" = some ("app.env", "dotenv") := by
    rw [hshort (by rw [List.length_replicate]; decide)]
    decide +kernel
  rw [hdotenv] at hvalue hsource
  exact ⟨config, hconfig, hvalue, hsource⟩

theorem crowded_takes_file :
    Layer.winner? ((crowded 202 none (some "DEMO")).environmentLayers
      (Ledger.ofList [("DEMO_K", "env")])) "k" = some ("env", "env") ∧
    ∃ config, Yields Circumstance.always.memory
        ((crowded 202 none (some "DEMO")).resolve shelf 0 0 .empty) (.ok config) ∧
      config.get? "k" = some "file" ∧
      (config.origin? "k").map (·.source) = some "a.json" := by
  obtain ⟨config, hconfig, hwinner⟩ :=
    resolve_documents (P := Circumstance.always) (a := crowded 202 none (some "DEMO"))
      ⟨_, anywhere⟩ fit_nil (List.replicate 202 shelfDocument) (by rw [List.map_replicate]; rfl)
      none rfl (Ensures.pure rfl) rfl rfl 0 0 .empty
  have henvironment := crowded_environmentLayers 202 none
  rw [henvironment] at hwinner ⊢
  obtain ⟨hvalue, hsource⟩ := hwinner "k" (by decide) (not_collects_of_keys
    (forall_mem_arranged (by simp [defaultsLayers, crowded]) keys_of_mem_replicate (by simp)
      (List.forall_mem_singleton.2 (by decide))))
  have hlast : ((List.replicate 202 shelfDocument).map (·.layer)).drop
      (filesUpTo Environment.defaultOrdinal) = [⟨"a.json", Ledger.ofList [("k", "file")]⟩] := by
    rw [List.map_replicate, List.drop_replicate, shelfDocument_layer]
    rfl
  have hfile (rest : Option (String × String)) :
      (Layer.winner? [⟨"a.json", Ledger.ofList [("k", "file")]⟩] "k").or rest =
        some ("a.json", "file") := rfl
  rw [arranged, Layer.winner?_append, hlast, hfile] at hvalue hsource
  exact ⟨rfl, config, hconfig, hvalue, hsource⟩

end Assembly

end LayeredConfig
