import LayeredConfig.Proofs.Steadiness
import LayeredConfig.Source.Dotenv
import LayeredConfig.Source.File
import LayeredConfig.Source.Guarded

/-! The sources that come with the library. They keep their answers as long as what they read
stays the same, and none of them holds anything under the empty key. -/

namespace LayeredConfig

variable {σ : Type}

namespace Source

structure Unchanging (P : Circumstance σ) (s : Source σ) (held : String → Option Entry)
    (listed : Ledger String Entry) : Prop where
  get : ∀ key, Yields P.world (s.get key) (.ok (held key))
  properties : s.scannable = true → Yields P.world s.properties (.ok listed)
  held_eq : s.scannable = true → ∀ key, held key = listed.get? key
  held_empty : held "" = none

variable {P : Circumstance σ}

lemma unchanging_ofEntries (id : Nat) (name : String) (ordinal : Int) (scannable : Bool)
    {entries : Ledger String Entry} (h : "" ∉ entries.keys) :
    (ofEntries id name ordinal scannable entries).Unchanging P entries.get? entries where
  get _ := Yields.pure _
  properties hscan := by
    change scannable = true at hscan
    subst hscan
    exact Yields.pure _
  held_eq _ _ := rfl
  held_empty := Ledger.get?_eq_none_iff.2 h

lemma unchanging_environment (id : Nat) (lead name : String) (ordinal : Int)
    {environment : Note σ (Ledger String String)} {bindings : Ledger String String}
    (h : Ensures P.world environment (· = bindings)) :
    ∃ entries : Ledger String Entry,
      Environment.entries (Environment.complete lead) name bindings = .ok entries ∧
      (Environment.source id lead name ordinal environment).Unchanging P entries.get? entries := by
  obtain ⟨entries, hentries⟩ := Entry.all_ok name .empty
    (show "" ∉ ((Environment.settings (Environment.complete lead) bindings).map some).keys by
      rw [Ledger.keys_map]
      exact Environment.empty_not_mem_settings _ _)
  have hproperties : Yields P.world
      (Environment.properties (Environment.complete lead) name environment) (.ok entries) := by
    have hread : Yields P.world (ExceptT.mk do
        return Environment.entries (Environment.complete lead) name (← environment))
        (.ok entries) := by
      refine Ensures.bind h ?_
      rintro _ rfl
      exact Ensures.pure hentries
    exact hread.bind_ok (Yields.report_call _ _ _ _ _ (Yields.pure _))
  refine ⟨entries, hentries, fun key => hproperties.bind_ok (Yields.pure _), fun _ => hproperties,
    fun _ _ => rfl, ?_⟩
  exact Ledger.get?_eq_none_iff.2 (Entry.empty_not_mem_keys_of_all hentries)

lemma yields_isEnabled {switch : Nat} {enabled : Bool}
    (h : ∀ switches host, P switches host → switches.getD switch false = enabled) :
    Ensures P.world (Guarded.isEnabled switch : Note σ Bool) (· = enabled) :=
  fun w hw => ⟨h w.switches w.host hw, hw⟩

lemma unchanging_guarded (id : Nat) {switch : Nat} {enabled : Bool} {inner : Source σ}
    (h : ∀ switches host, P switches host → switches.getD switch false = enabled)
    {held : String → Option Entry} {listed : Ledger String Entry}
    (hinner : inner.Unchanging P held listed) :
    (Guarded.source id switch inner).Unchanging P (if enabled then held else fun _ => none)
      (if enabled then listed else .empty) := by
  have hswitch := yields_isEnabled h
  cases enabled with
  | true =>
    refine ⟨fun key => Yields.lift hswitch ?_, fun hscan => Yields.lift hswitch ?_,
      hinner.held_eq, hinner.held_empty⟩
    · rintro _ rfl
      exact hinner.get key
    · rintro _ rfl
      exact hinner.properties hscan
  | false =>
    refine ⟨fun key => Yields.lift hswitch ?_, fun _ => Yields.lift hswitch ?_,
      fun _ _ => rfl, rfl⟩
    · rintro _ rfl
      exact Yields.pure _
    · rintro _ rfl
      exact Yields.pure _

/-- The sources that come with the library, while what they read stays the same. A document and a
dotenv file are read when the source is made, whatever the world is then. -/
inductive Stock (P : Circumstance σ) : Source σ → Prop
  | mapping (id : Nat) {name : String} {data : List (Data × Data)} {ordinal : Int}
    {scannable : Bool} {metadata : Ledger String String} {m : Mapping} :
    Mapping.make name data ordinal scannable metadata = .ok m → Stock P (m.toSource id)
  | file (id : Nat) {s : Surroundings} {path : String} {ordinal : Int} {name : Option String}
    {m : Mapping} (w : World σ) :
    ((File.make s path ordinal name).run.run w).1 = .ok m → Stock P (m.toSource id)
  | dotenv {fs : Files} {id : Nat} {path : String} {ordinal : Int} {s : Source σ} (w : World σ) :
    ((Dotenv.source fs id path ordinal).run.run w).1 = .ok s → Stock P s
  | environment (id : Nat) (lead name : String) (ordinal : Int)
    {environment : Note σ (Ledger String String)} (bindings : Ledger String String) :
    Ensures P.world environment (· = bindings) →
      Stock P (Environment.source id lead name ordinal environment)
  | guarded (id : Nat) {switch : Nat} (enabled : Bool) {inner : Source σ} :
    (∀ switches host, P switches host → switches.getD switch false = enabled) →
      Stock P inner → Stock P (Guarded.source id switch inner)

lemma empty_not_mem_mapping {name : String} {data : List (Data × Data)} {ordinal : Int}
    {scannable : Bool} {metadata : Ledger String String} {m : Mapping}
    (h : Mapping.make name data ordinal scannable metadata = .ok m) : "" ∉ m.entries.keys := by
  obtain ⟨_, entries, hall, rfl⟩ := Mapping.make_eq_ok_iff.1 h
  exact Entry.empty_not_mem_keys_of_all hall

lemma empty_not_mem_file (s : Surroundings) (path : String) (ordinal : Int) (name : Option String) :
    Gives (File.make s path ordinal name : Call σ Mapping) fun m => "" ∉ m.entries.keys := by
  refine Gives.after fun pairs => ?_
  refine Gives.bind (Gives.make fun m hm => empty_not_mem_mapping hm) fun m hm => ?_
  exact Gives.after fun _ => Gives.pure hm

lemma empty_not_mem_dotenv (fs : Files) (path : String) :
    Gives (Dotenv.load fs path : Call σ (Ledger String Entry)) fun entries => "" ∉ entries.keys := by
  simp only [Dotenv.load]
  split
  · exact Gives.throw _
  · exact Gives.throw _
  · refine Gives.after fun settings => ?_
    refine Gives.bind (Gives.make fun _ h => Entry.empty_not_mem_keys_of_all h) fun entries h => ?_
    exact Gives.after fun _ => Gives.pure h

lemma dotenv_eq_ofEntries (fs : Files) (id : Nat) (path : String) (ordinal : Int) :
    Gives (Dotenv.source fs id path ordinal : Call σ (Source σ)) fun s =>
      ∃ entries : Ledger String Entry, "" ∉ entries.keys ∧
        s = ofEntries id (Path.ofString path).text ordinal true entries :=
  (empty_not_mem_dotenv fs path).bind fun entries hentries =>
    Gives.pure ⟨entries, hentries, rfl⟩

theorem Stock.unchanging {s : Source σ} (h : s.Stock P) :
    ∃ held listed, s.Unchanging P held listed := by
  induction h with
  | mapping id h => exact ⟨_, _, unchanging_ofEntries _ _ _ _ (empty_not_mem_mapping h)⟩
  | @file id s path ordinal name m w h =>
    exact ⟨_, _, unchanging_ofEntries _ _ _ _ ((empty_not_mem_file s path ordinal name).of_run h)⟩
  | @dotenv fs id path ordinal s w h =>
    obtain ⟨entries, hentries, rfl⟩ := (dotenv_eq_ofEntries fs id path ordinal).of_run h
    exact ⟨_, _, unchanging_ofEntries _ _ _ _ hentries⟩
  | environment id lead name ordinal bindings h =>
    obtain ⟨entries, _, hentries⟩ := unchanging_environment id lead name ordinal h
    exact ⟨_, _, hentries⟩
  | guarded id enabled h _ ih =>
    obtain ⟨held, listed, hinner⟩ := ih
    exact ⟨_, _, unchanging_guarded id h hinner⟩

end Source

theorem Steady.exists_of_unchanging {P : Circumstance σ} {sources : List (Source σ)}
    (h : ∀ s ∈ sources, ∃ held listed, s.Unchanging P held listed) :
    ∃ v : Steady P sources, ∀ s ∈ sources, v.held s "" = none := by
  have hchoice (s : Source σ) : ∃ held listed, s ∈ sources → s.Unchanging P held listed := by
    by_cases hs : s ∈ sources
    · obtain ⟨held, listed, hunchanging⟩ := h s hs
      exact ⟨held, listed, fun _ => hunchanging⟩
    · exact ⟨fun _ => none, .empty, fun hs' => absurd hs' hs⟩
  choose held listed hunchanging using hchoice
  refine ⟨⟨held, listed, fun s hs => (hunchanging s hs).get,
    fun s hs => (hunchanging s hs).properties, fun s hs => (hunchanging s hs).held_eq⟩, ?_⟩
  exact fun s hs => (hunchanging s hs).held_empty

theorem Steady.exists_of_stock {P : Circumstance σ} {sources : List (Source σ)}
    (h : ∀ s ∈ sources, s.Stock P) :
    ∃ v : Steady P sources, ∀ s ∈ sources, v.held s "" = none :=
  exists_of_unchanging fun s hs => (h s hs).unchanging

end LayeredConfig
