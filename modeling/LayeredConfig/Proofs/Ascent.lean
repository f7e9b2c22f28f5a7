import LayeredConfig.Proofs.Settling
import LayeredConfig.Proofs.Walks
import LayeredConfig.Source.Dotenv

/-! The search for a dotenv file. It goes up the path of the directory as that is written, so a relative
path takes it no further than the current directory. -/

namespace LayeredConfig.Source.Dotenv

open LayeredConfig.Path Files

variable {fs : Files} {start : Option String} {σ : Type}

def startPath (fs : Files) (start : Option String) : Path :=
  match start with
  | some s => if s.isEmpty then fs.currentPath else Path.ofString s
  | none => fs.currentPath

def holds (fs : Files) (dir : List String) : Bool :=
  match fs.node? (dir ++ [fileName]) with
  | some (.file _) => true
  | _ => false

lemma holds_iff {dir : List String} :
    holds fs dir = true ↔ ∃ content, fs.node? (dir ++ [fileName]) = some (.file content) := by
  rw [holds]
  split <;> simp_all

/-- The nearest directory with a file of that name, from a directory up to the root. -/
def nearest? (fs : Files) (dir : List String) : Option (List String) :=
  (upward dir).find? (holds fs)

/-- The directories that the path leads to as it is written, and with fewer and fewer of its parts. -/
def stops (fs : Files) (p : Path) : List (List String) := (p :: p.parents).filterMap fs.locate?

/-- The search has found the file in the directory, or nothing. -/
def Denotes (fs : Files) (found : Option String) (dir : Option (List String)) : Prop :=
  found.map (fun text => fs.locate? (ofString text)) = dir.map fun d => some (d ++ [fileName])

lemma Denotes.iff_eq {found : Option String} {dir dir' : Option (List String)}
    (h : Denotes fs found dir) : Denotes fs found dir' ↔ dir = dir' := by
  refine ⟨fun h' => ?_, fun hdir => hdir ▸ h⟩
  apply Option.map_injective _ (h.symm.trans h')
  intro d d' hd
  exact List.append_cancel_right (Option.some.inj hd)

lemma clean_startPath (h : fs.Sound) (start : Option String) : (startPath fs start).Clean := by
  have hcurrent : fs.currentPath.Clean :=
    ⟨Nat.le_succ 1, fun n hn => ⟨(h.names n hn).1, (h.names n hn).2.1, (h.names n hn).2.2.2⟩⟩
  cases start with
  | none => exact hcurrent
  | some s =>
    rw [startPath]
    split
    · exact hcurrent
    · exact clean_ofString s

lemma searchPaths_eq (fs : Files) (start : Option String) :
    searchPaths fs start =
      ((startPath fs start) :: (startPath fs start).parents).map (·.child fileName) := rfl

lemma find_yields {found : Option Path} (h : fs.firstFile (searchPaths fs start) = .ok found) :
    Yields (fun _ : World σ => True) (find fs start) (.ok (found.map Path.text)) := by
  rw [find, h]
  cases found with
  | some p => exact Yields.pure _
  | none =>
    let P : Circumstance σ := fun _ _ => True
    exact Yields.report_call (P := P) _ _ _ _ _ (Yields.pure _)

lemma find_yields_refused {complaint : String}
    (h : fs.firstFile (searchPaths fs start) = .error complaint) :
    Yields (fun _ : World σ => True) (find fs start) (.error (.refused complaint)) := by
  rw [find, h]
  exact Yields.throw _

section Directory

variable {p : Path} {dir : List String}

lemma locate?_child (h : fs.Leads p dir) (name : String) (hname : name ≠ "..") :
    fs.locate? (p.child name) = (fs.node? (dir ++ [name])).map fun _ => dir ++ [name] := by
  have hwalk : fs.locate? (p.child name) = fs.walk dir [name] := walk_append h.1 h.2 _
  rw [hwalk, walk_down hname]
  cases fs.node? (dir ++ [name]) with
  | none => rfl
  | some node => cases node <;> rfl

lemma isFile_child (h : fs.Leads p dir) : fs.isFile (p.child fileName) = holds fs dir := by
  rw [isFile, content?, locate?_child h fileName (by decide), holds]
  cases hnode : fs.node? (dir ++ [fileName]) with
  | none => rfl
  | some node => cases node <;> simp [hnode]

end Directory

lemma denotes_stops {ps : List Path} (h : ∀ p ∈ ps, p.Clean ∧ ∃ dir, fs.Leads p dir) :
    Denotes fs (((ps.map (·.child fileName)).find? fs.isFile).map Path.text)
      ((ps.filterMap fs.locate?).find? (holds fs)) := by
  induction ps with
  | nil => rfl
  | cons p ps ih =>
    obtain ⟨⟨hclean, dir, hdir⟩, hps⟩ := List.forall_mem_cons.1 h
    rw [List.map_cons, List.filterMap_cons_some hdir.1, List.find?_cons, List.find?_cons,
      isFile_child hdir]
    cases hholds : holds fs dir with
    | false => exact ih hps
    | true =>
      obtain ⟨content, hnode⟩ := holds_iff.1 hholds
      have htext : ofString (p.child fileName).text = p.child fileName :=
        (hclean.child (by decide)).ofString_text (by simp [Path.child])
      change some (fs.locate? (ofString (p.child fileName).text)) = some (some (dir ++ [fileName]))
      rw [htext, locate?_child hdir fileName (by decide), hnode]
      rfl

lemma denotes_found (h : fs.Sound) {start : Option String} {dir : List String}
    (hstart : fs.Leads (startPath fs start) dir) :
    Denotes fs (((searchPaths fs start).find? fs.isFile).map Path.text)
      ((stops fs (startPath fs start)).find? (holds fs)) := by
  rw [searchPaths_eq]
  apply denotes_stops
  intro p hp
  rw [cons_parents] at hp
  obtain ⟨q, hq, rfl⟩ := List.mem_map.1 hp
  have hfront := mem_upward.1 hq
  exact ⟨(clean_startPath h start).front hfront, h.leads_front hstart hfront⟩

lemma stops_eq_map (h : fs.Sound) {p : Path} {dir : List String} (hp : fs.Leads p dir)
    (hdots : ".." ∉ p.parts) : stops fs p = (upward p.parts).map (fs.origin p ++ ·) := by
  have hstop : ∀ q ∈ upward p.parts,
      (fs.locate? ∘ Path.mk p.root) q = (some ∘ (fs.origin p ++ ·)) q := by
    intro q hq
    have hfront := mem_upward.1 hq
    obtain ⟨m, hm⟩ := h.leads_front hp hfront
    rw [Function.comp_apply, hm.1, hm.eq_append fun hmem => hdots (hfront.subset hmem)]
    rfl
  rw [stops, cons_parents, List.filterMap_map, List.filterMap_congr hstop, List.filterMap_eq_map]

lemma find?_stops (h : fs.Sound) {p : Path} {dir : List String} (hp : fs.Leads p dir)
    (hdots : ".." ∉ p.parts) :
    (stops fs p).find? (holds fs) = (nearest? fs dir).filter (fs.origin p).isPrefixOf := by
  -- The way up has a part at or below the origin, which the path shows, and a part above it.
  rw [stops_eq_map h hp hdots, nearest?, hp.eq_append hdots, upward_append, List.find?_append]
  cases hbelow : ((upward p.parts).map (fs.origin p ++ ·)).find? (holds fs) with
  | some d =>
    obtain ⟨q, -, rfl⟩ := List.mem_map.1 (List.mem_of_find?_eq_some hbelow)
    rw [Option.some_or, Option.filter_some_pos]
    exact List.isPrefixOf_iff_prefix.2 (List.prefix_append _ _)
  | none =>
    rw [Option.none_or, eq_comm, Option.filter_eq_none_iff]
    intro d hd hfront
    exact not_prefix_of_mem_tail (List.mem_of_find?_eq_some hd) (List.isPrefixOf_iff_prefix.1 hfront)

lemma filter_origin_eq_iff (p : Path) (dir : Option (List String)) :
    dir.filter (fs.origin p).isPrefixOf = dir ↔
      p.isAbsolute ∨ ∀ d ∈ dir, fs.current <+: d := by
  cases dir with
  | none => simp
  | some d =>
    rw [origin]
    split
    · rename_i habsolute
      simp [habsolute]
    · rename_i hrelative
      simp [hrelative]

/-- The search finds the nearest file that the path as it is written leads past, unless the system
refuses to look before it gets there. Without parts that lead up this is the nearest at all, unless
that is above the current directory and the path is relative. -/
theorem find_stops_at_origin {fs : Files} (h : fs.Sound) {start : Option String}
    {dir : List String} (hstart : fs.Leads (startPath fs start) dir) :
    ∃ found, (Yields (fun _ : World σ => True) (find fs start) (.ok found) ∨
        ∃ complaint, fs.Refuses (searchPaths fs start) complaint ∧
          Yields (fun _ : World σ => True) (find fs start) (.error (.refused complaint))) ∧
      Denotes fs found ((stops fs (startPath fs start)).find? (holds fs)) ∧
      (Denotes fs found (nearest? fs dir) ↔
        (stops fs (startPath fs start)).find? (holds fs) = nearest? fs dir) ∧
      (".." ∉ (startPath fs start).parts →
        Denotes fs found ((nearest? fs dir).filter (fs.origin (startPath fs start)).isPrefixOf) ∧
        (Denotes fs found (nearest? fs dir) ↔
          (startPath fs start).isAbsolute ∨ ∀ d ∈ nearest? fs dir, fs.current <+: d)) := by
  have hfound := denotes_found h hstart
  refine ⟨_, ?_, hfound, hfound.iff_eq, fun hdots => ?_⟩
  · exact (fs.firstFile_cases (searchPaths fs start)).imp find_yields
      fun ⟨complaint, hrefuses, herror⟩ => ⟨complaint, hrefuses, find_yields_refused herror⟩
  rw [find?_stops h hstart hdots] at hfound
  rw [← filter_origin_eq_iff]
  exact ⟨hfound, hfound.iff_eq⟩

def terrace : Files where
  tree := .ofList [([".env"], .file .empty), (["a"], .directory), (["a", "b"], .directory),
    (["a", "b", ".env"], .file .empty), (["a", "b", "c"], .directory)]
  current := ["a"]

lemma sound_terrace : terrace.Sound := by
  refine ⟨fun place hplace => ?_, rfl, by decide⟩
  rw [node?] at hplace
  split at hplace
  · rename_i hroot
    rw [List.isEmpty_iff.1 hroot]
    rfl
  · obtain ⟨node, hnode⟩ := Option.isSome_iff_exists.1 hplace
    have hkeys : ∀ k ∈ terrace.tree.keys, terrace.node? k.dropLast = some .directory := by
      change ∀ k ∈ [[".env"], ["a"], ["a", "b"], ["a", "b", ".env"], ["a", "b", "c"]], _
      simp only [List.forall_mem_cons]
      exact ⟨rfl, rfl, rfl, rfl, rfl, List.forall_mem_nil _⟩
    exact hkeys place (Ledger.mem_keys_of_get? hnode)

lemma not_refuses_terrace (ps : List Path) (complaint : String) :
    ¬ terrace.Refuses ps complaint := fun ⟨_, _, _, _, _, h⟩ => nomatch h

lemma find_terrace {found : Option String}
    (h : ((searchPaths terrace start).find? terrace.isFile).map Path.text = found) :
    Yields (fun _ : World σ => True) (find terrace start) (.ok found) := by
  obtain hfound | ⟨complaint, hrefuses, -⟩ := terrace.firstFile_cases (searchPaths terrace start)
  · exact h ▸ find_yields hfound
  · exact absurd hrefuses (not_refuses_terrace _ complaint)

theorem find_stops_at_origin_terrace :
    ∃ text, Yields (fun _ : World Unit => True) (find terrace (some "b/c")) (.ok (some text)) ∧
      terrace.locate? (ofString text) = some ["a", "b", ".env"] := by
  have hstart : terrace.Leads (startPath terrace (some "b/c")) ["a", "b", "c"] :=
    ⟨by decide +kernel, rfl⟩
  obtain ⟨found, hfound | ⟨complaint, hrefuses, -⟩, -, -, hnearest⟩ :=
    find_stops_at_origin (σ := Unit) sound_terrace hstart
  swap
  · exact absurd hrefuses (not_refuses_terrace _ _)
  obtain ⟨-, hagrees⟩ := hnearest (by decide +kernel)
  have hb : nearest? terrace ["a", "b", "c"] = some ["a", "b"] := by decide +kernel
  rw [hb] at hagrees
  have hdenotes := hagrees.2 (.inr (by simp [terrace]))
  obtain ⟨text, rfl, htext⟩ := Option.map_eq_some_iff.1 hdenotes
  exact ⟨text, hfound, htext⟩

/-- From the directory in the middle nothing is found, by another spelling the file at the root, and by a third
the one further in. -/
theorem find_misses_above :
    terrace.Sound ∧ nearest? terrace ["a"] = some [] ∧
      (∀ start ∈ [".", "/a", "/a/b/.."], terrace.Leads (startPath terrace (some start)) ["a"]) ∧
      Yields (fun _ : World Unit => True) (find terrace (some ".")) (.ok none) ∧
      Yields (fun _ : World Unit => True) (find terrace (some "/a")) (.ok (some "/.env")) ∧
      Yields (fun _ : World Unit => True) (find terrace (some "/a/b/.."))
        (.ok (some "/a/b/.env")) := by
  refine ⟨sound_terrace, by decide +kernel, ?_, ?_, ?_, ?_⟩
  · simp only [List.forall_mem_cons]
    exact ⟨⟨by decide +kernel, rfl⟩, ⟨by decide +kernel, rfl⟩, ⟨by decide +kernel, rfl⟩,
      List.forall_mem_nil _⟩
  · exact find_terrace (by decide +kernel)
  · exact find_terrace (by decide +kernel)
  · exact find_terrace (by decide +kernel)

end LayeredConfig.Source.Dotenv
