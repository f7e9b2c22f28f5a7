import LayeredConfig.Files
import LayeredConfig.Proofs.Pieces

/-! Paths and where they lead. A path that is clean comes back from its text. What a path leads to,
it leads to in steps from directory to directory, so each of its beginnings leads somewhere too. -/

namespace LayeredConfig

open Text

namespace Path

def upward (place : List String) : List (List String) := place.inits.reverse

lemma mem_upward {place q : List String} : q ∈ upward place ↔ q <+: place := by
  rw [upward, List.mem_reverse, List.mem_inits]

lemma upward_concat (place : List String) (name : String) :
    upward (place ++ [name]) = (place ++ [name]) :: upward place := by
  simp [upward, List.inits_append]

lemma upward_append (place ps : List String) :
    upward (place ++ ps) = (upward ps).map (place ++ ·) ++ (upward place).tail := by
  induction ps using List.reverseRecOn with
  | nil =>
    induction place using List.reverseRecOn with
    | nil => rfl
    | append_singleton place name ih => simp [upward]
  | append_singleton ps name ih =>
    rw [← List.append_assoc, upward_concat, upward_concat, ih]
    simp

lemma not_prefix_of_mem_tail {place q : List String} (h : q ∈ (upward place).tail) :
    ¬ place <+: q := by
  induction place using List.reverseRecOn with
  | nil => cases h
  | append_singleton place name =>
    rw [upward_concat, List.tail_cons, mem_upward] at h
    intro hfront
    have hlength := hfront.length_le
    rw [List.length_append, List.length_singleton] at hlength
    have := h.length_le
    omega

lemma cons_parents (p : Path) : p :: p.parents = (upward p.parts).map (Path.mk p.root) := by
  obtain ⟨root, parts⟩ := p
  induction parts using List.reverseRecOn with
  | nil => rfl
  | append_singleton parts name ih =>
    have hparents : (Path.mk root (parts ++ [name])).parents =
        ⟨root, parts⟩ :: (Path.mk root parts).parents := by
      simp only [parents, List.length_append, List.length_singleton, List.range_succ_eq_map,
        List.map_cons, List.map_map]
      congr 1
      · simp
      · apply List.map_congr_left
        intro i hi
        have hlt := List.mem_range.1 hi
        simp only [Function.comp_apply]
        rw [List.take_append_of_le_length (by omega)]
        congr 2
        omega
    rw [upward_concat, List.map_cons, hparents, ih]

structure Clean (p : Path) : Prop where
  root : p.root ≤ 2
  names : ∀ n ∈ p.parts, n ≠ "" ∧ n ≠ "." ∧ '/' ∉ n.toList

lemma clean_ofString (s : String) : (ofString s).Clean := by
  constructor
  · rw [ofString]
    dsimp only
    split
    · omega
    · split <;> omega
  · intro n hn
    obtain ⟨hn, hnames⟩ := List.mem_filter.1 hn
    obtain ⟨piece, hpiece, rfl⟩ := List.mem_map.1 hn
    obtain ⟨hne, hdot⟩ := of_decide_eq_true hnames
    refine ⟨hne, hdot, ?_⟩
    rw [String.toList_ofList]
    exact not_mem_of_mem_pieces hpiece

lemma Clean.front {p : Path} (h : p.Clean) {q : List String} (hq : q <+: p.parts) :
    (Path.mk p.root q).Clean := ⟨h.root, fun n hn => h.names n (hq.subset hn)⟩

lemma Clean.child {p : Path} (h : p.Clean) {name : String}
    (hname : name ≠ "" ∧ name ≠ "." ∧ '/' ∉ name.toList) : (p.child name).Clean := by
  refine ⟨h.root, fun n hn => ?_⟩
  rcases List.mem_append.1 hn with hn | hn
  · exact h.names n hn
  · rwa [List.mem_singleton.1 hn]

lemma pieces_slashes (n : Nat) (cs : List Char) :
    pieces ['/'] (by simp) (List.replicate n '/' ++ cs) =
      List.replicate n [] ++ pieces ['/'] (by simp) cs := by
  induction n with
  | zero => rfl
  | succ n ih =>
    have hcut : cut? ['/'] ('/' :: (List.replicate n '/' ++ cs)) =
        some ([], List.replicate n '/' ++ cs) := by simp [cut?]
    rw [List.replicate_succ, List.cons_append, pieces_of_some hcut, ih]
    rfl

lemma leadingSlashes_text {n : Nat} {ps : List String} (hne : ps ≠ [])
    (h : ∀ p ∈ ps, p ≠ "" ∧ '/' ∉ p.toList) :
    leadingSlashes (List.replicate n '/' ++ ['/'].intercalate (ps.map String.toList)) = n := by
  obtain ⟨p, ps, rfl⟩ := List.exists_cons_of_ne_nil hne
  obtain ⟨hp, hslash⟩ := h p (by simp)
  obtain ⟨c, cs, hcs⟩ := List.exists_cons_of_ne_nil (mt String.toList_eq_nil_iff.1 hp)
  -- The first part begins with no slash, so the slashes in front of it are the root.
  have hc : c ≠ '/' := by
    rintro rfl
    exact hslash (by simp [hcs])
  have hfirst : (['/'].intercalate ((p :: ps).map String.toList)).head? = some c := by
    cases ps with
    | nil => simp [hcs]
    | cons q ps => simp [hcs, List.intercalate_cons_cons]
  obtain ⟨rest, hrest⟩ := List.head?_eq_some_iff.1 hfirst
  rw [leadingSlashes, hrest, List.takeWhile_append_of_pos (by simp)]
  simp [hc]

lemma Clean.ofString_text {p : Path} (h : p.Clean) (hne : p.parts ≠ []) :
    ofString p.text = p := by
  obtain ⟨root, parts⟩ := p
  obtain ⟨hroot, hnames⟩ := h
  change root ≤ 2 at hroot
  change parts ≠ [] at hne
  change ∀ n ∈ parts, _ at hnames
  have htext : (Path.mk root parts).text.toList =
      List.replicate root '/' ++ ['/'].intercalate (parts.map String.toList) := by
    rw [text, if_neg fun hempty => hne hempty.2, String.toList_append, rootText,
      String.toList_ofList, String.toList_intercalate]
    rfl
  have hpieces : pieces ['/'] (by simp) (['/'].intercalate (parts.map String.toList)) =
      parts.map String.toList := by
    apply pieces_intercalate_singleton (by simpa using hne)
    intro v hv
    obtain ⟨n, hn, rfl⟩ := List.mem_map.1 hv
    exact (hnames n hn).2.2
  -- The slashes in front give the root, and the parts are what stands between the others.
  have hslashes : leadingSlashes (Path.mk root parts).text.toList = root := by
    rw [htext]
    exact leadingSlashes_text hne fun n hn => ⟨(hnames n hn).1, (hnames n hn).2.2⟩
  have hkept : parts.filter (fun n => n ≠ "" ∧ n ≠ ".") = parts := by
    apply List.filter_eq_self.2
    intro n hn
    exact decide_eq_true ⟨(hnames n hn).1, (hnames n hn).2.1⟩
  rw [ofString]
  simp only [hslashes]
  rw [Path.mk.injEq]
  constructor
  · split
    · omega
    · split <;> omega
  · simp only [htext, pieces_slashes, hpieces]
    rw [List.map_append, List.filter_append, List.map_map]
    simpa [Function.comp_def] using hkept

end Path

namespace Files

variable {fs : Files} {place dir : List String}

/-- Whatever is in the tree is in a directory. The current place is one, and its path can be written. -/
structure Sound (fs : Files) : Prop where
  closed : ∀ place, (fs.node? place).isSome → fs.node? place.dropLast = some .directory
  current : fs.node? fs.current = some .directory
  names : ∀ n ∈ fs.current, n ≠ "" ∧ n ≠ "." ∧ n ≠ ".." ∧ '/' ∉ n.toList

def origin (fs : Files) (p : Path) : List String := if p.isAbsolute then [] else fs.current

def Leads (fs : Files) (p : Path) (dir : List String) : Prop :=
  fs.locate? p = some dir ∧ fs.node? dir = some .directory

lemma node?_nil (fs : Files) : fs.node? [] = some .directory := rfl

lemma Sound.origin (h : fs.Sound) (p : Path) : fs.node? (fs.origin p) = some .directory := by
  rw [Files.origin]
  split
  · exact fs.node?_nil
  · exact h.current

lemma walk_down {n : String} (h : n ≠ "..") (ps : List String) :
    fs.walk place (n :: ps) = match fs.node? (place ++ [n]) with
      | some .directory => fs.walk (place ++ [n]) ps
      | some (.file _) => if ps.isEmpty then some (place ++ [n]) else none
      | none => none := by
  rw [walk.eq_def]
  split
  · rename_i hnil
    cases hnil
  · rename_i hup
    exact absurd (List.cons.inj hup).1 h
  · rename_i hcons
    cases hcons
    rfl

lemma walk_append {ps : List String} (h : fs.walk place ps = some dir)
    (hdir : fs.node? dir = some .directory) (qs : List String) :
    fs.walk place (ps ++ qs) = fs.walk dir qs := by
  induction ps generalizing place with
  | nil =>
    cases h
    rfl
  | cons n ps ih =>
    by_cases hn : n = ".."
    · subst hn
      exact ih h
    · rw [walk_down hn] at h
      rw [List.cons_append, walk_down hn]
      cases hnext : fs.node? (place ++ [n]) with
      | none => simp [hnext] at h
      | some node =>
        cases node with
        | directory =>
          rw [hnext] at h
          exact ih h
        | file content =>
          simp only [hnext, Option.ite_none_right_eq_some, Option.some.injEq] at h
          rw [← h.2, hnext] at hdir
          cases hdir

lemma Sound.walk_front (h : fs.Sound) {ps qs : List String}
    (hplace : fs.node? place = some .directory) (hwalk : fs.walk place (ps ++ qs) = some dir)
    (hqs : qs ≠ []) : ∃ m, fs.walk place ps = some m ∧ fs.node? m = some .directory := by
  -- The walk is taken along its front; a file there would have to be its end.
  induction ps generalizing place with
  | nil => exact ⟨place, rfl, hplace⟩
  | cons n ps ih =>
    by_cases hn : n = ".."
    · subst hn
      exact ih (h.closed place (by simp [hplace])) hwalk
    · rw [List.cons_append, walk_down hn] at hwalk
      rw [walk_down hn]
      cases hnext : fs.node? (place ++ [n]) with
      | none => simp [hnext] at hwalk
      | some node =>
        cases node with
        | directory =>
          rw [hnext] at hwalk
          exact ih hnext hwalk
        | file content => simp [hnext, hqs] at hwalk

lemma Sound.leads_front (h : fs.Sound) {p : Path} (hp : fs.Leads p dir) {q : List String}
    (hq : q <+: p.parts) : ∃ m, fs.Leads ⟨p.root, q⟩ m := by
  obtain ⟨rest, hrest⟩ := hq
  obtain rfl | hne := eq_or_ne rest []
  · rw [List.append_nil] at hrest
    subst hrest
    exact ⟨dir, hp⟩
  · obtain ⟨hlocate, -⟩ := hp
    rw [locate?, ← hrest] at hlocate
    exact h.walk_front (h.origin p) hlocate hne

lemma eq_append_of_walk {ps : List String} (hps : ".." ∉ ps) (h : fs.walk place ps = some dir) :
    dir = place ++ ps := by
  induction ps generalizing place with
  | nil =>
    cases h
    exact (List.append_nil _).symm
  | cons n ps ih =>
    rw [List.mem_cons, not_or] at hps
    obtain ⟨hn, hps⟩ := hps
    rw [walk_down (Ne.symm hn)] at h
    cases hnext : fs.node? (place ++ [n]) with
    | none => simp [hnext] at h
    | some node =>
      cases node with
      | directory =>
        rw [hnext] at h
        simpa using ih hps h
      | file content =>
        simp only [hnext, Option.ite_none_right_eq_some, Option.some.injEq, List.isEmpty_iff] at h
        rw [← h.2, h.1]

def Refuses (fs : Files) (ps : List Path) (complaint : String) : Prop :=
  ∃ front p rest, ps = front ++ p :: rest ∧ (∀ q ∈ front, fs.isFile q = false) ∧
    fs.refusal? .lookup p = some complaint

lemma firstFile_cases (fs : Files) (ps : List Path) :
    fs.firstFile ps = .ok (ps.find? fs.isFile) ∨
      ∃ complaint, fs.Refuses ps complaint ∧ fs.firstFile ps = .error complaint := by
  induction ps with
  | nil => exact .inl rfl
  | cons p ps ih =>
    rw [firstFile, lookUp]
    cases hrefusal : fs.refusal? .lookup p with
    | some complaint => exact .inr ⟨complaint, ⟨[], p, ps, rfl, List.forall_mem_nil _, hrefusal⟩, rfl⟩
    | none =>
      cases hfile : fs.isFile p with
      | true =>
        rw [List.find?_cons_of_pos hfile]
        exact .inl rfl
      | false =>
        rw [List.find?_cons_of_neg (by simp [hfile])]
        refine ih.imp id fun ⟨complaint, ⟨front, q, rest, hps, hfront, hq⟩, herror⟩ => ?_
        exact ⟨complaint, ⟨p :: front, q, rest, congrArg (p :: ·) hps,
          List.forall_mem_cons.2 ⟨hfile, hfront⟩, hq⟩, herror⟩

lemma Leads.eq_append {p : Path} (h : fs.Leads p dir) (hp : ".." ∉ p.parts) :
    dir = fs.origin p ++ p.parts := eq_append_of_walk hp h.1

end Files

end LayeredConfig
