import LayeredConfig.Data.Flat
import Mathlib.Data.List.Basic
import Mathlib.Logic.Function.Basic
import Mathlib.Tactic.Common

/-! Documents flattened level by level, against one walk over their leaves. Each level is a mapping of
its own that goes into the one above it; what comes out is the mapping that the leaves leave if each of
them is put under the keys on the way to it, one after the other. -/

namespace LayeredConfig

namespace Text

lemma join_concat (sep s : String) {vs : List String} (h : vs ≠ []) :
    join sep (vs ++ [s]) = join sep vs ++ sep ++ s := by
  induction vs with
  | nil => exact absurd rfl h
  | cons v vs ih =>
    cases vs with
    | nil => rfl
    | cons u vs =>
      rw [List.cons_append, List.cons_append, join, join, ← List.cons_append, ih (by simp)]
      simp only [String.append_assoc]

end Text

namespace Ledger

variable {κ κ' α : Type} [DecidableEq κ] [DecidableEq κ']

lemma place_place_self (k : κ) (v w : α) (ps : List (κ × α)) :
    place k v (place k w ps) = place k v ps := by
  induction ps with
  | nil => simp [place]
  | cons p ps ih => by_cases h : p.1 = k <;> simp [place, h, ih]

lemma place_comm {j k : κ} (hne : j ≠ k) (v w : α) {ps : List (κ × α)} (h : k ∈ ps.map Prod.fst) :
    place k v (place j w ps) = place j w (place k v ps) := by
  induction ps with
  | nil => cases h
  | cons p ps ih =>
    by_cases hk : p.1 = k
    · have hj : p.1 ≠ j := fun e => hne (e.symm.trans hk)
      simp [place, hk, hne.symm]
    · have hrest : k ∈ ps.map Prod.fst := by
        rw [List.map_cons, List.mem_cons] at h
        exact h.resolve_left fun e => hk e.symm
      by_cases hj : p.1 = j
      · simp [place, hj, hne]
      · simp [place, hj, hk, ih hrest]

lemma put_putAll {l : Ledger κ α} {k : κ} {ps : List (κ × α)} (hl : k ∈ l.keys)
    (hps : k ∉ ps.map Prod.fst) (v : α) : (l.putAll ps).put k v = (l.put k v).putAll ps := by
  induction ps generalizing l with
  | nil => rfl
  | cons p ps ih =>
    obtain ⟨hp, hrest⟩ := List.ne_and_not_mem_of_not_mem_cons hps
    have hcomm : (l.put p.1 p.2).put k v = (l.put k v).put p.1 p.2 :=
      ext (place_comm hp.symm v p.2 hl)
    change ((l.put p.1 p.2).putAll ps).put k v = ((l.put k v).put p.1 p.2).putAll ps
    rw [ih (mem_keys_put.2 (.inr hl)) hrest, hcomm]

lemma putAll_place (l : Ledger κ α) (k : κ) (v : α) {ps : List (κ × α)}
    (h : (ps.map Prod.fst).Nodup) : l.putAll (place k v ps) = (l.putAll ps).put k v := by
  induction ps generalizing l with
  | nil => rfl
  | cons p ps ih =>
    obtain ⟨hp, hrest⟩ := List.nodup_cons.1 h
    rw [place]
    split
    · rename_i hk
      subst hk
      have hself : (l.put p.1 p.2).put p.1 v = l.put p.1 v := ext (place_place_self p.1 v p.2 _)
      change (l.put p.1 v).putAll ps = ((l.put p.1 p.2).putAll ps).put p.1 v
      rw [put_putAll (mem_keys_put.2 (.inl rfl)) hp, hself]
    · exact ih (l.put p.1 p.2) hrest

lemma union_putAll (l m : Ledger κ α) (ps : List (κ × α)) :
    l.union (m.putAll ps) = (l.union m).putAll ps := by
  induction ps generalizing m with
  | nil => rfl
  | cons p ps ih =>
    have hput : l.union (m.put p.1 p.2) = (l.union m).put p.1 p.2 := putAll_place l p.1 p.2 m.nodup
    exact (ih (m.put p.1 p.2)).trans (congrArg (putAll · ps) hput)

lemma union_ofList (l : Ledger κ α) (ps : List (κ × α)) : l.union (ofList ps) = l.putAll ps :=
  union_putAll l empty ps

lemma place_map {f : κ → κ'} (hf : f.Injective) (k : κ) (v : α) (ps : List (κ × α)) :
    place (f k) v (ps.map fun p => (f p.1, p.2)) = (place k v ps).map fun p => (f p.1, p.2) := by
  induction ps with
  | nil => rfl
  | cons p ps ih =>
    by_cases h : p.1 = k
    · simp [place, h]
    · have h' : f p.1 ≠ f k := hf.ne h
      simp [place, h, h', ih]

lemma pairs_ofList_map {f : κ → κ'} (hf : f.Injective) (ps : List (κ × α)) :
    (ofList (ps.map fun p => (f p.1, p.2))).pairs = (ofList ps).pairs.map fun p => (f p.1, p.2) := by
  have hstart : (empty : Ledger κ' α).pairs = (empty : Ledger κ α).pairs.map fun p => (f p.1, p.2) := rfl
  unfold ofList
  generalize (empty : Ledger κ α) = l at hstart ⊢
  generalize (empty : Ledger κ' α) = l' at hstart ⊢
  induction ps generalizing l l' with
  | nil => exact hstart
  | cons p ps ih =>
    refine ih (l.put p.1 p.2) (l'.put (f p.1) p.2) ?_
    change place (f p.1) p.2 l'.pairs = (place p.1 p.2 l.pairs).map fun p => (f p.1, p.2)
    rw [hstart, place_map hf]

end Ledger

namespace Data

def pathText (path : List Data) : String := Text.join "." (path.map display)

def assignments (path : List Data) (ps : List (Data × Data)) : List (String × String) :=
  (leaves path ps).filterMap fun leaf => leaf.2.render.map (pathText leaf.1, ·)

def isNamed : List (Data × Data) → Bool
  | [] => true
  | (k, .mapping ps) :: rest => k.display != "" && isNamed ps && isNamed rest
  | (k, _) :: rest => k.display != "" && isNamed rest

lemma render_eq_none_iff {leaf : Data} : leaf.render = none ↔ leaf = .null := by
  cases leaf with
  | collection kind xs => cases kind <;> simp [render]
  | _ => simp [render]

lemma pathText_concat {path : List Data} (h : path ≠ []) (k : Data) :
    pathText (path ++ [k]) = pathText path ++ "." ++ k.display := by
  rw [pathText, List.map_append, List.map_singleton, Text.join_concat _ _ (by simpa using h)]
  rfl

def Reaches (path : List Data) : Prop := path = [] ∨ pathText path ≠ ""

lemma dotted_pathText {path : List Data} (h : Reaches path) (k : Data) :
    dotted (pathText path) k = pathText (path ++ [k]) := by
  rcases h with rfl | h
  · rfl
  · have hpath : path ≠ [] := by
      rintro rfl
      exact h rfl
    rw [dotted, if_neg (by simpa using h), pathText_concat hpath]

lemma Reaches.concat {path : List Data} (h : Reaches path) {k : Data} (hk : k.display ≠ "") :
    Reaches (path ++ [k]) := by
  rcases h with rfl | h
  · exact .inr hk
  · have hpath : path ≠ [] := by
      rintro rfl
      exact h rfl
    right
    rw [pathText_concat hpath]
    simp

lemma assignments_nil (path : List Data) : assignments path [] = [] := by
  rw [assignments, leaves, List.filterMap_nil]

lemma assignments_mapping (path : List Data) (k : Data) (ps rest : List (Data × Data)) :
    assignments path ((k, .mapping ps) :: rest) =
      assignments (path ++ [k]) ps ++ assignments path rest := by
  rw [assignments, leaves, List.filterMap_append]
  rfl

lemma assignments_leaf {v : Data} (hv : ∀ ps, v = .mapping ps → False) (path : List Data) (k : Data)
    (rest : List (Data × Data)) :
    assignments path ((k, v) :: rest) =
      (v.render.map (pathText (path ++ [k]), ·)).toList ++ assignments path rest := by
  rw [assignments, leaves]
  · rw [List.filterMap_cons]
    cases v.render <;> rfl
  · exact hv

lemma isNamed_leaf {v : Data} (hv : ∀ ps, v = .mapping ps → False) (k : Data)
    (rest : List (Data × Data)) :
    isNamed ((k, v) :: rest) = (k.display != "" && isNamed rest) := by
  rw [isNamed]
  exact hv

lemma flattenOnto_eq (flat : Ledger String String) {path : List Data} (hpath : Reaches path)
    {ps : List (Data × Data)} (h : isNamed ps = true) :
    flattenOnto flat (pathText path) ps = flat.putAll (assignments path ps) := by
  generalize hlead : pathText path = lead
  -- Induction along the recursion: the mapping ends, or goes on with a mapping below, a leaf, or a
  -- leaf without text. The lead is always the text of the path.
  fun_induction flattenOnto flat lead ps generalizing path with
  | case1 flat lead =>
    rw [assignments_nil]
    rfl
  | case2 flat lead k ps rest ihnested ihrest =>
    subst hlead
    simp only [isNamed, Bool.and_eq_true, bne_iff_ne] at h
    obtain ⟨⟨hk, hps⟩, hrest⟩ := h
    have hnested := ihnested (hpath.concat hk) hps (dotted_pathText hpath k).symm
    have hunion : flat.union (Ledger.putAll .empty (assignments (path ++ [k]) ps)) =
        flat.putAll (assignments (path ++ [k]) ps) := Ledger.union_ofList flat _
    rw [ihrest hpath hrest rfl, hnested, hunion, assignments_mapping]
    exact List.foldl_append.symm
  | case3 flat lead k v rest hv s hrender ihrest =>
    subst hlead
    rw [isNamed_leaf hv, Bool.and_eq_true] at h
    rw [ihrest hpath h.2 rfl, assignments_leaf hv, hrender, dotted_pathText hpath]
    rfl
  | case4 flat lead k v rest hv hrender ihrest =>
    rw [isNamed_leaf hv, Bool.and_eq_true] at h
    rw [ihrest hpath h.2 hlead, assignments_leaf hv, hrender]
    rfl

lemma path_ne_nil {path : List Data} {ps : List (Data × Data)} :
    ∀ leaf ∈ leaves path ps, leaf.1 ≠ [] := by
  fun_induction leaves path ps with
  | case1 => simp
  | case2 path k ps rest ihnested ihrest =>
    exact List.forall_mem_append.2 ⟨ihnested, ihrest⟩
  | case3 path k v rest hv ihrest =>
    exact List.forall_mem_cons.2 ⟨by simp, ihrest⟩

lemma leaves_cons (k : Data) (path : List Data) (ps : List (Data × Data)) :
    leaves (k :: path) ps = (leaves path ps).map fun leaf => (k :: leaf.1, leaf.2) := by
  fun_induction leaves path ps with
  | case1 => simp [leaves]
  | case2 path j ps rest ihnested ihrest =>
    rw [leaves, List.map_append, ← ihnested, ← ihrest, List.cons_append]
  | case3 path j v rest hv ihrest =>
    rw [leaves]
    · rw [List.map_cons, ← ihrest, List.cons_append]
    · exact hv

lemma pathText_cons (k : Data) {path : List Data} (h : path ≠ []) :
    pathText (k :: path) = k.display ++ "." ++ pathText path := by
  obtain ⟨j, path, rfl⟩ := List.exists_cons_of_ne_nil h
  rfl

lemma assignments_below (k : Data) (ps : List (Data × Data)) :
    assignments [k] ps = (assignments [] ps).map fun p => (k.display ++ "." ++ p.1, p.2) := by
  rw [assignments, leaves_cons, List.filterMap_map, assignments, List.map_filterMap]
  refine List.filterMap_congr fun leaf hleaf => ?_
  rw [Function.comp_apply, Option.map_map, pathText_cons k (path_ne_nil leaf hleaf)]
  rfl

lemma flatten_eq {ps : List (Data × Data)} (h : isNamed ps = true) :
    flatten "" ps = .ofList (assignments [] ps) :=
  flattenOnto_eq .empty (.inl rfl) h

/-- A document without empty keys is flattened to what its leaves leave, put one after the other under
their paths: a later one takes the value and leaves the place. So what stands under a key of another
document is flattened as by itself, with that key in front. -/
theorem flatten_assigns_leaves {ps : List (Data × Data)} (h : isNamed ps = true) :
    flatten "" ps = .ofList ((leaves [] ps).filterMap fun leaf =>
      leaf.2.render.map (pathText leaf.1, ·)) ∧
    (∀ leaf : Data, leaf.render = none ↔ leaf = .null) ∧
    ∀ key : Data, key.display ≠ "" →
      (flatten "" [(key, .mapping ps)]).pairs =
        (flatten "" ps).pairs.map fun p => (key.display ++ "." ++ p.1, p.2) := by
  refine ⟨flatten_eq h, fun _ => render_eq_none_iff, fun key hkey => ?_⟩
  have hnested : isNamed [(key, .mapping ps)] = true := by simp [isNamed, hkey, h]
  have hbelow : assignments [] [(key, .mapping ps)] = assignments [key] ps := by
    rw [assignments_mapping, assignments_nil, List.append_nil, List.nil_append]
  have hinjective : Function.Injective fun s : String => key.display ++ "." ++ s :=
    fun _ _ he => (String.append_right_inj _).1 he
  rw [flatten_eq hnested, hbelow, assignments_below, flatten_eq h]
  exact Ledger.pairs_ofList_map hinjective _

def crossing : List (Data × Data) :=
  [(.text "a", .mapping [(.text "b", .integer 1), (.text "c", .null)]), (.text "d", .boolean true),
    (.text "a.b", .collection .list [.integer 1, .text "x,y"])]

theorem flatten_assigns_leaves_crossing :
    isNamed crossing = true ∧
    flatten "" crossing = .ofList [("a.b", "1"), ("d", "true"), ("a.b", "1,x\\,y")] ∧
    (flatten "" [(.text "p", .mapping crossing)]).pairs = [("p.a.b", "1,x\\,y"), ("p.d", "true")] := by
  have hnamed : isNamed crossing = true := by simp [crossing, isNamed, display]
  obtain ⟨hflat, -, hbelow⟩ := flatten_assigns_leaves hnamed
  have hleaves : leaves [] crossing =
      [([.text "a", .text "b"], .integer 1), ([.text "a", .text "c"], .null),
        ([.text "d"], .boolean true),
        ([.text "a.b"], .collection .list [.integer 1, .text "x,y"])] := by
    simp [crossing, leaves]
  have hleft : ((leaves [] crossing).filterMap fun leaf => leaf.2.render.map (pathText leaf.1, ·)) =
      [("a.b", "1"), ("d", "true"), ("a.b", "1,x\\,y")] := by
    rw [hleaves]
    decide
  rw [hleft] at hflat
  refine ⟨hnamed, hflat, ?_⟩
  rw [hbelow (.text "p") (by decide), hflat]
  decide

end Data

end LayeredConfig
