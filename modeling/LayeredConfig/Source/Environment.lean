import LayeredConfig.Source
import LayeredConfig.Text.Case
import LayeredConfig.Text.Cut

/-! Environment variables as a source. The lead of a name is dropped, a double underscore becomes
a dot, and the parts are put in lower case. The variables are read anew for every call. -/

namespace LayeredConfig.Source.Environment

open Text

def defaultOrdinal : Int := 300

def nesting : List Char := ['_', '_']

def key (name : String) : String :=
  join "." ((pieces nesting (by simp [nesting]) name.toList).map fun p =>
    String.ofList (lowerChars p))

theorem key_ne_empty {name : String} (h : name ≠ "") : key name ≠ "" := by
  have hname : name.toList ≠ [] := fun he => h (String.toList_injective (by simpa using he))
  unfold key
  match hp : pieces nesting (by simp [nesting]) name.toList with
  | [] => exact absurd hp (pieces_ne_nil _ _ _)
  | [p] =>
    obtain rfl := eq_of_pieces_singleton hp
    intro he
    exact lowerChars_ne_nil hname (by simpa [join] using congrArg String.toList he)
  | p :: q :: ps => exact join_ne_empty (by decide) _ _ _

def leadFor (slug : String) : String :=
  String.ofList (upperChars (substitute '-' ['_'] slug.toList))

def complete (lead : String) : String :=
  if lead.isEmpty ∨ lead.toList.getLast? = some '_' then lead else lead ++ "_"

def assign (lead : String) (found : Ledger String String) (p : String × String) :
    Ledger String String :=
  match after? lead p.1 with
  | none => found
  | some stripped => if stripped.isEmpty then found else found.put (key stripped) p.2

def settings (lead : String) (bindings : Ledger String String) : Ledger String String :=
  bindings.pairs.foldl (assign lead) .empty

theorem empty_not_mem_assign {lead : String} {found : Ledger String String}
    (h : "" ∉ found.keys) (p : String × String) : "" ∉ (assign lead found p).keys := by
  unfold assign
  split
  · exact h
  · split
    · exact h
    · rename_i stripped _ hne
      have hkey : "" ≠ key stripped := (key_ne_empty (by simpa using hne)).symm
      rw [Ledger.mem_keys_put, not_or]
      exact ⟨hkey, h⟩

theorem empty_not_mem_settings (lead : String) (bindings : Ledger String String) :
    "" ∉ (settings lead bindings).keys := by
  unfold settings
  have hstart : "" ∉ (Ledger.empty : Ledger String String).keys := by simp
  generalize Ledger.empty = start at hstart
  induction bindings.pairs generalizing start with
  | nil => exact hstart
  | cons p ps ih => exact ih _ (empty_not_mem_assign hstart p)

def sortedKeys (keys : List String) : List String := keys.mergeSort fun a b => a ≤ b

def entries (lead name : String) (bindings : Ledger String String) :
    Except Failure (Ledger String Entry) :=
  Entry.all name .empty ((settings lead bindings).map some)

variable {σ : Type}

def properties (lead name : String) (environment : Note σ (Ledger String String)) :
    Call σ (Ledger String Entry) := do
  let found ← ExceptT.mk (return entries lead name (← environment))
  report .debug "env_variables_loaded" (some name) none
    [("keys", Journal.strings (sortedKeys found.keys))]
  return found

def source (id : Nat) (lead name : String) (ordinal : Int)
    (environment : Note σ (Ledger String String)) : Source σ where
  id
  name
  ordinal
  scannable := true
  get key := return (← properties (complete lead) name environment).get? key
  properties := properties (complete lead) name environment

end LayeredConfig.Source.Environment
