import LayeredConfig.Data.Flat
import LayeredConfig.Source

/-! A source over a document that was flattened when the source was made. -/

namespace LayeredConfig.Source

structure Mapping where
  name : String
  ordinal : Int
  scannable : Bool
  entries : Ledger String Entry

namespace Mapping

def make (name : String) (data : List (Data × Data)) (ordinal : Int) (scannable : Bool)
    (metadata : Ledger String String) : Except Failure Mapping := do
  unless Data.pairsWritable data do throw (.badNumber .unwritable)
  let entries ← Entry.all name metadata ((Data.flatten "" data).map some)
  return ⟨name, ordinal, scannable, entries⟩

theorem make_eq_ok_iff {name : String} {data : List (Data × Data)} {ordinal : Int}
    {scannable : Bool} {metadata : Ledger String String} {m : Mapping} :
    make name data ordinal scannable metadata = .ok m ↔
      Data.pairsWritable data = true ∧ ∃ entries,
        Entry.all name metadata ((Data.flatten "" data).map some) = .ok entries ∧
          m = ⟨name, ordinal, scannable, entries⟩ := by
  rw [make]
  cases Data.pairsWritable data with
  | false => exact ⟨fun h => (nomatch h), fun h => (nomatch h.1)⟩
  | true =>
    cases Entry.all name metadata ((Data.flatten "" data).map some) with
    | error failure => exact ⟨fun h => (nomatch h), fun ⟨_, _, h, _⟩ => (nomatch h)⟩
    | ok entries =>
      constructor
      · rintro ⟨⟩
        exact ⟨rfl, entries, rfl, rfl⟩
      · rintro ⟨_, _, ⟨⟩, rfl⟩
        rfl

def toSource {σ : Type} (m : Mapping) (id : Nat) : Source σ :=
  .ofEntries id m.name m.ordinal m.scannable m.entries

def label (m : Mapping) : String :=
  "MappingPropertySource(name=" ++ Text.quote m.name ++ ", ordinal=" ++ toString m.ordinal ++
    ", keys=" ++ toString m.entries.size ++ ")"

end Mapping

end LayeredConfig.Source
