import LayeredConfig.Entry
import LayeredConfig.Journal

/-! What a pass touches besides its arguments. The world holds the journal, the switches of
guarded sources and the state of the program around this library; the memory adds what filters
and policy resolvers remember between passes. A failure leaves all of it as it then stood. -/

namespace LayeredConfig

structure World (σ : Type) where
  journal : Journal
  switches : Ledger Nat Bool
  host : σ

structure Memory (σ : Type) where
  world : World σ
  /-- First values by key, for each filter that freezes values. -/
  frozen : Ledger Nat (Ledger String (Option String))
  /-- Entries with the time they expire at, for each filter that caches. -/
  cached : Ledger Nat (Ledger String (Rat × Entry))
  /-- Serial numbers of built policies by factory, for each resolver. -/
  instances : Ledger Nat (Ledger Nat Nat)

/-- An effect on the world that cannot fail. -/
abbrev Note (σ : Type) := StateM (World σ)

/-- A call of a source, a policy or another part that knows the world only. -/
abbrev Call (σ : Type) := ExceptT Failure (Note σ)

/-- An effect on the memory that cannot fail. -/
abbrev Recall (σ : Type) := StateM (Memory σ)

abbrev Act (σ : Type) := ExceptT Failure (Recall σ)

variable {σ α : Type}

def Note.recall (x : Note σ α) : Recall σ α := fun m =>
  let (a, w) := x.run m.world
  (a, { m with world := w })

instance : MonadLift (Note σ) (Recall σ) := ⟨Note.recall⟩

instance : MonadLift (Call σ) (Act σ) := ⟨fun x => ExceptT.mk (Note.recall x.run)⟩

class Journaling (m : Type → Type) where
  emit : Severity → String → Details → m Unit

instance : Journaling (Note σ) :=
  ⟨fun severity name details => fun w =>
    ((), { w with journal := w.journal.record severity name details })⟩

instance : Journaling (Recall σ) :=
  ⟨fun severity name details => Note.recall (Journaling.emit severity name details)⟩

instance {ε : Type} {m : Type → Type} [Monad m] [Journaling m] : Journaling (ExceptT ε m) :=
  ⟨fun severity name details => ExceptT.lift (Journaling.emit severity name details)⟩

def report {m : Type → Type} [Journaling m] (severity : Severity) (name : String)
    (source key : Option String) (more : List (String × Data)) : m Unit :=
  Journaling.emit severity name (Journal.about source key more)

def bindTrace (trace : Option String) : Note σ Unit :=
  modify fun w => { w with journal := { w.journal with trace } }

def World.initial (threshold : Severity) (host : σ) : World σ := ⟨⟨threshold, none, []⟩, .empty, host⟩

def Memory.initial (threshold : Severity) (host : σ) : Memory σ :=
  ⟨.initial threshold host, .empty, .empty, .empty⟩

def Call.attempt (x : Call σ α) : Note σ (Except Failure α) := x.run

def Act.attempt (x : Act σ α) : Recall σ (Except Failure α) := x.run

end LayeredConfig
