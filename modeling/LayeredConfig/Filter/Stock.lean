import LayeredConfig.Filter
import LayeredConfig.Pattern.Reader
import LayeredConfig.Text.Blank
import LayeredConfig.Text.Cut

/-! Filters that hide, mask, rename, freeze, cache and guard entries by key. -/

namespace LayeredConfig.Filter

variable {σ : Type}

structure KeyPattern where
  text : String
  accepts : String → Bool

def KeyPattern.read (text : String) : Except Failure KeyPattern :=
  match Pattern.read text with
  | .ok p => .ok ⟨text, p.accepts⟩
  | .error .tooManyRepeats => .error (.largePattern Pattern.Fault.tooManyRepeats.message)
  | .error fault => .error (.badPattern fault.message)

def KeyPattern.accepts? (p : Option KeyPattern) (key : String) : Bool :=
  p.all (·.accepts key)

inductive Refusal
  | hide
  | warn
  | raise
  deriving DecidableEq

def Refusal.name : Refusal → String
  | hide => "hide"
  | warn => "warn"
  | raise => "raise"

def Refusal.ofName (s : String) : Except Failure Refusal :=
  match s with
  | "hide" => .ok hide
  | "warn" => .ok warn
  | "raise" => .ok raise
  | _ => .error (.unknownSecurePolicy s)

inductive Stock (σ : Type)
  | hide (pattern : KeyPattern)
  | mask (pattern : KeyPattern) (mask : String)
  | rename (pattern : Option KeyPattern) (cutoff target : Option String)
  | freeze (slot : Nat)
  /-- An entry stays until its time is over. A negative size is no bound. -/
  | cache (slot : Nat) (pattern : Option KeyPattern) (timeout : Rat) (maxSize : Int)
    (clock : Note σ Rat)
  /-- Entries are for holders of a role; without a list of assigned roles, for everyone. -/
  | secure (pattern : Option KeyPattern) (roles : List String)
    (assigned : Note σ (Option (List String))) (refusal : Refusal)

namespace Stock

def name : Stock σ → String
  | hide _ => "HideFilter"
  | mask .. => "MaskFilter"
  | rename .. => "MapFilter"
  | freeze _ => "ImmutableFilter"
  | cache .. => "CachedFilter"
  | secure .. => "SecuredFilter"

def defaultMask : String := "*****"

def defaultTimeout : Rat := 300

def optionalQuote (s : Option String) : String := (s.map Text.quote).getD "None"

def label : Stock σ → String
  | hide p => "HideFilter(matches=" ++ Text.quote p.text ++ ")"
  | mask p m => "MaskFilter(matches=" ++ Text.quote p.text ++ ", mask=" ++ Text.quote m ++ ")"
  | rename p cutoff target =>
    "MapFilter(matches=" ++ optionalQuote (p.map (·.text)) ++ ", cutoff=" ++ optionalQuote cutoff ++
      ", target=" ++ optionalQuote target ++ ")"
  | s => s.name

def cut (cutoff : Option String) (key : String) : String :=
  match cutoff with
  | none => key
  | some c =>
    match Text.after? c key with
    | some rest => if rest.isEmpty then key else rest
    | none => key

def renamed (cutoff target : Option String) (key : String) : String :=
  target.getD "" ++ cut cutoff key

def roleSet (roles : List String) : List String := (roles.map Text.strip).eraseDups

def sortedRoles (roles : List String) : List String := roles.mergeSort fun a b => a ≤ b

def freezeEntry (slot : Nat) (entry : Entry) : Recall σ Entry := fun m =>
  let values := (m.frozen.getD slot .empty).putNew entry.key entry.value
  (entry.withValue (values.getD entry.key entry.value),
    { m with frozen := m.frozen.put slot values })

def hasRoom (maxSize : Int) (size : Nat) : Bool := maxSize < 0 || size < maxSize

def cacheEntry (slot : Nat) (timeout : Rat) (maxSize : Int) (now : Rat) (entry : Entry) :
    Recall σ Entry := fun m =>
  let held := m.cached.getD slot .empty
  let store := (entry,
    { m with cached := m.cached.put slot (held.put entry.key (now + timeout, entry)) })
  match held.get? entry.key with
  | some (expiry, kept) => if now < expiry then (kept, m) else store
  | none => if hasRoom maxSize held.size then store else (entry, m)

def invalidate (slot : Nat) (key : Option String) : Recall σ Unit := fun m =>
  let held := m.cached.getD slot .empty
  ((), { m with cached := m.cached.put slot ((key.map held.erase).getD .empty) })

def cachedCount (slot : Nat) : Recall σ Nat := fun m => ((m.cached.getD slot .empty).size, m)

def guardEntry (roles : List String) (assigned : Option (List String)) (refusal : Refusal)
    (entry : Entry) : Act σ (Option Entry) :=
  match assigned with
  | none => return some entry
  | some held =>
    if roles.any held.contains then return some entry
    else match refusal with
      | .raise => throw (.accessDenied entry.key (sortedRoles roles))
      | .warn => do
        report .warning "unauthorized_access" (some entry.source) (some entry.key)
          [("roles", Journal.strings (sortedRoles roles))]
        return some entry
      | .hide => return none

def run : Stock σ → Entry → Act σ (Option Entry)
  | hide p, e => return if p.accepts e.key then none else some e
  | mask p m, e => return if p.accepts e.key then some (e.withValue (some m)) else some e
  | rename p cutoff target, e =>
    if KeyPattern.accepts? p e.key then
      let key := renamed cutoff target e.key
      if key = e.key then return some e else ExceptT.mk (pure (some <$> e.withKey key))
    else return some e
  | freeze slot, e => some <$> ExceptT.lift (freezeEntry slot e)
  | cache slot p timeout maxSize clock, e =>
    if KeyPattern.accepts? p e.key then do
      let now ← (clock : Note σ Rat)
      some <$> ExceptT.lift (cacheEntry slot timeout maxSize now e)
    else return some e
  | secure p roles assigned refusal, e =>
    if KeyPattern.accepts? p e.key then do
      let held ← (assigned : Note σ (Option (List String)))
      guardEntry roles held refusal e
    else return some e

def toFilter (s : Stock σ) (id : Nat) : Filter σ where
  id
  name := s.name
  run entry _ := s.run entry

end Stock

end LayeredConfig.Filter
