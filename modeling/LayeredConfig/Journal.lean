import LayeredConfig.Data
import LayeredConfig.Ledger

/-! The record of what happened during a pass. An event carries the trace it belongs to, the
source and the key it is about, and further details; a later detail of the same name replaces an
earlier one. -/

namespace LayeredConfig

inductive Severity
  | debug
  | info
  | warning
  | error
  | critical
  deriving DecidableEq, Inhabited

namespace Severity

def rank : Severity → Nat
  | debug => 0
  | info => 1
  | warning => 2
  | error => 3
  | critical => 4

def name : Severity → String
  | debug => "DEBUG"
  | info => "INFO"
  | warning => "WARNING"
  | error => "ERROR"
  | critical => "CRITICAL"

def ofName? (s : String) : Option Severity :=
  [debug, info, warning, error, critical].find? (·.name = s)

end Severity

abbrev Details := Ledger String Data

structure Event where
  severity : Severity
  name : String
  details : Details

structure Journal where
  threshold : Severity
  trace : Option String
  events : List Event

namespace Journal

def optional (s : Option String) : Data := (s.map Data.text).getD .null

def strings (xs : List String) : Data := .collection .list (xs.map .text)

def about (source key : Option String) (more : List (String × Data)) : Details :=
  (Ledger.ofList [("source", optional source), ("key", optional key)]).putAll more

def record (j : Journal) (severity : Severity) (name : String) (details : Details) : Journal :=
  if severity.rank < j.threshold.rank then j
  else
    let stamped := (Ledger.ofList [("trace_id", optional j.trace)]).union details
    { j with events := j.events ++ [⟨severity, name, stamped⟩] }

theorem record_below {j : Journal} {severity : Severity} (h : severity.rank < j.threshold.rank)
    (name : String) (details : Details) : j.record severity name details = j := if_pos h

@[simp] theorem threshold_record (j : Journal) (severity : Severity) (name : String)
    (details : Details) : (j.record severity name details).threshold = j.threshold := by
  unfold record; split <;> rfl

@[simp] theorem trace_record (j : Journal) (severity : Severity) (name : String)
    (details : Details) : (j.record severity name details).trace = j.trace := by
  unfold record; split <;> rfl

end Journal

end LayeredConfig
