/-! Dates, times of day and their written forms. -/

namespace LayeredConfig

namespace Calendar

structure Date where
  year : Nat
  month : Nat
  day : Nat
  deriving DecidableEq

structure Time where
  hour : Nat
  minute : Nat
  second : Nat
  microsecond : Nat
  deriving DecidableEq

/-- A point in time; `offset` is the distance from universal time in seconds. -/
structure DateTime where
  date : Date
  time : Time
  offset : Option Int
  deriving DecidableEq

def isLeap (year : Nat) : Bool := year % 4 == 0 && (year % 100 != 0 || year % 400 == 0)

def daysIn (year month : Nat) : Nat :=
  if month = 2 then (if isLeap year then 29 else 28)
  else if month = 4 ∨ month = 6 ∨ month = 9 ∨ month = 11 then 30
  else 31

def Date.isValid (d : Date) : Bool :=
  1 ≤ d.year && d.year ≤ 9999 && 1 ≤ d.month && d.month ≤ 12 && 1 ≤ d.day &&
    d.day ≤ daysIn d.year d.month

def Time.isValid (t : Time) : Bool :=
  t.hour < 24 && t.minute < 60 && t.second < 60 && t.microsecond < 1000000

def isOffset (s : Int) : Bool := s.natAbs < 86400

def DateTime.isValid (d : DateTime) : Bool :=
  d.date.isValid && d.time.isValid && d.offset.all isOffset

def padded (width n : Nat) : String :=
  let s := toString n
  String.ofList (List.replicate (width - s.length) '0') ++ s

def Date.text (d : Date) : String :=
  padded 4 d.year ++ "-" ++ padded 2 d.month ++ "-" ++ padded 2 d.day

def Time.text (t : Time) : String :=
  padded 2 t.hour ++ ":" ++ padded 2 t.minute ++ ":" ++ padded 2 t.second ++
    (if t.microsecond = 0 then "" else "." ++ padded 6 t.microsecond)

def offsetText (s : Int) : String :=
  let n := s.natAbs
  (if s < 0 then "-" else "+") ++ padded 2 (n / 3600) ++ ":" ++ padded 2 (n / 60 % 60) ++
    (if n % 60 = 0 then "" else ":" ++ padded 2 (n % 60))

def DateTime.text (d : DateTime) : String :=
  d.date.text ++ " " ++ d.time.text ++ (d.offset.map offsetText).getD ""

def call (name : String) (args : List String) : String :=
  "datetime." ++ name ++ "(" ++ ", ".intercalate args ++ ")"

def Date.args (d : Date) : List String := [toString d.year, toString d.month, toString d.day]

def distanceExpression (s : Int) : String :=
  let days := s / 86400
  let seconds := s % 86400
  let parts := (if days = 0 then [] else ["days=" ++ toString days]) ++
    (if seconds = 0 then [] else ["seconds=" ++ toString seconds])
  call "timedelta" parts

def Time.args (t : Time) : List String :=
  [toString t.hour, toString t.minute] ++
    (if t.microsecond ≠ 0 then [toString t.second, toString t.microsecond]
     else if t.second ≠ 0 then [toString t.second] else [])

def offsetExpression (s : Int) : String :=
  if s = 0 then "datetime.timezone.utc" else call "timezone" [distanceExpression s]

def Date.expression (d : Date) : String := call "date" d.args

def Time.expression (t : Time) : String := call "time" t.args

def DateTime.expression (d : DateTime) : String :=
  call "datetime" (d.date.args ++ d.time.args ++
    (d.offset.map fun s => "tzinfo=" ++ offsetExpression s).toList)

inductive Fault
  | year (n : Nat)
  | month
  | day
  | hour
  | minute
  | second
  | offset (seconds : Int)
  deriving DecidableEq

def Fault.message : Fault → String
  | year n => "year " ++ toString n ++ " is out of range"
  | month => "month must be in 1..12"
  | day => "day is out of range for month"
  | hour => "hour must be in 0..23"
  | minute => "minute must be in 0..59"
  | second => "second must be in 0..59"
  | offset s =>
    "offset must be a timedelta strictly between -timedelta(hours=24) and timedelta(hours=24), not "
      ++ distanceExpression s ++ "."

def Date.fault? (d : Date) : Option Fault :=
  if d.year = 0 ∨ 9999 < d.year then some (.year d.year)
  else if d.month = 0 ∨ 12 < d.month then some .month
  else if d.day = 0 ∨ daysIn d.year d.month < d.day then some .day
  else none

def Time.fault? (t : Time) : Option Fault :=
  if 24 ≤ t.hour then some .hour
  else if 60 ≤ t.minute then some .minute
  else if 60 ≤ t.second then some .second
  else none

def DateTime.fault? (d : DateTime) : Option Fault :=
  ((d.offset.filter (!isOffset ·)).map .offset).or (d.date.fault?.or d.time.fault?)

end Calendar

end LayeredConfig
