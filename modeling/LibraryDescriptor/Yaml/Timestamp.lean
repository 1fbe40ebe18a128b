import LibraryDescriptor.Yaml.Cursor

/-!
# YAML timestamps

* `Timestamp` — a date, or a date with a time of day.
* `Timestamp.ofSpelling?` — the timestamp that a text spells, whether or not there is such a day.
* `Timestamp.isActual` — whether there is such a day and such a time.
* `Timestamp.same` — whether two timestamps mean the same.
-/

namespace LibraryDescriptor

namespace Yaml

/-- A spelling without one line end after it. -/
def withoutBreak (cs : List Char) : List Char :=
  if cs.getLast? == some '\n' then cs.dropLast else cs

structure Clock where
  hour : Nat
  minute : Nat
  second : Nat
  microsecond : Nat
  /-- How many minutes the zone is ahead of universal time. -/
  zone : Option Int
  deriving DecidableEq

/-- A date, or a date with a time of day. -/
structure Timestamp where
  year : Nat
  month : Nat
  day : Nat
  clock : Option Clock
  /-- Whether month and day are written with two digits each. -/
  isFull : Bool
  deriving DecidableEq

namespace Timestamp

/-! ## Spelling -/

def number (digits : List Char) : Nat := digits.foldl (fun n d => 10 * n + (d.toNat - 48)) 0

def digits? (least most : Nat) (cs : List Char) : Option (List Char × List Char) :=
  let found := (cs.take most).takeWhile Char.isDigit
  if found.length < least then none else some (found, cs.drop found.length)

def after? (c : Char) : List Char → Option (List Char)
  | d :: rest => if d == c then some rest else none
  | [] => none

/-- Hours and maybe minutes that make up a whole spelling, in minutes. -/
def offset? (cs : List Char) : Option Nat := do
  let (hours, rest) ← digits? 1 2 cs
  if rest.isEmpty then return 60 * number hours
  let (minutes, rest) ← digits? 2 2 (← after? ':' rest)
  if rest.isEmpty then return 60 * number hours + number minutes else none

def zone? (cs : List Char) : Option (Option Int) :=
  match cs.dropWhile fun c => c == ' ' || c == '\t' with
  | [] => if cs.isEmpty then some none else none
  | ['Z'] => some (some 0)
  | '+' :: rest => (offset? rest).map fun n => some n
  | '-' :: rest => (offset? rest).map fun n => some (-(n : Int))
  | _ => none

/-- The microseconds of a fraction, whose further digits do not count, and the rest of the
spelling. -/
def fraction : List Char → Nat × List Char
  | '.' :: rest =>
    let digits := (rest.takeWhile Char.isDigit).take 6
    (number digits * Nat.pow 10 (6 - digits.length), rest.dropWhile Char.isDigit)
  | cs => (0, cs)

def dropSeparator? : List Char → Option (List Char)
  | 'T' :: rest | 't' :: rest => some rest
  | cs =>
    let rest := cs.dropWhile fun c => c == ' ' || c == '\t'
    if rest.length < cs.length then some rest else none

/-- The time of day that a whole spelling gives. -/
def clock? (cs : List Char) : Option Clock := do
  let (hour, rest) ← digits? 1 2 cs
  let (minute, rest) ← digits? 2 2 (← after? ':' rest)
  let (second, rest) ← digits? 2 2 (← after? ':' rest)
  let (microsecond, rest) := fraction rest
  return ⟨number hour, number minute, number second, microsecond, ← zone? rest⟩

def ofSpelling? (cs : List Char) : Option Timestamp := do
  let (year, rest) ← digits? 4 4 cs
  let (month, rest) ← digits? 1 2 (← after? '-' rest)
  let (day, rest) ← digits? 1 2 (← after? '-' rest)
  let isFull := month.length == 2 && day.length == 2
  let clock ← if rest.isEmpty then pure none else some <$> clock? (← dropSeparator? rest)
  return ⟨number year, number month, number day, clock, isFull⟩

/-! ## Calendar -/

def isLeap (year : Nat) : Bool := (year % 4 == 0 && year % 100 != 0) || year % 400 == 0

def daysIn (year month : Nat) : Nat :=
  if month == 2 then (if isLeap year then 29 else 28)
  else if [4, 6, 9, 11].contains month then 30
  else 31

/-- Whether there is such a day and such a time, in a zone less than a day away. -/
def isActual (t : Timestamp) : Bool :=
  1 ≤ t.year && 1 ≤ t.month && t.month ≤ 12 && 1 ≤ t.day && t.day ≤ daysIn t.year t.month &&
    t.clock.all fun clock =>
      clock.hour < 24 && clock.minute < 60 && clock.second < 60 &&
        clock.zone.all fun minutes => minutes.natAbs < 24 * 60

/-- The number of days before a date, from the first day of the year one. -/
def dayNumber (t : Timestamp) : Nat :=
  let years := t.year - 1
  let months := (List.range (t.month - 1)).map fun m => daysIn t.year (m + 1)
  365 * years + years / 4 - years / 100 + years / 400 + months.foldl (· + ·) 0 + (t.day - 1)

/-- The microseconds before a timestamp, as its own zone counts them. -/
def localMicroseconds (t : Timestamp) : Nat :=
  let seconds := t.clock.elim 0 fun clock => 3600 * clock.hour + 60 * clock.minute + clock.second
  1000000 * (86400 * t.dayNumber + seconds) + t.clock.elim 0 (·.microsecond)

/-- The zone of a timestamp; a date, and a time of day without a zone, have none. -/
def zone (t : Timestamp) : Option Int := t.clock.bind (·.zone)

/-- Whether two timestamps mean the same: the same day, the same time of day, or the same moment in
two zones. -/
def same (a b : Timestamp) : Bool :=
  a.clock.isSome == b.clock.isSome && a.zone.isSome == b.zone.isSome &&
    (a.localMicroseconds : Int) - 60000000 * a.zone.getD 0 ==
      (b.localMicroseconds : Int) - 60000000 * b.zone.getD 0

end Timestamp

end Yaml

end LibraryDescriptor
