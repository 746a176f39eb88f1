import BackendPlan.Text.Basic

/-!
# Time — points in time, written and read

Dates are those of the Gregorian calendar, extended to all years from 262143 before year zero to
262142 after it.  A `Date` is always a day that exists; the day after and the day before one are the
only arithmetic that moving a time between zones needs.  A `Timestamp` is a day and a time of day in
UTC, to the nanosecond; a second numbered 60 is a leap second.

* `Timestamp.text` — the form of RFC 3339 with a `Z`, and with the fewest of 0, 3, 6 or 9 decimals
  of a second that are exact.
* `Timestamp.ofText?` — the same form read with some freedom: white space may stand around the parts
  of the date and of the time, a blank or a `t` may stand for the `T`, `UTC` for the `Z`, and a year
  with a sign may have any number of digits.

Parts are read from the front, and the first that fails decides the refusal: the text ends too soon,
has a character that does not belong there, or names a number out of range.  That the day exists is
settled after the last character.
-/

namespace BackendPlan

/-! ## Days -/

def isLeapYear (year : Int) : Bool := year % 4 == 0 && (year % 100 != 0 || year % 400 == 0)

/-- The number of days of a month; `0` for a number that is no month, so that no day of it
exists. -/
def daysInMonth (year : Int) (month : Nat) : Nat :=
  match month with
  | 2 => if isLeapYear year then 29 else 28
  | 4 | 6 | 9 | 11 => 30
  | 1 | 3 | 5 | 7 | 8 | 10 | 12 => 31
  | _ => 0

/-- **A day of the calendar**: the numbers come with the proof that there is such a day. -/
structure Date where
  year : Int
  month : Nat
  day : Nat
  year_mem : -262143 ≤ year ∧ year ≤ 262142
  day_mem : 1 ≤ day ∧ day ≤ daysInMonth year month
deriving DecidableEq, Repr

namespace Date

def ofParts? (year : Int) (month day : Nat) : Option Date :=
  if hy : -262143 ≤ year ∧ year ≤ 262142 then
    if hd : 1 ≤ day ∧ day ≤ daysInMonth year month then some ⟨year, month, day, hy, hd⟩ else none
  else none

@[simp] theorem ofParts?_self (d : Date) : ofParts? d.year d.month d.day = some d := by
  simp only [ofParts?, d.year_mem, d.day_mem, and_self, dite_true]

/-- The day after; `none` for the last one there is. -/
def next? (d : Date) : Option Date :=
  if d.day < daysInMonth d.year d.month then ofParts? d.year d.month (d.day + 1)
  else if d.month < 12 then ofParts? d.year (d.month + 1) 1
  else ofParts? (d.year + 1) 1 1

/-- The day before; `none` for the first one there is. -/
def previous? (d : Date) : Option Date :=
  if 1 < d.day then ofParts? d.year d.month (d.day - 1)
  else if 1 < d.month then ofParts? d.year (d.month - 1) (daysInMonth d.year (d.month - 1))
  else ofParts? (d.year - 1) 12 31

end Date

/-! ## Points in time -/

/-- **A point in time**, in UTC: a second numbered 60 is a leap second. -/
structure Timestamp where
  date : Date
  hour : Fin 24
  minute : Fin 60
  second : Fin 61
  nanosecond : Fin 1000000000
deriving DecidableEq, Repr

namespace Timestamp

/-! ## Writing -/

/-- The last `width` decimal digits of `n`, zeros in front. -/
def padded : Nat → Nat → List Char
  | 0, _ => []
  | width + 1, n => padded width (n / 10) ++ [Nat.digitChar (n % 10)]

/-- A year in four digits — outside of 0 to 9999 it also has a sign, and may have more. -/
def yearChars (year : Int) : List Char :=
  if 0 ≤ year ∧ year ≤ 9999 then padded 4 year.natAbs
  else
    let digits := Nat.toDigits 10 year.natAbs
    (if year < 0 then '-' else '+') :: (List.replicate (4 - digits.length) '0' ++ digits)

/-- The decimals of a second: the fewest of 0, 3, 6 and 9 that are exact. -/
def fractionChars (nanosecond : Nat) : List Char :=
  if nanosecond = 0 then []
  else if nanosecond % 1000000 = 0 then '.' :: padded 3 (nanosecond / 1000000)
  else if nanosecond % 1000 = 0 then '.' :: padded 6 (nanosecond / 1000)
  else '.' :: padded 9 nanosecond

def chars (t : Timestamp) : List Char :=
  yearChars t.date.year ++ '-' :: (padded 2 t.date.month ++ '-' :: (padded 2 t.date.day ++
    'T' :: (padded 2 t.hour ++ ':' :: (padded 2 t.minute ++ ':' :: (padded 2 t.second ++
      (fractionChars t.nanosecond ++ ['Z']))))))

/-- **The written form** — RFC 3339 with a `Z`, so one point in time is written in one way. -/
def text (t : Timestamp) : String := String.ofList t.chars

/-! ## Moving to UTC

An offset is less than a day, so the day changes by one at most. -/

/-- The day `days` after `date`, for `days` among `-1`, `0` and `1`. -/
def shiftDay? (date : Date) (days : Int) : Option Date :=
  if days < 0 then date.previous? else if 0 < days then date.next? else some date

/-- **The timestamp of a local time** that is `offset` minutes ahead of UTC — `none` beyond the ends
of the calendar. -/
def ofLocal? (t : Timestamp) (offset : Int) : Option Timestamp :=
  let minutes : Int := 60 * (t.hour.val : Int) + t.minute.val - offset
  let minuteOfDay := (minutes % 1440).toNat
  have h : minuteOfDay < 1440 := by omega
  (shiftDay? t.date (minutes / 1440)).map fun date =>
    { t with
      date := date
      hour := ⟨minuteOfDay / 60, by omega⟩
      minute := ⟨minuteOfDay % 60, by omega⟩ }

end Timestamp

/-! ## Reading -/

namespace Timestamp

/-- **Why a text is no timestamp.** -/
inductive Error where
  | outOfRange
  | impossible
  | invalid
  | tooShort
  | tooLong
deriving DecidableEq, Repr

def Error.message : Error → String
  | outOfRange => "input is out of range"
  | impossible => "no possible date and time matching input"
  | invalid => "input contains invalid characters"
  | tooShort => "premature end of input"
  | tooLong => "trailing input"

/-- **A reader of parts**: it takes what it needs off the characters still to come, or refuses for
good. -/
abbrev Reader := StateT (List Char) (Except Error)

namespace Reader

/-! ## Parts -/

def skipBlanks : Reader Unit := modify Text.trimStart

/-- The digits in front, at most `limit` of them and at least one. -/
def digits (limit : Nat) : Reader (List Char) := do
  match ← get with
  | [] => throw .tooShort
  | c :: cs =>
    if c.isDigit then
      let ds := ((c :: cs).take limit).takeWhile Char.isDigit
      set ((c :: cs).drop ds.length)
      return ds
    else throw .invalid

/-- The number of the `digits` in front. -/
def number (limit : Nat) : Reader Nat := do
  let ds ← digits limit
  return Nat.ofDigitChars 10 ds 0

/-- A number of one or two digits within bounds, white space before it skipped. -/
def bounded (low high : Nat) : Reader Nat := do
  skipBlanks
  let n ← number 2
  if low ≤ n ∧ n ≤ high then return n else throw .outOfRange

def exactly (c : Char) : Reader Unit := do
  match ← get with
  | [] => throw .tooShort
  | d :: rest => if d = c then set rest else throw .invalid

/-- White space, then exactly the given character. -/
def mark (c : Char) : Reader Unit := do
  skipBlanks
  exactly c

/-- A year — four digits at most, or a sign and any number of them, so that no unsigned year runs
into the month. -/
def year : Reader Int := do
  skipBlanks
  match ← get with
  | '-' :: rest => do
    set rest
    let n ← number rest.length
    if n ≤ 0x80000000 then return -(n : Int) else throw .outOfRange
  | '+' :: rest => do
    set rest
    let n ← number rest.length
    if n < 0x80000000 then return (n : Int) else throw .outOfRange
  | _ => do
    let n ← number 4
    return (n : Int)

/-- The character between date and time: `T`, `t` or a blank. -/
def separator : Reader Unit := do
  match ← get with
  | [] => throw .tooShort
  | c :: rest => if c = 'T' ∨ c = 't' ∨ c = ' ' then set rest else throw .invalid

/-- The decimals of a second — those after the ninth are dropped, not rounded. -/
def fraction : Reader Nat := do
  match ← get with
  | '.' :: rest => do
    set rest
    let ds ← digits 9
    modify (·.dropWhile Char.isDigit)
    return Nat.ofDigitChars 10 ds 0 * Nat.pow 10 (9 - ds.length)
  | _ => return 0

/-! ## The offset from UTC -/

/-- Two digits of an offset — one character of several bytes is a wrong character, one of a single
byte an end that comes too soon. -/
def twoCharacters : Reader (Char × Char) := do
  match ← get with
  | c :: d :: rest => do
    set rest
    return (c, d)
  | [c] => if c.utf8Size = 1 then throw .tooShort else throw .invalid
  | [] => throw .tooShort

def offsetHours : Reader Nat := do
  let (c, d) ← twoCharacters
  if c.isDigit ∧ d.isDigit then return Nat.ofDigitChars 10 [c, d] 0 else throw .invalid

def offsetMinutes : Reader Nat := do
  let (c, d) ← twoCharacters
  if c.isDigit ∧ d.isDigit then
    if Nat.ofDigitChars 10 [c, d] 0 < 60 then return Nat.ofDigitChars 10 [c, d] 0
    else throw .outOfRange
  else throw .invalid

/-- Hours and minutes of an offset, in minutes; colons and white space may stand between. -/
def offsetDistance : Reader Nat := do
  let hours ← offsetHours
  modify (·.dropWhile fun c => c == ':' || Text.isBlank c)
  let minutes ← offsetMinutes
  return 60 * hours + minutes

def offset : Reader Int := do
  match ← get with
  | 'Z' :: rest | 'z' :: rest => do
    set rest
    return 0
  | '+' :: rest => do
    set rest
    return (← offsetDistance : Nat)
  | '-' :: rest | '\u2212' :: rest => do
    set rest
    return -((← offsetDistance : Nat) : Int)
  | _ :: _ => throw .invalid
  | [] => throw .tooShort

/-- The zone: `UTC` in any case, or an `offset`, of which `Z` is one. -/
def zone : Reader Int := do
  skipBlanks
  let cs ← get
  if (cs.take 3).map Char.toUpper = ['U', 'T', 'C'] then
    set (cs.drop 3)
    return 0
  else offset

/-! ## The whole -/

/-- **A local time as read**, with its offset from UTC in minutes — nothing is known yet of the
day. -/
structure Local where
  year : Int
  month : Nat
  day : Nat
  hour : Nat
  minute : Nat
  second : Nat
  nanosecond : Nat
  offset : Int

/-- All parts in order, from the year to the zone. -/
def parts : Reader Local := do
  let year ← year
  mark '-'
  let month ← bounded 1 12
  mark '-'
  let day ← bounded 1 31
  separator
  let hour ← bounded 0 23
  mark ':'
  let minute ← bounded 0 59
  mark ':'
  let second ← bounded 0 60
  let nanosecond ← fraction
  let offset ← zone
  skipBlanks
  if (← get).isEmpty then return ⟨year, month, day, hour, minute, second, nanosecond, offset⟩
  else throw .tooLong

end Reader

/-- The timestamp of a local time — that its day exists is settled here, after the last
character. -/
def ofParts (l : Reader.Local) : Except Error Timestamp :=
  match Date.ofParts? l.year l.month l.day with
  | none => .error .outOfRange
  | some date =>
    if h : l.hour < 24 ∧ l.minute < 60 ∧ l.second < 61 ∧ l.nanosecond < 1000000000 then
      if -1440 < l.offset ∧ l.offset < 1440 then
        match ofLocal? ⟨date, ⟨l.hour, h.1⟩, ⟨l.minute, h.2.1⟩, ⟨l.second, h.2.2.1⟩,
            ⟨l.nanosecond, h.2.2.2⟩⟩ l.offset with
        | some t => .ok t
        | none => .error .impossible
      else .error .outOfRange
    else .error .outOfRange

/-- **Read a timestamp** — all of the text has to be used up. -/
def ofText? (s : String) : Except Error Timestamp :=
  match Reader.parts.run s.toList with
  | .ok (l, _) => ofParts l
  | .error e => .error e

end Timestamp

end BackendPlan
