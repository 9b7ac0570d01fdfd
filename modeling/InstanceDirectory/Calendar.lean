/-!
# Dates and timestamps

A timestamp is a civil date and time with an optional offset from universal time.  Its
interchange form is `2024-03-01T09:30:00+00:00`; the fraction is written when it is not
zero and the offset when there is one.
-/

namespace InstanceDirectory

/-- A civil date. -/
structure Date where
  /-- Year of the common era. -/
  year : Nat
  /-- Month, from one. -/
  month : Nat
  /-- Day of the month, from one. -/
  day : Nat
deriving DecidableEq, Inhabited

/-- A civil date and time of day. -/
structure Timestamp where
  /-- The civil date. -/
  date : Date
  /-- Hour of the day. -/
  hour : Nat
  /-- Minute of the hour. -/
  minute : Nat
  /-- Second of the minute. -/
  second : Nat
  /-- Microsecond of the second. -/
  microsecond : Nat
  /-- Microseconds by which local time is ahead of universal time, for an aware timestamp. -/
  offset : Option Int
deriving DecidableEq, Inhabited

namespace Calendar

/-- Exactly `width` decimal digits of a number. -/
def digits : Nat -> Nat -> List Char
  | 0, _ => []
  | width + 1, n => digits width (n / 10) ++ [Char.ofNat (48 + n % 10)]

/-- Read exactly `width` decimal digits. -/
def readDigits : Nat -> List Char -> Option (Nat × List Char)
  | width, text =>
      let taken := text.take width
      if taken.length = width ∧ taken.all Char.isDigit then
        some (taken.foldl (fun n c => 10 * n + (c.toNat - 48)) 0, text.drop width)
      else none

/-- Read one given character. -/
def readChar (c : Char) : List Char -> Option (List Char)
  | first :: rest => if first = c then some rest else none
  | [] => none

/-- Read a fraction of a second in microseconds; an absent one is zero. -/
def readFraction : List Char -> Option (Nat × List Char)
  | '.' :: rest => readDigits 6 rest
  | text => some (0, text)

/-- A fraction of a second, left out when it is zero. -/
def writeFraction (microseconds : Nat) : List Char :=
  if microseconds = 0 then [] else '.' :: digits 6 microseconds

end Calendar

namespace Date

open Calendar

/-- The interchange form of a date. -/
def chars (date : Date) : List Char :=
  digits 4 date.year ++ '-' :: digits 2 date.month ++ '-' :: digits 2 date.day

/-- Read a date and return what follows it. -/
def read (text : List Char) : Option (Date × List Char) := do
  let (year, text) ← readDigits 4 text
  let text ← readChar '-' text
  let (month, text) ← readDigits 2 text
  let text ← readChar '-' text
  let (day, text) ← readDigits 2 text
  return (⟨year, month, day⟩, text)

/-- The interchange text of a date. -/
def text (date : Date) : String :=
  String.ofList date.chars

/-- The date that a text denotes. -/
def parse? (text : String) : Option Date :=
  match read text.toList with
  | some (date, []) => some date
  | _ => none

end Date

namespace Timestamp

open Calendar

/-- Seconds and microseconds of an offset's text, present when one of them is not zero. -/
def offsetTail (seconds microseconds : Nat) : List Char :=
  if seconds = 0 ∧ microseconds = 0 then []
  else ':' :: digits 2 seconds ++ writeFraction microseconds

/-- The interchange form of an offset. -/
def offsetChars (offset : Int) : List Char :=
  let magnitude := offset.natAbs
  let seconds := magnitude / 1000000
  (if offset < 0 then '-' else '+') :: digits 2 (seconds / 3600)
    ++ ':' :: digits 2 (seconds / 60 % 60)
    ++ offsetTail (seconds % 60) (magnitude % 1000000)

/-- The interchange form of a timestamp. -/
def chars (timestamp : Timestamp) : List Char :=
  timestamp.date.chars ++ 'T' :: digits 2 timestamp.hour
    ++ ':' :: digits 2 timestamp.minute
    ++ ':' :: digits 2 timestamp.second
    ++ writeFraction timestamp.microsecond
    ++ (timestamp.offset.map offsetChars).getD []

/-- The interchange text of a timestamp. -/
def text (timestamp : Timestamp) : String :=
  String.ofList timestamp.chars

/-- Read the part of an offset after its minutes. -/
def readOffsetTail : List Char -> Option (Nat × List Char)
  | ':' :: rest => do
      let (seconds, rest) ← readDigits 2 rest
      let (microseconds, rest) ← readFraction rest
      return (1000000 * seconds + microseconds, rest)
  | text => some (0, text)

/-- Read an offset, which must end the text; an empty text has none. -/
def readOffset : List Char -> Option (Option Int)
  | [] => some none
  | sign :: rest =>
      if sign = '+' ∨ sign = '-' then do
        let (hours, rest) ← readDigits 2 rest
        let rest ← readChar ':' rest
        let (minutes, rest) ← readDigits 2 rest
        let (tail, rest) ← readOffsetTail rest
        let magnitude : Int := 1000000 * (3600 * hours + 60 * minutes) + tail
        if rest.isEmpty then some (some (if sign = '-' then -magnitude else magnitude)) else none
      else none

/-- The timestamp that a text denotes. -/
def parse? (text : String) : Option Timestamp := do
  let (date, rest) ← Date.read text.toList
  let rest ← readChar 'T' rest
  let (hour, rest) ← readDigits 2 rest
  let rest ← readChar ':' rest
  let (minute, rest) ← readDigits 2 rest
  let rest ← readChar ':' rest
  let (second, rest) ← readDigits 2 rest
  let (microsecond, rest) ← readFraction rest
  let offset ← readOffset rest
  return { date, hour, minute, second, microsecond, offset }

/-- A timestamp that knows its offset from universal time. -/
def isAware (timestamp : Timestamp) : Bool :=
  timestamp.offset.isSome

end Timestamp
end InstanceDirectory
