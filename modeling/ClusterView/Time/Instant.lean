import ClusterView.Json.Codec
import ClusterView.Text.Whitespace
import ClusterView.Time.Calendar

/-!
# Points in time

Manifests write a point in time as a date, a time of day and a zone, such as
`2024-05-01T10:00:00+02:00`. Leading zeros may be missing, years of more than four digits have a
sign, and white space may stand before the parts and at the end, though not before a fraction.
Fractions of a second are dropped, which rounds towards the past. The sixtieth second of a minute is
read as the fifty-ninth, and remembered as inserted after it.
-/

namespace ClusterView

/-- A point in time, to the whole second. -/
structure Instant where
  /-- Seconds since the beginning of 1970, in universal time. -/
  seconds : Int
  /-- Whether it is the leap second that follows the second. -/
  leap : Bool := false
deriving DecidableEq

namespace Instant

/-- The least year of points in time. -/
def minYear : Int := -262143

/-- The greatest year of points in time. -/
def maxYear : Int := 262142

/-! ## Reading -/

/-- Reads a part of a text, from its begin on. -/
abbrev Reader := StateT (List Char) Option

namespace Reader

/-- Skips white space. -/
def skipSpace : Reader Unit := modify fun s => s.dropWhile Text.isWhitespace

/-- Reads one of some characters. -/
def oneOf (cs : List Char) : Reader Char := do
  match ← get with
  | c :: rest => do
    guard (cs.contains c)
    set rest
    return c
  | [] => failure

/-- Reads a number of at most so many digits, and of at least one. -/
def number (most : Nat) : Reader Nat := do
  let s ← get
  let digits := (s.takeWhile Char.isDigit).take most
  guard !digits.isEmpty
  set (s.drop digits.length)
  return digits.foldl (fun n c => 10 * n + (c.toNat - 48)) 0

/-- Reads a number of any length. -/
def longNumber : Reader Nat := do number (← get).length

/-- Reads a year: up to four digits, or more behind a sign. -/
def year : Reader Int := do
  match ← get with
  | '-' :: rest => do
    set rest
    return -(← longNumber)
  | '+' :: rest => do
    set rest
    return (← longNumber)
  | _ => return (← number 4)

/-- Reads a number of up to two digits behind a mark. -/
def numberAfter (mark : Char) : Reader Nat := do
  skipSpace
  let _ ← oneOf [mark]
  skipSpace
  number 2

/-- Reads a date, and gives its day number. -/
def day : Reader Int := do
  skipSpace
  let year ← year
  let month ← numberAfter '-'
  let day ← numberAfter '-'
  guard (minYear ≤ year ∧ year ≤ maxYear ∧ Calendar.isDate year month day)
  return Calendar.dayNumber year month day

/-- Reads a time of day, as the seconds since midnight and whether a leap second follows them. -/
def timeOfDay : Reader (Nat × Bool) := do
  skipSpace
  let hour ← number 2
  let minute ← numberAfter ':'
  let second ← numberAfter ':'
  guard (hour ≤ 23 ∧ minute ≤ 59 ∧ second ≤ 60)
  return ((hour * 60 + minute) * 60 + min second 59, second = 60)

/-- Skips the fraction of a second, if there is one. -/
def skipFraction : Reader Unit := do
  match ← get with
  | '.' :: rest => do
    set rest
    let _ ← longNumber
  | _ => return

/-- Reads two digits. -/
def twoDigits : Reader Nat := do
  guard (((← get).take 2).all Char.isDigit && 2 ≤ (← get).length)
  number 2

/-- Reads a distance from universal time, in seconds: a sign, hours and minutes, between which
colons and white space may stand. -/
def distance : Reader Int := do
  let sign ← oneOf ['+', '-', '\u2212']
  let hours ← twoDigits
  modify fun s => s.dropWhile fun c => c = ':' || Text.isWhitespace c
  let minutes ← twoDigits
  guard (hours ≤ 23 ∧ minutes ≤ 59)
  let ahead : Int := (60 * hours + minutes) * 60
  return if sign = '+' then ahead else -ahead

/-- Reads a zone, and gives the seconds by which it is ahead of universal time. -/
def zone : Reader Int := do
  skipSpace
  let s ← get
  if (s.take 3).map Char.toUpper = ['U', 'T', 'C'] then
    set (s.drop 3)
    return 0
  match s with
  | 'Z' :: rest | 'z' :: rest => do
    set rest
    return 0
  | _ => distance

/-- Reads a point in time. -/
def instant : Reader Instant := do
  let day ← day
  let _ ← oneOf ['T', 't', ' ']
  let (ofDay, leap) ← timeOfDay
  skipFraction
  let ahead ← zone
  return ⟨day * 86400 + ofDay - ahead, leap⟩

end Reader

/-- Whether a point in time lies in the years that there are, in universal time. -/
def isInRange (t : Instant) : Bool :=
  let day := t.seconds / 86400
  Calendar.dayNumber minYear 1 1 ≤ day && day ≤ Calendar.dayNumber maxYear 12 31

/-- The point in time that a text stands for. -/
def ofText? (s : String) : Option Instant := do
  let (t, rest) ← Reader.instant.run s.toList
  guard (t.isInRange && rest.all Text.isWhitespace)
  some t

/-! ## Writing -/

/-- A number with zeros in front of it up to a number of digits. -/
def padded (width n : Nat) : String :=
  let digits := n.repr
  String.ofList (List.replicate (width - digits.length) '0') ++ digits

/-- A year as at least four digits, with a sign outside the years 0 to 9999. -/
def yearText (year : Int) : String :=
  if year < 0 then "-" ++ padded 4 year.natAbs
  else if year > 9999 then "+" ++ year.natAbs.repr
  else padded 4 year.natAbs

/-- The text of the point in time in universal time. -/
def text (t : Instant) : String :=
  let (year, month, day) := Calendar.dateOf (t.seconds / 86400)
  let ofDay := (t.seconds % 86400).toNat
  let second := ofDay % 60 + if t.leap then 1 else 0
  yearText year ++ "-" ++ padded 2 month ++ "-" ++ padded 2 day ++ "T" ++ padded 2 (ofDay / 3600) ++
    ":" ++ padded 2 (ofDay / 60 % 60) ++ ":" ++ padded 2 second ++ "Z"

end Instant

instance : JsonDecode Instant where
  decode?
    | .string s => Instant.ofText? s
    | _ => none

instance : JsonEncode Instant := ⟨fun t => .string t.text⟩

end ClusterView
