import TableView.Calendar.Instant
import TableView.Text.Blank
import TableView.Text.Integer

/-! Written forms of dates and instants, and reading them back. -/
namespace TableView

/-- A number in decimal with zeros in front up to a width. -/
def padded (width n : Nat) : List Char :=
  let ds := Nat.toDigits 10 n
  List.replicate (width - ds.length) '0' ++ ds

/-- At least one and at most so many digits, with what follows them. -/
def readDigits? (most : Nat) (cs : List Char) : Option (Nat × List Char) :=
  let ds := (cs.take most).takeWhile Char.isDigit
  (Text.nat? ds).map fun n => (n, cs.drop ds.length)

/-- One or two digits after any blanks. -/
def readNumber? (cs : List Char) : Option (Nat × List Char) :=
  readDigits? 2 (cs.dropWhile Text.isBlank)

/-- What follows the character at the start of a text. -/
def skip? (c : Char) : List Char → Option (List Char)
  | d :: rest => if c = d then some rest else none
  | [] => none

namespace Date

/-- At least four digits, after a sign when the year is negative or has more. -/
def yearText (year : Int) : List Char :=
  let digits := padded 4 year.natAbs
  if year < 0 then '-' :: digits else if 9999 < year then '+' :: digits else digits

def chars (d : Date) : List Char :=
  yearText d.year ++ '-' :: padded 2 d.month ++ '-' :: padded 2 d.day

def text (d : Date) : String := String.ofList d.chars

/-- A year: up to four digits, or a sign and any number of them. -/
def readYear? (cs : List Char) : Option (Int × List Char) :=
  match cs.dropWhile Text.isBlank with
  | '-' :: rest => (readDigits? rest.length rest).map fun (n, rest) => (-n, rest)
  | '+' :: rest => (readDigits? rest.length rest).map fun (n, rest) => (n, rest)
  | cs => (readDigits? 4 cs).map fun (n, rest) => (n, rest)

/-- The date at the start of a text, with what follows it. -/
def readFirst? (cs : List Char) : Option (Date × List Char) := do
  let (year, rest) ← readYear? cs
  let (month, rest) ← readNumber? (← skip? '-' rest)
  let (day, rest) ← readNumber? (← skip? '-' rest)
  return (← ofParts? year month day, rest)

def read? (cs : List Char) : Option Date := do
  match ← readFirst? cs with
  | (date, []) => some date
  | _ => none

end Date

namespace Instant

def clockChars (t : Instant) : List Char :=
  padded 2 t.hour ++ ':' :: padded 2 t.minute ++ ':' :: padded 2 t.second

/-- Nothing for a whole second, else three, six or nine digits, the fewest that hold it. -/
def fraction (nanos : Nat) : List Char :=
  if nanos = 0 then []
  else if nanos % 1000000 = 0 then '.' :: padded 3 (nanos / 1000000)
  else if nanos % 1000 = 0 then '.' :: padded 6 (nanos / 1000)
  else '.' :: padded 9 nanos

def chars (t : Instant) : List Char := t.date.chars ++ ' ' :: t.clockChars ++ fraction t.nanos

/-- Date and clock with a blank between, the fraction as long as needed. -/
def text (t : Instant) : String := String.ofList t.chars

/-- Date and clock with a `T` between, cut to milliseconds. -/
def milliText (t : Instant) : String :=
  String.ofList (t.date.chars ++ 'T' :: t.clockChars ++ '.' :: padded 3 (t.nanos / 1000000))

/-- Reads a fraction as nanoseconds; digits after the ninth are passed over. -/
def readFraction? : List Char → Option Nat
  | [] => some 0
  | '.' :: ds =>
    let kept := ds.take 9
    if ds.all Char.isDigit then
      (Text.nat? kept).map fun n => n * Nat.pow 10 (9 - kept.length)
    else none
  | _ => none

/-- Reads an instant; there may be any blanks between date and clock. -/
def read? (cs : List Char) : Option Instant := do
  let (date, rest) ← Date.readFirst? cs
  let (hour, rest) ← readNumber? rest
  let (minute, rest) ← readNumber? (← skip? ':' rest)
  let (second, rest) ← readNumber? (← skip? ':' rest)
  ofParts? date hour minute second (← readFraction? rest)

end Instant
end TableView
