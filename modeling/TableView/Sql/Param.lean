import TableView.Calendar.Text
import TableView.Decimal.Bounded
import TableView.Decimal.Layout

/-! Values bound to the markers of a statement. -/
namespace TableView.Sql

inductive Param
  | text (s : String)
  | integer (n : Int)
  | float (x : Float)
  | decimal (d : Decimal.Bounded)
  | boolean (b : Bool)
  | date (d : Date)
  | timestamp (t : Instant)
  | null
deriving DecidableEq

/-- Never an exponent and no point for whole numbers; a tie goes up. -/
def Param.floatLayout : Decimal.Layout where
  tie := .up
  plain := none
  keepPoint := false
  nan := "NaN"
  infinity := "inf"

/-- The value as it reads in a log, texts and times in quotes. -/
def Param.display : Param → String
  | text s => "'" ++ s ++ "'"
  | integer n => toString n
  | float x => floatLayout.text x
  | decimal d => d.text
  | boolean b => if b then "true" else "false"
  | date d => "'" ++ d.text ++ "'"
  | timestamp t => "'" ++ t.text ++ "'"
  | null => "NULL"

end TableView.Sql
