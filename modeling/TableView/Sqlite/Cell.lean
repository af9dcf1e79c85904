import TableView.Json.Basic
import TableView.Sql.Param
import TableView.Text.Base64
import TableView.Text.Utf8

/-! Values in a SQLite row: how parameters are bound and cells are read. -/
namespace TableView.Sqlite

/-- Text is held as bytes, which need not be well-formed. -/
inductive Cell
  | null
  | integer (n : Int)
  | real (x : Float)
  | text (bytes : List UInt8)
  | blob (bytes : List UInt8)

namespace Cell

def ofString (s : String) : Cell := text s.toUTF8.toList

/-- There are no dates, decimals or truth values: they are bound as texts, doubles and 0 or 1. -/
def ofParam : Sql.Param → Cell
  | .text s => ofString s
  | .integer n => integer n
  | .float x => real x
  | .decimal d => real d.toFloat
  | .boolean b => integer (if b then 1 else 0)
  | .date d => ofString d.text
  | .timestamp t => ofString t.text
  | .null => null

/-- JSON has no infinities and no bytes: the first are null, the others in base 64. -/
def toJson : Cell → Json
  | null => .null
  | integer n => .int n
  | real x => if x.isFinite then .float x else .null
  | text bytes => .str (Text.decodeUtf8 bytes)
  | blob bytes => .str (Text.base64 bytes)

end Cell

/-- A row by column names; of equal names the last one wins. -/
def record (names : List String) (cells : List Cell) : Fields Json :=
  Fields.ofList (names.zip (cells.map Cell.toJson))

end TableView.Sqlite
