import TableView.Column.Kind
import TableView.Text.Blank

/-! The kind of a column by its declared type. -/
namespace TableView.Sqlite

/-- Characters outside ASCII whose upper case holds letters of ASCII, with those letters; the mark
`?` stands for what is no such letter. -/
def expansions : List (Nat × List Char) := [
  (0xDF, ['S', 'S']), (0x131, ['I']), (0x149, ['?', 'N']), (0x17F, ['S']), (0x1F0, ['J', '?']),
  (0x1E96, ['H', '?']), (0x1E97, ['T', '?']), (0x1E98, ['W', '?']), (0x1E99, ['Y', '?']),
  (0x1E9A, ['A', '?']), (0xFB00, ['F', 'F']), (0xFB01, ['F', 'I']), (0xFB02, ['F', 'L']),
  (0xFB03, ['F', 'F', 'I']), (0xFB04, ['F', 'F', 'L']), (0xFB05, ['S', 'T']),
  (0xFB06, ['S', 'T'])]

/-- The upper case of a character, as far as it holds letters of ASCII. -/
def capitals (c : Char) : List Char :=
  match expansions.find? (·.1 = c.toNat) with
  | some (_, cs) => cs
  | none => [c.toUpper]

/-- Whether the word stands somewhere in the text. -/
def holds (word : List Char) : List Char → Bool
  | [] => word.isEmpty
  | c :: rest => word.isPrefixOf (c :: rest) || holds word rest

/-- The words that name a kind, the first one found decides. -/
def kindWords : List (String × ColumnKind) := [
  ("DATETIME", .datetime), ("TIMESTAMP", .datetime), ("DATE", .date), ("BOOL", .boolean),
  ("INT", .integer), ("DEC", .decimal), ("NUMERIC", .decimal), ("REAL", .decimal),
  ("FLOA", .decimal), ("DOUB", .decimal), ("TEXT", .text), ("CLOB", .text)]

/-- The kind by the words in a declared type, in any case; a string when there are none. -/
def kindOf (declared : String) : ColumnKind :=
  let declared := declared.toList.flatMap capitals
  match kindWords.find? fun e => holds e.1.toList declared with
  | some (_, kind) => kind
  | none => .string

end TableView.Sqlite
