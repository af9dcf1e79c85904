import TableView.Store.Basic

/-! Backends that answer from prepared lists, one entry for each call of a kind. -/
namespace TableView

/-- The answers that are left are used up in order; after them the default is given. -/
structure Script (α : Type) where
  answers : List (Except Error α) := []
  default : α

/-- The answer to a call that so many calls of its kind went before. -/
def Script.answer {α : Type} (s : Script α) (earlier : Nat) : Except Error α :=
  s.answers.getD earlier (.ok s.default)

def Call.isPluckIds : Call → Bool
  | pluckIds _ => true
  | _ => false

def Call.isSelect : Call → Bool
  | select _ => true
  | _ => false

def Call.isSize : Call → Bool
  | size _ => true
  | _ => false

def Call.isCount : Call → Bool
  | count _ => true
  | _ => false

def Call.isSearch : Call → Bool
  | search _ => true
  | _ => false

structure ScriptedStore where
  capabilities : Sql.Capabilities := .preset .postgres
  deobfuscate : String → String := id
  associations : Fields (Fields Association) := []
  columns : Fields (Except Error (List (String × ColumnKind))) := []
  ids : Script (List Int) := { default := [] }
  rows : Script (List Record) := { default := [] }
  sizes : Script RelationSize := { default := .exact 0 }
  counts : Script Nat := { default := 0 }

/-- Tables without a schema have no columns and no associations. -/
def ScriptedStore.store (s : ScriptedStore) : RecordStore where
  association table name := (s.associations.get? table).bind (·.get? name)
  columns _ table := (s.columns.get? table).getD (.ok [])
  pluckIds history _ := s.ids.answer (history.countP (·.isPluckIds))
  capabilities := s.capabilities
  deobfuscate := s.deobfuscate
  select history _ := s.rows.answer (history.countP (·.isSelect))
  size history _ := s.sizes.answer (history.countP (·.isSize))
  count history _ := s.counts.answer (history.countP (·.isCount))

structure ScriptedIndex where
  responses : Script Json
  searchFields : Fields String := []

def ScriptedIndex.index (i : ScriptedIndex) : SearchIndex where
  search history _ := i.responses.answer (history.countP (·.isSearch))
  searchField field := i.searchFields.get? field

end TableView
