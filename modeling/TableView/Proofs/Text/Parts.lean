import TableView.Text.Blank

/-! Trimming and splitting only take characters away. -/
namespace TableView.Text

variable {p : Char → Bool} {cs part : List Char} {c : Char}

end TableView.Text
