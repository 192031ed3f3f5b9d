/-! # Lines of text

* `line`, `lines` — texts with line ends.
* `padded` — a text filled up to a width.
-/

namespace ArchLint.Text

/-- A text with a line end. -/
def line (text : String) : String :=
  text ++ "\n"

/-- Texts with a line end each. -/
def lines (texts : List String) : String :=
  String.join (texts.map line)

/-- A text filled up with spaces to a width. -/
def padded (width : Nat) (text : String) : String :=
  text ++ String.ofList (List.replicate (width - text.length) ' ')

end ArchLint.Text
