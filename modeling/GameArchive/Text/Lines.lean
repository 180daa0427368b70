import GameArchive.Text.Class

/-!
# Lines

Two ways to cut a text into lines. `lines` cuts at every line end and loses it, as a reader of
statements needs; `breaks` cuts at line feeds alone and joins back to the whole text.
-/

namespace GameArchive
namespace Text

/-- Lines without their ends; `line` holds the beginning of the current one, last character first.
A text that ends with a line end has no further, empty line. -/
def linesAux : Text → Text → List Text
  | line, [] => if line.isEmpty then [] else [line.reverse]
  | line, c :: rest =>
    if c = '\r' then
      match rest with
      | d :: rest' => if d = '\n' then line.reverse :: linesAux [] rest'
                      else line.reverse :: linesAux [] (d :: rest')
      | [] => [line.reverse]
    else if c.isLineEnd then line.reverse :: linesAux [] rest
    else linesAux (c :: line) rest

/-- The lines of a text, without their ends. -/
def lines (t : Text) : List Text := linesAux [] t

/-- The pieces between line feeds. -/
def breaks (t : Text) : List Text := split '\n' t

/-- Carriage returns, alone or before a line feed, become line feeds. -/
def unifyNewlines : Text → Text
  | [] => []
  | c :: rest =>
    if c = '\r' then
      match rest with
      | d :: rest' => if d = '\n' then CodePoint.ofChar '\n' :: unifyNewlines rest'
                      else CodePoint.ofChar '\n' :: unifyNewlines (d :: rest')
      | [] => [CodePoint.ofChar '\n']
    else c :: unifyNewlines rest

end Text
end GameArchive
