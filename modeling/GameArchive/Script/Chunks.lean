import GameArchive.Text.Basic

/-!
# Chunks

The source of a script as one chunk per character. A write puts its text into the first chunk of a
range and empties the others, so positions never shift and whoever reads an enclosing range sees the
edit.
-/

namespace GameArchive

abbrev Chunks := List Text

namespace Chunks

def ofText (source : Text) : Chunks := source.map ([·])

/-- The text of the chunks from `start` up to `stop`; positions past the end hold nothing. -/
def read (chunks : Chunks) (start stop : Nat) : Text :=
  ((chunks.drop start).take (stop - start)).flatten

/-- The whole text. -/
def render (chunks : Chunks) : Text := chunks.flatten

/-- Puts the text before the chunk at a position, or after all of them. -/
def insert (chunks : Chunks) (position : Nat) (text : Text) : Chunks :=
  if position < chunks.length then chunks.modify position (text ++ ·) else chunks ++ [text]

/-- Empties `count` chunks from a position on. -/
def clear : Chunks → (position count : Nat) → Chunks
  | chunks, _, 0 => chunks
  | [], _, _ + 1 => []
  | chunk :: chunks, position + 1, count => chunk :: clear chunks position count
  | _ :: chunks, 0, count + 1 => [] :: clear chunks 0 count

/-- The chunks after a write, and whether the range lay within them. A range without length inserts
before its position. A range that reaches past the end is written as far as there are chunks. -/
def write (chunks : Chunks) (start stop : Nat) (text : Text) : Chunks × Bool :=
  if stop ≤ start then (insert chunks start text, true)
  else
    (clear (chunks.set start text) (start + 1) (stop - start - 1), decide (stop ≤ chunks.length))

end Chunks
end GameArchive
