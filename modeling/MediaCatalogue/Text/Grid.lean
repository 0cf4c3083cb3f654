import MediaCatalogue.Text.Columns

/-! Tables of text in frames. -/

namespace MediaCatalogue

/-- The lines of a cell. -/
abbrev Cell := List (List Char)

structure Grid where
  header : List String
  rows : List (List String)

namespace Grid

def linesOf : List Char → Cell
  | [] => [[]]
  | c :: cs =>
    match linesOf cs with
    | [] => [[c]]
    | line :: lines => if c = '\n' then [] :: line :: lines else (c :: line) :: lines

def cellOf (s : String) : Cell := linesOf s.toList

/-- The columns that the widest line of a cell fills. -/
def cellColumns (cell : Cell) : Nat := (cell.map columns).foldl max 0

/-- The larger of the widths at every place. -/
def widen : List Nat → List Cell → List Nat
  | ws, [] => ws
  | [], cell :: cells => cellColumns cell :: widen [] cells
  | w :: ws, cell :: cells => max w (cellColumns cell) :: widen ws cells

/-- Fills a line up to a width, with a space on either side. -/
def padded (width : Nat) (line : List Char) : List Char :=
  ' ' :: (line ++ List.replicate (width - columns line) ' ' ++ [' '])

/-- A line between columns of text. -/
def ruled (left fill cross right : Char) (widths : List Nat) : List Char :=
  left :: (List.intercalate [cross] (widths.map fun w => List.replicate (w + 2) fill) ++ [right])

/-- The line with number `i` of every cell of a row. -/
def lineAt (widths : List Nat) (cells : List Cell) (i : Nat) : List Char :=
  '│' :: (List.intercalate ['┆'] (List.zipWith (fun w cell => padded w (cell.getD i [])) widths cells)
    ++ ['│'])

/-- The lines of a row, as many as its longest cell has. -/
def rowLines (widths : List Nat) (cells : List Cell) : List (List Char) :=
  (List.range ((cells.map List.length).foldl max 0)).map (lineAt widths cells)

def lines (g : Grid) : List (List Char) :=
  let header := g.header.map cellOf
  let rows := g.rows.map (·.map cellOf)
  let widths := (header :: rows).foldl widen []
  ruled '┌' '─' '┬' '┐' widths :: (rowLines widths header ++
    ruled '╞' '═' '╪' '╡' widths :: (rows.flatMap (rowLines widths) ++
      [ruled '└' '─' '┴' '┘' widths]))

def display (g : Grid) : String := String.ofList (List.intercalate ['\n'] g.lines)

end Grid

end MediaCatalogue
