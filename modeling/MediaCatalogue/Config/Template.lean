/-! The files that a user starts from: configurations of which every line is a comment. -/

namespace MediaCatalogue.Config.Template

/-- Turns a line into a comment; empty lines and comments stay as they are. -/
def comment (line : String) : String :=
  match line.toList with
  | [] => line
  | '#' :: _ => line
  | _ => "# " ++ line

/-- The lines of a file for one directory and those below it. -/
def localLines : List String :=
  ["# mcat configuration",
   "#",
   "# mcat looks for .mcat.toml in the working directory and every parent, then ~/.mcat.toml.",
   "# The closest file wins for each setting.",
   "",
   "# Stop looking in parent directories and ignore ~/.mcat.toml.",
   "root = false",
   "",
   "[settings]",
   "# Catalogue file, relative to this file.",
   "catalogue = \"catalogue.json\"",
   "",
   "[search]",
   "# Maximum results to print. 0 prints every match.",
   "limit = 0",
   "",
   "[output]",
   "# \"table\" or \"json\".",
   "format = \"table\""]

/-- The lines of the file in the home directory. -/
def globalLines : List String :=
  ["# mcat global configuration",
   "#",
   "# Settings here apply everywhere unless a closer .mcat.toml overrides them.",
   "",
   "[settings]",
   "# Catalogue used when no local configuration names one.",
   "catalogue = \"~/media/catalogue.json\"",
   "",
   "[search]",
   "limit = 0",
   "",
   "[output]",
   "format = \"table\""]

/-- The commented lines of one of the two files. -/
def lines (isGlobal : Bool) : List String :=
  (if isGlobal then globalLines else localLines).map comment

def text (isGlobal : Bool) : String := String.join ((lines isGlobal).map (· ++ "\n"))

end MediaCatalogue.Config.Template
