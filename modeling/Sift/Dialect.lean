import Sift.Sorting
import Sift.Text.Case
import Sift.Text.Fields
import Sift.Text.Quoted

/-!
# SQL dialects

What a filter needs from the database: to escape a value, and to search the text of a column.
Postgres searches with `to_tsvector` and adds a relevance column to sort by; SQLite matches phrases
against a full-text table.
-/

namespace Sift

/-- A dialect of SQL. Postgres has a text search configuration. -/
inductive Dialect
  | postgres (config : String)
  | sqlite
  deriving DecidableEq, Repr

/-- The fragments that search one column: predicates, columns and sort keys. -/
structure TextQuery where
  predicates : List String
  extraColumns : List String
  sortKeys : List SortKey
  deriving DecidableEq, Repr

namespace Dialect

def name : Dialect → String
  | postgres _ => "postgres"
  | sqlite => "sqlite"

/-- The dialect with a name in any case, if there is one. -/
def ofName? (name : String) : Option Dialect :=
  match Text.lower name with
  | "postgres" | "postgresql" => some (postgres "simple")
  | "sqlite" => some sqlite
  | _ => none

def unknownMessage (name : String) : String := "Unknown SQL dialect: " ++ Text.quoted name

/-- The dialect with another text search configuration, where it has one. -/
def withConfig (config : String) : Dialect → Dialect
  | postgres _ => postgres config
  | sqlite => sqlite

/-- Writes a character twice and all others once. -/
def doubled (mark : Char) (cs : List Char) : List Char :=
  cs.flatMap fun c => if c = mark then [c, c] else [c]

/-- A value that may stand between single quotes: NUL is dropped and a single quote is doubled. -/
def escape (value : String) : String :=
  String.ofList (doubled '\'' (value.toList.filter (· != '\x00')))

/-- A text between single quotes. -/
def quote (escaped : String) : String := "'" ++ escaped ++ "'"

/-- The name of a column without its table. -/
def bareColumn (column : String) : String :=
  String.ofList ((Text.fields '.' column.toList).getLastD [])

/-- The vector of a column. -/
def textVector (config column : String) : String :=
  "to_tsvector('" ++ config ++ "', " ++ column ++ ")"

/-- The query for a value. -/
def textTerms (config value : String) : String :=
  "plainto_tsquery('" ++ config ++ "', " ++ quote (escape value) ++ ")"

def phrase (value : String) : String :=
  "\"" ++ String.ofList (doubled '"' value.toList) ++ "\""

/-- The fragments that search for values, each in its column. Postgres names the column of the
first. -/
def textQuery (dialect : Dialect) (searches : List (String × String)) : TextQuery :=
  match dialect, searches with
  | _, [] => ⟨[], [], []⟩
  | postgres config, (column, value) :: rest =>
    let vector := textVector config column
    let terms := (value :: rest.map Prod.snd).map (textTerms config)
    let ranks := terms.map fun term => "ts_rank(" ++ vector ++ ", " ++ term ++ ")"
    let relevance := "searchrelevancy_" ++ bareColumn column
    { predicates := terms.map fun term => vector ++ " @@ " ++ term
      extraColumns := ["(" ++ " + ".intercalate ranks ++ ") AS " ++ relevance]
      sortKeys := [⟨relevance, "DESC", true, some "searchrelevancy"⟩] }
  | sqlite, searches =>
    { predicates := searches.map fun (column, value) =>
        "idx_fts_spots." ++ bareColumn column ++ " MATCH " ++ quote (escape (phrase value))
      extraColumns := []
      sortKeys := [] }

end Dialect

end Sift
