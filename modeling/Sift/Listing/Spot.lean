import Sift.Request.Check
import Sift.Text.Fields

/-!
# Listed spots

A row of the database becomes a spot. The codes of a spot are kept in five columns, each code with a
bar behind it. Counts that are empty are zero. A row without one of the columns is refused before
any value is checked.
-/

namespace Sift

/-- A row: values by column. -/
abbrev Row := List (String × Json)

/-- A spot of a listing. -/
structure Spot where
  messageId : String
  category : Int
  title : String
  poster : Option String
  tag : Option String
  stamp : Int
  fileSize : Int
  spotterId : Option String
  moderated : Bool
  commentCount : Int
  rating : Int
  reportCount : Int
  codes : List String
  downloadStamp : Option Int
  watchStamp : Option Int
  seenStamp : Option Int
  deriving DecidableEq, Repr

namespace Spot

/-- Why a row is no spot. -/
inductive Fault
  | missing (column : String)
  /-- A code column, given by its number, holds a value of another kind than a string. -/
  | notText (index : Nat) (kind : String)
  | invalid (violations : List Violation)
  deriving DecidableEq, Repr

/-- The message of a fault. Violations have none. -/
def Fault.message : Fault → String
  | .missing column => Text.quoted column
  | .notText index kind =>
    "sequence item " ++ toString index ++ ": expected str instance, " ++ kind ++ " found"
  | .invalid _ => ""

/-- The columns that are looked up before the codes. -/
def leadingColumns : List String :=
  ["messageid", "category", "title", "poster", "tag", "stamp", "filesize", "spotterid",
    "moderated", "commentcount", "spotrating", "reportcount"]

/-- The columns that are looked up behind the codes. -/
def trailingColumns : List String := ["downloadstamp", "watchstamp", "seenstamp"]

/-- The columns of the codes. -/
def codeColumns : List String := ["subcata", "subcatb", "subcatc", "subcatd", "subcatz"]

/-- The codes in the texts of columns, which are read as one text. -/
def codesOf (texts : List String) : List String :=
  (Text.split '|' (String.join texts)).filter (· != "")

/-- The text of the code column with a number. A column that is absent or empty has no codes. -/
def codeText (row : Row) (index : Nat) (column : String) : Except Fault String :=
  match row.lookup column with
  | some (.str s) => .ok s
  | some value => if value.isTrue then .error (.notText index value.kind) else .ok ""
  | none => .ok ""

def codesOfRow (row : Row) : Except Fault (List String) := do
  let texts ← codeColumns.zipIdx.mapM fun (column, index) => codeText row index column
  return codesOf texts

/-- A row has certain columns. -/
def demand (row : Row) (columns : List String) : Except Fault Unit :=
  match columns.find? fun column => (row.lookup column).isNone with
  | some column => .error (.missing column)
  | none => .ok ()

def column {α : Type} (row : Row) (name : String) (check : Json → Checked α) : Checked α :=
  (check ((row.lookup name).getD .null)).within (.field name)

/-- A count, zero when it is empty. -/
def count (value : Json) : Checked Int := if value.isTrue then Check.integer value else .valid 0

/-- The spot of a row whose codes are known. -/
def check (row : Row) (codes : List String) : Checked Spot :=
  Spot.mk <$> column row "messageid" Check.text <*> column row "category" Check.integer
    <*> column row "title" Check.text <*> column row "poster" (Check.nullable Check.text)
    <*> column row "tag" (Check.nullable Check.text) <*> column row "stamp" Check.integer
    <*> column row "filesize" count <*> column row "spotterid" (Check.nullable Check.text)
    <*> column row "moderated" (fun value => .valid value.isTrue)
    <*> column row "commentcount" count <*> column row "spotrating" count
    <*> column row "reportcount" count <*> .valid codes
    <*> column row "downloadstamp" (Check.nullable Check.integer)
    <*> column row "watchstamp" (Check.nullable Check.integer)
    <*> column row "seenstamp" (Check.nullable Check.integer)

def ofRow (row : Row) : Except Fault Spot := do
  demand row leadingColumns
  let codes ← codesOfRow row
  demand row trailingColumns
  (check row codes).toExcept.mapError .invalid

/-- A spot as an object. -/
def toJson (spot : Spot) : Json :=
  .obj [("messageid", .str spot.messageId), ("category", .int spot.category),
    ("title", .str spot.title), ("poster", .orNull .str spot.poster),
    ("tag", .orNull .str spot.tag), ("stamp", .int spot.stamp),
    ("filesize", .int spot.fileSize), ("spotterid", .orNull .str spot.spotterId),
    ("moderated", .bool spot.moderated), ("commentcount", .int spot.commentCount),
    ("spotrating", .int spot.rating), ("reportcount", .int spot.reportCount),
    ("subcategories", .texts spot.codes), ("downloadstamp", .orNull .int spot.downloadStamp),
    ("watchstamp", .orNull .int spot.watchStamp), ("seenstamp", .orNull .int spot.seenStamp)]

end Spot

end Sift
