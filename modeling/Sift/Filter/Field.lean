/-!
# Filter fields and operators

Every field of a filter is a column that is compared, a column whose text is searched, or a list of
spots that the user keeps.
-/

namespace Sift

/-- A column that is compared. -/
inductive PlainField
  | fileSize
  | date
  | stamp
  | userId
  | spotterId
  | moderated
  | reportCount
  | commentCount
  deriving DecidableEq, Repr

/-- A column whose text is searched. -/
inductive TextField
  | poster
  | title
  | tag
  deriving DecidableEq, Repr

inductive SpotList
  | new
  | downloaded
  | watch
  | seen
  | myPosted
  | whitelisted
  deriving DecidableEq, Repr

/-- A field of a filter. -/
inductive Field
  | plain (field : PlainField)
  | text (field : TextField)
  | list (list : SpotList)
  deriving DecidableEq, Repr

namespace Field

/-- The field with a name in lower case. -/
def ofName? (name : String) : Option Field :=
  match name with
  | "filesize" => some (plain .fileSize)
  | "date" => some (plain .date)
  | "stamp" => some (plain .stamp)
  | "userid" => some (plain .userId)
  | "spotterid" => some (plain .spotterId)
  | "moderated" => some (plain .moderated)
  | "reportcount" => some (plain .reportCount)
  | "commentcount" => some (plain .commentCount)
  | "poster" => some (text .poster)
  | "titel" => some (text .title)
  | "tag" => some (text .tag)
  | "new" => some (list .new)
  | "downloaded" => some (list .downloaded)
  | "watch" => some (list .watch)
  | "seen" => some (list .seen)
  | "mypostedspots" => some (list .myPosted)
  | "whitelistedspotters" => some (list .whitelisted)
  | _ => none

end Field

namespace PlainField

def column : PlainField → String
  | fileSize => "s.filesize"
  | date => "s.stamp"
  | stamp => "s.stamp"
  | userId => "s.spotterid"
  | spotterId => "s.spotterid"
  | moderated => "s.moderated"
  | reportCount => "s.reportcount"
  | commentCount => "s.commentcount"

/-- Filters on the field are alternatives to each other. -/
def isAlternative : PlainField → Bool
  | userId => true
  | spotterId => true
  | _ => false

end PlainField

namespace TextField

def column : TextField → String
  | poster => "s.poster"
  | title => "s.title"
  | tag => "s.tag"

/-- Any of the terms may match. In other fields every term has to. -/
def matchesAny : TextField → Bool
  | title => false
  | _ => true

end TextField

/-- The operators of comparisons. -/
def operators : List String := [">", "<", ">=", "<=", "=", "!="]

end Sift
