import Sift.Descriptor

/-!
# Listing queries

The SQL statements that list and count the spots of a filter. The user is the parameter `$1` of
both; `$2` and `$3` are the size of a page and the number of spots before it.
-/

namespace Sift.Listing

/-- The columns of a listed spot. -/
def columns : List String :=
  ["s.messageid", "s.category", "s.title", "s.poster", "s.tag", "s.stamp", "s.filesize",
    "s.spotterid", "s.moderated", "s.commentcount", "s.spotrating", "s.reportcount", "s.subcata",
    "s.subcatb", "s.subcatc", "s.subcatd", "s.subcatz", "l.download AS downloadstamp",
    "l.watch AS watchstamp", "l.seen AS seenstamp"]

/-- The joins of every listing: the user's state of a spot, the whitelist and the blacklist. -/
def baseJoins : List String :=
  ["LEFT JOIN spotstatelist AS l ON ((s.messageid = l.messageid) AND (l.ouruserid = $1))",
    "LEFT JOIN spotteridblacklist AS wl ON ((wl.spotterid = s.spotterid) AND " ++
      "((wl.ouruserid = $1) OR (wl.ouruserid = -1)) AND (wl.idtype = 2))",
    "LEFT JOIN spotteridblacklist AS bl ON ((bl.spotterid = s.spotterid) AND " ++
      "((bl.ouruserid = $1) OR (bl.ouruserid = -1)) AND (bl.idtype = 1))"]

def textJoin : String :=
  "LEFT JOIN idx_fts_spots AS idx_fts_spots ON idx_fts_spots.rowid = s.rowid"

/-- Spots of blacklisted spotters are never listed. -/
def notBlacklisted : String := "(bl.spotterid IS NULL)"

/-- The tables of a filter. The dialect is given by its name; SQLite has a full-text table. -/
def fromClause (descriptor : Descriptor) (dialect : String) : String :=
  let joins := baseJoins ++ (if dialect = "sqlite" then [textJoin] else []) ++
    descriptor.extraJoins.map Join.sql
  "FROM spots AS s\n" ++ "\n".intercalate joins ++
    String.join (descriptor.extraTables.map (", " ++ ·))

def whereClause (descriptor : Descriptor) : String :=
  let conditions :=
    (if descriptor.predicate = "" then [] else [descriptor.predicate]) ++ [notBlacklisted]
  "WHERE " ++ " AND ".intercalate conditions

def orderTerm (key : SortKey) : String := key.column ++ " " ++ Sorting.direction key.direction

/-- The order of a filter, nothing without sort keys. -/
def orderClause (descriptor : Descriptor) : String :=
  if descriptor.sortKeys.isEmpty then ""
  else "ORDER BY " ++ ", ".intercalate (descriptor.sortKeys.map orderTerm)

/-- The statement that lists one page of spots. -/
def searchQuery (descriptor : Descriptor) (dialect : String) : String :=
  let select := "SELECT " ++ ", ".intercalate (columns ++ descriptor.extraColumns)
  let clauses := [select, fromClause descriptor dialect, whereClause descriptor,
    orderClause descriptor, "LIMIT $2 OFFSET $3"]
  "\n".intercalate (clauses.filter (· != ""))

/-- The statement that counts the spots. -/
def countQuery (descriptor : Descriptor) (dialect : String) : String :=
  "\n".intercalate ["SELECT COUNT(1)", fromClause descriptor dialect, whereClause descriptor]

end Sift.Listing
