import OrgAccess.Row
import OrgAccess.Table

/-! Selection: the row that speaks for a list of rows is the first one of least precedence key,
and each org that occurs in the list has such a row of its own. -/

namespace OrgAccess

namespace Row

/-- The row that wins against a later one: itself, unless the later key is strictly less. -/
def better (current later : Row) : Row :=
  if Precedes later.precedence current.precedence then later else current

/-- The first row of least precedence key. -/
def authoritative? : List Row → Option Row
  | [] => none
  | row :: rows => some (rows.foldl better row)

/-- The winners so far, by org, after one more row. -/
def enter (best : Table OrgId Row) (row : Row) : Table OrgId Row :=
  best.alter row.orgId fun
    | none => some row
    | some current => some (better current row)

/-- The winner of each org, in the order of the org identifiers. -/
def authoritativePerOrg (rows : List Row) : List Row := (rows.foldl enter ∅).values

end Row

end OrgAccess
