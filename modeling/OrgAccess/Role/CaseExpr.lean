import OrgAccess.Role
import OrgAccess.Text.Decimal

/-! The ranking as a simple CASE expression of SQL, so that a database orders rows by the same
table as `Role.rank`. -/

namespace OrgAccess

/-- `CASE subject WHEN 'literal' THEN value … ELSE otherwise END`. -/
structure CaseExpr where
  subject : String
  branches : List (String × Nat)
  otherwise : Nat
  deriving DecidableEq

namespace CaseExpr

def number (n : Nat) : String := Decimal.ofInt (Int.ofNat n)

def branchText (branch : String × Nat) : String :=
  " WHEN '" ++ branch.1 ++ "' THEN " ++ number branch.2

/-- The SQL text. The literals of the ranking hold no quote, so none is doubled. -/
def text (e : CaseExpr) : String :=
  "CASE " ++ e.subject ++ String.join (e.branches.map branchText) ++ " ELSE " ++
    number e.otherwise ++ " END"

end CaseExpr

/-- The rank of the role code that a column holds. -/
def Role.rankCase (column : String) : CaseExpr where
  subject := column
  branches := Role.ranking.map fun entry => (entry.1.code, entry.2)
  otherwise := Role.unranked

end OrgAccess
