import OrgAccess.Order

/-! Roles are codes, known or not. The ranking says which of several memberships speaks for
its holder: the lower rank does, and every code outside the ranking comes last. -/

namespace OrgAccess

/-- The role a user holds in an org. -/
@[ext]
structure Role where
  code : String
  deriving DecidableEq

instance : Ordered Role := Ordered.along Role.code Role.ext

namespace Role

def owner : Role := ⟨"OWNER"⟩
def admin : Role := ⟨"ADMIN"⟩
def coordinator : Role := ⟨"COORDINATOR"⟩
def member : Role := ⟨"MEMBER"⟩
def user : Role := ⟨"USER"⟩

/-- The role of staff, who hold no membership. -/
def staff : Role := ⟨"STAFF"⟩

/-- The ranked roles. `MEMBER` is the older code of `COORDINATOR` and shares its rank. -/
def ranking : List (Role × Nat) :=
  [(owner, 1), (admin, 2), (coordinator, 3), (member, 3), (user, 4)]

def unranked : Nat := 5

def rank (role : Role) : Nat :=
  match ranking.find? (fun entry => entry.1 = role) with
  | some entry => entry.2
  | none => unranked

end Role

end OrgAccess
