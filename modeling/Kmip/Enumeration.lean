import Kmip.Enumeration.Registry

/-!
# Enumerations

Codes that are known in their domain. A member is a code together with the fact that the domain
names it, so an unknown code cannot be held.
-/

namespace Kmip

namespace Domain

/-- The name of a code. -/
def nameOf? (domain : Domain) (code : UInt32) : Option String :=
  (domain.members.find? fun member => member.2 = code).map Prod.fst

/-- The code of a name. -/
def codeOf? (domain : Domain) (name : String) : Option UInt32 :=
  (domain.members.find? fun member => member.1 = name).map Prod.snd

/-- A code that a domain knows. -/
structure Member (domain : Domain) where
  code : UInt32
  known : (domain.nameOf? code).isSome = true
deriving DecidableEq

/-- The member of a code. -/
def member? (domain : Domain) (code : UInt32) : Option domain.Member :=
  if known : (domain.nameOf? code).isSome then some ⟨code, known⟩ else none

/-- The member of a name. -/
def named? (domain : Domain) (name : String) : Option domain.Member :=
  (domain.codeOf? name).bind domain.member?

/-- The code of the first member of a domain. -/
def firstCode (domain : Domain) : UInt32 :=
  (domain.members.head?.map Prod.snd).getD 0

/-- The first member of a domain, which stands where none is given. -/
def first (domain : Domain) : domain.Member where
  code := domain.firstCode
  known := by cases domain <;> decide

namespace Member

/-- The name of a member. -/
def name {domain : Domain} (member : domain.Member) : String :=
  (domain.nameOf? member.code).get member.known

end Member

/-- The code of a member is found. -/
@[simp] theorem member?_code {domain : Domain} (member : domain.Member) :
    domain.member? member.code = some member := by
  simp [member?, member.known]

/-- A member that is found has the code looked for. -/
theorem code_of_member? {domain : Domain} {code : UInt32} {member : domain.Member}
    (found : domain.member? code = some member) : member.code = code := by
  unfold member? at found
  split at found
  · exact Option.some.inj found ▸ rfl
  · simp at found

end Domain

end Kmip
