import Kmip.Records

/-!
# Versions of the protocol

Versions are ordered by their major number and then by their minor number. Two sides agree on the
versions that both of them speak.
-/

namespace Kmip

/-- A version of the protocol. -/
abbrev Version := Records.protocolVersion.Val

namespace Version

/-- The version of two numbers. -/
def ofNumbers (major minor : Int32) : Version :=
  (major, minor, ())

/-- The first number of a version. -/
def major (version : Version) : Int32 :=
  version.1

/-- The second number of a version. -/
def minor (version : Version) : Int32 :=
  version.2.1

/-- The two numbers of a version, with a point between them. -/
def text (version : Version) : String :=
  String.ofList
    (Decimal.ofInt version.major.toInt ++ '.' :: Decimal.ofInt version.minor.toInt)

/-- The order of two versions. -/
def order (a b : Version) : Ordering :=
  (compare a.major.toInt b.major.toInt).then (compare a.minor.toInt b.minor.toInt)

/-- The versions that both sides speak, as the client prefers them. A client that names no version
gets all that are supported. -/
def negotiate (wanted supported : List Version) : List Version :=
  if wanted.isEmpty then supported else wanted.filter fun version => version ∈ supported

end Version

end Kmip
