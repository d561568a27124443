import RingContinuity.Error

/-!
# Maintenance association identifiers

The field of 48 octets in which a continuity check names its maintenance domain and association.
Writing cuts names that do not fit; reading refuses lengths that the format rules out.
-/

namespace RingContinuity

/-- The two names of a maintenance association and the formats they are in. -/
structure Maid where
  domainFormat : UInt8
  domainName : Octets
  associationFormat : UInt8
  associationName : Octets
  deriving DecidableEq

namespace Maid

/-- The domain format without a name. -/
def noDomain : UInt8 := 1

/-- The domain format of character strings. -/
def domainString : UInt8 := 4

/-- The association format of character strings. -/
def associationString : UInt8 := 2

def ofNames (domain association : String) : Maid :=
  ⟨domainString, Utf8.encode domain, associationString, Utf8.encode association⟩

def writtenDomain (m : Maid) : Octets :=
  if m.domainFormat = noDomain then [] else m.domainName.take maxDomainNameLength

/-- The part of the association name that is written: what the domain name leaves room for. -/
def writtenAssociation (m : Maid) : Octets :=
  m.associationName.take (maidLength - 4 - m.writtenDomain.length)

/-- The octets of both names without the zeros that fill the field. -/
def names (m : Maid) : Octets :=
  (if m.domainFormat = noDomain then [m.domainFormat]
    else m.domainFormat :: UInt8.ofNat m.writtenDomain.length :: m.writtenDomain) ++
  m.associationFormat :: UInt8.ofNat m.writtenAssociation.length :: m.writtenAssociation

def encode (m : Maid) : Octets := Octets.fit m.names maidLength

@[simp] theorem length_encode (m : Maid) : m.encode.length = maidLength := Octets.length_fit ..

/-- The domain name of a field, and where the association format stands behind it. -/
def decodeDomain (xs : Octets) (h : 48 ≤ xs.length) :
    Except Error (Octets × { pos : Nat // pos + 2 ≤ 48 }) :=
  let format := xs[0]
  if format = noDomain then .ok ([], ⟨1, by decide⟩)
  else
    let n := xs[1].toNat
    if format = domainString ∧ (n < 1 ∨ maxDomainNameLength < n) then
      .error (.malformed (.domainNameLength n))
    else if hn : 2 + n + 2 ≤ 48 then .ok (Octets.slice xs 2 n (by omega), ⟨2 + n, hn⟩)
    else .error (.malformed (.domainNameOverflow n))

/-- The association format and name behind the domain name. A length that leads out of the field
is cut to its end. -/
def decodeAssociation (xs : Octets) (h : 48 ≤ xs.length) (pos : { pos : Nat // pos + 2 ≤ 48 }) :
    Except Error (UInt8 × Octets) :=
  have := pos.property
  let format := xs[pos.val]
  let n := xs[pos.val + 1].toNat
  if format = associationString ∧ n < 1 then .error (.malformed .emptyAssociationName)
  else .ok (format, Octets.slice xs (pos.val + 2) (min n (48 - (pos.val + 2))) (by omega))

/-- The identifier in the first 48 octets of a string. -/
def decode (xs : Octets) : Except Error Maid :=
  if h : 48 ≤ xs.length then do
    let (domain, pos) ← decodeDomain xs h
    let (format, association) ← decodeAssociation xs h pos
    return ⟨xs[0], domain, format, association⟩
  else .error (.malformed .truncatedMaid)

/-- Compares character string names with the expected ones; names in other formats are not
compared. -/
def checkNames (m : Maid) (domain association : String) : Except Error Unit :=
  if m.domainFormat = domainString ∧ m.domainName ≠ Utf8.encode domain then
    .error (.mismatch (.domainName m.domainName domain))
  else if m.associationFormat = associationString ∧ m.associationName ≠ Utf8.encode association then
    .error (.mismatch (.associationName m.associationName association))
  else .ok ()

end Maid
end RingContinuity
