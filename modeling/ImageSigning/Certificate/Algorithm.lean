import ImageSigning.Der.Value

/-!
# Algorithms and their parameters

An algorithm is an identifier with parameters, and the identifier says what the parameters may be:
none at all, an optional NULL, a curve, or a record of numbers. Algorithms that are not known here may
have any parameters.
-/

namespace ImageSigning

open Der

/-- An algorithm. -/
structure Algorithm where
  /-- The algorithm's identifier. -/
  oid : Oid
  /-- The parameters, where there are any. -/
  parameters : Option Tlv
  deriving DecidableEq, Repr

namespace Algorithm

/-- RSA. -/
def rsa : Oid := [1, 2, 840, 113549, 1, 1, 1]

/-- RSA for probabilistic signatures only. -/
def rsaProbabilistic : Oid := [1, 2, 840, 113549, 1, 1, 10]

/-- Elliptic curves. -/
def curve : Oid := [1, 2, 840, 10045, 2, 1]

/-- The digital signature algorithm. -/
def dsa : Oid := [1, 2, 840, 10040, 4, 1]

/-- Key agreement by exponents, with the order of the subgroup. -/
def agreementWithOrder : Oid := [1, 2, 840, 10046, 2, 1]

/-- Key agreement by exponents. -/
def agreement : Oid := [1, 2, 840, 113549, 1, 3, 1]

/-- Whether the identifier is `parent` with one arc more, out of `arcs`. -/
def isUnder (parent : Oid) (arcs : List Nat) (oid : Oid) : Bool :=
  arcs.any fun arc => oid = parent ++ [arc]

/-- Whether the algorithm's parameters are NULL or missing: hash functions and signatures. -/
def takesNull (oid : Oid) : Bool :=
  isUnder [1, 2, 840, 113549, 1, 1] [1, 5, 11, 12, 13, 14] oid
    || oid = [1, 3, 14, 3, 2, 29] || oid = [1, 3, 14, 3, 2, 26]
    || isUnder [2, 16, 840, 1, 101, 3, 4, 2] [1, 2, 3, 4, 7, 8, 9, 10] oid
    || isUnder [2, 16, 840, 1, 101, 3, 4, 3] [1, 2, 3, 4, 9, 10, 11, 12, 13, 14, 15, 16] oid
    || isUnder [1, 2, 840, 10045, 4, 3] [1, 2, 3, 4] oid

/-- Whether the algorithm has no parameters: keys that are octets. -/
def takesNothing (oid : Oid) : Bool := isUnder [1, 3, 101] [110, 111, 112, 113] oid

/-- The numbers of a record of numbers. -/
def naturals? (e : Tlv) : Option (List Nat) := do (← e.strictSequence?).mapM Tlv.natural?

/-- Whether parameters suit the identifier. -/
def suits (oid : Oid) (parameters : Option Tlv) : Bool :=
  if takesNull oid then parameters.all Tlv.isNull
  else if takesNothing oid then parameters.isNone
  else if oid = curve then
    parameters.any fun e => e.isNull || e.strictOid?.isSome || e.strictSequence?.isSome
  else if oid = dsa then
    parameters.any fun e => match naturals? e with | some [_, _, _] => true | _ => false
  else if oid = rsaProbabilistic then parameters.all fun e => e.strictSequence?.isSome
  else if oid = agreement ∨ oid = agreementWithOrder then
    parameters.any fun e => e.strictSequence?.isSome
  else true

/-- An algorithm from its element. -/
def ofTlv? (e : Tlv) : Option Algorithm := do
  match ← e.strictSequence? with
  | [oid] =>
    let oid ← oid.strictOid?
    if suits oid none then some ⟨oid, none⟩ else none
  | [oid, parameters] =>
    let oid ← oid.strictOid?
    if suits oid (some parameters) then some ⟨oid, some parameters⟩ else none
  | _ => none

end Algorithm

end ImageSigning
