import Panurus.Lib.Asn1
import Panurus.Lib.Utf8
import Panurus.Lib.Outcome
import Panurus.Lib.Text

namespace Panurus.Identity

open List Lib Outcome Text

def tagInteger : UInt8 := 0x02
def tagOctetString : UInt8 := 0x04
def tagUTF8String : UInt8 := 0x0C
def tagPrintableString : UInt8 := 0x13
def tagSequence : UInt8 := 0x30

def errTruncated : String := "asn1: truncated data"
def errUnexpectedTag : String := "asn1: unexpected tag"
def errIntOverflow : String := "asn1: integer overflows int32"
def errInvalidLen : String := "asn1: invalid length encoding"
def errTrailingBytes : String := "asn1: trailing bytes after value"
def errNonMinimalLen : String := "asn1: non-minimal length encoding"
def errNonMinimalInt : String := "asn1: non-minimal integer encoding"

def idemixIdentityType : Int32 := 1
def x509IdentityType : Int32 := 2
def idemixNymIdentityType : Int32 := 3
def htlcScriptIdentityType : Int32 := 4
def multiSigIdentityType : Int32 := 5
def policyIdentityType : Int32 := 6

-- The length at a position and the position after it. Four octets at most, so the sum does not overflow.
def readLen (b : Bytes) (pos : Nat) : Outcome (Nat × Nat) := do
  let fb ← required b[pos]? errTruncated
  if fb < 0x80 then return (fb.toNat, pos + 1) else do
    let n := (fb &&& 0x7F).toNat
    ensure (¬ (n = 0 ∨ n > 4 ∨ pos + 1 + n > b.length)) errInvalidLen
    let octets := (b.drop (pos + 1)).take n
    ensure (octets.head? ≠ some 0x00) errNonMinimalLen
    let l := octets.foldl (fun l octet => l * 256 + octet.toNat) 0
    ensure (¬ l < 0x80) errNonMinimalLen
    ensure (¬ l > b.length - (pos + 1 + n)) errTruncated
    return (l, pos + 1 + n)

def readContent (b : Bytes) (pos : Nat) : Outcome (Bytes × Nat) := do
  let (l, np) ← readLen b pos
  ensure (¬ np + l > b.length) errTruncated
  return ((b.drop np).take l, np + l)

def parseInt32 (b : Bytes) : Outcome Int32 := do
  ensure (¬ (b.length = 0 ∨ b.length > 5)) errIntOverflow
  ensure (¬ (b.length > 1 ∧ b[0]? = some 0x00 ∧ b[1]?.any (· &&& 0x80 = 0))) errNonMinimalInt
  ensure (¬ (b.length > 1 ∧ b[0]? = some 0xFF ∧ b[1]?.any (· &&& 0x80 ≠ 0))) errNonMinimalInt
  let v := b.foldl (fun (v : Int) octet => v * 256 + octet.toNat) (if b[0]?.any (· &&& 0x80 ≠ 0) then -1 else 0)
  ensure (¬ (v > 2147483647 ∨ v < -2147483648)) errIntOverflow
  return Int32.ofInt v

inductive Label where
  | int (value : Int32)
  | str (name : Bytes)
deriving DecidableEq, Repr

structure Result where
  label : Label
  data : Bytes
deriving DecidableEq, Repr

def readLabel (b : Bytes) (pos : Nat) : Outcome (Label × Nat) := do
  let tag ← required b[pos]? errTruncated
  if tag = tagInteger then do
    let (content, next) ← readContent b (pos + 1)
    let v ← parseInt32 content
    return (.int v, next)
  else if tag = tagUTF8String ∨ tag = tagPrintableString then do
    let (content, next) ← readContent b (pos + 1)
    return (.str content, next)
  else .error errUnexpectedTag

def legacyLabel : Label → Label
  | .int value => .int value
  | .str name =>
    if name = ascii "x509" then .int x509IdentityType
    else if name = ascii "idemix" then .int idemixIdentityType
    else if name = ascii "idemixnym" then .int idemixNymIdentityType
    else if name = ascii "multisig" then .int multiSigIdentityType
    else if name = ascii "htlc" then .int htlcScriptIdentityType
    else .str name

def decodeIdentity (b : Bytes) : Outcome Result := do
  ensure (b.head? = some tagSequence) errUnexpectedTag
  let (seqLen, pos) ← readLen b 1
  ensure (¬ pos + seqLen > b.length) errTruncated
  ensure (¬ pos + seqLen < b.length) errTrailingBytes
  let (label, pos) ← readLabel b pos
  let tag ← required b[pos]? errTruncated
  ensure (tag = tagOctetString) errUnexpectedTag
  let (data, next) ← readContent b (pos + 1)
  ensure (next = b.length) errTrailingBytes
  return { label := legacyLabel label, data }

structure TypedIdentity where
  type : Int32
  identity : Bytes
deriving DecidableEq, Repr

def unmarshalTypedIdentity (id : Bytes) : Outcome TypedIdentity := do
  let res ← wrap "failed to unmarshal to TypedIdentity" (decodeIdentity id)
  match res.label with
  | .int value => return { type := value, identity := res.data }
  | .str _ => .error "invalid identity, type not recognized"

open Asn1

def errNonCanonical : String := "asn1: not the canonical encoding for this type"

-- How encoding/asn1 reads and writes the values of a type. What it has against bytes it does not
-- read is not told apart; writing does not fail for the types below.
structure Asn1Type (α : Type) where
  unmarshal : Bytes → Option (α × Bytes)
  marshal : α → Bytes

def unmarshalCanonicalDER {α : Type} (type : Asn1Type α) (b : Bytes) : Outcome α := do
  let (val, rest) ← required (type.unmarshal b) "asn1: structure error"
  ensure (rest = []) errTrailingBytes
  ensure (b = type.marshal val) errNonCanonical
  return val

theorem unmarshal_canonical_ok_iff {α : Type} {type : Asn1Type α} {b : Bytes} {val : α} :
    unmarshalCanonicalDER type b = .ok val ↔ type.unmarshal b = some (val, []) ∧ type.marshal val = b := by
  simp only [unmarshalCanonicalDER, ok_iff, Prod.exists]
  constructor
  · rintro ⟨read, rest, unmarshalled, _, rfl, _, canonical, rfl⟩
    exact ⟨unmarshalled, canonical.symm⟩
  · rintro ⟨unmarshalled, canonical⟩
    exact ⟨val, [], unmarshalled, (), rfl, (), canonical.symm, rfl⟩

-- A structure with one field, a list of octet strings. Elements after the field are passed over.
def stringsType : Asn1Type (List Bytes) where
  unmarshal data := do
    let (fields, rest) ← readTlv tagSequence data
    let (strings, _) ← readOctetStrings fields
    return (strings, rest)
  marshal strings := Der.sequence [octetStrings strings]

-- A text, then a list of octet strings. Texts of other string types are read too, and then refused as not canonical.
def textAndStringsType : Asn1Type (Bytes × List Bytes) where
  unmarshal data := do
    let (fields, rest) ← readTlv tagSequence data
    let (text, fields) ← readTlv tagUTF8String fields
    guard (Utf8.validString text)
    let (strings, _) ← readOctetStrings fields
    return ((text, strings), rest)
  marshal value := Der.sequence [Der.tlv tagUTF8String value.1, octetStrings value.2]

theorem strings_type_read {strings : List Bytes} (bounded : (octetStrings strings).length < lengthLimit) :
    unmarshalCanonicalDER stringsType (Der.sequence [octetStrings strings]) = .ok strings := by
  rw [unmarshal_canonical_ok_iff]
  have inner : (strings.map Der.octetString).flatten.length < lengthLimit := by
    refine lt_of_le_of_lt ?_ bounded
    simp only [octetStrings, Der.sequence, Der.tlv, length_cons, length_append]
    omega
  have outer := @read_tlv tagSequence [octetStrings strings].flatten (by simpa using bounded) []
  have field := read_octet_strings inner []
  simp only [append_nil, flatten_cons, flatten_nil] at outer field
  simp only [stringsType, Der.sequence, tagSequence] at outer ⊢
  simp [outer, field]

theorem component_shorter {strings : List Bytes} {component : Bytes} (mem : component ∈ strings) :
    component.length < (octetStrings strings).length := by
  have inside : (Der.octetString component).length ≤ (strings.map Der.octetString).flatten.length :=
    List.Sublist.length_le (sublist_flatten_of_mem (mem_map_of_mem mem))
  simp only [octetStrings, Der.sequence, Der.octetString, Der.tlv, length_cons, length_append] at inside ⊢
  omega

theorem octet_strings_shorter (strings : List Bytes) : (octetStrings strings).length ≤ (stringsType.marshal strings).length := by
  simp only [stringsType, Der.sequence, Der.tlv, flatten_cons, flatten_nil, length_cons, length_append]
  omega

theorem long_strings_unread {strings : List Bytes} (long : lengthLimit ≤ (octetStrings strings).length)
    (written : (octetStrings strings).length < 2 ^ 64) : stringsType.unmarshal (stringsType.marshal strings) = none := by
  have unread := @long_value_not_read tagSequence _ long written []
  simp only [append_nil] at unread
  simp only [stringsType, Der.sequence, flatten_singleton]
  rw [tagSequence] at unread ⊢
  rw [unread]
  rfl

theorem huge_string_unread {string : Bytes} {found : List Bytes} (huge : lengthLimit ≤ string.length)
    (written : string.length < 2 ^ 61) : unmarshalCanonicalDER stringsType (stringsType.marshal [string]) ≠ .ok found := by
  intro read
  obtain ⟨unmarshalled, -⟩ := unmarshal_canonical_ok_iff.mp read
  have inside := component_shorter (mem_singleton_self string)
  have inner := Der.tlv_length_le 0x04 string
  have outer := Der.tlv_length_le 0x30 [Der.octetString string].flatten
  rw [← Der.octetString] at inner
  rw [← Der.sequence, flatten_singleton] at outer
  change (octetStrings [string]).length ≤ _ at outer
  rw [long_strings_unread (by omega) (by omega)] at unmarshalled
  cases unmarshalled

end Panurus.Identity
