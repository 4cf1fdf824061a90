import MetaParity.Model

/-!
# Signatures

What a signature lookup hands over, and the two ways in which scenarios list it: by length alone, since an address is
private to an implementation, or byte for byte.
-/

namespace MetaParity

/-- The bytes of a signature and where the session keeps them. -/
structure Blob where
  address : Nat := 0
  bytes : Bytes
deriving DecidableEq, Inhabited

structure SignatureRecord where
  address : Nat
  length : Nat
deriving DecidableEq, Inhabited

/-- A record as listings show it: without the address. -/
def SignatureRecord.text (record : SignatureRecord) : String :=
  "len=" ++ Nat.repr record.length

structure SignatureBlob where
  token : Token
  bytes : Bytes
deriving DecidableEq, Inhabited

/-- A copied signature as listings show it: two digits for each byte. -/
def SignatureBlob.text (blob : SignatureBlob) : String :=
  blob.token.text ++ ":" ++ .ofList (blob.bytes.flatMap fun byte => ' ' :: Hex.digits 2 byte.toNat)

end MetaParity
