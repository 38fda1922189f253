import FlowVerdict.Net.AddressText

/-!
Endpoints: an address and a port. Endpoints are ordered by address, then by port.
-/

namespace FlowVerdict

/-- One side of a conversation. A protocol without ports has port zero. -/
structure Endpoint where
  address : Address
  port : UInt16
deriving DecidableEq

namespace Endpoint

/-- The place of an endpoint in the order of all endpoints. -/
def rank (e : Endpoint) : Nat := e.address.rank * UInt16.size + e.port.toNat

instance : LE Endpoint := ⟨fun a b => a.rank ≤ b.rank⟩

instance (a b : Endpoint) : Decidable (a ≤ b) := inferInstanceAs (Decidable (a.rank ≤ b.rank))

/-- The characters of an endpoint: the address, in brackets if it has groups, and the port. -/
def chars (e : Endpoint) : List Char :=
  let address := AddressText.write e.address
  let port := ':' :: Text.Numeral.decimal e.port.toNat
  match e.address with
  | .v4 _ => address ++ port
  | .v6 _ => '[' :: address ++ ']' :: port

def text (e : Endpoint) : String := String.ofList e.chars

instance : ToString Endpoint := ⟨text⟩

/-- A port. Any number of zeros may stand before it. -/
def portFormat : Text.Numeral.Format := ⟨10, none, true, UInt16.size⟩

/-- The number of a network interface, which follows a percent sign and says nothing about the
endpoint. -/
def scopeFormat : Text.Numeral.Format := ⟨10, none, true, UInt32.size⟩

/-- The text after the number of a network interface, if there is one. -/
def skipScope : List Char → Option (List Char)
  | '%' :: rest => (scopeFormat.read rest).map Prod.snd
  | cs => some cs

/-- The endpoint of an address and the text of its port, which is all that is left. -/
def withPort? (address : Address) : List Char → Option Endpoint
  | ':' :: rest =>
    match portFormat.read rest with
    | some (port, []) => some ⟨address, UInt16.ofNat port⟩
    | _ => none
  | _ => none

def ofChars? : List Char → Option Endpoint
  | '[' :: rest => do
    let (address, rest) ← AddressText.sixteenBytes rest
    match ← skipScope rest with
    | ']' :: rest => withPort? address rest
    | _ => none
  | cs => do
    let (bytes, rest) ← AddressText.fourBytes cs
    withPort? (.v4 bytes) rest

def ofText? (s : String) : Option Endpoint := ofChars? s.toList

end Endpoint

end FlowVerdict
