import FacilitatorX402.Http.Errors
import FacilitatorX402.Protocol.X402Parser

/-!
# Signatures

The EIP-712 message of an ERC-3009 authorization, and what is kept of a signature. Recovering the
signer is a function of the client library, one of the fields of `Host`.
-/

namespace FacilitatorX402

structure Eip712Domain where
  name : String
  version : Option String
  chainId : Int
  verifyingContract : Option String
  deriving DecidableEq

structure TransferWithAuthorization where
  «from» : String
  «to» : String
  value : Int
  validAfter : Int
  validBefore : Int
  nonce : String
  deriving DecidableEq

/-- Functions of the runtime and of the client library that the services call. -/
structure Host where
  /-- `createHash('sha256').update(text).digest()`. -/
  sha256 : String → Digest
  /-- A number as `JSON.stringify` prints it. -/
  numberText : Nat → String
  /-- `text.toLowerCase()` and `text.toUpperCase()` over all of Unicode. -/
  toLowerCase : String → String
  toUpperCase : String → String
  recoverTypedDataAddress : Eip712Domain → TransferWithAuthorization → String → Except Err String

/-- The domain a signature is checked under. The parts a network's configuration does not define
stay undefined. -/
def erc3009Domain (contractAddress eip712Version : Option String) (chainId : Int) : Eip712Domain :=
  { name := "USD Coin"
    version := eip712Version
    chainId := chainId
    verifyingContract := contractAddress }

def Authorization.message (authorization : Authorization) : TransferWithAuthorization :=
  { «from» := authorization.from.text
    «to» := authorization.to.text
    value := authorization.value.value
    validAfter := authorization.validAfter
    validBefore := authorization.validBefore
    nonce := authorization.nonce.text }

def verifyErc3009Signature (host : Host) (authorization : Authorization) (signature : String)
    (contractAddress : Option String) (chainId : Int) (eip712Version : Option String) :
    Except Err String :=
  host.recoverTypedDataAddress (erc3009Domain contractAddress eip712Version chainId)
    authorization.message signature

/-- The raw signature, lower-cased, is its own deduplication key. -/
def computeSignatureHash (signature : String) : String := HexText.lowerCase signature

end FacilitatorX402
