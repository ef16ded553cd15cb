import PrplMesh.Wsc.Impl.Messages

/-!
This module contains the keys that both sides of a WSC exchange compute, and the authenticators. The
cryptographic functions themselves are a parameter.
-/

namespace PrplMesh.Wsc

open Bytes

-- with padding to full blocks, of which there is always some
def ciphertextLength (plaintextLength : Nat) : Nat :=
  plaintextLength + (16 - plaintextLength % 16)

structure Crypto where
  PrivateKey : Type
  pubkey : PrivateKey → List UInt8
  length_pubkey_le : ∀ key, (pubkey key).length ≤ 192
  computeKey : PrivateKey → List UInt8 → List UInt8
  sha256 : List UInt8 → Vector UInt8 32
  hmac : List UInt8 → List UInt8 → Vector UInt8 32
  aesCbcEncrypt : List UInt8 → List UInt8 → List UInt8 → List UInt8
  aesCbcDecrypt : List UInt8 → List UInt8 → List UInt8 → Option (List UInt8)
  length_aesCbcEncrypt : ∀ key iv plaintext,
    (aesCbcEncrypt key iv plaintext).length = ciphertextLength plaintext.length

structure DiffieHellman (C : Crypto) where
  key : C.PrivateKey
  nonce : Vector UInt8 16

namespace DiffieHellman

variable {C : Crypto}

def copyPubkey (dh : DiffieHellman C) : Vector UInt8 192 :=
  let pubkey := C.pubkey dh.key
  ⟨(List.replicate (192 - pubkey.length) 0 ++ pubkey).toArray, by
    have := C.length_pubkey_le dh.key
    simp only [List.size_toArray, List.length_append, List.length_replicate, pubkey]
    omega⟩

end DiffieHellman

structure Crypto.Lawful (C : Crypto) : Prop where
  computeKey_comm : ∀ dh dh' : DiffieHellman C,
    C.computeKey dh.key dh'.copyPubkey.toList = C.computeKey dh'.key dh.copyPubkey.toList
  decrypt_encrypt : ∀ key iv plaintext,
    C.aesCbcDecrypt key iv (C.aesCbcEncrypt key iv plaintext) = some plaintext

structure Keys where
  authkey : List UInt8
  keywrapkey : List UInt8
  deriving DecidableEq

variable (C : Crypto)

def deriveKeys (kdk : List UInt8) : Keys :=
  let personalizationString := ofString "Wi-Fi Easy and Secure Key Derivation"
  let kdfKeyLength := ofNatBE 4 ((32 + 16 + 32) * 8)
  let block (iter : Nat) := C.hmac kdk (ofNatBE 4 iter ++ personalizationString ++ kdfKeyLength)
  { authkey := (block 1).toList
    keywrapkey := (block 2).toList.take 16 }

def wpsCalculateKeys (dh : DiffieHellman C) (remotePubkey m1Nonce mac m2Nonce : List UInt8)
    : Keys :=
  let sharedSecret := C.computeKey dh.key remotePubkey
  let key := (C.sha256 sharedSecret).toList
  deriveKeys C (C.hmac key (m1Nonce ++ mac ++ m2Nonce)).toList

def kwaCompute (authkey data : List UInt8) : List UInt8 :=
  (C.hmac authkey data).toList.take 8

def aesDecrypt (key iv ciphertext : List UInt8) : Option (List UInt8) :=
  if ciphertext = [] then none else C.aesCbcDecrypt key iv ciphertext

end PrplMesh.Wsc
