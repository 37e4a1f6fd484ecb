import SeekTalent.Base.JsonText

/-!
# Digests

A hash function makes thirty-two bytes of a text. It cannot be injective, and nothing is assumed
of it but the length: where two digests are compared, the two texts are assumed to be no collision
(`Apart`).
-/

namespace SeekTalent

/-- A hash function, as SHA-256, or as HMAC with SHA-256 and one secret. -/
structure HashFunction where
  digest : String → List UInt8
  length_digest : ∀ text, (digest text).length = 32

def hexByte (byte : UInt8) : List Char :=
  [Json.hexDigit (byte.toNat / 16), Json.hexDigit (byte.toNat % 16)]

/-- `hexdigest()` -/
def HashFunction.hexdigest (hash : HashFunction) (text : String) : String :=
  String.ofList ((hash.digest text).flatMap hexByte)

def HashFunction.Apart (hash : HashFunction) (text text' : String) : Prop :=
  hash.digest text = hash.digest text' → text = text'

def hexDigits : List Char := "0123456789abcdef".toList

theorem hexDigit_mem (n : Nat) (h : n < 16) : Json.hexDigit n ∈ hexDigits := by
  have hall : ∀ m < 16, Json.hexDigit m ∈ hexDigits := by decide
  exact hall n h

theorem hexDigit_inj {m n : Nat} (hm : m < 16) (hn : n < 16)
    (h : Json.hexDigit m = Json.hexDigit n) : m = n := by
  have hall : ∀ m < 16, ∀ n < 16, Json.hexDigit m = Json.hexDigit n → m = n := by decide
  exact hall m hm n hn h

theorem hexByte_inj {byte byte' : UInt8} (h : hexByte byte = hexByte byte') : byte = byte' := by
  obtain ⟨hhigh, hrest⟩ := List.cons.inj h
  obtain ⟨hlow, -⟩ := List.cons.inj hrest
  have hlt := byte.toNat_lt
  have hlt' := byte'.toNat_lt
  have hdiv := hexDigit_inj (by omega) (by omega) hhigh
  have hmod := hexDigit_inj (by omega) (by omega) hlow
  apply UInt8.toNat_inj.mp
  omega

theorem hexBytes_inj : ∀ {bytes bytes' : List UInt8},
    bytes.flatMap hexByte = bytes'.flatMap hexByte → bytes = bytes'
  | [], [], _ => rfl
  | [], byte :: bytes, h => by simp [hexByte] at h
  | byte :: bytes, [], h => by simp [hexByte] at h
  | byte :: bytes, byte' :: bytes', h => by
    rw [List.flatMap_cons, List.flatMap_cons] at h
    obtain ⟨hbyte, hrest⟩ := List.append_inj h rfl
    rw [hexByte_inj hbyte, hexBytes_inj hrest]

namespace HashFunction

variable {hash : HashFunction} {text text' : String}

theorem mem_hexdigest {c : Char} (h : c ∈ (hash.hexdigest text).toList) : c ∈ hexDigits := by
  rw [hexdigest, String.toList_ofList, List.mem_flatMap] at h
  obtain ⟨byte, -, hc⟩ := h
  have hlt := byte.toNat_lt
  rcases List.mem_cons.mp hc with rfl | hc
  · exact hexDigit_mem _ (by omega)
  · rw [List.mem_singleton.mp hc]
    exact hexDigit_mem _ (by omega)

theorem length_hexdigest : (hash.hexdigest text).toList.length = 64 := by
  rw [hexdigest, String.toList_ofList, List.length_flatMap]
  have hpairs : (hash.digest text).map (fun byte => (hexByte byte).length) =
      List.replicate 32 2 := by
    rw [← hash.length_digest text, List.map_eq_replicate_iff]
    intro byte _
    rfl
  rw [hpairs]
  rfl

theorem hexdigest_inj (happart : hash.Apart text text') :
    hash.hexdigest text = hash.hexdigest text' ↔ text = text' := by
  constructor
  · intro h
    apply happart
    exact hexBytes_inj (String.ofList_injective h)
  · intro h
    rw [h]

end HashFunction

end SeekTalent
