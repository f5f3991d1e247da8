import Mathlib.Algebra.Ring.Nat
import PasskeySession.Proofs.Text.Utf8
import PasskeySession.WebAuthn.Authenticator

/-! # Attestations read back

A reader of data items takes heads of every width. Main statement: it reads an item back from its bytes if all
numbers and lengths in it fit into a head, and so the authenticator data are read back from an attestation. -/

namespace PasskeySession

namespace Cbor
variable {c : Cbor} {bs rest : Bytes} {n major low : Nat}

/-! ### The reader -/

/-- So many bytes, and the bytes after them. -/
def take? (n : Nat) (bs : Bytes) : Option (Bytes × Bytes) :=
  if n ≤ bs.length then some (bs.take n, bs.drop n) else none

/-- The number of a head, from the low bits of its first byte: either they are the number, or they tell how many
    bytes of it follow. -/
def number? (low : Nat) (bs : Bytes) : Option (Nat × Bytes) :=
  if low < 24 then some (low, bs)
  else if low < 28 then (take? (2 ^ (low - 24)) bs).map fun (ds, rest) => (BigEndian.toNat ds, rest)
  else none

/-- The major type and the number of a head, and the bytes after it. -/
def head? : Bytes → Option (Nat × Nat × Bytes)
  | [] => none
  | b :: bs => (number? (b.toNat % 32) bs).map fun (n, rest) => (b.toNat / 32, n, rest)

mutual

/-- The first item, and the bytes after it. -/
def item? : (fuel : Nat) → Bytes → Option (Cbor × Bytes)
  | 0, _ => none
  | fuel + 1, bs =>
    match head? bs with
    | some (0, n, bs) => some (.natural n, bs)
    | some (1, n, bs) => some (.negative n, bs)
    | some (2, n, bs) => (take? n bs).map fun (content, rest) => (.bytes content, rest)
    | some (3, n, bs) => (take? n bs).bind fun (content, rest) =>
      (Text.Utf8.decode? content).map fun cs => (.text cs, rest)
    | some (5, n, bs) => (entries? fuel n bs).map fun (entries, rest) => (.map entries, rest)
    | _ => none

/-- So many entries of a map, and the bytes after them. -/
def entries? : (fuel count : Nat) → Bytes → Option (List (Cbor × Cbor) × Bytes)
  | _, 0, bs => some ([], bs)
  | 0, _ + 1, _ => none
  | fuel + 1, count + 1, bs => do
    let (key, bs) ← item? fuel bs
    let (value, bs) ← item? fuel bs
    let (entries, bs) ← entries? fuel count bs
    some ((key, value) :: entries, bs)

end

/-- The item that bytes are, to the last of them. -/
def decode? (bs : Bytes) : Option Cbor :=
  match item? (2 * bs.length) bs with
  | some (c, []) => some c
  | _ => none

mutual

/-- The numbers and lengths in an item fit into a head. -/
def Fits : Cbor → Prop
  | natural n | negative n => n < 2 ^ 64
  | bytes bs => bs.length < 2 ^ 64
  | text cs => (Text.utf8 cs).length < 2 ^ 64
  | map entries => entries.length < 2 ^ 64 ∧ EntriesFit entries

def EntriesFit : List (Cbor × Cbor) → Prop
  | [] => True
  | (key, value) :: entries => Fits key ∧ Fits value ∧ EntriesFit entries

end

/-! ### Items read back -/

theorem take?_append (bs rest : Bytes) : take? bs.length (bs ++ rest) = some (bs, rest) := by
  rw [take?, if_pos (by simp), List.take_left, List.drop_left]

theorem number?_ofNat {k : Nat} (hk : k < 4) (hn : n < 256 ^ 2 ^ k) (rest : Bytes) :
    number? (24 + k) (BigEndian.ofNat (2 ^ k) n ++ rest) = some (n, rest) := by
  have htake := take?_append (BigEndian.ofNat (2 ^ k) n) rest
  rw [BigEndian.length_ofNat] at htake
  rw [number?, if_neg (by omega), if_pos (by omega), Nat.add_sub_cancel_left, htake, Option.map_some]
  dsimp only
  rw [BigEndian.toNat_ofNat, show n % Nat.pow 256 (2 ^ k) = n from Nat.mod_eq_of_lt hn]

theorem head?_lead (hmajor : major < 8) (hlow : low < 32) (bs : Bytes) :
    head? (UInt8.ofNat (major * 32 + low) :: bs) = (number? low bs).map fun (n, rest) => (major, n, rest) := by
  have hbyte : (UInt8.ofNat (major * 32 + low)).toNat = major * 32 + low := Text.toNat_byte (by omega)
  have hdiv : (major * 32 + low) / 32 = major := by omega
  have hmod : (major * 32 + low) % 32 = low := by omega
  rw [head?, hbyte, hdiv, hmod]

theorem head?_head (hmajor : major < 8) (hn : n < 2 ^ 64) (rest : Bytes) :
    head? (head major n ++ rest) = some (major, n, rest) := by
  have wide (k : Nat) (hk : k < 4) (hn : n < 256 ^ 2 ^ k) :
      head? (UInt8.ofNat (major * 32 + (24 + k)) :: BigEndian.ofNat (2 ^ k) n ++ rest) = some (major, n, rest) := by
    rw [List.cons_append, head?_lead hmajor (by omega), number?_ofNat hk hn]
    rfl
  simp only [head]
  split
  case isTrue h =>
    rw [List.singleton_append, head?_lead hmajor (by omega), number?, if_pos h]
    rfl
  split
  case isTrue h => exact wide 0 (by decide) h
  split
  case isTrue h => exact wide 1 (by decide) h
  split
  case isTrue h => exact wide 2 (by decide) h
  case isFalse => exact wide 3 (by decide) hn

theorem one_le_length_head (major n : Nat) : 1 ≤ (head major n).length := by
  simp only [head]
  repeat' split
  all_goals exact Nat.succ_le_succ (Nat.zero_le _)

theorem one_le_length_encode (c : Cbor) : 1 ≤ c.encode.length := by
  cases c with
  | natural n | negative n => exact one_le_length_head _ n
  | bytes | text | map =>
    rw [encode, List.length_append]
    exact Nat.le_trans (one_le_length_head _ _) (Nat.le_add_right _ _)

mutual

/-- An item is read back from its bytes. A map takes two steps of the reader for each of its bytes at most: its head
    pays for the map and for the end of its entries, and every entry has a byte of its key. -/
theorem item?_encode : (c : Cbor) → c.Fits → ∀ (fuel : Nat) (rest : Bytes), 2 * c.encode.length ≤ fuel →
    item? fuel (c.encode ++ rest) = some (c, rest)
  | c, _, 0, _, hfuel => absurd hfuel (by have := one_le_length_encode c; omega)
  | .natural n, h, fuel + 1, rest, _ => by
    simp only [encode, item?, head?_head (show 0 < 8 by decide) h]
  | .negative n, h, fuel + 1, rest, _ => by
    simp only [encode, item?, head?_head (show 1 < 8 by decide) h]
  | .bytes bs, h, fuel + 1, rest, _ => by
    simp only [encode, List.append_assoc, item?, head?_head (show 2 < 8 by decide) h, take?_append, Option.map_some]
  | .text cs, h, fuel + 1, rest, _ => by
    simp only [encode, List.append_assoc, item?, head?_head (show 3 < 8 by decide) h, take?_append, Option.bind_some,
      Text.Utf8.decode?_utf8, Option.map_some]
  | .map entries, h, fuel + 1, rest, hfuel => by
    have hhead := one_le_length_head 5 entries.length
    rw [encode, List.length_append] at hfuel
    have hentries := entries?_encode entries h.2 fuel rest (by omega)
    simp only [encode, List.append_assoc, item?, head?_head (show 5 < 8 by decide) h.1, hentries, Option.map_some]

theorem entries?_encode : (entries : List (Cbor × Cbor)) → EntriesFit entries → ∀ (fuel : Nat) (rest : Bytes),
    2 * (encodeEntries entries).length + 1 ≤ fuel →
      entries? fuel entries.length (encodeEntries entries ++ rest) = some (entries, rest)
  | [], _, _, _, _ => by rw [List.length_nil, entries?, encodeEntries, List.nil_append]
  | (key, value) :: entries, h, fuel + 1, rest, hfuel => by
    have hkey := one_le_length_encode key
    rw [encodeEntries, List.length_append, List.length_append] at hfuel
    have hfirst := item?_encode key h.1 fuel (value.encode ++ (encodeEntries entries ++ rest)) (by omega)
    have hsecond := item?_encode value h.2.1 fuel (encodeEntries entries ++ rest) (by omega)
    have hothers := entries?_encode entries h.2.2 fuel rest (by omega)
    rw [encodeEntries, List.append_assoc, List.append_assoc, List.length_cons, entries?, hfirst]
    dsimp only [Option.bind_eq_bind, Option.bind_some]
    rw [hsecond]
    dsimp only [Option.bind_some]
    rw [hothers, Option.bind_some]

end

theorem decode?_encode (h : c.Fits) : decode? c.encode = some c := by
  have hitem := item?_encode c h (2 * c.encode.length) [] (Nat.le_refl _)
  rw [List.append_nil] at hitem
  rw [decode?, hitem]

/-! ### Members -/

def isText (name : String) : Cbor → Bool
  | text cs => cs == name.toList
  | _ => false

/-- The value of the first entry of a map that has the given text for its key. -/
def member? (name : String) : Cbor → Option Cbor
  | map entries => (entries.find? fun entry => entry.1.isText name).map (·.2)
  | _ => none

end Cbor

namespace AuthenticatorData

theorem length_bytes {d : AuthenticatorData} (hhash : d.rpIdHash.length = 32) :
    d.bytes.length = least + d.rest.length := by
  simp only [bytes, List.length_append, List.length_cons, BigEndian.length_ofNat, hhash]
  rfl

/-- Authenticator data are read back if the digest has its length and the counter fits. -/
theorem ofBytes_bytes {d : AuthenticatorData} (hhash : d.rpIdHash.length = 32) (hcounter : d.counter < 2 ^ 32) :
    ofBytes d.bytes = .ok d := by
  have hlength := length_bytes hhash
  obtain ⟨hash, flags, counter, rest⟩ := d
  dsimp only at hhash hcounter hlength
  have hcount : (BigEndian.ofNat 4 counter).length = 4 := BigEndian.length_ofNat 4 counter
  have hvalue : BigEndian.toNat (BigEndian.ofNat 4 counter) = counter := by
    rw [BigEndian.toNat_ofNat]
    exact Nat.mod_eq_of_lt hcounter
  have hbytes : bytes ⟨hash, flags, counter, rest⟩ = hash ++ flags :: (BigEndian.ofNat 4 counter ++ rest) := by
    rw [bytes, List.append_assoc, List.cons_append]
  rw [ofBytes, if_neg (by omega), hbytes]
  generalize BigEndian.ofNat 4 counter = count at hcount hvalue
  have hdrop (n : Nat) : (hash ++ flags :: (count ++ rest)).drop (32 + (n + 1)) = (count ++ rest).drop n := by
    rw [← List.drop_drop, List.drop_left' hhash, List.drop_succ_cons]
  have hfirst : (hash ++ flags :: (count ++ rest)).take 32 = hash := List.take_left' hhash
  have hflags : (hash ++ flags :: (count ++ rest)).getD 32 0 = flags := by simp [← hhash]
  have hcounter : ((hash ++ flags :: (count ++ rest)).drop 33).take 4 = count := by
    rw [hdrop 0, List.drop_zero, List.take_left' hcount]
  have hrest : (hash ++ flags :: (count ++ rest)).drop least = rest := by
    rw [show least = 32 + (4 + 1) from rfl, hdrop 4, List.drop_left' hcount]
  rw [hfirst, hflags, hcounter, hrest, hvalue]

/-- The authenticator data in an attestation. -/
def ofAttestation? (bs : Bytes) : Option AuthenticatorData :=
  match (Cbor.decode? bs).bind (Cbor.member? "authData") with
  | some (.bytes data) => (ofBytes data).toOption
  | _ => none

theorem fits_attestation {data : Bytes} (h : data.length < 2 ^ 64) : (Authenticator.attestation data).Fits := by
  have short : ∀ name ∈ ["fmt", "none", "attStmt", "authData"], (Text.utf8 name.toList).length < 2 ^ 64 := by
    decide +kernel
  have three : 3 < 2 ^ 64 := by decide
  have none : 0 < 2 ^ 64 := by decide
  exact ⟨three, short "fmt" (by decide), short "none" (by decide), short "attStmt" (by decide), ⟨none, trivial⟩,
    short "authData" (by decide), h, trivial⟩

theorem ofAttestation?_encode {d : AuthenticatorData} (hhash : d.rpIdHash.length = 32) (hcounter : d.counter < 2 ^ 32)
    (hrest : d.rest.length < 2 ^ 63) : ofAttestation? (Authenticator.attestation d.bytes).encode = some d := by
  have hdata : d.bytes.length < 2 ^ 64 := by
    rw [length_bytes hhash, least]
    omega
  have hmember : (Authenticator.attestation d.bytes).member? "authData" = some (.bytes d.bytes) := by
    unfold Authenticator.attestation
    generalize d.bytes = data
    rfl
  rw [ofAttestation?, Cbor.decode?_encode (fits_attestation hdata), Option.bind_some, hmember]
  dsimp only
  rw [ofBytes_bytes hhash hcounter]
  rfl

end AuthenticatorData
end PasskeySession
