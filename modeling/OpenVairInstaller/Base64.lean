/-
# `OpenVairInstaller.Base64` — `general_purpose::STANDARD.encode`

`generate_random_secret` fills 32 random bytes and returns
`base64::engine::general_purpose::STANDARD.encode(&secret_bytes)`: the RFC 4648
alphabet `A–Z a–z 0–9 + /`, with `=` padding.  Each three bytes become four
characters; a final one or two bytes become two or three characters and are
padded to four.

The encoding is injective (`encode_injective`), by a decoder that inverts it
group by group: two secrets are equal exactly when their byte draws are, which
is what the JWT step's second run is measured against.
-/
import Mathlib.Data.List.GetD
import Mathlib.Data.List.Basic

namespace OpenVair

namespace Base64

/-- The `STANDARD` alphabet. -/
def alphabet : List Char :=
  "ABCDEFGHIJKLMNOPQRSTUVWXYZabcdefghijklmnopqrstuvwxyz0123456789+/".data

/-- The character for a six-bit value. -/
def sextet (n : Nat) : Char := alphabet.getD n '='

/-- Three, two or one bytes as four characters. -/
def encodeGroups : List UInt8 → List Char
  | [] => []
  | [a] => [sextet (a.toNat / 4), sextet (a.toNat % 4 * 16), '=', '=']
  | [a, b] =>
      [sextet (a.toNat / 4), sextet (a.toNat % 4 * 16 + b.toNat / 16),
        sextet (b.toNat % 16 * 4), '=']
  | a :: b :: c :: rest =>
      [sextet (a.toNat / 4), sextet (a.toNat % 4 * 16 + b.toNat / 16),
        sextet (b.toNat % 16 * 4 + c.toNat / 64), sextet (c.toNat % 64)] ++ encodeGroups rest

/-- `STANDARD.encode(bytes)`. -/
def encode (bytes : List UInt8) : String := ⟨encodeGroups bytes⟩

theorem length_encodeGroups :
    ∀ bytes : List UInt8, (encodeGroups bytes).length = 4 * ((bytes.length + 2) / 3)
  | [] => rfl
  | [_] => by simp [encodeGroups]
  | [_, _] => by simp [encodeGroups]
  | _ :: _ :: _ :: rest => by
      simp only [encodeGroups, List.length_append, List.length_cons, List.length_nil,
        length_encodeGroups rest]
      omega

example : encode [0x4d, 0x61, 0x6e, 0x2e] = "TWFuLg==" := by decide

/-! ## Decoding -/

/-- The six-bit value of a character of the alphabet. -/
def sextetValue (c : Char) : Nat := alphabet.indexOf c

theorem sextetValue_sextet : ∀ n < 64, sextetValue (sextet n) = n := by decide

theorem sextet_ne_pad : ∀ n < 64, sextet n ≠ '=' := by decide

theorem toNat_lt_256 (a : UInt8) : a.toNat < 256 := a.toNat_lt_size

theorem sextet_mem : ∀ n < 64, sextet n ∈ alphabet := fun n h => by
  have hlen : n < alphabet.length := by rw [show alphabet.length = 64 by decide]; exact h
  rw [sextet, List.getD_eq_getElem _ _ hlen]
  exact List.getElem_mem hlen

/-- **The shape of `STANDARD.encode`**: for `n` bytes, `⌈4n/3⌉` characters of the
alphabet, then `=` up to a multiple of four. -/
theorem encodeGroups_shape : ∀ bytes : List UInt8, ∃ body,
    encodeGroups bytes = body ++ List.replicate ((3 - bytes.length % 3) % 3) '=' ∧
      body.length = (4 * bytes.length + 2) / 3 ∧ ∀ c ∈ body, c ∈ alphabet
  | [] => ⟨[], rfl, rfl, by simp⟩
  | [a] => by
      have ha := toNat_lt_256 a
      exact ⟨[sextet (a.toNat / 4), sextet (a.toNat % 4 * 16)], rfl, by simp,
        by simp (disch := omega) [sextet_mem]⟩
  | [a, b] => by
      have ha := toNat_lt_256 a
      have hb := toNat_lt_256 b
      exact ⟨[sextet (a.toNat / 4), sextet (a.toNat % 4 * 16 + b.toNat / 16), sextet (b.toNat % 16 * 4)],
        rfl, by simp, by simp (disch := omega) [sextet_mem]⟩
  | a :: b :: c :: rest => by
      have ha := toNat_lt_256 a
      have hb := toNat_lt_256 b
      have hc := toNat_lt_256 c
      obtain ⟨body, h, hlen, hmem⟩ := encodeGroups_shape rest
      refine ⟨[sextet (a.toNat / 4), sextet (a.toNat % 4 * 16 + b.toNat / 16),
        sextet (b.toNat % 16 * 4 + c.toNat / 64), sextet (c.toNat % 64)] ++ body, ?_, ?_, ?_⟩
      · rw [encodeGroups, h, List.append_assoc]
        simp only [List.length_cons]
        rw [show (rest.length + 1 + 1 + 1) % 3 = rest.length % 3 by omega]
      · simp only [List.length_append, List.length_cons, List.length_nil, hlen]
        omega
      · simpa (disch := omega) [sextet_mem] using hmem

/-- Four characters back to the bytes they encode. -/
def decodeGroups : List Char → List Nat
  | [c₁, c₂, '=', '='] => [sextetValue c₁ * 4 + sextetValue c₂ / 16]
  | [c₁, c₂, c₃, '='] =>
      [sextetValue c₁ * 4 + sextetValue c₂ / 16, sextetValue c₂ % 16 * 16 + sextetValue c₃ / 4]
  | c₁ :: c₂ :: c₃ :: c₄ :: rest =>
      [sextetValue c₁ * 4 + sextetValue c₂ / 16, sextetValue c₂ % 16 * 16 + sextetValue c₃ / 4,
        sextetValue c₃ % 4 * 64 + sextetValue c₄] ++ decodeGroups rest
  | _ => []

theorem decodeGroups_encodeGroups :
    ∀ bytes : List UInt8, decodeGroups (encodeGroups bytes) = bytes.map UInt8.toNat
  | [] => rfl
  | [a] => by
      have ha := toNat_lt_256 a
      simp only [encodeGroups, decodeGroups, List.map]
      rw [sextetValue_sextet _ (by omega), sextetValue_sextet _ (by omega)]
      simp only [List.cons.injEq, and_true]; omega
  | [a, b] => by
      have ha := toNat_lt_256 a
      have hb := toNat_lt_256 b
      have h3 := sextet_ne_pad (b.toNat % 16 * 4) (by omega)
      simp only [encodeGroups, List.map]
      rw [decodeGroups.eq_2 _ _ _ h3, sextetValue_sextet _ (by omega), sextetValue_sextet _ (by omega),
        sextetValue_sextet _ (by omega)]
      simp only [List.cons.injEq, and_true]; omega
  | a :: b :: c :: rest => by
      have ha := toNat_lt_256 a
      have hb := toNat_lt_256 b
      have hc := toNat_lt_256 c
      have h4 := sextet_ne_pad (c.toNat % 64) (by omega)
      simp only [encodeGroups, List.cons_append, List.nil_append, List.map]
      rw [decodeGroups.eq_3 _ _ _ _ _ (fun _ h => absurd h h4) (fun h => absurd h h4),
        sextetValue_sextet _ (by omega), sextetValue_sextet _ (by omega),
        sextetValue_sextet _ (by omega), sextetValue_sextet _ (by omega),
        decodeGroups_encodeGroups rest]
      simp only [List.cons_append, List.nil_append, List.cons.injEq, and_true]; omega

/-- **`STANDARD.encode` is injective**: the decoder gives every byte back. -/
theorem encode_injective {bytes bytes' : List UInt8} (h : encode bytes = encode bytes') :
    bytes = bytes' := by
  have hmap := decodeGroups_encodeGroups bytes
  rw [show encodeGroups bytes = encodeGroups bytes' from congrArg String.data h,
    decodeGroups_encodeGroups bytes'] at hmap
  exact List.map_injective_iff.mpr (fun a b hab => UInt8.eq_of_toBitVec_eq (BitVec.eq_of_toNat_eq hab))
    hmap.symm


end Base64

end OpenVair
