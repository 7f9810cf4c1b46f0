import SqlSelect.Json.Literal
import SqlSelect.Text.Percent

/-!
Percent-encoding undone. A text is told by its percent-encoding, which is made of a few
characters only and in particular of none that set the parts of an address apart.
-/

namespace SqlSelect.Text

open Json.Literal (hexDigit?)

/-- The bytes that a percent-encoded text stands for. A percent sign has two hexadecimal
digits behind it. -/
def percentBytes? : List Char → Option (List UInt8)
  | [] => some []
  | '%' :: high :: low :: rest => do
      let high ← hexDigit? high
      let low ← hexDigit? low
      let bytes ← percentBytes? rest
      return .ofNat (16 * high + low) :: bytes
  | '%' :: _ => none
  | c :: rest => (percentBytes? rest).map (String.utf8EncodeChar c ++ ·)

/-- The text whose UTF-8 encoding a percent-encoded text stands for. -/
def percentDecode? (cs : List Char) : Option String :=
  (percentBytes? cs).bind fun bytes => String.fromUTF8? bytes.toByteArray

theorem hexDigit?_upperHexDigit {n : Nat} (h : n < 16) : hexDigit? (upperHexDigit n) = some n := by
  decide +revert

theorem percentBytes?_percentByte (b : UInt8) (rest : List Char) :
    percentBytes? (percentByte b ++ rest) = (percentBytes? rest).map (b :: ·) := by
  have hbyte : b.toNat < 256 := b.toNat_lt
  have hhigh := hexDigit?_upperHexDigit (show b.toNat / 16 < 16 by omega)
  have hlow := hexDigit?_upperHexDigit (show b.toNat % 16 < 16 by omega)
  have hsum : 16 * (b.toNat / 16) + b.toNat % 16 = b.toNat := Nat.div_add_mod _ _
  rw [percentByte, List.cons_append, List.cons_append, List.cons_append, List.nil_append,
    percentBytes?, hhigh, hlow]
  simp only [Option.bind_eq_bind, Option.bind_some, hsum, UInt8.ofNat_toNat, Option.map_eq_bind]
  rfl

theorem percentBytes?_percentByte_flatMap (bytes : List UInt8) (rest : List Char) :
    percentBytes? (bytes.flatMap percentByte ++ rest) = (percentBytes? rest).map (bytes ++ ·) := by
  induction bytes with
  | nil => simp
  | cons b bytes ih =>
      rw [List.flatMap_cons, List.append_assoc, percentBytes?_percentByte, ih, Option.map_map]
      rfl

theorem percentBytes?_percentChar (c : Char) (rest : List Char) :
    percentBytes? (percentChar c ++ rest) =
      (percentBytes? rest).map (String.utf8EncodeChar c ++ ·) := by
  rw [percentChar]
  split
  · rename_i hc
    have hne : c ≠ '%' := by
      rintro rfl
      cases hc
    rw [List.singleton_append, percentBytes?]
    · exact fun _ _ _ h _ => hne h
    · exact hne
  · exact percentBytes?_percentByte_flatMap _ rest

theorem percentBytes?_flatMap (cs : List Char) :
    percentBytes? (cs.flatMap percentChar) = some (cs.flatMap String.utf8EncodeChar) := by
  induction cs with
  | nil => rfl
  | cons c cs ih => rw [List.flatMap_cons, percentBytes?_percentChar, ih]; rfl

/-- Percent-decoding gives back what was encoded. -/
theorem percentDecode?_percentEncode (s : String) :
    percentDecode? (percentEncode s).toList = some s := by
  rw [percentEncode, String.toList_ofList, percentDecode?, percentBytes?_flatMap, Option.bind_some]
  have hbytes : (s.toList.flatMap String.utf8EncodeChar).toByteArray = s.toByteArray :=
    String.utf8Encode_toList
  rw [hbytes, String.fromUTF8?, dif_pos s.isValidUTF8]
  rfl

theorem isUnreserved_upperHexDigit {n : Nat} (h : n < 16) :
    isUnreserved (upperHexDigit n) = true := by
  decide +revert

theorem mem_percentByte {b : UInt8} {c : Char} (h : c ∈ percentByte b) :
    isUnreserved c = true ∨ c = '%' := by
  have hbyte : b.toNat < 256 := b.toNat_lt
  simp only [percentByte, List.mem_cons, List.not_mem_nil, or_false] at h
  rcases h with rfl | rfl | rfl
  · exact .inr rfl
  · exact .inl (isUnreserved_upperHexDigit (by omega))
  · exact .inl (isUnreserved_upperHexDigit (by omega))

theorem mem_percentEncode {s : String} {c : Char} (h : c ∈ (percentEncode s).toList) :
    isUnreserved c = true ∨ c = '%' := by
  rw [percentEncode, String.toList_ofList, List.mem_flatMap] at h
  obtain ⟨d, -, hd⟩ := h
  rw [percentChar] at hd
  split at hd
  · rename_i hunreserved
    rw [List.mem_singleton.mp hd]
    exact .inl hunreserved
  · obtain ⟨b, -, hb⟩ := List.mem_flatMap.mp hd
    exact mem_percentByte hb

end SqlSelect.Text
