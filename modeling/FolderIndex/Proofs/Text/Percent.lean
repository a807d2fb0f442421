import FolderIndex.Proofs.Text.Utf8
import FolderIndex.Proofs.Text.Words
import FolderIndex.Text.Percent

namespace FolderIndex.Text

/-! Text that was put into an address with escapes is read back from it as it was. -/

variable {character : Char} {octet : UInt8} {safe text rest : List Char}

/-- The hexadecimal digit of a value below sixteen. -/
def upperDigit (value : Nat) : Char :=
  if value < 10 then Char.ofNat (48 + value) else Char.ofNat (55 + value)

theorem percentEscape_eq (octet : UInt8) :
    percentEscape octet = ['%', upperDigit (octet.toNat / 16), upperDigit (octet.toNat % 16)] := rfl

theorem upperDigit_spec :
    ∀ value < 16, hexValue? (upperDigit value) = some value ∧
      (upperDigit value).isAlphanum = true := by
  decide

theorem digits_of_octet (octet : UInt8) : octet.toNat / 16 < 16 ∧ octet.toNat % 16 < 16 := by
  have small := octet.toNat_lt
  omega

/-- An escape is read as its octet. -/
theorem percentOctets_percentEscape (octet : UInt8) (rest : List Char) :
    percentOctets (percentEscape octet ++ rest) = octet :: percentOctets rest := by
  obtain ⟨high, low⟩ := digits_of_octet octet
  have value : octet.toNat / 16 * 16 + octet.toNat % 16 = octet.toNat := by omega
  rw [percentEscape_eq, List.cons_append, List.cons_append, List.cons_append, percentOctets]
  simp only [(upperDigit_spec _ high).1, (upperDigit_spec _ low).1, value, UInt8.ofNat_toNat,
    List.nil_append]

theorem percentOctets_escapes (octets : List UInt8) (rest : List Char) :
    percentOctets (octets.flatMap percentEscape ++ rest) = octets ++ percentOctets rest := by
  induction octets with
  | nil => rfl
  | cons octet more ih =>
      rw [List.flatMap_cons, List.append_assoc, percentOctets_percentEscape, ih, List.cons_append]

theorem percentOctets_cons (plain : character ≠ '%') (rest : List Char) :
    percentOctets (character :: rest) = UInt8.ofNat character.toNat :: percentOctets rest := by
  rw [percentOctets]
  rintro high low more same _
  exact plain same

theorem utf8EncodeChar_of_isAscii (ascii : isAscii character = true) :
    String.utf8EncodeChar character = [UInt8.ofNat character.toNat] := by
  have small : character.toNat < 0x80 := by simpa [isAscii] using ascii
  have within : character.val.toNat ≤ 0x7F := Nat.le_of_lt_succ small
  simp only [String.utf8EncodeChar, within, if_true]
  rfl

theorem isAscii_of_isAlphanum (letter : character.isAlphanum = true) :
    isAscii character = true := decide_eq_true (toNat_lt_of_isAlphanum letter)

/-- The characters that stand in an address as they are. -/
structure KeptPlain (safe : List Char) : Prop where
  ascii : ∀ character ∈ safe, isAscii character = true
  noPercent : '%' ∉ safe

/-- Escaped text is read as the octets of the text. -/
theorem percentOctets_percentEncode (plain : KeptPlain safe) (text rest : List Char) :
    percentOctets (percentEncode safe text ++ rest) =
      text.flatMap String.utf8EncodeChar ++ percentOctets rest := by
  induction text with
  | nil => rfl
  | cons character others ih =>
      simp only [percentEncode, List.flatMap_cons, List.append_assoc] at ih ⊢
      split
      · rename_i kept
        simp only [Bool.or_eq_true, List.contains_iff_mem] at kept
        have ascii : isAscii character = true := kept.elim isAscii_of_isAlphanum (plain.ascii _)
        have plainly : character ≠ '%' := by
          rintro rfl
          exact kept.elim (by decide) plain.noPercent
        rw [List.singleton_append, percentOctets_cons plainly, ih, utf8EncodeChar_of_isAscii ascii]
        rfl
      · have octets : encodeUtf8 (String.ofList [character]) = String.utf8EncodeChar character := by
          rw [encodeUtf8_eq, String.toList_ofList, List.flatMap_cons, List.flatMap_nil,
            List.append_nil]
        rw [octets, percentOctets_escapes, ih]

/-- What stands in escaped text. -/
theorem of_mem_percentEncode (member : character ∈ percentEncode safe text) :
    character.isAlphanum = true ∨ character ∈ safe ∨ character = '%' := by
  obtain ⟨source, _, within⟩ := List.mem_flatMap.mp member
  split at within
  · rename_i kept
    simp only [Bool.or_eq_true, List.contains_iff_mem] at kept
    rw [List.mem_singleton.mp within]
    exact kept.imp_right .inl
  · obtain ⟨octet, _, escaped⟩ := List.mem_flatMap.mp within
    obtain ⟨high, low⟩ := digits_of_octet octet
    rw [percentEscape_eq] at escaped
    simp only [List.mem_cons, List.not_mem_nil, or_false] at escaped
    rcases escaped with rfl | rfl | rfl
    · exact .inr (.inr rfl)
    · exact .inl (upperDigit_spec _ high).2
    · exact .inl (upperDigit_spec _ low).2

theorem percentFrom_of_ascii (ascii : ∀ character ∈ text, isAscii character = true)
    (stretch : List Char) : percentFrom stretch text = flushPercent (text.reverse ++ stretch) := by
  induction text generalizing stretch with
  | nil => rfl
  | cons character rest ih =>
      rw [percentFrom, if_pos (ascii character List.mem_cons_self),
        ih (fun other member => ascii other (List.mem_cons_of_mem _ member))]
      simp

theorem percentDecode_of_ascii (ascii : ∀ character ∈ text, isAscii character = true) :
    percentDecode text = Expectation.character.decode (percentOctets text) := by
  rw [percentDecode, percentFrom_of_ascii ascii, List.append_nil, flushPercent,
    List.reverse_reverse]

theorem isAscii_of_mem_percentEncode (plain : KeptPlain safe)
    (member : character ∈ percentEncode safe text) : isAscii character = true := by
  rcases of_mem_percentEncode member with letter | kept | rfl
  · exact isAscii_of_isAlphanum letter
  · exact plain.ascii _ kept
  · decide

theorem percentDecode_percentEncode (plain : KeptPlain safe) (text : List Char) :
    percentDecode (percentEncode safe text) = text := by
  have octets := percentOctets_percentEncode plain text []
  rw [List.append_nil, percentOctets, List.append_nil] at octets
  have read := decode_encodeUtf8 (String.ofList text)
  rw [encodeUtf8_eq, String.toList_ofList] at read
  rw [percentDecode_of_ascii fun character => isAscii_of_mem_percentEncode plain, octets, read]

end FolderIndex.Text
