import FolderIndex.Text.Utf8

namespace FolderIndex.Text

/-! Text that was made into octets is read back from them as it was. -/

namespace Expectation

variable {octet : UInt8} {rest : List UInt8} {value left low high : Nat}

theorem decode_of_lead
    (announces : expectAfterLead octet.toNat = ([], .continuation value left low high)) :
    character.decode (octet :: rest) = (continuation value left low high).decode rest := by
  simp only [decode, read, announces, List.nil_append]

theorem decode_of_last (above : low ≤ octet.toNat) (below : octet.toNat ≤ high) :
    (continuation value 0 low high).decode (octet :: rest) =
      Char.ofNat (value * 64 + (octet.toNat - 0x80)) :: character.decode rest := by
  simp only [decode, read, above, below, and_self, if_true, List.singleton_append]

theorem decode_of_next (above : low ≤ octet.toNat) (below : octet.toNat ≤ high) :
    (continuation value (left + 1) low high).decode (octet :: rest) =
      (continuation (value * 64 + (octet.toNat - 0x80)) left 0x80 0xBF).decode rest := by
  simp only [decode, read, above, below, and_self, if_true, List.nil_append]

end Expectation

variable {code : Nat}

theorem toNat_ofNat_octet (value : Nat) (small : value < 256) :
    (UInt8.ofNat value).toNat = value := by
  simp [UInt8.toNat_ofNat', Nat.mod_eq_of_lt small]

/-- The first octet of two announces a character of no fewer. -/
theorem expectAfterLead_of_two (above : 0x7F < code) (below : code ≤ 0x7FF) :
    expectAfterLead (code / 64 % 0x20 + 0xC0) = ([], .continuation (code / 64) 0 0x80 0xBF) := by
  have value : code / 64 % 0x20 + 0xC0 - 0xC0 = code / 64 := by omega
  rw [expectAfterLead, if_neg (by omega), if_neg (by omega), if_pos (by omega), value]

/-- The first octet of three bounds the second, so that no character of fewer octets and no half of
a pair is spelled so. -/
theorem expectAfterLead_of_three (above : 0x7FF < code) (below : code ≤ 0xFFFF)
    (whole : code < 0xD800 ∨ 0xDFFF < code) :
    ∃ low high, expectAfterLead (code / 4096 % 0x10 + 0xE0) =
        ([], .continuation (code / 4096) 1 low high) ∧
      low ≤ code / 64 % 0x40 + 0x80 ∧ code / 64 % 0x40 + 0x80 ≤ high := by
  have value : code / 4096 % 0x10 + 0xE0 - 0xE0 = code / 4096 := by omega
  unfold expectAfterLead
  rw [if_neg (by omega), if_neg (by omega), if_neg (by omega)]
  by_cases first : code / 4096 = 0
  · rw [if_pos (by omega), first]
    exact ⟨0xA0, 0xBF, rfl, by omega, by omega⟩
  · rw [if_neg (by omega)]
    by_cases pairs : code / 4096 = 0xD
    · rw [if_pos (by omega), pairs]
      exact ⟨0x80, 0x9F, rfl, by omega, by omega⟩
    · rw [if_neg (by omega), if_pos (by omega), value]
      exact ⟨0x80, 0xBF, rfl, by omega, by omega⟩

/-- The first octet of four bounds the second, so that no character of fewer octets and none beyond
the last is spelled so. -/
theorem expectAfterLead_of_four (above : 0xFFFF < code) (below : code < 0x110000) :
    ∃ low high, expectAfterLead (code / 262144 % 0x08 + 0xF0) =
        ([], .continuation (code / 262144) 2 low high) ∧
      low ≤ code / 4096 % 0x40 + 0x80 ∧ code / 4096 % 0x40 + 0x80 ≤ high := by
  have value : code / 262144 % 0x08 + 0xF0 - 0xF0 = code / 262144 := by omega
  unfold expectAfterLead
  rw [if_neg (by omega), if_neg (by omega), if_neg (by omega), if_neg (by omega), if_neg (by omega),
    if_neg (by omega)]
  by_cases first : code / 262144 = 0
  · rw [if_pos (by omega), first]
    exact ⟨0x90, 0xBF, rfl, by omega, by omega⟩
  · rw [if_neg (by omega)]
    by_cases last : code / 262144 = 4
    · rw [if_neg (by omega), if_pos (by omega), last]
      exact ⟨0x80, 0x8F, rfl, by omega, by omega⟩
    · rw [if_pos (by omega), value]
      exact ⟨0x80, 0xBF, rfl, by omega, by omega⟩

theorem lt_of_char (character : Char) :
    (character.toNat < 0xD800 ∨ 0xDFFF < character.toNat) ∧ character.toNat < 0x110000 := by
  have valid := character.valid
  simp only [UInt32.isValidChar, Nat.isValidChar] at valid
  change (_ < 0xD800 ∨ 0xDFFF < _ ∧ _ < 0x110000) at valid
  unfold Char.toNat
  omega

/-- The octet that goes on with a character, by the part of the character that it holds. -/
theorem toNat_continuing (part : Nat) :
    (UInt8.ofNat (part % 0x40 + 0x80)).toNat = part % 0x40 + 0x80 :=
  toNat_ofNat_octet _ (by omega)

theorem decode_two (above : 0x7F < code) (below : code ≤ 0x7FF) (rest : List UInt8) :
    Expectation.character.decode (UInt8.ofNat (code / 64 % 0x20 + 0xC0) ::
        UInt8.ofNat (code % 0x40 + 0x80) :: rest) =
      Char.ofNat code :: Expectation.character.decode rest := by
  have lead := toNat_ofNat_octet (code / 64 % 0x20 + 0xC0) (by omega)
  have announces := expectAfterLead_of_two above below
  rw [← lead] at announces
  have total : code / 64 * 64 + (code % 0x40 + 0x80 - 0x80) = code := by omega
  rw [Expectation.decode_of_lead announces,
    Expectation.decode_of_last (by rw [toNat_continuing]; omega) (by rw [toNat_continuing]; omega),
    toNat_continuing, total]

theorem decode_three (above : 0x7FF < code) (below : code ≤ 0xFFFF)
    (whole : code < 0xD800 ∨ 0xDFFF < code) (rest : List UInt8) :
    Expectation.character.decode (UInt8.ofNat (code / 4096 % 0x10 + 0xE0) ::
        UInt8.ofNat (code / 64 % 0x40 + 0x80) :: UInt8.ofNat (code % 0x40 + 0x80) :: rest) =
      Char.ofNat code :: Expectation.character.decode rest := by
  have lead := toNat_ofNat_octet (code / 4096 % 0x10 + 0xE0) (by omega)
  obtain ⟨low, high, announces, least, most⟩ := expectAfterLead_of_three above below whole
  rw [← lead] at announces
  rw [← toNat_continuing] at least most
  have total : (code / 4096 * 64 + (code / 64 % 0x40 + 0x80 - 0x80)) * 64 +
      (code % 0x40 + 0x80 - 0x80) = code := by omega
  rw [Expectation.decode_of_lead announces, Expectation.decode_of_next least most,
    Expectation.decode_of_last (by rw [toNat_continuing]; omega) (by rw [toNat_continuing]; omega),
    toNat_continuing, toNat_continuing, total]

theorem decode_four (above : 0xFFFF < code) (below : code < 0x110000)
    (rest : List UInt8) :
    Expectation.character.decode (UInt8.ofNat (code / 262144 % 0x08 + 0xF0) ::
        UInt8.ofNat (code / 4096 % 0x40 + 0x80) :: UInt8.ofNat (code / 64 % 0x40 + 0x80) ::
        UInt8.ofNat (code % 0x40 + 0x80) :: rest) =
      Char.ofNat code :: Expectation.character.decode rest := by
  have lead := toNat_ofNat_octet (code / 262144 % 0x08 + 0xF0) (by omega)
  obtain ⟨low, high, announces, least, most⟩ := expectAfterLead_of_four above below
  rw [← lead] at announces
  rw [← toNat_continuing] at least most
  have total : ((code / 262144 * 64 + (code / 4096 % 0x40 + 0x80 - 0x80)) * 64 +
      (code / 64 % 0x40 + 0x80 - 0x80)) * 64 + (code % 0x40 + 0x80 - 0x80) = code := by omega
  rw [Expectation.decode_of_lead announces, Expectation.decode_of_next least most,
    Expectation.decode_of_next (by rw [toNat_continuing]; omega) (by rw [toNat_continuing]; omega),
    Expectation.decode_of_last (by rw [toNat_continuing]; omega) (by rw [toNat_continuing]; omega),
    toNat_continuing, toNat_continuing, toNat_continuing, total]

/-- The octets of one character are read as that character. -/
theorem decode_utf8EncodeChar (character : Char) (rest : List UInt8) :
    Expectation.character.decode (String.utf8EncodeChar character ++ rest) =
      character :: Expectation.character.decode rest := by
  obtain ⟨whole, small⟩ := lt_of_char character
  have same : Char.ofNat character.toNat = character := Char.ofNat_toNat character
  have code : character.val.toNat = character.toNat := rfl
  unfold String.utf8EncodeChar
  dsimp only
  rw [code]
  split
  · have octet := toNat_ofNat_octet character.toNat (by omega)
    simp [Expectation.decode, Expectation.read, octet, expectAfterLead, same,
      show character.toNat < 0x80 by omega]
  · split
    · exact (decode_two (by omega) (by omega) rest).trans (by rw [same])
    · split
      · exact (decode_three (by omega) (by omega) whole rest).trans (by rw [same])
      · exact (decode_four (by omega) small rest).trans (by rw [same])

/-- From some index on, the octets of an array are listed behind those that are listed already. -/
theorem toList_loop_eq (octets : ByteArray) (index : Nat) (listed : List UInt8) :
    ByteArray.toList.loop octets index listed =
      listed.reverse ++ octets.data.toList.drop index := by
  fun_induction ByteArray.toList.loop octets index listed with
  | case1 index listed within ih =>
      have more : index < octets.data.toList.length := by simpa using within
      rw [ih, List.drop_eq_getElem_cons more]
      simp [ByteArray.get!, within]
  | case2 index listed beyond =>
      rw [List.drop_eq_nil_of_le (by simpa using Nat.le_of_not_lt beyond)]
      simp

/-- The octets of a text are those of its characters. -/
theorem encodeUtf8_eq (text : String) :
    encodeUtf8 text = text.toList.flatMap String.utf8EncodeChar := by
  have bytes : text.toUTF8 = (text.toList.flatMap String.utf8EncodeChar).toByteArray :=
    String.utf8Encode_toList.symm
  rw [encodeUtf8, bytes, ByteArray.toList, toList_loop_eq, List.toList_data_toByteArray]
  rfl

theorem decode_encodeUtf8 (text : String) :
    Expectation.character.decode (encodeUtf8 text) = text.toList := by
  rw [encodeUtf8_eq]
  induction text.toList with
  | nil => rfl
  | cons character rest ih => rw [List.flatMap_cons, decode_utf8EncodeChar, ih]

theorem decodeUtf8_encodeUtf8 (text : String) : decodeUtf8 (encodeUtf8 text) = text := by
  rw [decodeUtf8, decode_encodeUtf8, String.ofList_toList]

end FolderIndex.Text
