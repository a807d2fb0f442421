import FolderIndex.Proofs.Course
import FolderIndex.Proofs.Text.Utf8
import Mathlib.Algebra.Group.Nat.Defs

namespace FolderIndex

/-! Damaged files. Octets that encode nothing leave the text around them as it is, and whatever
they are, they neither make nor swallow, join or part tokens. -/

namespace Text

variable {octet : Nat} {expectation : Expectation} {unfinished : List Char}

/-- What the reading of octets can come to: an octet that begins no character is next, and the
character that it goes on with lies outside ASCII. -/
def Expectation.IsSound : Expectation → Prop
  | .character => True
  | .continuation value left low high =>
      0x80 ≤ low ∧ high ≤ 0xBF ∧ 0x80 ≤ (value * 64 + (low - 0x80)) * 64 ^ left

theorem sound_expectAfterLead (octet : Nat) : (expectAfterLead octet).2.IsSound := by
  unfold expectAfterLead
  split_ifs <;> simp only [Expectation.IsSound] <;> omega

theorem Expectation.IsSound.read (sound : expectation.IsSound) (octet : Nat) :
    (expectation.read octet).2.IsSound := by
  cases expectation with
  | character => exact sound_expectAfterLead octet
  | continuation value left low high =>
      obtain ⟨least, most, beyond⟩ := sound
      simp only [Expectation.read]
      split
      · rename_i within
        cases left with
        | zero => trivial
        | succ left =>
            refine ⟨Nat.le_refl _, Nat.le_refl _, Nat.le_trans beyond ?_⟩
            rw [Nat.pow_succ', ← Nat.mul_assoc]
            refine Nat.mul_le_mul_right _ ?_
            omega
      · exact sound_expectAfterLead octet

/-! What follows damage. -/

/-- An octet that goes on with a character. -/
def Continues (octet : UInt8) : Prop :=
  0x80 ≤ octet.toNat ∧ octet.toNat ≤ 0xBF

/-- Octets that begin with no part of a character that went before. -/
def BeginsAnew (octets : List UInt8) : Prop :=
  ∀ octet ∈ octets.head?, ¬ Continues octet

theorem decode_of_beginsAnew (sound : expectation.IsSound) {octets : List UInt8}
    (anew : BeginsAnew octets) :
    expectation.decode octets = expectation.finish ++ Expectation.character.decode octets := by
  cases expectation with
  | character => rfl
  | continuation value left low high =>
      cases octets with
      | nil => rfl
      | cons octet rest =>
          -- The octet begins a character, so what is unfinished ends here as at the end of all.
          have apart : ¬ (low ≤ octet.toNat ∧ octet.toNat ≤ high) := by
            have begins := anew octet rfl
            unfold Continues at begins
            have least := sound.1
            have most := sound.2.1
            omega
          simp only [Expectation.decode, Expectation.read, if_neg apart]
          rfl

theorem decode_append (sound : expectation.IsSound) (octets : List UInt8) {rest : List UInt8}
    (anew : BeginsAnew rest) :
    expectation.decode (octets ++ rest) =
      expectation.decode octets ++ Expectation.character.decode rest := by
  induction octets generalizing expectation with
  | nil => exact decode_of_beginsAnew sound anew
  | cons octet more ih =>
      simp only [List.cons_append, Expectation.decode]
      rw [ih (sound.read octet.toNat), List.append_assoc]

theorem head?_utf8EncodeChar (character : Char) :
    ∃ octet rest, String.utf8EncodeChar character = octet :: rest ∧ ¬ Continues octet := by
  obtain ⟨whole, small⟩ := lt_of_char character
  have code : character.val.toNat = character.toNat := rfl
  unfold String.utf8EncodeChar Continues
  dsimp only
  rw [code]
  split_ifs <;> refine ⟨_, _, rfl, ?_⟩ <;> rw [toNat_ofNat_octet _ (by omega)] <;> omega

theorem beginsAnew_encodeUtf8 (text : String) : BeginsAnew (encodeUtf8 text) := by
  rw [encodeUtf8_eq]
  cases text.toList with
  | nil => simp [BeginsAnew]
  | cons character rest =>
      obtain ⟨octet, more, encoded, begins⟩ := head?_utf8EncodeChar character
      intro first found
      rw [List.flatMap_cons, encoded, List.cons_append, List.head?_cons] at found
      cases found
      exact begins

theorem decode_encodeUtf8_append (text : String) (rest : List UInt8) :
    Expectation.character.decode (encodeUtf8 text ++ rest) =
      text.toList ++ Expectation.character.decode rest := by
  rw [encodeUtf8_eq]
  induction text.toList with
  | nil => rfl
  | cons character more ih =>
      rw [List.flatMap_cons, List.append_assoc, decode_utf8EncodeChar, ih, List.cons_append]

/-- Text around any octets is read as it stands, and they are read as they would be alone. -/
theorem decodeUtf8_between (before after : String) (octets : List UInt8) :
    decodeUtf8 (encodeUtf8 before ++ octets ++ encodeUtf8 after) =
      before ++ decodeUtf8 octets ++ after := by
  have start : Expectation.character.IsSound := trivial
  rw [decodeUtf8, List.append_assoc, decode_encodeUtf8_append,
    decode_append start octets (beginsAnew_encodeUtf8 after), decode_encodeUtf8]
  simp [decodeUtf8, String.ofList_append, String.append_assoc]

/-! The tokens of damaged text. -/

def characterOf (octet : UInt8) : Char :=
  Char.ofNat octet.toNat

/-- The octets as characters, one for one. -/
def textOfOctets (octets : List UInt8) : String :=
  String.ofList (octets.map characterOf)

theorem isTokenCharacter_ofNat {code : Nat} (beyond : 0x80 ≤ code) :
    isTokenCharacter (Char.ofNat code) = false := by
  rw [Bool.eq_false_iff]
  intro token
  have small := toNat_lt_of_isAlphanum token
  by_cases valid : code.isValidChar
  · have same : (Char.ofNat code).toNat = code := by
      rw [Char.ofNat, dif_pos valid]
      rfl
    omega
  · have none : Char.ofNat code = Char.ofNat 0 := by
      rw [Char.ofNat, dif_neg valid]
      rfl
    rw [none] at token
    revert token
    decide

theorem isTokenCharacter_replacement : isTokenCharacter replacement = false :=
  isTokenCharacter_ofNat (by decide)

theorem expectAfterLead_finish {octet : Nat} (beyond : 0x80 ≤ octet) :
    (expectAfterLead octet).1 ++ (expectAfterLead octet).2.finish = [replacement] := by
  unfold expectAfterLead
  split_ifs <;> first | omega | rfl

/-- One octet, and what it leaves unfinished, part and make up the same runs as the character whose
code it is, behind what was unfinished before. -/
theorem runsFrom_read (sound : expectation.IsSound) (unfinished : List Char) (octet : UInt8)
    (text : List Char) :
    runsFrom isTokenCharacter unfinished ((expectation.read octet.toNat).1 ++
        ((expectation.read octet.toNat).2.finish ++ text)) =
      runsFrom isTokenCharacter unfinished
        (expectation.finish ++ characterOf octet :: text) := by
  have lead : ∀ unfinished, runsFrom isTokenCharacter unfinished
      ((expectAfterLead octet.toNat).1 ++ ((expectAfterLead octet.toNat).2.finish ++ text)) =
        runsFrom isTokenCharacter unfinished (characterOf octet :: text) := by
    intro unfinished
    by_cases beyond : 0x80 ≤ octet.toNat
    · have outside : isTokenCharacter (characterOf octet) = false := isTokenCharacter_ofNat beyond
      rw [← List.append_assoc, expectAfterLead_finish beyond, List.singleton_append,
        runsFrom_separator isTokenCharacter_replacement, runsFrom_separator outside]
    · rw [expectAfterLead, if_pos (Nat.lt_of_not_le beyond)]
      rfl
  cases expectation with
  | character => exact lead unfinished
  | continuation value left low high =>
      obtain ⟨least, _, beyond⟩ := sound
      simp only [Expectation.read, Expectation.finish, List.singleton_append]
      rw [runsFrom_separator isTokenCharacter_replacement]
      split
      -- Whatever the octet completes or leaves unfinished is a separator, as it is itself.
      · rename_i within
        have outside : isTokenCharacter (characterOf octet) = false :=
          isTokenCharacter_ofNat (by omega)
        rw [runs, runsFrom_separator outside]
        cases left with
        | zero =>
            have completed : isTokenCharacter
                (Char.ofNat (value * 64 + (octet.toNat - 0x80))) = false :=
              isTokenCharacter_ofNat (by omega)
            exact runsFrom_separator completed
        | succ left => exact runsFrom_separator isTokenCharacter_replacement
      · rw [List.cons_append, runsFrom_separator isTokenCharacter_replacement]
        exact congrArg _ (lead [])

theorem runsFrom_decode (sound : expectation.IsSound) (unfinished : List Char)
    (octets : List UInt8) :
    runsFrom isTokenCharacter unfinished (expectation.decode octets) =
      runsFrom isTokenCharacter unfinished (expectation.finish ++ octets.map characterOf) := by
  -- What the reader still expects is read as if the octets ended there, so it must be general.
  induction octets generalizing expectation unfinished with
  | nil => simp [Expectation.decode]
  | cons octet rest ih =>
      rw [List.map_cons, ← runsFrom_read sound]
      exact runsFrom_append_congr fun unfinished => ih (sound.read octet.toNat) unfinished

/-- Every token is read off the octets, whatever else they spell. -/
theorem tokenize_decodeUtf8 (octets : List UInt8) :
    tokenize (decodeUtf8 octets) = tokenize (textOfOctets octets) := by
  have start : Expectation.character.IsSound := trivial
  have same : runs isTokenCharacter (Expectation.character.decode octets) =
      runs isTokenCharacter (octets.map characterOf) := runsFrom_decode start [] octets
  simp only [tokenize, decodeUtf8, textOfOctets, String.toList_ofList, same]

/-- The octets of ASCII digits and letters. -/
def isTokenOctet (octet : UInt8) : Bool :=
  (0x30 ≤ octet && octet ≤ 0x39) || (0x41 ≤ octet && octet ≤ 0x5A) ||
    (0x61 ≤ octet && octet ≤ 0x7A)

/-- The octet of the lowercase letter, for that of an uppercase one. -/
def lowerOctet (octet : UInt8) : UInt8 :=
  if 0x41 ≤ octet && octet ≤ 0x5A then octet + 0x20 else octet

theorem forall_octet {held : UInt8 → Prop} (all : ∀ code < 256, held (UInt8.ofNat code))
    (octet : UInt8) : held octet := by
  have written : UInt8.ofNat octet.toNat = octet := UInt8.ofNat_toNat
  exact written ▸ all octet.toNat octet.toNat_lt

theorem isTokenCharacter_characterOf :
    ∀ octet, isTokenCharacter (characterOf octet) = isTokenOctet octet :=
  forall_octet (by decide +kernel)

theorem toLower_characterOf :
    ∀ octet, (characterOf octet).toLower = characterOf (lowerOctet octet) :=
  forall_octet (by decide +kernel)

theorem foldRun_map_characterOf (run : List UInt8) :
    foldRun (run.map characterOf) = textOfOctets (run.map lowerOctet) := by
  simp only [foldRun, textOfOctets, List.map_map]
  congr 2
  funext octet
  exact toLower_characterOf octet

theorem tokenize_textOfOctets (octets : List UInt8) :
    tokenize (textOfOctets octets) =
      firsts ((runs isTokenOctet octets).map fun run => textOfOctets (run.map lowerOctet)) := by
  have classes : (fun octet => isTokenCharacter (characterOf octet)) = isTokenOctet :=
    funext isTokenCharacter_characterOf
  have folded : (runs isTokenCharacter (textOfOctets octets).toList).map foldRun =
      (runs isTokenOctet octets).map fun run => textOfOctets (run.map lowerOctet) := by
    rw [textOfOctets, String.toList_ofList, runs_map, classes, List.map_map]
    exact List.map_congr_left fun run _ => foldRun_map_characterOf run
  have nonempty : ∀ token ∈ (runs isTokenCharacter (textOfOctets octets).toList).map foldRun,
      decide (token ≠ "") = true := by
    intro token member
    obtain ⟨run, found, rfl⟩ := List.mem_map.mp member
    obtain ⟨some, within⟩ := of_mem_runs found
    exact decide_eq_true (foldRun_clean some within).1
  rw [tokenize, distinctTokens, List.filter_eq_self.mpr nonempty, folded]

/-- The tokens of a file hang on nothing but its octets of ASCII letters and digits. What is read
from damaged octets has the tokens that the octets have one by one, and these are their maximal
runs of letters and digits, in lowercase and each at its first place. -/
theorem tokens_are_runs_of_octets (octets : List UInt8) :
    tokenize (decodeUtf8 octets) = tokenize (textOfOctets octets) ∧
    tokenize (decodeUtf8 octets) =
      firsts ((runs isTokenOctet octets).map fun run => textOfOctets (run.map lowerOctet)) :=
  ⟨tokenize_decodeUtf8 octets,
    (tokenize_decodeUtf8 octets).trans (tokenize_textOfOctets octets)⟩

end Text

/-- What is read from octets that stand between two texts stands between these texts, whatever the
octets are; so text alone is read back as it is. It is the same with what is stored, at every
moment of any course: a row shows the octets that some scan found at its path, and the texts in
them around any stretch that is damaged. -/
theorem text_around_damage_is_kept :
    (∀ (before after : String) (octets : List UInt8),
      Text.decodeUtf8 (Text.encodeUtf8 before ++ octets ++ Text.encodeUtf8 after) =
        before ++ Text.decodeUtf8 octets ++ after) ∧
    (∀ text, Text.decodeUtf8 (Text.encodeUtf8 text) = text) ∧
    ∀ {start : Archive} {moment : Moment}, Reached start moment →
      (start.Holds fun tables => tables.rows = []) →
      ∀ number, ∀ row ∈ (moment.archive.database number).committed.rows,
      ∃ visit ∈ moment.visits, visit.path = row.path ∧
        ∀ (before after : String) (octets : List UInt8),
          visit.octets = Text.encodeUtf8 before ++ octets ++ Text.encodeUtf8 after →
            row.content = before ++ Text.decodeUtf8 octets ++ after := by
  refine ⟨Text.decodeUtf8_between, Text.decodeUtf8_encodeUtf8, ?_⟩
  intro start moment reached empty number row member
  have blank : Tables.blank.Reflect moment.visits := Tables.reflect_of_no_rows rfl
  have reflect := ((reached.reflects empty).database blank number).committed
  obtain ⟨visit, known, shows⟩ := reflect.shown row member
  refine ⟨visit, known, shows.path.symm, ?_⟩
  intro before after octets held
  rw [shows.content, held]
  exact Text.decodeUtf8_between before after octets

/-- The first file of the example begins with an octet that announces a character which does not
follow. -/
theorem stored_text_after_damage :
    let rows := (exampleMoment.archive.database 0).committed.rows
    Reached exampleStart exampleMoment ∧ (exampleStart.Holds fun tables => tables.rows = []) ∧
    rows.length = 1 ∧
    ∀ row ∈ rows, row.content = "" ++ Text.decodeUtf8 [0xC3] ++ "(Hi" := by
  refine ⟨exampleMoment_reached, exampleStart_empty, by decide +kernel, ?_⟩
  intro row member
  have visits : exampleMoment.visits = [⟨"/a/x.txt", [0xC3, 0x28, 72, 105]⟩] := by decide +kernel
  obtain ⟨visit, known, _, kept⟩ :=
    text_around_damage_is_kept.2.2 exampleMoment_reached exampleStart_empty 0 row member
  rw [visits] at known
  cases List.mem_singleton.mp known
  exact kept "" "(Hi" [0xC3] (by decide +kernel)

end FolderIndex
