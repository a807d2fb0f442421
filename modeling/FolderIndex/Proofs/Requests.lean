import FolderIndex.Proofs.Text.Percent
import FolderIndex.Service

namespace FolderIndex

/-! Requests by the parameters that they carry. Whatever the names and values of these are, they can
be written into a target, and are read from it as they were. -/

namespace Text

/-- The characters beside letters and digits that have no other meaning in an address. -/
def unreserved : List Char := ['-', '.', '_', '~']

theorem keptPlain_unreserved : KeptPlain unreserved :=
  ⟨List.all_eq_true.mp (by decide), by decide⟩

/-- What has a meaning in a target does not stand in escaped text. -/
theorem ne_of_mem_escaped {character : Char} {text : List Char}
    (member : character ∈ percentEncode unreserved text) :
    character ≠ '&' ∧ character ≠ '=' ∧ character ≠ '+' := by
  rcases of_mem_percentEncode member with letter | kept | rfl
  · refine ⟨?_, ?_, ?_⟩ <;> rintro rfl <;> exact absurd letter (by decide)
  · refine ⟨?_, ?_, ?_⟩ <;> rintro rfl <;> exact absurd kept (by decide)
  · decide

end Text

namespace Request

variable {method : String} {path : List Char} {pairs : List (String × String)}

/-- A parameter as it is written into a target. -/
def pieceOf (pair : String × String) : List Char :=
  Text.percentEncode Text.unreserved pair.1.toList ++
    '=' :: Text.percentEncode Text.unreserved pair.2.toList

/-- A request with the given parameters. -/
def ofPairs (method : String) (path : List Char) (pairs : List (String × String)) : Request :=
  ⟨method, String.ofList (path ++ '?' :: ['&'].intercalate (pairs.map pieceOf)), []⟩

theorem split_at {separator : Char} (left right : List Char)
    (without : ∀ character ∈ left, character ≠ separator) :
    (left ++ separator :: right).takeWhile (· ≠ separator) = left ∧
      ((left ++ separator :: right).dropWhile (· ≠ separator)).drop 1 = right := by
  have inside : ∀ character ∈ left, decide (character ≠ separator) = true := by
    simpa using without
  rw [List.takeWhile_append_of_pos inside, List.dropWhile_append_of_pos inside]
  simp

theorem decodePart_percentEncode (text : String) :
    decodePart (Text.percentEncode Text.unreserved text.toList) = text := by
  have plain : (Text.percentEncode Text.unreserved text.toList).map
      (fun character => if character = '+' then ' ' else character) =
        Text.percentEncode Text.unreserved text.toList := by
    refine (List.map_congr_left fun character member => ?_).trans (List.map_id _)
    exact if_neg (Text.ne_of_mem_escaped member).2.2
  rw [decodePart, plain, Text.percentDecode_percentEncode Text.keptPlain_unreserved,
    String.ofList_toList]

theorem parameterOf_pieceOf (pair : String × String) : parameterOf (pieceOf pair) = pair := by
  obtain ⟨front, back⟩ := split_at (Text.percentEncode Text.unreserved pair.1.toList)
    (Text.percentEncode Text.unreserved pair.2.toList)
    fun character member => (Text.ne_of_mem_escaped member).2.1
  rw [parameterOf, pieceOf, front, back, decodePart_percentEncode, decodePart_percentEncode]

theorem of_mem_pieceOf {pair : String × String} {character : Char}
    (member : character ∈ pieceOf pair) :
    character ≠ '&' ∧ Text.isAscii character = true := by
  simp only [pieceOf, List.mem_append, List.mem_cons] at member
  rcases member with name | rfl | value
  · exact ⟨(Text.ne_of_mem_escaped name).1,
      Text.isAscii_of_mem_percentEncode Text.keptPlain_unreserved name⟩
  · decide
  · exact ⟨(Text.ne_of_mem_escaped value).1,
      Text.isAscii_of_mem_percentEncode Text.keptPlain_unreserved value⟩

/-- The octets of ASCII text are its characters. -/
theorem map_encodeUtf8_of_ascii {text : List Char}
    (ascii : ∀ character ∈ text, Text.isAscii character = true) :
    (Text.encodeUtf8 (String.ofList text)).map (fun octet => Char.ofNat octet.toNat) = text := by
  rw [Text.encodeUtf8_eq, String.toList_ofList]
  induction text with
  | nil => rfl
  | cons character rest ih =>
      have first := ascii character List.mem_cons_self
      have small : character.toNat < 256 := by
        simp only [Text.isAscii, decide_eq_true_eq] at first
        omega
      rw [List.flatMap_cons, Text.utf8EncodeChar_of_isAscii first, List.map_append,
        ih fun other member => ascii other (List.mem_cons_of_mem _ member)]
      simp [Text.toNat_ofNat_octet _ small]

/-- The parameters of a request are those that it was made with. -/
theorem parameters_ofPairs (plain : ∀ character ∈ path, character ≠ '?') :
    (ofPairs method path pairs).parameters = pairs := by
  have ascii : ∀ character ∈ ['&'].intercalate (pairs.map pieceOf),
      Text.isAscii character = true := by
    intro character member
    rcases of_mem_intercalate member with rfl | ⟨piece, among, within⟩
    · decide
    · obtain ⟨pair, _, rfl⟩ := List.mem_map.mp among
      exact (of_mem_pieceOf within).2
  have pieces : ∀ piece ∈ pairs.map pieceOf,
      piece ≠ [] ∧ ∀ character ∈ piece, decide (character ≠ '&') = true := by
    intro piece among
    obtain ⟨pair, _, rfl⟩ := List.mem_map.mp among
    exact ⟨by simp [pieceOf], fun character member => by simpa using (of_mem_pieceOf member).1⟩
  have query : (ofPairs method path pairs).queryText = ['&'].intercalate (pairs.map pieceOf) := by
    rw [queryText, ofPairs, String.toList_ofList]
    exact (split_at _ _ plain).2
  rw [parameters, query, map_encodeUtf8_of_ascii ascii, runs_intercalate (by decide) pieces,
    List.map_map]
  refine (List.map_congr_left fun pair _ => ?_).trans (List.map_id _)
  exact parameterOf_pieceOf pair

/-- A search for a query, with a limit if there is one. -/
structure Asks (request : Request) (query : String) (limit? : Option Int) : Prop where
  method : request.method = "GET"
  path : request.path = Endpoint.search.path
  query : request.parameter? "q" = some query
  limit : request.parameter? "limit" = limit?.map toString

def ofSearch (query : String) (limit? : Option Int) : Request :=
  ofPairs "GET" Endpoint.search.path
    (("q", query) :: (limit?.map fun limit => ("limit", toString limit)).toList)

/-- Every search can be asked for. -/
theorem asks_ofSearch (query : String) (limit? : Option Int) :
    (ofSearch query limit?).Asks query limit? := by
  have plain : ∀ character ∈ Endpoint.search.path, character ≠ '?' := by
    rintro _ member rfl
    exact absurd member (by decide)
  have parameters : (ofSearch query limit?).parameters =
      ("q", query) :: (limit?.map fun limit => ("limit", toString limit)).toList :=
    parameters_ofPairs plain
  have path : (ofSearch query limit?).path = Endpoint.search.path := by
    rw [Request.path, ofSearch, ofPairs, String.toList_ofList, (split_at _ _ plain).1]
    decide +kernel
  refine ⟨rfl, path, ?_, ?_⟩ <;> rw [parameter?, parameters] <;> cases limit? <;> simp

end Request

end FolderIndex
