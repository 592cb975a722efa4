import BoundQuery.Cache.Key
import BoundQuery.Proofs.Nesting
import BoundQuery.Proofs.ScalarText

/-!
What a cache key is made of. The text that is hashed can be taken apart in one way only, although
nothing stands between the SQL and the values; of the values it gives back the JSON text of each.
-/

set_option autoImplicit false

namespace BoundQuery

/-- The bytes whose digest is the key of a statement. -/
def hashedBytes (sql : String) (bindings : List Value) : ByteArray :=
  (String.ofList (keyPreimage sql bindings)).toUTF8

theorem generateKey_eq (start sql : String) (bindings : List Value) (hashLength : Nat) :
    generateKey start sql bindings hashLength =
      start ++ "query:" ++ String.ofList
        (((Sha256.hash (hashedBytes sql bindings).toList).flatMap Sha256.hexByte).take
          (hashDigits hashLength)) :=
  rfl

theorem hashedBytes_eq_iff {first second : String} {firstValues secondValues : List Value} :
    hashedBytes first firstValues = hashedBytes second secondValues ↔
      keyPreimage first firstValues = keyPreimage second secondValues := by
  unfold hashedBytes String.toUTF8
  rw [String.toByteArray_inj, String.ofList_inj]

/-- The values begin where the longest ending begins that is the text of an array. -/
theorem sql_of_keyPreimage {first second : String} {firstValues secondValues : List Value}
    (same : keyPreimage first firstValues = keyPreimage second secondValues) : first = second := by
  obtain ⟨one, oneWritten, oneListing⟩ := Json.listing_items (firstValues.map Value.toJson)
  obtain ⟨two, twoWritten, twoListing⟩ := Json.listing_items (secondValues.map Value.toJson)
  unfold keyPreimage Value.encodeAll at same
  rw [oneWritten, twoWritten] at same
  apply String.toList_inj.mp
  rcases List.append_eq_append_iff.mp same with ⟨more, longer, values⟩ | ⟨more, longer, values⟩
  · rw [Json.front_nil_of_arrays oneListing twoListing values, List.append_nil] at longer
    exact longer.symm
  · rw [Json.front_nil_of_arrays twoListing oneListing values, List.append_nil] at longer
    exact longer

theorem keyPreimage_eq_iff {first second : String} {firstValues secondValues : List Value} :
    keyPreimage first firstValues = keyPreimage second secondValues ↔
      first = second ∧ Value.encodeAll firstValues = Value.encodeAll secondValues := by
  constructor
  · intro same
    have text := sql_of_keyPreimage same
    subst text
    exact ⟨rfl, List.append_cancel_left same⟩
  · rintro ⟨rfl, values⟩
    unfold keyPreimage
    rw [values]

/-- The hashed bytes determine the SQL text, and what of them belongs to the values. -/
theorem hashed_bytes_split_uniquely (first second : String)
    (firstValues secondValues : List Value) :
    hashedBytes first firstValues = hashedBytes second secondValues ↔
      first = second ∧ Value.encodeAll firstValues = Value.encodeAll secondValues := by
  rw [hashedBytes_eq_iff, keyPreimage_eq_iff]

theorem encodeAll_eq_iff {first second : List Value} :
    Value.encodeAll first = Value.encodeAll second ↔
      first.map Value.encode = second.map Value.encode := by
  have texts : ∀ values : List Value,
      values.map Value.encode = ((values.map Value.toJson).map Json.write).map String.ofList := by
    intro values
    rw [List.map_map, List.map_map]
    rfl
  unfold Value.encodeAll
  rw [texts, texts]
  constructor
  · intro same
    rw [Json.map_write_of_writeItems (List.cons.inj same).2]
  · intro same
    have written := (List.map_inj_right (fun _ _ => String.ofList_inj.mp)).mp same
    rw [Json.writeItems_of_map_write written]

/-- For one SQL text the hashed bytes are the same exactly where the values have the same JSON
texts, one by one. Two different scalars in one place are told apart, whatever is around them. -/
theorem hashed_bytes_tell_texts_apart (sql : String) (first second : List Value) :
    (hashedBytes sql first = hashedBytes sql second ↔
        first.map Value.encode = second.map Value.encode) ∧
      (hashedBytes sql first = hashedBytes sql second →
        ∀ (place : Nat) (value other : Value), first[place]? = some value →
          second[place]? = some other → value.Scalar → other.Scalar → value = other) := by
  have texts : hashedBytes sql first = hashedBytes sql second ↔
      first.map Value.encode = second.map Value.encode := by
    rw [hashedBytes_eq_iff, keyPreimage_eq_iff, encodeAll_eq_iff]
    exact and_iff_right rfl
  refine ⟨texts, ?_⟩
  intro same place value other one two scalar also
  have encoded := congrArg (fun texts => texts[place]?) (texts.mp same)
  simp only [List.getElem?_map, one, two, Option.map_some, Option.some.injEq] at encoded
  exact Value.encode_inj scalar also encoded

/-- Numbers outside the reals have no JSON text of their own, so the two infinities are not told
apart. -/
theorem infinities_share_hashed_bytes :
    (Value.float (1.0 / 0.0)).beq (.float (-1.0 / 0.0)) = false ∧
      hashedBytes "SELECT * FROM \"items\" WHERE \"price\" < $1" [.float (1.0 / 0.0)] =
        hashedBytes "SELECT * FROM \"items\" WHERE \"price\" < $1" [.float (-1.0 / 0.0)] := by
  refine ⟨by decide, ?_⟩
  rw [hashedBytes_eq_iff]
  decide +kernel

end BoundQuery
