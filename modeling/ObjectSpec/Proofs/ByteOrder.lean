/-!
# Code points and bytes

Names stand in the order of their code points. This is also the order of their
UTF-8 bytes: the encoding of a character begins with a byte that grows with the
number of bytes, and from there on with the code point, so the first difference
between two texts is decided alike in characters and in bytes.
-/

namespace ObjectSpec
namespace Text

/-- The bytes of a text in UTF-8. -/
def utf8Bytes (text : String) : List UInt8 :=
  text.toUTF8.data.toList

/-- Whether the UTF-8 bytes of a text come before those of another, the first
byte in which they differ being decisive. -/
def BytesBefore (first second : String) : Prop :=
  List.Lex (· < ·) (utf8Bytes first) (utf8Bytes second)

theorem utf8Bytes_eq_flatMap (text : String) :
    utf8Bytes text = text.toList.flatMap String.utf8EncodeChar := by
  have encoded : text.toUTF8 = text.toList.utf8Encode := by
    rw [← String.toByteArray_ofList, String.ofList_toList]
    rfl
  rw [utf8Bytes, encoded, List.utf8Encode, List.toList_data_toByteArray]

/-- Bytes are compared like the numbers they are made of, as long as these are
small. -/
theorem ofNat_cons_lt
    {first second : Nat}
    {rest others : List UInt8}
    (notAfter : first ≤ second)
    (small : second < 256)
    (equal : first = second → rest < others) :
    UInt8.ofNat first :: rest < UInt8.ofNat second :: others := by
  rw [List.cons_lt_cons_iff]
  rcases Nat.lt_or_eq_of_le notAfter with before | same
  · exact .inl ((UInt8.ofNat_lt_iff_lt (Nat.lt_trans before small) small).2
      before)
  · exact .inr ⟨congrArg UInt8.ofNat same, equal same⟩

/-- The bytes of a code point by their number. -/
inductive Encoded (code : Nat) : List UInt8 → Prop
  | one :
      code ≤ 127 →
      Encoded code [.ofNat code]
  | two :
      127 < code → code ≤ 2047 →
      Encoded code [.ofNat (code / 64 % 32 + 192), .ofNat (code % 64 + 128)]
  | three :
      2047 < code → code ≤ 65535 →
      Encoded code
        [.ofNat (code / 4096 % 16 + 224), .ofNat (code / 64 % 64 + 128),
          .ofNat (code % 64 + 128)]
  | four :
      65535 < code → code ≤ 1114111 →
      Encoded code
        [.ofNat (code / 262144 % 8 + 240), .ofNat (code / 4096 % 64 + 128),
          .ofNat (code / 64 % 64 + 128), .ofNat (code % 64 + 128)]

theorem encoded_utf8EncodeChar (character : Char) :
    Encoded character.val.toNat (String.utf8EncodeChar character) := by
  have bounded : character.val.toNat ≤ 1114111 := by
    rcases character.valid with low | ⟨_, high⟩
    · exact Nat.le_trans (Nat.le_of_lt low) (by decide)
    · exact Nat.le_of_lt_succ high
  unfold String.utf8EncodeChar
  dsimp only
  split
  next low => exact .one low
  next aboveOne =>
      split
      next low => exact .two (Nat.lt_of_not_le aboveOne) low
      next aboveTwo =>
          split
          next low => exact .three (Nat.lt_of_not_le aboveTwo) low
          next aboveThree => exact .four (Nat.lt_of_not_le aboveThree) bounded

/-- The bytes of two code points are in the order of the code points, whatever
follows them. -/
theorem Encoded.append_lt
    {code other : Nat}
    {bytes otherBytes : List UInt8}
    (encoded : Encoded code bytes)
    (otherEncoded : Encoded other otherBytes)
    (less : code < other)
    (rest others : List UInt8) :
    bytes ++ rest < otherBytes ++ others := by
  cases encoded <;> cases otherEncoded
  all_goals
    simp only [List.cons_append, List.nil_append]
    refine ofNat_cons_lt (by omega) (by omega) fun leadSame => ?_
  -- The lead bytes differ unless both have the same number of bytes, more than
  -- one.
  all_goals try omega
  case two.two =>
    exact ofNat_cons_lt (by omega) (by omega) fun lastSame => by omega
  case three.three =>
    refine ofNat_cons_lt (by omega) (by omega) fun secondSame => ?_
    exact ofNat_cons_lt (by omega) (by omega) fun lastSame => by omega
  case four.four =>
    refine ofNat_cons_lt (by omega) (by omega) fun secondSame => ?_
    refine ofNat_cons_lt (by omega) (by omega) fun thirdSame => ?_
    exact ofNat_cons_lt (by omega) (by omega) fun lastSame => by omega

theorem flatMap_utf8EncodeChar_lt
    {first second : List Char}
    (before : first < second) :
    first.flatMap String.utf8EncodeChar <
      second.flatMap String.utf8EncodeChar := by
  induction before with
  | @nil character rest =>
      rw [List.flatMap_nil, List.flatMap_cons]
      obtain ⟨byte, bytes, encoded⟩ :=
        List.exists_cons_of_ne_nil
          (String.utf8EncodeChar_ne_nil (c := character))
      rw [encoded]
      exact List.nil_lt_cons _ _
  | @rel character rest other others less =>
      rw [List.flatMap_cons, List.flatMap_cons]
      exact (encoded_utf8EncodeChar character).append_lt
        (encoded_utf8EncodeChar other) less _ _
  | cons _ inductionHypothesis =>
      rw [List.flatMap_cons, List.flatMap_cons]
      exact List.append_left_lt inductionHypothesis

/-- The bytes of two texts are in the order of the texts. -/
theorem bytesBefore_iff_lt {first second : String} :
    BytesBefore first second ↔ first < second := by
  have forward {left right : String} (before : left < right) :
      BytesBefore left right := by
    rw [BytesBefore, utf8Bytes_eq_flatMap, utf8Bytes_eq_flatMap]
    exact List.lex_lt.2 (flatMap_utf8EncodeChar_lt before)
  refine ⟨?_, forward⟩
  intro before
  have bytesBefore := List.lex_lt.1 before
  refine String.not_le.1 fun notBefore => ?_
  by_cases after : second < first
  · exact List.lt_asymm bytesBefore (List.lex_lt.1 (forward after))
  · obtain rfl : first = second :=
      String.le_antisymm (String.not_lt.1 after) notBefore
    exact List.lt_irrefl _ bytesBefore

end Text
end ObjectSpec
