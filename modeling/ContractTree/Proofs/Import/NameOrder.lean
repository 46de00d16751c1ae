import ContractTree.Import.Batch
import Mathlib.Tactic.SplitIfs

namespace ContractTree

/-!
# The order of names

Names are compared by their code points, one after the other.  The bytes of a name are
its encoding in UTF-8, and this encoding keeps the order: of two code points the
smaller one has the smaller bytes, and no encoding is the beginning of another.  So
names may as well be compared by their bytes.
-/

namespace SourceName

/-- The encoding of a name. -/
def bytes (name : SourceName) : List UInt8 := name.toUTF8.data.toList

theorem bytes_eq (name : SourceName) : name.bytes = name.toList.flatMap String.utf8EncodeChar := by
  have encoded : (String.ofList name.toList).toByteArray = name.toList.utf8Encode :=
    String.toByteArray_ofList
  rw [String.ofList_toList] at encoded
  change name.toByteArray.data.toList = _
  rw [encoded, List.utf8Encode, List.data_toByteArray]

/-! ## Encodings that keep the order -/

/-- Numbers below a bound are encoded in their order, whatever follows. -/
def Increasing (bound : Nat) (encode : Nat → List UInt8) : Prop :=
  ∀ low high, low < high → high < bound →
    ∀ rest other, encode low ++ rest < encode high ++ other

theorem byte_lt_byte {low high : Nat} (smaller : low < high) (bounded : high < 256) :
    UInt8.ofNat low < UInt8.ofNat high := by
  rw [UInt8.lt_iff_toNat_lt, UInt8.toNat_ofNat', UInt8.toNat_ofNat']
  omega

theorem append_lt_append (start : List UInt8) {rest other : List UInt8} (smaller : rest < other) :
    start ++ rest < start ++ other := by
  induction start with
  | nil => exact smaller
  | cons byte later ih => exact List.cons_lt_cons_iff.2 (.inr ⟨rfl, ih⟩)

/-- A first byte that holds a number, in a range of its own. -/
theorem increasing_first {size base : Nat} (fits : size + base ≤ 256) :
    Increasing size fun code => [UInt8.ofNat (code % size + base)] := by
  intro low high smaller bounded rest other
  refine List.cons_lt_cons_iff.2 (.inl (byte_lt_byte ?_ ?_))
  · rw [Nat.mod_eq_of_lt bounded, Nat.mod_eq_of_lt (Nat.lt_trans smaller bounded)]
    omega
  · have digit := Nat.mod_lt high (Nat.zero_lt_of_lt bounded)
    omega

/-- One more byte holds one more digit to base 64. -/
theorem Increasing.continued {bound : Nat} {encode : Nat → List UInt8}
    (increasing : Increasing bound encode) :
    Increasing (bound * 64) fun code =>
      encode (code / 64) ++ [UInt8.ofNat (code % 64 + 128)] := by
  intro low high smaller bounded rest other
  rw [List.append_assoc, List.append_assoc]
  have digits : low / 64 < high / 64 ∨ low / 64 = high / 64 ∧ low % 64 < high % 64 := by omega
  rcases digits with before | ⟨same, last⟩
  · exact increasing _ _ before (by omega) _ _
  · rw [same]
    refine append_lt_append _ (List.cons_lt_cons_iff.2 (.inl (byte_lt_byte ?_ ?_))) <;> omega

/-! ## The bytes of one code point -/

theorem increasing_one : Increasing 128 fun code => [UInt8.ofNat code] := by
  intro low high smaller bounded rest other
  exact List.cons_lt_cons_iff.2 (.inl (byte_lt_byte smaller (by omega)))

theorem increasing_two : Increasing 2048 fun code =>
    [UInt8.ofNat (code / 64 % 32 + 192), UInt8.ofNat (code % 64 + 128)] :=
  (increasing_first (by decide : 32 + 192 ≤ 256)).continued

theorem increasing_three : Increasing 65536 fun code =>
    [UInt8.ofNat (code / 4096 % 16 + 224), UInt8.ofNat (code / 64 % 64 + 128),
      UInt8.ofNat (code % 64 + 128)] := by
  have increasing := (increasing_first (by decide : 16 + 224 ≤ 256)).continued.continued
  simp only [Nat.div_div_eq_div_mul] at increasing
  exact increasing

theorem increasing_four : Increasing 2097152 fun code =>
    [UInt8.ofNat (code / 262144 % 8 + 240), UInt8.ofNat (code / 4096 % 64 + 128),
      UInt8.ofNat (code / 64 % 64 + 128), UInt8.ofNat (code % 64 + 128)] := by
  have increasing := (increasing_first (by decide : 8 + 240 ≤ 256)).continued.continued.continued
  simp only [Nat.div_div_eq_div_mul] at increasing
  exact increasing

theorem code_lt (character : Char) : character.val.toNat < 1114112 := by
  have valid := character.valid
  omega

/-- Of two code points, the bytes of the smaller one are smaller, whatever follows.  If
they have the same number of bytes, the digits are compared.  Otherwise the first bytes
differ, since they tell how many bytes there are. -/
theorem encode_lt {first second : Char} (smaller : first < second) (rest other : List UInt8) :
    String.utf8EncodeChar first ++ rest < String.utf8EncodeChar second ++ other := by
  have values : first.val.toNat < second.val.toNat := UInt32.lt_iff_toNat_lt.1 smaller
  have bounded := code_lt second
  unfold String.utf8EncodeChar
  generalize first.val.toNat = low, second.val.toNat = high at values bounded
  dsimp only
  have longer : ∀ {byte byte' : Nat} {later later' : List UInt8}, byte < byte' → byte' < 256 →
      UInt8.ofNat byte :: later ++ rest < UInt8.ofNat byte' :: later' ++ other :=
    fun less bounded => List.cons_lt_cons_iff.2 (.inl (byte_lt_byte less bounded))
  split_ifs
  · exact increasing_one _ _ values (by omega) _ _
  · exact longer (by omega) (by omega)
  · exact longer (by omega) (by omega)
  · exact longer (by omega) (by omega)
  · omega
  · exact increasing_two _ _ values (by omega) _ _
  · exact longer (by omega) (by omega)
  · exact longer (by omega) (by omega)
  · omega
  · omega
  · exact increasing_three _ _ values (by omega) _ _
  · exact longer (by omega) (by omega)
  · omega
  · omega
  · omega
  · exact increasing_four _ _ values (by omega) _ _

/-! ## The bytes of names -/

/-- Characters are compared first to last, and so are their bytes. -/
theorem encode_lt_of_lt {first second : List Char} (smaller : first < second) :
    first.flatMap String.utf8EncodeChar < second.flatMap String.utf8EncodeChar := by
  induction first generalizing second with
  | nil =>
    cases second with
    | nil => cases smaller
    | cons other later =>
      rw [List.flatMap_nil, List.flatMap_cons]
      rcases List.exists_cons_of_ne_nil String.utf8EncodeChar_ne_nil with ⟨byte, bytes, encoded⟩
      rw [encoded]
      exact List.nil_lt_cons _ _
  | cons character rest ih =>
    cases second with
    | nil => exact absurd smaller (List.not_lt_nil _)
    | cons other later =>
      rw [List.flatMap_cons, List.flatMap_cons]
      rcases List.cons_lt_cons_iff.1 smaller with less | ⟨rfl, less⟩
      · exact encode_lt less _ _
      · exact append_lt_append _ (ih less)

/-- One name is before another if its bytes are. -/
theorem lt_iff_bytes_lt {first second : SourceName} :
    first < second ↔ first.bytes < second.bytes := by
  have forward : ∀ {first second : SourceName}, first < second → first.bytes < second.bytes := by
    intro first second smaller
    have characters : first.toList < second.toList := smaller
    rw [bytes_eq, bytes_eq]
    exact encode_lt_of_lt characters
  refine ⟨forward, fun smaller => String.not_le.1 fun above => ?_⟩
  by_cases below : second < first
  · exact List.lt_asymm smaller (forward below)
  · have same : second = first := String.le_antisymm above (String.not_lt.1 below)
    rw [same] at smaller
    exact List.lt_irrefl _ smaller

/-- Names are ordered as their bytes are. -/
theorem le_iff_bytes_le {first second : SourceName} :
    first ≤ second ↔ first.bytes ≤ second.bytes := by
  rw [← String.not_lt, lt_iff_bytes_lt]
  rfl

end SourceName
end ContractTree
