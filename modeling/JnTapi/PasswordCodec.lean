/-
This file models the password codec, `Strings::encryptString` and `decryptString`,
and shows for which passwords and keys the password comes back.

Each character of the key is XORed with the whole text, one after the other. That is one
XOR with all of them together, so that the order of the key does not matter. The
reversed key is stored through an `unsigned` counter, though. A key of the 64-bit build
can have more than 2 ^ 32 characters: there the counter starts again, and the
characters behind the first 2 ^ 32 are lost. The size of the text goes to ATL as an `int`.
-/

import JnTapi.Clock
import JnTapi.Library.Base64
import JnTapi.Library.Store

namespace JnTapi

open Library
open Library.Base64 (Byte)

/-! ### The strings -/

/-- `string`, as its bytes -/
abbrev ByteString := List Byte

namespace Strings

/-- `string::resize`, where new places hold the character zero -/
def resize (str : ByteString) (size : Nat) : ByteString :=
  str.take size ++ List.replicate (size - str.length) 0#8

/-- `Strings::_xorWithChar`, with the `unsigned count` of its loop -/
def xorWithChar (strInput : ByteString) (charXor : Byte) : ByteString :=
  store (strInput.map (· ^^^ charXor)) 0#32 (resize [] strInput.length)

/-- `Strings::_xor` -/
def xor (strInput stringXor : ByteString) : ByteString :=
  stringXor.foldl xorWithChar strInput

/-- `Strings::reverseString`, with the `unsigned count` of its loop -/
def reverseString (strInput : ByteString) : ByteString :=
  store strInput.reverse 0#32 (resize [] strInput.length)

end Strings

/-! ### The conversion of ATL -/

/-- `char output[1024]`, whatever it holds -/
structure Buffer where
  bytes : ByteString
  sized : bytes.length = 1024

/-- `(int)sizeof(output)` -/
def outputSize : Long := 1024#32

/-- What a conversion of ATL returns and leaves behind its two pointers -/
structure Filled where
  ret : Bool
  output : Buffer
  len : Long

/--
The string that the loop behind a conversion copies. A negative length makes `resize`
throw, and a larger one than the buffer's makes the loop read behind the buffer.
-/
def Filled.copied (filled : Filled) : Option ByteString :=
  if 0 ≤ filled.len.toInt ∧ filled.len.toInt ≤ 1024 then
    some (filled.output.bytes.take filled.len.toNat)
  else none

theorem Filled.length_copied_le {filled : Filled} {text : ByteString}
    (copied : filled.copied = some text) : text.length ≤ 1024 := by
  rw [Filled.copied] at copied
  split at copied
  · rw [← Option.some.inj copied, List.length_take, filled.output.sized]
    exact Nat.min_le_right _ _
  · cases copied

/-- The flags `ATL_BASE64_FLAG_NOPAD` and `ATL_BASE64_FLAG_NOCRLF` -/
structure Base64Flags where
  noPad : Bool
  noCrlf : Bool

/-- The two conversions of ATL -/
structure Atl where
  base64Encode : (pbSrcData : ByteString) → (nSrcLen : Long) → (szDest : Buffer) →
    (nDestLen : Long) → (flags : Base64Flags) → Filled
  base64Decode : (szSrc : ByteString) → (nSrcLen : Long) → (pbDest : Buffer) →
    (nDestLen : Long) → Filled

namespace Strings

variable (atl : Atl) (output : Buffer)

/-- The conversion that `encryptString` makes of the XORed string -/
def encoded (strRet : ByteString) : Filled :=
  atl.base64Encode strRet (BitVec.ofNat 32 strRet.length) output outputSize
    { noPad := true, noCrlf := true }

/-- The conversion that `decryptString` makes -/
def decoded (strInput : ByteString) : Filled :=
  atl.base64Decode strInput (BitVec.ofNat 32 strInput.length) output outputSize

/-- `Strings::encryptString` -/
def encryptString (strInput encryptKey : ByteString) : Option ByteString :=
  (encoded atl output (xor strInput encryptKey)).copied

/-- `Strings::decryptString` -/
def decryptString (strInput decryptKey : ByteString) : Option ByteString :=
  (decoded atl output strInput).copied.map fun retString =>
    xor retString (reverseString decryptKey)

end Strings

/-- For a source whose size is an `int`, decoding undoes what encoding has done. -/
def Atl.Undoes (atl : Atl) : Prop :=
  ∀ source : ByteString, source.length < 2 ^ 31 → ∀ output,
    (Strings.encoded atl output source).ret = true →
    ∃ text, (Strings.encoded atl output source).copied = some text ∧
      ∀ output', (Strings.decoded atl output' text).copied = some source

/-! ### One XOR with the whole key -/

namespace Strings

/-- The XOR of all characters -/
def xorAll (chars : ByteString) : Byte :=
  chars.foldr (· ^^^ ·) 0#8

theorem xorAll_perm {chars others : ByteString} (perm : chars.Perm others) :
    xorAll chars = xorAll others := by
  have swaps : LeftCommutative fun char rest : Byte => char ^^^ rest :=
    ⟨fun first second rest => by
      rw [← BitVec.xor_assoc, BitVec.xor_comm first, BitVec.xor_assoc]⟩
  exact perm.foldr_eq 0#8

theorem xorAll_append (chars others : ByteString) :
    xorAll (chars ++ others) = xorAll chars ^^^ xorAll others := by
  induction chars with
  | nil => exact BitVec.zero_xor.symm
  | cons char rest inductionHypothesis =>
    show char ^^^ xorAll (rest ++ others) = char ^^^ xorAll rest ^^^ xorAll others
    rw [inductionHypothesis, BitVec.xor_assoc]

theorem xorAll_zeros (count : Nat) : xorAll (List.replicate count 0#8) = 0#8 := by
  induction count with
  | zero => rfl
  | succ count inductionHypothesis =>
    show 0#8 ^^^ xorAll (List.replicate count 0#8) = 0#8
    rw [inductionHypothesis, BitVec.xor_self]

theorem resize_nil (size : Nat) : resize [] size = List.replicate size 0#8 := by
  rw [resize, List.take_nil, List.nil_append, List.length_nil, Nat.sub_zero]

theorem length_resize_nil (size : Nat) : (resize [] size).length = size := by
  rw [resize_nil, List.length_replicate]

/-- A loop that fills a new string, as long as its counter does not return to zero -/
theorem store_resize {items : ByteString} {size : Nat} (length : items.length = size)
    (short : size ≤ 2 ^ 32) : store items 0#32 (resize [] size) = items := by
  have room : items.length = (resize [] size).length := by rw [length_resize_nil, length]
  rw [store_zero_of_fits items _ (by rwa [length]) room.le, room, List.drop_length,
    List.append_nil]

theorem length_xorWithChar (strInput : ByteString) (charXor : Byte) :
    (xorWithChar strInput charXor).length = strInput.length := by
  rw [xorWithChar, length_store, length_resize_nil]

theorem length_xor (strInput stringXor : ByteString) :
    (xor strInput stringXor).length = strInput.length := by
  induction stringXor generalizing strInput with
  | nil => rfl
  | cons char rest inductionHypothesis =>
    show (xor (xorWithChar strInput char) rest).length = strInput.length
    rw [inductionHypothesis, length_xorWithChar]

theorem xorWithChar_eq {strInput : ByteString} (short : strInput.length ≤ 2 ^ 32)
    (charXor : Byte) : xorWithChar strInput charXor = strInput.map (· ^^^ charXor) :=
  store_resize (List.length_map _) short

/-- The passes of the key's characters are one pass with all of them. -/
theorem xor_eq {strInput : ByteString} (short : strInput.length ≤ 2 ^ 32)
    (stringXor : ByteString) : xor strInput stringXor = strInput.map (· ^^^ xorAll stringXor) := by
  induction stringXor generalizing strInput with
  | nil =>
    show strInput = strInput.map (· ^^^ 0#8)
    simp only [BitVec.xor_zero, List.map_id']
  | cons char rest inductionHypothesis =>
    show xor (xorWithChar strInput char) rest = strInput.map (· ^^^ (char ^^^ xorAll rest))
    rw [inductionHypothesis (by rwa [length_xorWithChar]), xorWithChar_eq short, List.map_map]
    exact List.map_congr_left fun byte _ => BitVec.xor_assoc byte char (xorAll rest)

/-- The reversed key has the XOR of the characters that its counter reaches in one round. -/
theorem xorAll_reverseString (strInput : ByteString) :
    xorAll (reverseString strInput) = xorAll (strInput.take (2 ^ 32)) := by
  rcases Nat.le_total strInput.length (2 ^ 32) with short | long
  · rw [reverseString, store_resize List.length_reverse short, List.take_of_length_le short]
    exact xorAll_perm strInput.reverse_perm
  · have size : strInput.reverse.length ≤ (resize [] strInput.length).length := by
      rw [length_resize_nil, List.length_reverse]
    have stored := store_perm_of_wraps strInput.reverse (resize [] strInput.length)
      (by rwa [List.length_reverse]) size
    rw [reverseString, xorAll_perm stored, xorAll_append, resize_nil, List.drop_replicate,
      xorAll_zeros, BitVec.xor_zero, List.length_reverse, List.drop_reverse,
      Nat.sub_sub_self long]
    exact xorAll_perm (List.reverse_perm _)

/-- What the key XORs going in and its reverse coming back -/
theorem xorAll_xor_reverseString (key : ByteString) :
    xorAll key ^^^ xorAll (reverseString key) = xorAll (key.drop (2 ^ 32)) := by
  have parts : xorAll key = xorAll (key.take (2 ^ 32)) ^^^ xorAll (key.drop (2 ^ 32)) := by
    rw [← xorAll_append, List.take_append_drop]
  rw [xorAll_reverseString, parts, BitVec.xor_comm, ← BitVec.xor_assoc, BitVec.xor_self,
    BitVec.zero_xor]

theorem map_xor_eq_self_iff {strInput : ByteString} {charXor : Byte} :
    strInput.map (· ^^^ charXor) = strInput ↔ strInput = [] ∨ charXor = 0#8 := by
  constructor
  · intro same
    cases strInput with
    | nil => exact Or.inl rfl
    | cons char rest =>
      rw [List.map_cons, List.cons.injEq] at same
      have unchanged : char ^^^ charXor = char ^^^ 0#8 := by rw [same.1, BitVec.xor_zero]
      exact Or.inr ((BitVec.xor_right_inj char).mp unchanged)
  · rintro (rfl | rfl)
    · rfl
    · simp only [BitVec.xor_zero, List.map_id']

end Strings

/-! ### Base64 as ATL converts it -/

/-- The buffer with the text in front -/
def Buffer.overwrite (buffer : Buffer) (text : ByteString) : Buffer where
  bytes := (text ++ buffer.bytes.drop text.length).take 1024
  sized := by
    rw [List.length_take, List.length_append, List.length_drop, buffer.sized]
    omega

/-- What a conversion leaves that has written the text -/
def Filled.written (buffer : Buffer) (text : ByteString) : Filled where
  ret := true
  output := buffer.overwrite text
  len := BitVec.ofNat 32 text.length

theorem toInt_ofNat_of_lt {size : Nat} (small : size < 2 ^ 31) :
    (BitVec.ofNat 32 size).toInt = size := by
  rw [BitVec.toInt_eq_toNat_cond, BitVec.toNat_ofNat]
  omega

theorem Filled.copied_written (buffer : Buffer) {text : ByteString}
    (fits : text.length ≤ 1024) : (Filled.written buffer text).copied = some text := by
  have len : (Filled.written buffer text).len.toInt = text.length :=
    toInt_ofNat_of_lt (by omega)
  have size : (Filled.written buffer text).len.toNat = text.length := by
    show (BitVec.ofNat 32 text.length).toNat = text.length
    rw [BitVec.toNat_ofNat, Nat.mod_eq_of_lt (by omega)]
  rw [Filled.copied, len, size, if_pos (by omega)]
  show some (((text ++ buffer.bytes.drop text.length).take 1024).take text.length) = some text
  rw [List.take_take, Nat.min_eq_left fits, List.take_left]

namespace Example

/-- Base64 as ATL converts it for the flags of the program, into a buffer that is large enough -/
def atl : Atl where
  base64Encode pbSrcData nSrcLen szDest nDestLen flags :=
    let source := pbSrcData.take nSrcLen.toInt.toNat
    if flags.noPad ∧ flags.noCrlf ∧ 4 * ((source.length + 2) / 3) ≤ nDestLen.toNat then
      Filled.written szDest (Base64.encode source)
    else ⟨false, szDest, nDestLen⟩
  base64Decode szSrc nSrcLen pbDest nDestLen :=
    let text := Base64.decode (szSrc.take nSrcLen.toInt.toNat)
    if text.length ≤ nDestLen.toNat then Filled.written pbDest text
    else ⟨false, pbDest, BitVec.ofNat 32 text.length⟩

theorem take_size {str : ByteString} (small : str.length < 2 ^ 31) :
    str.take (BitVec.ofNat 32 str.length).toInt.toNat = str := by
  rw [toInt_ofNat_of_lt small, Int.toNat_natCast, List.take_length]

theorem encoded_eq {source : ByteString} (output : Buffer) (small : source.length < 2 ^ 31) :
    Strings.encoded atl output source =
      if 4 * ((source.length + 2) / 3) ≤ 1024 then Filled.written output (Base64.encode source)
      else ⟨false, output, outputSize⟩ := by
  rw [Strings.encoded, atl]
  simp only [take_size small, true_and]
  rfl

theorem atl_undoes : atl.Undoes := by
  intro source small output succeeds
  rw [encoded_eq output small] at succeeds ⊢
  split at succeeds
  case isFalse => cases succeeds
  case isTrue fits =>
    have size : (Base64.encode source).length ≤ 1024 := by
      rw [Base64.length_encode]
      omega
    have room : source.length ≤ 1024 := by omega
    refine ⟨Base64.encode source, ?_, fun output' => ?_⟩
    · rw [if_pos fits, Filled.copied_written output size]
    · rw [Strings.decoded, atl]
      simp only [take_size (show (Base64.encode source).length < 2 ^ 31 by omega)]
      rw [Base64.decode_encode, if_pos (show source.length ≤ outputSize.toNat from room),
        Filled.copied_written output' room]

theorem encoded_ret {source : ByteString} (output : Buffer)
    (fits : 4 * ((source.length + 2) / 3) ≤ 1024) :
    (Strings.encoded atl output source).ret = true := by
  rw [encoded_eq output (by omega), if_pos fits]
  rfl

/-- `char output[1024]`, full of zeros -/
def zeros : Buffer where
  bytes := List.replicate 1024 0#8
  sized := List.length_replicate

end Example

/-! ### There and back -/

namespace Strings

variable {atl : Atl} {output output' : Buffer} {strInput key : ByteString}

theorem length_decryptString_le {text result : ByteString}
    (decrypted : decryptString atl output text key = some result) : result.length ≤ 1024 := by
  obtain ⟨retString, copied, rfl⟩ := Option.map_eq_some_iff.mp decrypted
  rw [length_xor]
  exact Filled.length_copied_le copied

/-- Decrypting leaves the XOR of the characters of the key that its reverse has lost. -/
theorem decryptString_encryptString (undoes : atl.Undoes) (small : strInput.length < 2 ^ 31)
    (succeeds : (encoded atl output (xor strInput key)).ret = true) :
    (encryptString atl output strInput key).bind (decryptString atl output' · key) =
      some (strInput.map (· ^^^ xorAll (key.drop (2 ^ 32)))) := by
  have length := length_xor strInput key
  obtain ⟨text, written, read⟩ := undoes (xor strInput key) (by rwa [length]) output succeeds
  have short : strInput.length ≤ 2 ^ 32 := by omega
  rw [encryptString, written, Option.bind_some, decryptString, read output', Option.map_some,
    xor_eq (by rwa [length]), xor_eq short, List.map_map, ← xorAll_xor_reverseString]
  exact congrArg some (List.map_congr_left fun byte _ => BitVec.xor_assoc byte _ _)

/-- Where the counter reaches the whole key, every text that ATL encodes comes back. -/
theorem decryptString_encryptString_of_le (undoes : atl.Undoes)
    (small : strInput.length < 2 ^ 31) (reached : key.length ≤ 2 ^ 32)
    (succeeds : (encoded atl output (xor strInput key)).ret = true) :
    (encryptString atl output strInput key).bind (decryptString atl output' · key) =
      some strInput := by
  rw [decryptString_encryptString undoes small succeeds, List.drop_eq_nil_of_le reached]
  exact congrArg some (map_xor_eq_self_iff.mpr (Or.inr rfl))

/-- `KEY_VALUE` -/
def keyValue : ByteString :=
  "JunctionNetworksOnSipHostPbx".toList.map fun char => BitVec.ofNat 8 char.toNat

/-- Every password that ATL encodes comes back with the key of the program. -/
theorem decryptString_encryptString_keyValue (undoes : atl.Undoes)
    (small : strInput.length < 2 ^ 31)
    (succeeds : (encoded atl output (xor strInput keyValue)).ret = true) :
    (encryptString atl output strInput keyValue).bind
      (decryptString atl output' · keyValue) = some strInput :=
  decryptString_encryptString_of_le undoes small (by decide) succeeds

/--
The text comes back if and only if its size is an `int` and, unless it is empty, the
characters of the key behind the first 2 ^ 32 cancel out.
-/
theorem decrypts_iff (undoes : atl.Undoes) (output output' : Buffer)
    (strInput key : ByteString)
    (succeeds : (encoded atl output (xor strInput key)).ret = true) :
    (encryptString atl output strInput key).bind (decryptString atl output' · key) =
        some strInput ↔
      strInput.length < 2 ^ 31 ∧ (strInput = [] ∨ xorAll (key.drop (2 ^ 32)) = 0#8) := by
  by_cases small : strInput.length < 2 ^ 31
  · rw [decryptString_encryptString undoes small succeeds, Option.some_inj, map_xor_eq_self_iff]
    exact (and_iff_right small).symm
  · constructor
    · intro back
      obtain ⟨text, -, decrypted⟩ := Option.bind_eq_some_iff.mp back
      have length := length_decryptString_le decrypted
      omega
    · exact fun both => absurd both.1 small

end Strings

namespace Example

/-- A text with a zero and a high character comes back. -/
theorem decrypts_zero_and_high :
    (Strings.encryptString atl zeros [0#8, 255#8] [65#8, 98#8]).bind
        (Strings.decryptString atl zeros · [65#8, 98#8]) = some [0#8, 255#8] :=
  (Strings.decrypts_iff atl_undoes zeros zeros [0#8, 255#8] [65#8, 98#8]
    (encoded_ret zeros (by decide))).mpr ⟨by decide, Or.inr rfl⟩

/-- A key with one character more than the counter has values -/
def longKey : ByteString := List.replicate (2 ^ 32 + 1) 97#8

/-- The reverse of the long key has lost one `a`, so that an `x` comes back as `x ^ 'a'`. -/
theorem longKey_loses :
    atl.Undoes ∧ (Strings.encoded atl zeros (Strings.xor [120#8] longKey)).ret = true ∧
      (Strings.encryptString atl zeros [120#8] longKey).bind
        (Strings.decryptString atl zeros · longKey) = some [25#8] ∧
      (Strings.encryptString atl zeros [120#8] longKey).bind
        (Strings.decryptString atl zeros · longKey) ≠ some [120#8] := by
  have succeeds : (Strings.encoded atl zeros (Strings.xor [120#8] longKey)).ret = true :=
    encoded_ret zeros (by rw [Strings.length_xor]; decide)
  have lost : Strings.xorAll (longKey.drop (2 ^ 32)) = 97#8 := by
    rw [longKey, List.drop_replicate, Nat.add_sub_cancel_left]
    rfl
  have back : (Strings.encryptString atl zeros [120#8] longKey).bind
      (Strings.decryptString atl zeros · longKey) = some [25#8] := by
    rw [Strings.decryptString_encryptString atl_undoes (by decide) succeeds, lost]
    rfl
  exact ⟨atl_undoes, succeeds, back, by rw [back]; decide⟩

end Example

end JnTapi
