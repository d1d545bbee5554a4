import Mathlib.Data.List.Basic

/-! # Decoding UTF-8

`TextDecoder` drops a leading byte order mark. Then it decodes the rest: a fatal decoder refuses ill-formed bytes,
and any other one replaces each of their maximal parts. Texts are lists of code points.

What a fatal decoder accepts is the encoding of its text, after a byte order mark or without one
(`decodeFatal_eq_some`), and there both decoders agree (`decodeLossy_eq`). So the text of a decoder says everything
about the bytes but whether they started with a byte order mark (`encode_eq_iff`). -/

namespace VentureOS.TextDecoder

/-- The instance of the core library, also where other instances are imported. -/
instance (priority := 2000) decidableEqByteArray : DecidableEq ByteArray := ByteArray.instDecidableEq

/-- The byte order mark. -/
def bom : ByteArray := [0xEF, 0xBB, 0xBF].toByteArray

/-- The bytes start with a byte order mark. -/
def hasBom (bytes : ByteArray) : Bool := decide (bytes.extract 0 3 = bom)

/-- The bytes after a byte order mark. -/
def dropBom (bytes : ByteArray) : ByteArray := if hasBom bytes then bytes.extract 3 bytes.size else bytes

/-- `new TextEncoder().encode(text)`. -/
def encode (text : List Char) : ByteArray := (String.ofList text).toUTF8

/-- `new TextDecoder('utf-8', { fatal: true }).decode(bytes)`. -/
def decodeFatal (bytes : ByteArray) : Option (List Char) :=
  (String.fromUTF8? (dropBom bytes)).map String.toList

/-- How many of the bytes, which start with an ill-formed sequence, one replacement stands for. -/
def illFormedLength : List UInt8 → Nat
  | a :: b :: rest =>
    let lower : UInt8 := if a = 0xE0 then 0xA0 else if a = 0xF0 then 0x90 else 0x80
    let upper : UInt8 := if a = 0xED then 0x9F else if a = 0xF4 then 0x8F else 0xBF
    if 0xE0 ≤ a ∧ a ≤ 0xF4 ∧ lower ≤ b ∧ b ≤ upper then
      match rest with
      | c :: _ => if 0xF0 ≤ a ∧ 0x80 ≤ c ∧ c ≤ 0xBF then 3 else 2
      | [] => 2
    else 1
  | _ => 1

/-- Decode up to `fuel` characters. -/
def replaceIllFormed : Nat → ByteArray → List Char
  | 0, _ => []
  | fuel + 1, bytes =>
    if bytes.size = 0 then []
    else
      match bytes.utf8DecodeChar? 0 with
      | some c => c :: replaceIllFormed fuel (bytes.extract c.utf8Size bytes.size)
      | none =>
        '\uFFFD' :: replaceIllFormed fuel (bytes.extract (illFormedLength bytes.data.toList) bytes.size)

/-- `new TextDecoder().decode(bytes)`. -/
def decodeLossy (bytes : ByteArray) : List Char := replaceIllFormed bytes.size (dropBom bytes)

/-! ## Well-formed bytes -/

theorem encode_eq (text : List Char) : encode text = text.utf8Encode := String.toByteArray_ofList

variable {text : List Char}

theorem encode_injective {text' : List Char} (h : encode text = encode text') : text = text' :=
  String.ofList_injective (String.toByteArray_inj.mp h)

theorem encode_append (text text' : List Char) : encode (text ++ text') = encode text ++ encode text' := by
  rw [encode_eq, encode_eq, encode_eq, List.utf8Encode_append]

theorem size_encode_cons (c : Char) (text : List Char) :
    (encode (c :: text)).size = c.utf8Size + (encode text).size := by
  rw [encode_eq, encode_eq, List.utf8Encode_cons, ByteArray.size_append, List.utf8Encode_singleton,
    List.size_toByteArray, String.length_utf8EncodeChar]

theorem length_le_size_encode (text : List Char) : text.length ≤ (encode text).size := by
  induction text with
  | nil => exact Nat.zero_le _
  | cons c text ih =>
    have hpos := Char.utf8Size_pos c
    rw [size_encode_cons, List.length_cons]
    omega

theorem size_encode_le (text : List Char) : (encode text).size ≤ 4 * text.length := by
  induction text with
  | nil => exact Nat.le_refl _
  | cons c text ih =>
    have hsize : c.utf8Size ≤ 4 := Char.utf8Size_le_four c
    rw [size_encode_cons, List.length_cons]
    omega

variable {bytes : ByteArray}

theorem fromUTF8?_eq_some :
    (String.fromUTF8? bytes).map String.toList = some text ↔ bytes = encode text := by
  rw [Option.map_eq_some_iff]
  constructor
  · rintro ⟨s, hs, rfl⟩
    unfold String.fromUTF8? at hs
    split at hs
    · cases hs
      rw [encode, String.ofList_toList]
      rfl
    · cases hs
  · rintro rfl
    refine ⟨String.ofList text, ?_, String.toList_ofList⟩
    unfold String.fromUTF8?
    split
    · rfl
    · rename_i hinvalid
      exact absurd (String.ofList text).isValidUTF8 hinvalid

/-- Every encoded text is decoded as it was. -/
theorem replaceIllFormed_encode {fuel : Nat} (h : text.length ≤ fuel) :
    replaceIllFormed fuel (encode text) = text := by
  induction text generalizing fuel with
  | nil =>
    cases fuel with
    | zero => rfl
    | succ fuel => rfl
  | cons c text ih =>
    cases fuel with
    | zero => cases h
    | succ fuel =>
      have hpos := Char.utf8Size_pos c
      have hsize := size_encode_cons c text
      have hchar : (encode (c :: text)).utf8DecodeChar? 0 = some c := by
        rw [encode_eq]
        exact List.utf8DecodeChar?_utf8Encode_cons
      have hrest : (encode (c :: text)).extract c.utf8Size (encode (c :: text)).size = encode text := by
        rw [encode_eq, encode_eq, List.utf8Encode_cons, List.utf8Encode_singleton]
        refine ByteArray.extract_append_eq_right ?_ ?_
        · rw [List.size_toByteArray, String.length_utf8EncodeChar]
        · rw [ByteArray.size_append]
      rw [replaceIllFormed, if_neg (by omega)]
      simp only [hchar, hrest]
      rw [ih (Nat.le_of_succ_le_succ h)]

/-! ## Byte order marks -/

theorem dropBom_of_not (h : hasBom bytes = false) : dropBom bytes = bytes := by
  rw [dropBom, h]
  rfl

theorem size_dropBom_le (bytes : ByteArray) : (dropBom bytes).size ≤ bytes.size := by
  unfold dropBom
  split
  · rw [ByteArray.size_extract]
    omega
  · exact Nat.le_refl _

/-- Bytes are those after the byte order mark, if they have none. -/
theorem dropBom_eq_iff (bytes : ByteArray) : dropBom bytes = bytes ↔ hasBom bytes = false := by
  refine ⟨fun h => ?_, dropBom_of_not⟩
  by_contra hbom
  rw [Bool.not_eq_false] at hbom
  rw [dropBom, if_pos hbom] at h
  have hsize := congrArg ByteArray.size h
  have hextract := congrArg ByteArray.size (of_decide_eq_true hbom)
  have hthree : bom.size = 3 := rfl
  rw [ByteArray.size_extract] at hsize hextract
  omega

/-- A byte order mark before the bytes is dropped. -/
theorem dropBom_bom (bytes : ByteArray) : hasBom (bom ++ bytes) = true ∧ dropBom (bom ++ bytes) = bytes := by
  have hbom : hasBom (bom ++ bytes) = true := decide_eq_true (ByteArray.extract_append_eq_left rfl)
  refine ⟨hbom, ?_⟩
  rw [dropBom, if_pos hbom]
  exact ByteArray.extract_append_eq_right rfl (ByteArray.size_append)

theorem bom_append_dropBom (h : hasBom bytes = true) : bom ++ dropBom bytes = bytes := by
  have hlength := congrArg ByteArray.size (of_decide_eq_true h)
  have hthree : bom.size = 3 := rfl
  rw [ByteArray.size_extract] at hlength
  have hmax : max 3 bytes.size = bytes.size := by omega
  rw [dropBom, if_pos h]
  conv => lhs; rw [← of_decide_eq_true h]
  rw [ByteArray.extract_append_extract, Nat.zero_min, hmax, ByteArray.extract_zero_size]

/-! ## Lines -/

/-- The bytes end with a newline. -/
def endsLine (bytes : ByteArray) : Bool := decide (bytes.extract (bytes.size - 1) bytes.size = [10].toByteArray)

/-- The bytes before the newline. -/
def line (bytes : ByteArray) : ByteArray := bytes.extract 0 (bytes.size - 1)

theorem line_append (h : endsLine bytes = true) : line bytes ++ [10].toByteArray = bytes := by
  rw [← of_decide_eq_true h, line, ByteArray.extract_append_extract]
  have hmax : max (bytes.size - 1) bytes.size = bytes.size := by omega
  rw [Nat.zero_min, hmax, ByteArray.extract_zero_size]

theorem encode_newline (text : List Char) : encode (text ++ ['\n']) = encode text ++ [10].toByteArray := by
  have hnewline : encode ['\n'] = [10].toByteArray := by decide
  rw [encode_append, hnewline]

theorem endsLine_append (bytes : ByteArray) : endsLine (bytes ++ [10].toByteArray) = true := by
  have hone : [(10 : UInt8)].toByteArray.size = 1 := rfl
  refine decide_eq_true (ByteArray.extract_append_eq_right ?_ ByteArray.size_append)
  rw [ByteArray.size_append, hone]
  rfl

theorem line_append_newline (bytes : ByteArray) : line (bytes ++ [10].toByteArray) = bytes := by
  have hone : [(10 : UInt8)].toByteArray.size = 1 := rfl
  refine ByteArray.extract_append_eq_left ?_
  rw [ByteArray.size_append, hone]
  rfl

/-- Bytes that start with another byte than the mark have no mark. -/
theorem hasBom_of_ne {b : UInt8} (h : b ≠ 0xEF) (bytes : ByteArray) : hasBom ([b].toByteArray ++ bytes) = false := by
  by_contra hbom
  rw [Bool.not_eq_false] at hbom
  have hmark : bom = [0xEF].toByteArray ++ [0xBB, 0xBF].toByteArray := by decide
  have hsplit := bom_append_dropBom hbom
  have hsize : [(0xEF : UInt8)].toByteArray.size = [b].toByteArray.size := by
    rw [List.size_toByteArray, List.size_toByteArray]
    rfl
  rw [hmark, ByteArray.append_assoc] at hsplit
  have hfirst := ((ByteArray.append_eq_append_iff_of_size_eq_left hsize).mp hsplit).1
  rw [List.toByteArray_inj, List.cons.injEq] at hfirst
  exact h hfirst.1.symm

/-- A text that starts with a brace starts with no byte order mark. -/
theorem hasBom_encode_brace (tail : List Char) : hasBom (encode ('{' :: tail)) = false := by
  have hbrace : encode ['{'] = [0x7B].toByteArray := by decide
  rw [← List.singleton_append, encode_append, hbrace]
  exact hasBom_of_ne (by decide) _

/-- A line starts with a byte order mark when the bytes before its newline do. -/
theorem hasBom_append_newline (bytes : ByteArray) : hasBom (bytes ++ [10].toByteArray) = hasBom bytes := by
  unfold hasBom
  by_cases hsize : 3 ≤ bytes.size
  · have hinit : (bytes ++ [10].toByteArray).extract 0 3 = bytes.extract 0 3 := by
      have hzero : 3 - bytes.size = 0 := by omega
      rw [ByteArray.extract_append, hzero, Nat.zero_sub, ByteArray.extract_same, ByteArray.append_empty]
    rw [hinit]
  · -- A newline is not the last byte of the mark.
    have hthree : bom.size = 3 := rfl
    have hone : [(10 : UInt8)].toByteArray.size = 1 := rfl
    have hbefore : bytes.extract 0 3 ≠ bom := by
      intro heq
      have hlength := congrArg ByteArray.size heq
      rw [ByteArray.size_extract] at hlength
      omega
    have hafter : (bytes ++ [10].toByteArray).extract 0 3 ≠ bom := by
      intro heq
      have hlength := congrArg ByteArray.size heq
      rw [ByteArray.size_extract, ByteArray.size_append] at hlength
      have htwo : bytes.size = 2 := by omega
      have hwhole : (bytes ++ [10].toByteArray).extract 0 3 = bytes ++ [10].toByteArray := by
        have hall : (3 : Nat) = (bytes ++ [10].toByteArray).size := by
          rw [ByteArray.size_append]
          omega
        rw [hall, ByteArray.extract_zero_size]
      have hmark : bom = [0xEF, 0xBB].toByteArray ++ [0xBF].toByteArray := by decide
      rw [hwhole, hmark, ByteArray.append_eq_append_iff_of_size_eq_left htwo] at heq
      exact absurd heq.2 (by decide)
    rw [decide_eq_false hbefore, decide_eq_false hafter]

theorem dropBom_line (h : endsLine bytes = true) :
    dropBom bytes = dropBom (line bytes) ++ [10].toByteArray := by
  have hline := line_append h
  have hbom := hasBom_append_newline (line bytes)
  rw [hline] at hbom
  cases hmark : hasBom (line bytes) with
  | false => rw [dropBom_of_not (hbom.trans hmark), dropBom_of_not hmark, hline]
  | true =>
    have hsplit : bytes = bom ++ (dropBom (line bytes) ++ [10].toByteArray) := by
      rw [← ByteArray.append_assoc, bom_append_dropBom hmark, hline]
    have hdrop := (dropBom_bom (dropBom (line bytes) ++ [10].toByteArray)).2
    rwa [← hsplit] at hdrop

/-! ## Decoders -/

/-- **A fatal decoder accepts the encodings of texts**, after a byte order mark or without one. -/
theorem decodeFatal_eq_some :
    decodeFatal bytes = some text ↔ dropBom bytes = encode text :=
  fromUTF8?_eq_some

/-- What a fatal decoder accepts is decoded to the same text by any decoder. -/
theorem decodeLossy_eq (h : dropBom bytes = encode text) :
    decodeLossy bytes = text := by
  have hsize := size_dropBom_le bytes
  have hlength := length_le_size_encode text
  rw [decodeLossy, h]
  rw [h] at hsize
  exact replaceIllFormed_encode (Nat.le_trans hlength hsize)

/-- A line that a fatal decoder accepts is the encoding of its text and a newline. -/
theorem dropBom_of_line (hends : endsLine bytes = true)
    (h : decodeFatal (line bytes) = some text) : dropBom bytes = encode (text ++ ['\n']) := by
  rw [dropBom_line hends, decodeFatal_eq_some.mp h, encode_newline]

/-- **The text of a decoder encodes to the bytes exactly when they start with no byte order mark.** -/
theorem encode_eq_iff (h : dropBom bytes = encode text) :
    encode text = bytes ↔ hasBom bytes = false := by
  rw [← h]
  exact dropBom_eq_iff bytes

/-- Two inputs with the same text differ in nothing but a byte order mark. -/
theorem eq_iff_hasBom {bytes' : ByteArray} (h : dropBom bytes = dropBom bytes') :
    bytes = bytes' ↔ hasBom bytes = hasBom bytes' := by
  constructor
  · rintro rfl
    rfl
  · intro hbom
    cases hmark : hasBom bytes with
    | false =>
      have hmark' : hasBom bytes' = false := hbom.symm.trans hmark
      rw [dropBom_of_not hmark, dropBom_of_not hmark'] at h
      exact h
    | true =>
      have hmark' : hasBom bytes' = true := hbom.symm.trans hmark
      have hsplit := bom_append_dropBom hmark
      rw [h, bom_append_dropBom hmark'] at hsplit
      exact hsplit.symm

/-! ## Decoding with replacement -/

/-- `Buffer.from(bytes).toString('utf8')`, which keeps a byte order mark. -/
def toUtf8 (bytes : ByteArray) : List Char := replaceIllFormed bytes.size bytes

/-- The bytes of a text, as a list. -/
def octets (text : List Char) : List UInt8 := text.flatMap String.utf8EncodeChar

theorem encode_eq_octets (text : List Char) : encode text = (octets text).toByteArray := encode_eq text

theorem octets_append (text text' : List Char) : octets (text ++ text') = octets text ++ octets text' :=
  List.flatMap_append

/-- A text without a replacement was not replaced anywhere. -/
theorem replaceIllFormed_valid {fuel : Nat} (hfuel : bytes.size ≤ fuel)
    (hvalid : '\uFFFD' ∉ replaceIllFormed fuel bytes) : encode (replaceIllFormed fuel bytes) = bytes := by
  induction fuel generalizing bytes with
  | zero =>
    have hempty : bytes = ByteArray.empty := ByteArray.size_eq_zero_iff.mp (by omega)
    rw [hempty]
    rfl
  | succ fuel ih =>
    rw [replaceIllFormed] at hvalid ⊢
    split
    · rename_i hzero
      rw [ByteArray.size_eq_zero_iff.mp hzero]
      rfl
    · rename_i hpos
      rw [if_neg hpos] at hvalid
      split
      · rename_i c hchar
        simp only [hchar, List.mem_cons, not_or] at hvalid
        have hsplit := ByteArray.eq_of_utf8DecodeChar?_eq_some hchar
        have hsize := Char.utf8Size_pos c
        have hrest : (bytes.extract c.utf8Size bytes.size).size ≤ fuel := by
          rw [ByteArray.size_extract]
          omega
        rw [← List.singleton_append, encode_append, ih hrest hvalid.2, encode_eq, List.utf8Encode_singleton]
        exact hsplit.symm
      · rename_i hnone
        simp only [hnone] at hvalid
        exact absurd List.mem_cons_self hvalid

/-- **Bytes that are decoded without a replacement are the encoding of their text.** -/
theorem encode_toUtf8 (h : '\uFFFD' ∉ toUtf8 bytes) : encode (toUtf8 bytes) = bytes :=
  replaceIllFormed_valid (Nat.le_refl _) h

theorem toUtf8_encode (text : List Char) : toUtf8 (encode text) = text :=
  replaceIllFormed_encode (length_le_size_encode text)

theorem octets_of_toUtf8 {bytes : List UInt8} (h : '\uFFFD' ∉ toUtf8 bytes.toByteArray) :
    bytes = octets (toUtf8 bytes.toByteArray) := by
  have hencode := encode_toUtf8 h
  rw [encode_eq_octets, List.toByteArray_inj] at hencode
  exact hencode.symm

/-- No character but the newline has the byte of a newline. -/
theorem newline_mem_utf8EncodeChar {c : Char} : 10 ∈ String.utf8EncodeChar c ↔ c = '\n' := by
  constructor
  · intro h
    have byte : ∀ n : Nat, (10 : UInt8) = UInt8.ofNat n → n % 256 = 10 := by
      intro n hn
      have hcode := congrArg UInt8.toNat hn
      rw [UInt8.toNat_ofNat'] at hcode
      exact hcode.symm
    simp only [String.utf8EncodeChar] at h
    split at h
    · rename_i hsmall
      have hcode := byte _ (List.mem_singleton.mp h)
      have hval : c.val.toNat = 10 := by omega
      exact Char.ext (UInt32.toNat_inj.mp hval)
    · -- All bytes of a longer character are 128 at least.
      exfalso
      split at h
      · simp only [List.mem_cons, List.not_mem_nil, or_false] at h
        rcases h with h | h <;> (have hcode := byte _ h; omega)
      · split at h
        · simp only [List.mem_cons, List.not_mem_nil, or_false] at h
          rcases h with h | h | h <;> (have hcode := byte _ h; omega)
        · simp only [List.mem_cons, List.not_mem_nil, or_false] at h
          rcases h with h | h | h | h <;> (have hcode := byte _ h; omega)
  · rintro rfl
    decide

theorem newline_mem_octets : 10 ∈ octets text ↔ '\n' ∈ text := by
  simp [octets, List.mem_flatMap, newline_mem_utf8EncodeChar]

end VentureOS.TextDecoder
