/-
Values at an exact width are written without loss.

An integer goes out as the bytes of its type. Read as a number, the most significant first, they are the value again;
the signed types are in two's complement, so that the upper half of the numbers stands for the negative ones
(`IntegerType.read`). A text goes out in one of three encodings. UTF-8 has a code for every text, the other two for the
texts of their characters only, and where two encodings have a code for a text of ASCII characters it is the same.

- `read_signed`, `read_unsigned`: big-endian bytes are read back, for words of any number of bytes;
- `utf8_eq_toByteArray`: the bytes of a text in UTF-8 are those in which strings are held, so that no two texts share
  them;
- `encode_ascii_eq_ok_iff`, `encode_latin1_eq_ok_iff`: which bytes a text has in the other two encodings;
- `writeTyped_apply`: a value that cannot be encoded does not reach the link.

Results:
- `typed_values_are_lossless`: all of this for every integer, every text and every type of links.
Witness:
- `accent_is_refused_in_ascii`: a negative number, and a text that has a code in two of the encodings.
-/
import CalBench.Link.Emulated
import CalBench.Proofs.Link.Heard
import Mathlib.Tactic.Ring

namespace CalBench

/-! ## Integers -/

/-- the word that bytes are, the most significant first -/
def wordOf (bytes : Bytes) : Nat := bytes.foldl (fun n b => n * 256 + b.toNat) 0

structure IntegerType where
  /-- in bytes -/
  width : Nat
  signed : Bool
deriving DecidableEq, Repr

/-- the value of bytes: if there are negative values, the upper half of the numbers stands for them -/
def IntegerType.read (t : IntegerType) (bytes : Bytes) : Int :=
  if t.signed = true ∧ 2 ^ (8 * bytes.length) ≤ 2 * wordOf bytes then wordOf bytes - 2 ^ (8 * bytes.length)
  else wordOf bytes

def TypedValue.integer? : TypedValue → Option (IntegerType × Int)
  | .i8 n => some (⟨1, true⟩, n.toInt)
  | .u8 n => some (⟨1, false⟩, n.toNat)
  | .i16 n => some (⟨2, true⟩, n.toInt)
  | .u16 n => some (⟨2, false⟩, n.toNat)
  | .i32 n => some (⟨4, true⟩, n.toInt)
  | .u32 n => some (⟨4, false⟩, n.toNat)
  | .i64 n => some (⟨8, true⟩, n.toInt)
  | .u64 n => some (⟨8, false⟩, n.toNat)
  | .f32 _ | .f64 _ | .text _ _ => none

@[simp] theorem length_bigEndian (width n : Nat) : (bigEndian width n).length = width := by
  induction width with
  | zero => rfl
  | succ width ih => rw [bigEndian, List.length_cons, ih]

/-- big-endian bytes after bytes that are a number already -/
theorem foldl_bigEndian (width n front : Nat) :
    (bigEndian width n).foldl (fun n b => n * 256 + b.toNat) front = front * 256 ^ width + n % 256 ^ width := by
  induction width generalizing front with
  | zero => simp [bigEndian, Nat.mod_one]
  | succ width ih =>
    have hbyte : ((n / Nat.pow 256 width).toUInt8).toNat = n / 256 ^ width % 256 := UInt8.toNat_ofNat'
    rw [bigEndian, List.foldl_cons, ih, hbyte, Nat.mod_pow_succ]
    ring

theorem wordOf_bigEndian {width n : Nat} (h : n < 2 ^ (8 * width)) : wordOf (bigEndian width n) = n := by
  rw [Nat.pow_mul] at h
  rw [wordOf, foldl_bigEndian, Nat.zero_mul, Nat.zero_add, Nat.mod_eq_of_lt h]

/-- a word without a sign is read back -/
theorem read_unsigned (width : Nat) {n : Nat} (h : n < 2 ^ (8 * width)) :
    IntegerType.read ⟨width, false⟩ (bigEndian width n) = n := by
  simp [IntegerType.read, wordOf_bigEndian h]

/-- a word with a sign is read back -/
theorem read_signed (width : Nat) (x : BitVec (8 * width)) :
    IntegerType.read ⟨width, true⟩ (bigEndian width x.toNat) = x.toInt := by
  have hnumber : wordOf (bigEndian width x.toNat) = x.toNat := wordOf_bigEndian x.isLt
  rw [IntegerType.read, hnumber, length_bigEndian, BitVec.toInt_eq_toNat_cond]
  by_cases h : 2 * x.toNat < 2 ^ (8 * width)
  · rw [if_neg (fun hneg => absurd hneg.2 (Nat.not_le_of_lt h)), if_pos h]
  · rw [if_pos ⟨rfl, Nat.le_of_not_lt h⟩, if_neg h]
    push_cast
    rfl

/-- **The bytes of an integer are as many as its type has, and they are read back** -/
theorem integer_read_back {v : TypedValue} {t : IntegerType} {n : Int} (h : v.integer? = some (t, n)) :
    ∃ bytes, v.encode = .ok bytes ∧ bytes.length = t.width ∧ t.read bytes = n := by
  cases v with
  | i8 x => cases h; exact ⟨_, rfl, length_bigEndian _ _, read_signed 1 x.toBitVec⟩
  | i16 x => cases h; exact ⟨_, rfl, length_bigEndian _ _, read_signed 2 x.toBitVec⟩
  | i32 x => cases h; exact ⟨_, rfl, length_bigEndian _ _, read_signed 4 x.toBitVec⟩
  | i64 x => cases h; exact ⟨_, rfl, length_bigEndian _ _, read_signed 8 x.toBitVec⟩
  | u8 x => cases h; exact ⟨_, rfl, length_bigEndian _ _, read_unsigned 1 x.toNat_lt⟩
  | u16 x => cases h; exact ⟨_, rfl, length_bigEndian _ _, read_unsigned 2 x.toNat_lt⟩
  | u32 x => cases h; exact ⟨_, rfl, length_bigEndian _ _, read_unsigned 4 x.toNat_lt⟩
  | u64 x => cases h; exact ⟨_, rfl, length_bigEndian _ _, read_unsigned 8 x.toNat_lt⟩
  | f32 | f64 | text => cases h

def IntegerType.value? (t : IntegerType) (n : Int) : Option TypedValue :=
  match t.width, t.signed with
  | 1, true => some (.i8 (.ofInt n))
  | 1, false => some (.u8 (.ofNat n.toNat))
  | 2, true => some (.i16 (.ofInt n))
  | 2, false => some (.u16 (.ofNat n.toNat))
  | 4, true => some (.i32 (.ofInt n))
  | 4, false => some (.u32 (.ofNat n.toNat))
  | 8, true => some (.i64 (.ofInt n))
  | 8, false => some (.u64 (.ofNat n.toNat))
  | _, _ => none

/-- an integer is determined by its type and its value -/
theorem value?_of_integer? {v : TypedValue} {t : IntegerType} {n : Int} (h : v.integer? = some (t, n)) :
    t.value? n = some v := by
  cases v with
  | f32 | f64 | text => cases h
  | _ => cases h; simp [IntegerType.value?]

/-! ## Texts -/

namespace Text

theorem utf8Char_eq (c : Char) : utf8Char c = String.utf8EncodeChar c := by
  have hvalid : c.toNat < 0x110000 := by
    rcases c.valid with h | h
    · exact Nat.lt_trans h (by decide)
    · exact h.2
  simp only [utf8Char, String.utf8EncodeChar, show c.val.toNat = c.toNat from rfl, Nat.toUInt8]
  -- the ranges are the same, and in each of them the lead byte takes all that is left
  split_ifs with h1 h1' h2 h2' h3 h3'
  any_goals omega
  · rfl
  · rw [Nat.mod_eq_of_lt (show c.toNat / 64 < 32 by omega)]
    simp only [Nat.add_comm]
  · rw [Nat.mod_eq_of_lt (show c.toNat / 4096 < 16 by omega)]
    simp only [Nat.add_comm]
  · rw [Nat.mod_eq_of_lt (show c.toNat / 262144 < 8 by omega)]
    simp only [Nat.add_comm]

/-- **The bytes of a text are those in which the string is held** -/
theorem utf8_eq_toByteArray (s : String) : utf8 s = s.toByteArray.data.toList := by
  have hchars : s.toByteArray = (s.toList.flatMap String.utf8EncodeChar).toByteArray := by
    conv_lhs => rw [← String.ofList_toList (s := s), String.toByteArray_ofList]
    rfl
  rw [hchars, List.toList_data_toByteArray, utf8, funext utf8Char_eq]

/-- no two texts have the same bytes -/
theorem utf8_inj {s s' : String} (h : utf8 s = utf8 s') : s = s' := by
  rw [utf8_eq_toByteArray, utf8_eq_toByteArray, Array.toList_inj] at h
  exact String.toByteArray_inj.1 (ByteArray.ext h)

end Text

namespace TextEncoding

variable {s : String} {bytes : Bytes}

/-- a text has a code in ASCII if all its characters have, and it is that in UTF-8 -/
theorem encode_ascii_eq_ok_iff :
    ascii.encode s = .ok bytes ↔ (∀ c ∈ s.toList, c.toNat < 0x80) ∧ bytes = Text.utf8 s := by
  have hascii : Text.isAscii s = true ↔ ∀ c ∈ s.toList, c.toNat < 0x80 := by simp [Text.isAscii]
  rw [← hascii]
  cases h : Text.isAscii s <;> simp [encode, h, eq_comm]

/-- a text has a code in Latin-1 if its characters are numbers of bytes, and it is these bytes -/
theorem encode_latin1_eq_ok_iff :
    latin1.encode s = .ok bytes ↔
      (∀ c ∈ s.toList, c.toNat ≤ 0xFF) ∧ bytes = s.toList.map fun c => c.toNat.toUInt8 := by
  have hcodes : (s.toList.all fun c => c.toNat < 0x100) = true ↔ ∀ c ∈ s.toList, c.toNat ≤ 0xFF := by
    simp [Nat.lt_succ_iff]
  rw [← hcodes]
  cases h : s.toList.all fun c => c.toNat < 0x100 <;> simp [encode, h, eq_comm]

/-- the bytes of a text in Latin-1 have the numbers of its characters -/
theorem numbers_of_latin1 (h : latin1.encode s = .ok bytes) : bytes.map UInt8.toNat = s.toList.map Char.toNat := by
  obtain ⟨hcodes, rfl⟩ := encode_latin1_eq_ok_iff.1 h
  rw [List.map_map]
  exact List.map_congr_left fun c hc => Nat.mod_eq_of_lt (Nat.lt_succ_of_le (hcodes c hc))

/-- an ASCII text has the same bytes in all encodings -/
theorem encode_of_ascii (h : ascii.encode s = .ok bytes) :
    utf8.encode s = .ok bytes ∧ latin1.encode s = .ok bytes := by
  obtain ⟨hcodes, rfl⟩ := encode_ascii_eq_ok_iff.1 h
  refine ⟨rfl, encode_latin1_eq_ok_iff.2 ⟨fun c hc => Nat.le_of_lt (Nat.lt_trans (hcodes c hc) (by decide)), ?_⟩⟩
  rw [Text.utf8, List.map_eq_flatMap, List.flatMap_def, List.flatMap_def]
  exact congrArg List.flatten (List.map_congr_left fun c hc => if_pos (hcodes c hc))

/-- **In each encoding two texts with the same bytes are the same** -/
theorem encode_inj (e : TextEncoding) {s' : String} (h : e.encode s = .ok bytes) (h' : e.encode s' = .ok bytes) :
    s = s' := by
  cases e with
  | utf8 => exact Text.utf8_inj (Except.ok.inj (h.trans h'.symm))
  | ascii => exact Text.utf8_inj ((encode_ascii_eq_ok_iff.1 h).2.symm.trans (encode_ascii_eq_ok_iff.1 h').2)
  | latin1 =>
    have hnumbers := (numbers_of_latin1 h).symm.trans (numbers_of_latin1 h')
    exact String.toList_inj.1 ((List.map_inj_right fun _ _ => Char.toNat_inj.1).1 hnumbers)

end TextEncoding

/-! ## Writing -/

/-- a value goes out as its bytes, and if it has none the link is left alone -/
theorem writeTyped_apply {Λ : Type} [Link Λ] (v : TypedValue) (l : Λ) : Link.writeTyped v l =
    match v.encode with
    | .ok bytes => Link.call (.writeBytes bytes) l
    | .error err => { link := l, result := .error err } := by
  rw [Link.writeTyped, Attempt.bind_apply, Attempt.ofExcept_apply]
  cases v.encode with
  | ok bytes => simp
  | error err => rfl

/-- **Values at an exact width are written without loss.** An integer has as many bytes as its type, and they are read
back. A text has a code in Latin-1 exactly if all its characters have, and in ASCII likewise; every text has one in
UTF-8. Within a type or an encoding no two values share their bytes. What cannot be encoded is not written to any
link -/
theorem typed_values_are_lossless :
    (∀ (v : TypedValue) (t : IntegerType) (n : Int), v.integer? = some (t, n) →
      ∃ bytes, v.encode = .ok bytes ∧ bytes.length = t.width ∧ t.read bytes = n) ∧
    (∀ s : String,
      ((∃ bytes, (TypedValue.text s .latin1).encode = .ok bytes) ↔ ∀ c ∈ s.toList, c.toNat ≤ 0xFF) ∧
      (∀ bytes, (TypedValue.text s .latin1).encode = .ok bytes → bytes.map UInt8.toNat = s.toList.map Char.toNat) ∧
      ((∃ bytes, (TypedValue.text s .ascii).encode = .ok bytes) ↔ ∀ c ∈ s.toList, c.toNat < 0x80) ∧
      (∀ bytes, (TypedValue.text s .ascii).encode = .ok bytes →
        (TypedValue.text s .utf8).encode = .ok bytes ∧ (TypedValue.text s .latin1).encode = .ok bytes) ∧
      (TypedValue.text s .utf8).encode = .ok s.toByteArray.data.toList) ∧
    (∀ (v v' : TypedValue) (t : IntegerType) (m n : Int), v.integer? = some (t, m) → v'.integer? = some (t, n) →
      v.encode = v'.encode → v = v') ∧
    (∀ (e : TextEncoding) (s s' : String) (bytes : Bytes), (TypedValue.text s e).encode = .ok bytes →
      (TypedValue.text s' e).encode = .ok bytes → s = s') ∧
    ∀ (Λ : Type) [Link Λ] (v : TypedValue) (err : LinkError) (l : Λ), v.encode = .error err →
      Link.writeTyped v l = { link := l, result := .error err } := by
  refine ⟨fun v t n => integer_read_back, fun s => ⟨⟨?_, ?_⟩, ?_, ⟨?_, ?_⟩, ?_, ?_⟩, ?_, ?_, ?_⟩
  · rintro ⟨bytes, h⟩
    exact (TextEncoding.encode_latin1_eq_ok_iff.1 h).1
  · intro h
    exact ⟨_, TextEncoding.encode_latin1_eq_ok_iff.2 ⟨h, rfl⟩⟩
  · intro bytes
    exact TextEncoding.numbers_of_latin1
  · rintro ⟨bytes, h⟩
    exact (TextEncoding.encode_ascii_eq_ok_iff.1 h).1
  · intro h
    exact ⟨_, TextEncoding.encode_ascii_eq_ok_iff.2 ⟨h, rfl⟩⟩
  · intro bytes
    exact TextEncoding.encode_of_ascii
  · exact congrArg Except.ok (Text.utf8_eq_toByteArray s)
  · intro v v' t m n h h' hsame
    obtain ⟨bytes, hbytes, -, rfl⟩ := integer_read_back h
    obtain ⟨bytes', hbytes', -, rfl⟩ := integer_read_back h'
    obtain rfl : bytes = bytes' := Except.ok.inj (hbytes.symm.trans (hsame.trans hbytes'))
    exact Option.some.inj ((value?_of_integer? h).symm.trans (value?_of_integer? h'))
  · intro e s s' bytes
    exact TextEncoding.encode_inj e
  · intro Λ _ v err l h
    rw [writeTyped_apply, h]

def askedMeter : Emulated :=
  { name := "bench", connected := true, lastCommand := some "READ?", log := ["write: READ?"] }

/-- **An accent has a code in two of the encodings**; in ASCII it is refused, and a meter keeps the command that it
has -/
theorem accent_is_refused_in_ascii :
    (∃ bytes, (TypedValue.i16 (-2)).encode = .ok bytes ∧ bytes.length = 2 ∧
      IntegerType.read ⟨2, true⟩ bytes = -2) ∧
    (TypedValue.text "é" .latin1).encode = .ok [0xE9] ∧ [(0xE9 : UInt8)].map UInt8.toNat = "é".toList.map Char.toNat ∧
    (TypedValue.text "é" .utf8).encode = .ok "é".toByteArray.data.toList ∧
    (TypedValue.text "é" .ascii).encode = .error (.encoding "'é' cannot be encoded as ASCII") ∧
    Link.writeTyped (.text "é" .ascii) askedMeter =
      { link := askedMeter, result := .error (.encoding "'é' cannot be encoded as ASCII") } := by
  obtain ⟨hintegers, htexts, -, -, hlinks⟩ := typed_values_are_lossless
  obtain ⟨-, hnumbers, -, -, hutf8⟩ := htexts "é"
  have hcode : (TypedValue.text "é" .latin1).encode = .ok [0xE9] := by decide +kernel
  have hrefused : (TypedValue.text "é" .ascii).encode = .error (.encoding "'é' cannot be encoded as ASCII") := by
    decide +kernel
  exact ⟨hintegers (.i16 (-2)) ⟨2, true⟩ (-2) rfl, hcode, hnumbers _ hcode, hutf8, hrefused,
    hlinks Emulated _ _ askedMeter hrefused⟩

end CalBench
