import Chip8.Proofs.Blocks
import Chip8.Proofs.Loading

/-!
# Words, bytes and their two orders

Programs are words to the machine and bytes in a file.  The two conversions are written independently of
each other: one pairs bytes and pads an odd one, the other cuts a word to its low sixteen bits and splits it.
Each undoes the other as far as it can be undone.  An odd byte comes back with a zero, and a word that has
more than sixteen bits, or is negative, comes back as its remainder.

* `ByteOrder.word_byteOf` — the word of the two bytes of an integer.
* `wordsOfBytes_bytesOfWords`, `swapBytes_swapBytes` — words that went through bytes, and words exchanged twice.
* `swapBytes_wordsOfBytes` — exchanging the bytes turns one order into the other.
* **`byte_conversions_invert`** — all of them, with the bytes of a word named one by one.
-/

namespace Chip8

/-! ## One word -/

/-- An integer split into two bytes and paired again has kept its low sixteen bits. -/
lemma ByteOrder.word_byteOf (value : Int) :
    big.word (Memory.byteOf (value / 256)) (Memory.byteOf value) = value % 65536 := by
  have high := Memory.toNat_byteOf (value / 256)
  have low := Memory.toNat_byteOf value
  rw [word]
  push_cast
  omega

/-- A pair of bytes exchanged is the pair in the other order. -/
lemma ByteOrder.swap_word (first second : UInt8) :
    256 * (little.word first second % 256) + little.word first second / 256 % 256 =
      big.word first second := by
  have := first.toNat_lt
  have := second.toNat_lt
  simp only [word]
  omega

/-! ## Rows of words -/

variable (bytes : List UInt8) (words : List Int)

/-- **Words that went through bytes** are the same words, cut to sixteen bits. -/
theorem wordsOfBytes_bytesOfWords :
    wordsOfBytes .big (bytesOfWords words) = words.map (· % 65536) := by
  induction words with
  | nil => rfl
  | cons value rest ih =>
      rw [bytesOfWords, List.flatMap_cons, ← bytesOfWords]
      show ByteOrder.big.word _ _ :: wordsOfBytes .big (bytesOfWords rest) = _
      rw [ByteOrder.word_byteOf, ih, List.map_cons]

/-- **Exchanging the bytes of words** turns one byte order into the other. -/
theorem swapBytes_wordsOfBytes :
    swapBytes (wordsOfBytes .little bytes) = wordsOfBytes .big bytes := by
  induction bytes using wordsOfBytes.induct with
  | case1 => rfl
  | case2 last => simp [wordsOfBytes, swapBytes, ByteOrder.swap_word]
  | case3 first second rest ih =>
      rw [wordsOfBytes, wordsOfBytes, swapBytes, List.map_cons, ← swapBytes, ih, ByteOrder.swap_word]

/-- Exchanged twice, the bytes of a word are where they were, and what lies above them is gone. -/
theorem swapBytes_swapBytes : swapBytes (swapBytes words) = words.map (· % 65536) := by
  rw [swapBytes, swapBytes, List.map_map]
  refine List.map_congr_left fun value _ => ?_
  have high : (256 * (value % 256) + value / 256 % 256) / 256 = value % 256 := by omega
  have low : (256 * (value % 256) + value / 256 % 256) % 256 = value / 256 % 256 := by omega
  dsimp only [Function.comp_apply]
  rw [high, low]
  omega

/-- Words in range are not cut. -/
lemma map_emod_of_range (range : ∀ word ∈ words, 0 ≤ word ∧ word ≤ 0xFFFF) :
    words.map (· % 65536) = words := by
  refine (List.map_congr_left fun word member => ?_).trans words.map_id
  have := range word member
  exact Int.emod_eq_of_lt this.1 (by omega)

/-- **Words and bytes are converted without loss**, whatever the number of bytes and whatever the integers.
The high byte of a word is written first; an odd byte at the end of a file comes back with a zero behind it,
and an integer comes back as its low sixteen bits. -/
theorem byte_conversions_invert :
    bytesOfWords (wordsOfBytes .big bytes) = bytes ++ List.replicate (bytes.length % 2) 0 ∧
      swapBytes (wordsOfBytes .little bytes) = wordsOfBytes .big bytes ∧
      wordsOfBytes .big (bytesOfWords words) = words.map (· % 65536) ∧
      swapBytes (swapBytes words) = words.map (· % 65536) ∧
      ((∀ word ∈ words, 0 ≤ word ∧ word ≤ 0xFFFF) →
        wordsOfBytes .big (bytesOfWords words) = words ∧ swapBytes (swapBytes words) = words) ∧
      ∀ (position : Nat) (inside : position < words.length),
        (bytesOfWords words)[2 * position]? = some (Memory.byteOf (words[position] / 256)) ∧
          (bytesOfWords words)[2 * position + 1]? = some (Memory.byteOf words[position]) := by
  have through := wordsOfBytes_bytesOfWords words
  have twice := swapBytes_swapBytes words
  refine ⟨bytesOfWords_wordsOfBytes bytes, swapBytes_wordsOfBytes bytes, through, twice, fun range => ?_,
    fun _ inside => getElem?_bytesOfWords words inside⟩
  rw [through, twice, map_emod_of_range words range]
  exact ⟨rfl, rfl⟩

/-- Three bytes, one word out of range at either end and two in range. -/
theorem byte_conversions_invert_odd :
    bytesOfWords (wordsOfBytes .big [0x60, 0x05, 0xA2]) = [0x60, 0x05, 0xA2, 0x00] ∧
      wordsOfBytes .big (bytesOfWords [-2, 0x1ABCD]) = [0xFFFE, 0xABCD] ∧
      swapBytes (swapBytes [-2, 0x1ABCD]) = [0xFFFE, 0xABCD] ∧
      (∀ word ∈ ([0x00E0, 0xFFFF] : List Int), 0 ≤ word ∧ word ≤ 0xFFFF) ∧
      wordsOfBytes .big (bytesOfWords [0x00E0, 0xFFFF]) = [0x00E0, 0xFFFF] ∧
      swapBytes (swapBytes [0x00E0, 0xFFFF]) = [0x00E0, 0xFFFF] := by
  have range : ∀ word ∈ ([0x00E0, 0xFFFF] : List Int), 0 ≤ word ∧ word ≤ 0xFFFF := by decide
  obtain ⟨padded, -, cut, turned, -, -⟩ := byte_conversions_invert [0x60, 0x05, 0xA2] [-2, 0x1ABCD]
  obtain ⟨same, twice⟩ := (byte_conversions_invert [] [0x00E0, 0xFFFF]).2.2.2.2.1 range
  exact ⟨padded, cut, turned, range, same, twice⟩

end Chip8
