/-
Texts and byte strings tell each other apart: the UTF-8 encoding of a text gives the text back, and
so do hexadecimal digits a byte string. A text of visible ASCII is also read back from its bytes as a
header value is read.
-/

import CachingGateway.Text.Octets
import Mathlib.Data.Fin.Basic

namespace CachingGateway

namespace Ascii

theorem hexDigit_injective {left right : Nat} (leftDigit : left < 16) (rightDigit : right < 16)
    (same : hexDigit left = hexDigit right) : left = right := by
  have all : ∀ one other : Fin 16, hexDigit one = hexDigit other → one = other := by decide
  exact congrArg Fin.val (all ⟨left, leftDigit⟩ ⟨right, rightDigit⟩ same)

end Ascii

namespace Octets

theorem hex_cons (octet : UInt8) (rest : Octets) :
    hex (octet :: rest) = Ascii.hexDigit (octet.toNat / 16) :: Ascii.hexDigit (octet.toNat % 16) ::
      hex rest := rfl

theorem hex_injective {left right : Octets} (same : hex left = hex right) : left = right := by
  induction left generalizing right with
  | nil =>
      cases right with
      | nil => rfl
      | cons octet rest => cases same
  | cons octet rest ih =>
      cases right with
      | nil => cases same
      | cons other others =>
          rw [hex_cons, hex_cons, List.cons.injEq, List.cons.injEq] at same
          obtain ⟨high, low, later⟩ := same
          have bound := octet.toNat_lt
          have otherBound := other.toNat_lt
          have highs := Ascii.hexDigit_injective (by omega) (by omega) high
          have lows := Ascii.hexDigit_injective (by omega) (by omega) low
          have octets : octet = other := UInt8.toNat_inj.mp (by omega)
          rw [octets, ih later]

theorem toList_loop (bytes : ByteArray) (place : Nat) (read : List UInt8) :
    ByteArray.toList.loop bytes place read = read.reverse ++ bytes.data.toList.drop place := by
  induction place, read using ByteArray.toList.loop.induct bytes with
  | case1 place read inside ih =>
      have within : place < bytes.data.toList.length := inside
      have byte : bytes.get! place = bytes.data.toList[place] := getElem!_pos bytes.data place inside
      rw [ByteArray.toList.loop, if_pos inside, ih, List.reverse_cons, List.append_assoc,
        List.singleton_append, byte, ← List.drop_eq_getElem_cons within]
  | case2 place read outside =>
      have past : bytes.data.toList.length ≤ place := Nat.not_lt.mp outside
      rw [ByteArray.toList.loop, if_neg outside, List.drop_eq_nil_of_le past, List.append_nil]

theorem ofText_eq (text : String) : ofText text = text.toByteArray.data.toList :=
  toList_loop text.toByteArray 0 []

theorem ofText_injective {left right : String} (same : ofText left = ofText right) :
    left = right := by
  rw [ofText_eq, ofText_eq] at same
  exact String.toByteArray_inj.mp (ByteArray.ext (Array.toList_inj.mp same))

theorem utf8?_ofText (text : String) : utf8? (ofText text) = some text := by
  have bytes : ByteArray.mk (ofText text).toArray = text.toByteArray := by
    rw [ofText_eq]
  rw [utf8?, bytes, String.fromUTF8?, dif_pos text.isValidUTF8]
  rfl

/-! ### Bytes as characters -/

def characters (octets : Octets) : List Char :=
  octets.map fun octet => Char.ofNat octet.toNat

theorem code_of_character (octet : UInt8) : (Char.ofNat octet.toNat).toNat = octet.toNat := by
  have bound := octet.toNat_lt
  have valid : octet.toNat.isValidChar := Or.inl (by omega)
  rw [Char.ofNat, dif_pos valid]
  rfl

theorem characters_injective {left right : Octets} (same : characters left = characters right) :
    left = right := by
  refine (List.map_inj_right ?_).mp same
  intro octet other equal
  have codes := congrArg Char.toNat equal
  rw [code_of_character, code_of_character] at codes
  exact UInt8.toNat_inj.mp codes

theorem visible?_eq_some_iff {octets : Octets} {text : List Char} :
    visible? octets = some text ↔ octets.all isVisible = true ∧ text = characters octets := by
  rw [visible?, Option.ite_none_right_eq_some, Option.some.injEq, eq_comm (a := text)]
  rfl

/-! ### Visible text -/

/-- The bytes of a character are those that a header value read as text may hold. -/
def IsVisibleChar (character : Char) : Prop :=
  (32 ≤ character.toNat ∧ character.toNat < 127) ∨ character.toNat = 9

instance (character : Char) : Decidable (IsVisibleChar character) :=
  inferInstanceAs (Decidable (_ ∨ _))

theorem isVisibleChar_of_visible? {octets : Octets} {text : List Char}
    (read : visible? octets = some text) : ∀ character ∈ text, IsVisibleChar character := by
  obtain ⟨all, rfl⟩ := visible?_eq_some_iff.mp read
  intro character member
  obtain ⟨octet, standing, rfl⟩ := List.mem_map.mp member
  have visible := List.all_eq_true.mp all octet standing
  simp only [isVisible, Bool.or_eq_true, Bool.and_eq_true, decide_eq_true_eq, beq_iff_eq,
    UInt8.le_iff_toNat_le, UInt8.lt_iff_toNat_lt, ← UInt8.toNat_inj] at visible
  rw [IsVisibleChar, code_of_character]
  exact visible

theorem encode_visible {character : Char} (visible : IsVisibleChar character) :
    String.utf8EncodeChar character = [UInt8.ofNat character.toNat] := by
  have small : character.utf8Size = 1 := by
    rw [Char.utf8Size_eq_one_iff, UInt32.le_iff_toNat_le]
    have bound : character.toNat ≤ 127 := by
      unfold IsVisibleChar at visible
      omega
    exact bound
  rw [String.utf8EncodeChar_eq_singleton small]
  rfl

theorem isVisible_ofNat {character : Char} (visible : IsVisibleChar character) :
    isVisible (UInt8.ofNat character.toNat) = true ∧
      Char.ofNat (UInt8.ofNat character.toNat).toNat = character := by
  have bound : character.toNat < 127 := by
    unfold IsVisibleChar at visible
    omega
  have code : (UInt8.ofNat character.toNat).toNat = character.toNat :=
    UInt8.toNat_ofNat_of_lt (Nat.lt_trans bound (by decide))
  constructor
  · unfold isVisible
    simp only [Bool.or_eq_true, Bool.and_eq_true, decide_eq_true_eq, beq_iff_eq,
      UInt8.le_iff_toNat_le, UInt8.lt_iff_toNat_lt, ← UInt8.toNat_inj, code]
    exact visible
  · rw [code, Char.ofNat_toNat]

theorem visible?_ofText {text : String} (visible : ∀ character ∈ text.toList, IsVisibleChar character) :
    visible? (ofText text) = some text.toList := by
  have bytes : ofText text = text.toList.flatMap String.utf8EncodeChar := by
    rw [ofText_eq, ← String.utf8Encode_toList]
    exact List.toList_data_toByteArray
  rw [bytes]
  generalize text.toList = characters at visible
  induction characters with
  | nil => rfl
  | cons first rest ih =>
      obtain ⟨shown, same⟩ := isVisible_ofNat (visible first List.mem_cons_self)
      have later := ih fun character member => visible character (List.mem_cons_of_mem _ member)
      rw [List.flatMap_cons, encode_visible (visible first List.mem_cons_self),
        List.singleton_append]
      unfold visible? at later ⊢
      split at later
      · rename_i all
        rw [List.all_cons, shown, all, Bool.and_self, if_pos rfl, List.map_cons, same,
          Option.some.inj later]
      · cases later

end Octets

end CachingGateway
