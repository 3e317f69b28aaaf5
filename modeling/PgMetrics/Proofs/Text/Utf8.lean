import Mathlib.Data.List.Basic
import PgMetrics.Text.Utf8

/-!
# ASCII texts in UTF-8

An ASCII text is written with one octet for each character, and reads back as itself.

## Main results

* `Utf8.encode_of_ascii` — the octets of an ASCII text.
* `Utf8.decode?_encode_of_ascii` — the octets read back.
-/

namespace PgMetrics.Text.Utf8

/-! ## Octets in arrays -/

theorem toList_loop_eq (octets : ByteArray) (i : Nat) (read : List UInt8) :
    ByteArray.toList.loop octets i read = read.reverse ++ octets.data.toList.drop i := by
  fun_induction ByteArray.toList.loop octets i read with
  | case1 i read inside ih =>
    have bound : i < octets.data.toList.length := by simpa using inside
    rw [ih, List.drop_eq_getElem_cons bound]
    simp [ByteArray.get!, inside]
  | case2 i read outside =>
    rw [List.drop_eq_nil_of_le (by simpa using Nat.le_of_not_lt outside), List.append_nil]

theorem toList_toByteArray (octets : List UInt8) : octets.toByteArray.toList = octets := by
  rw [ByteArray.toList, toList_loop_eq, List.toList_data_toByteArray]
  rfl

/-! ## ASCII -/

theorem utf8EncodeChar_of_ascii {c : Char} (ascii : c.toNat < 128) :
    String.utf8EncodeChar c = [UInt8.ofNat c.toNat] := by
  have small : c.val.toNat ≤ 127 := Nat.le_of_lt_succ ascii
  rw [String.utf8EncodeChar, if_pos small]
  rfl

theorem encode_of_ascii {s : String} (ascii : ∀ c ∈ s.toList, c.toNat < 128) :
    encode s = s.toList.map fun c => UInt8.ofNat c.toNat := by
  have octets : encode s = s.toList.flatMap String.utf8EncodeChar := by
    conv_lhs => rw [← String.ofList_toList (s := s)]
    exact toList_toByteArray _
  rw [octets, List.map_eq_flatMap]
  exact List.flatMap_congr fun c mem => utf8EncodeChar_of_ascii (ascii c mem)

theorem decode?_of_ascii {s : List Char} (ascii : ∀ c ∈ s, c.toNat < 128) :
    decode? (s.map fun c => UInt8.ofNat c.toNat) = some s := by
  induction s with
  | nil => simp [decode?, parts]
  | cons c rest ih =>
    obtain ⟨first, others⟩ := List.forall_mem_cons.mp ascii
    have octet : (UInt8.ofNat c.toNat).toNat = c.toNat :=
      UInt8.toNat_ofNat_of_lt' (Nat.lt_trans first (by decide))
    have read (after : List UInt8) : next (UInt8.ofNat c.toNat) after = (some c, 0) := by
      rw [next, octet, if_pos first, Char.ofNat_toNat]
    have later := ih others
    unfold decode? at later ⊢
    rw [List.map_cons, parts, read, List.drop_zero, List.mapM_cons, later]
    rfl

theorem decode?_encode_of_ascii {s : String} (ascii : ∀ c ∈ s.toList, c.toNat < 128) :
    decode? (encode s) = some s.toList := by
  rw [encode_of_ascii ascii, decode?_of_ascii ascii]

end PgMetrics.Text.Utf8
