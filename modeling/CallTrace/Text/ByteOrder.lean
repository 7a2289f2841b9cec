import Std.Data.ExtTreeMap

/-!
# Texts in the order of their bytes

Texts are sorted by the bytes of their UTF-8 form, as unsigned numbers from left to right; a text
comes before its continuations.
-/

namespace CallTrace.Text

/-- The UTF-8 bytes of a text. -/
def bytes (text : String) : List UInt8 := text.toUTF8.data.toList

/-- Different texts have different bytes. -/
theorem eq_of_bytes_eq {s t : String} (same : bytes s = bytes t) : s = t :=
  String.toByteArray_inj.1 (ByteArray.ext (Array.toList_inj.1 same))

/-- Compares texts by their bytes. -/
def compareBytes (s t : String) : Ordering := compare (bytes s) (bytes t)

instance : Std.TransCmp compareBytes := inferInstanceAs (Std.TransCmp (compareOn bytes))

instance : Std.LawfulEqCmp compareBytes where
  eq_of_compare same := eq_of_bytes_eq (Std.LawfulEqCmp.eq_of_compare same)

/-- A map with texts as keys, which lists them in the order of their bytes. -/
abbrev ByteOrderMap (α : Type) := Std.ExtTreeMap String α compareBytes

end CallTrace.Text
