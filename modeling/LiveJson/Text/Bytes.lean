/-!
# The byte order of texts

Texts are ordered by their UTF-8 bytes, compared from the left; a text comes before its
continuations.
-/

set_option autoImplicit false

namespace LiveJson.Text

/-- The UTF-8 bytes of a text. -/
def bytes (text : String) : List UInt8 :=
  text.toUTF8.data.toList

/-- Texts with the same bytes are the same. -/
theorem bytes_injective {a b : String} (h : bytes a = bytes b) : a = b := by
  have : a.toByteArray.data.toList = b.toByteArray.data.toList := h
  exact String.toByteArray_inj.1 (ByteArray.ext (Array.toList_inj.1 this))

/-- Whether `a` comes before `b` in the order of their bytes, or is the same text. -/
def byteLE (a b : String) : Bool :=
  decide (bytes a ≤ bytes b)

theorem byteLE_trans {a b c : String} (h : byteLE a b = true) (h' : byteLE b c = true) :
    byteLE a c = true := by
  rw [byteLE, decide_eq_true_eq] at *
  exact List.le_trans h h'

theorem byteLE_total (a b : String) : (byteLE a b || byteLE b a) = true := by
  rw [Bool.or_eq_true, byteLE, byteLE, decide_eq_true_eq, decide_eq_true_eq]
  exact List.le_total _ _

/-- Of two different texts, the one that comes first has the lower bytes. -/
theorem bytes_lt_of_byteLE {a b : String} (h : byteLE a b = true) (hne : a ≠ b) :
    bytes a < bytes b := by
  rw [byteLE, decide_eq_true_eq] at h
  exact (List.le_iff_lt_or_eq.1 h).resolve_right fun heq => hne (bytes_injective heq)

end LiveJson.Text
