/-
# QueryBind.Text.Utf8 — texts as bytes

`Utf8.encode` gives the UTF-8 bytes of a text and `Utf8.decode?` the text of well-formed bytes.
`Utf8.size` counts bytes without building them. Bytes may be cut where a character starts
(`Utf8.isBoundary`).
-/

namespace QueryBind.Text.Utf8

set_option autoImplicit false

def encode (s : List Char) : List UInt8 := s.flatMap String.utf8EncodeChar

/-- The number of bytes of a text. -/
def size : List Char → Nat
  | [] => 0
  | c :: rest => c.utf8Size + size rest

/-- The text that bytes encode, if they are well formed. -/
def decode? (bytes : List UInt8) : Option (List Char) :=
  (String.fromUTF8? (ByteArray.mk bytes.toArray)).map String.toList

/-- A character starts at byte `i`, or the bytes end before it. -/
def isBoundary (bytes : List UInt8) (i : Nat) : Bool :=
  match bytes[i]? with
  | some b => decide b.IsUTF8FirstByte
  | none => i == bytes.length

theorem length_encode (s : List Char) : (encode s).length = size s := by
  induction s with
  | nil => rfl
  | cons c rest ih =>
      simp only [encode, size, List.flatMap_cons, List.length_append] at ih ⊢
      rw [ih, String.length_utf8EncodeChar]

end QueryBind.Text.Utf8
