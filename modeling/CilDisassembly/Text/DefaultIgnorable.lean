import CilDisassembly.Text.CodeRange

/-!
# Default ignorable characters

A character with the Unicode property `Default_Ignorable_Code_Point` is not shown
at all where it is not specially supported. Besides format characters, these are
the variation selectors and the Hangul fillers, which are letters by category. The
list is that of Unicode 17.0.
-/

set_option autoImplicit false

namespace CilDisassembly

/-- The code points with the property `Default_Ignorable_Code_Point`, in ascending
order. -/
def defaultIgnorableRanges : List CodeRange :=
  [ ⟨0x00AD, 0x00AD⟩, ⟨0x034F, 0x034F⟩, ⟨0x061C, 0x061C⟩, ⟨0x115F, 0x1160⟩,
    ⟨0x17B4, 0x17B5⟩, ⟨0x180B, 0x180F⟩, ⟨0x200B, 0x200F⟩, ⟨0x202A, 0x202E⟩,
    ⟨0x2060, 0x206F⟩, ⟨0x3164, 0x3164⟩, ⟨0xFE00, 0xFE0F⟩, ⟨0xFEFF, 0xFEFF⟩,
    ⟨0xFFA0, 0xFFA0⟩, ⟨0xFFF0, 0xFFF8⟩, ⟨0x1BCA0, 0x1BCA3⟩, ⟨0x1D173, 0x1D17A⟩,
    ⟨0xE0000, 0xE0FFF⟩ ]

/-- Whether a character is not shown by default. -/
def isDefaultIgnorable (c : Char) : Bool :=
  CodeRange.anyContains defaultIgnorableRanges c.toNat

end CilDisassembly
