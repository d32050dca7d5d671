import CilDisassembly.Bytes
import CilDisassembly.Opcode.Catalog
import Mathlib.Data.List.Nodup

/-!
# Mnemonics

No two opcodes of the catalog share a mnemonic, so that an opcode can be told from the
first word of its line.
-/

set_option autoImplicit false

namespace CilDisassembly

/-- No two opcodes have the same mnemonic. -/
theorem Catalog.mnemonic_injective {a b : Opcode} (ha : a ∈ all) (hb : b ∈ all)
    (h : a.mnemonic = b.mnemonic) : a = b := by
  -- mnemonics are compared as numbers, which is faster than comparing strings
  have hnodup : (all.map (fun op =>
      Bytes.toNat op.mnemonic.toByteArray.data.toList)).Nodup := by
    decide +kernel
  apply List.inj_on_of_nodup_map hnodup ha hb
  rw [h]

end CilDisassembly
