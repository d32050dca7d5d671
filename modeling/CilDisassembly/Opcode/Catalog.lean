import CilDisassembly.Opcode

/-!
# The opcode catalog

The CIL base instruction set: 199 one-byte opcodes, among them the reserved
entries for the lead bytes, and 28 two-byte opcodes behind the lead byte 0xFE.

An opcode is looked up by its 16-bit key in two tables (`Catalog.ofKey?`). A key
finds exactly the entry that carries it (`Catalog.ofKey?_eq_some_iff`), because no
value occurs twice, and so the tables agree with a search through the whole
catalog (`Catalog.ofKey?_eq_find?`).
-/

set_option autoImplicit false

namespace CilDisassembly

namespace Catalog

/-- The one-byte opcodes, in value order. -/
def oneByte : List Opcode :=
  [ ⟨"nop", 0x00, .inlineNone⟩,
    ⟨"break", 0x01, .inlineNone⟩,
    ⟨"ldarg.0", 0x02, .inlineNone⟩,
    ⟨"ldarg.1", 0x03, .inlineNone⟩,
    ⟨"ldarg.2", 0x04, .inlineNone⟩,
    ⟨"ldarg.3", 0x05, .inlineNone⟩,
    ⟨"ldloc.0", 0x06, .inlineNone⟩,
    ⟨"ldloc.1", 0x07, .inlineNone⟩,
    ⟨"ldloc.2", 0x08, .inlineNone⟩,
    ⟨"ldloc.3", 0x09, .inlineNone⟩,
    ⟨"stloc.0", 0x0A, .inlineNone⟩,
    ⟨"stloc.1", 0x0B, .inlineNone⟩,
    ⟨"stloc.2", 0x0C, .inlineNone⟩,
    ⟨"stloc.3", 0x0D, .inlineNone⟩,
    ⟨"ldarg.s", 0x0E, .shortInlineVar⟩,
    ⟨"ldarga.s", 0x0F, .shortInlineVar⟩,
    ⟨"starg.s", 0x10, .shortInlineVar⟩,
    ⟨"ldloc.s", 0x11, .shortInlineVar⟩,
    ⟨"ldloca.s", 0x12, .shortInlineVar⟩,
    ⟨"stloc.s", 0x13, .shortInlineVar⟩,
    ⟨"ldnull", 0x14, .inlineNone⟩,
    ⟨"ldc.i4.m1", 0x15, .inlineNone⟩,
    ⟨"ldc.i4.0", 0x16, .inlineNone⟩,
    ⟨"ldc.i4.1", 0x17, .inlineNone⟩,
    ⟨"ldc.i4.2", 0x18, .inlineNone⟩,
    ⟨"ldc.i4.3", 0x19, .inlineNone⟩,
    ⟨"ldc.i4.4", 0x1A, .inlineNone⟩,
    ⟨"ldc.i4.5", 0x1B, .inlineNone⟩,
    ⟨"ldc.i4.6", 0x1C, .inlineNone⟩,
    ⟨"ldc.i4.7", 0x1D, .inlineNone⟩,
    ⟨"ldc.i4.8", 0x1E, .inlineNone⟩,
    ⟨"ldc.i4.s", 0x1F, .shortInlineI⟩,
    ⟨"ldc.i4", 0x20, .inlineI⟩,
    ⟨"ldc.i8", 0x21, .inlineI8⟩,
    ⟨"ldc.r4", 0x22, .shortInlineR⟩,
    ⟨"ldc.r8", 0x23, .inlineR⟩,
    ⟨"dup", 0x25, .inlineNone⟩,
    ⟨"pop", 0x26, .inlineNone⟩,
    ⟨"jmp", 0x27, .inlineMethod⟩,
    ⟨"call", 0x28, .inlineMethod⟩,
    ⟨"calli", 0x29, .inlineSig⟩,
    ⟨"ret", 0x2A, .inlineNone⟩,
    ⟨"br.s", 0x2B, .shortInlineBrTarget⟩,
    ⟨"brfalse.s", 0x2C, .shortInlineBrTarget⟩,
    ⟨"brtrue.s", 0x2D, .shortInlineBrTarget⟩,
    ⟨"beq.s", 0x2E, .shortInlineBrTarget⟩,
    ⟨"bge.s", 0x2F, .shortInlineBrTarget⟩,
    ⟨"bgt.s", 0x30, .shortInlineBrTarget⟩,
    ⟨"ble.s", 0x31, .shortInlineBrTarget⟩,
    ⟨"blt.s", 0x32, .shortInlineBrTarget⟩,
    ⟨"bne.un.s", 0x33, .shortInlineBrTarget⟩,
    ⟨"bge.un.s", 0x34, .shortInlineBrTarget⟩,
    ⟨"bgt.un.s", 0x35, .shortInlineBrTarget⟩,
    ⟨"ble.un.s", 0x36, .shortInlineBrTarget⟩,
    ⟨"blt.un.s", 0x37, .shortInlineBrTarget⟩,
    ⟨"br", 0x38, .inlineBrTarget⟩,
    ⟨"brfalse", 0x39, .inlineBrTarget⟩,
    ⟨"brtrue", 0x3A, .inlineBrTarget⟩,
    ⟨"beq", 0x3B, .inlineBrTarget⟩,
    ⟨"bge", 0x3C, .inlineBrTarget⟩,
    ⟨"bgt", 0x3D, .inlineBrTarget⟩,
    ⟨"ble", 0x3E, .inlineBrTarget⟩,
    ⟨"blt", 0x3F, .inlineBrTarget⟩,
    ⟨"bne.un", 0x40, .inlineBrTarget⟩,
    ⟨"bge.un", 0x41, .inlineBrTarget⟩,
    ⟨"bgt.un", 0x42, .inlineBrTarget⟩,
    ⟨"ble.un", 0x43, .inlineBrTarget⟩,
    ⟨"blt.un", 0x44, .inlineBrTarget⟩,
    ⟨"switch", 0x45, .inlineSwitch⟩,
    ⟨"ldind.i1", 0x46, .inlineNone⟩,
    ⟨"ldind.u1", 0x47, .inlineNone⟩,
    ⟨"ldind.i2", 0x48, .inlineNone⟩,
    ⟨"ldind.u2", 0x49, .inlineNone⟩,
    ⟨"ldind.i4", 0x4A, .inlineNone⟩,
    ⟨"ldind.u4", 0x4B, .inlineNone⟩,
    ⟨"ldind.i8", 0x4C, .inlineNone⟩,
    ⟨"ldind.i", 0x4D, .inlineNone⟩,
    ⟨"ldind.r4", 0x4E, .inlineNone⟩,
    ⟨"ldind.r8", 0x4F, .inlineNone⟩,
    ⟨"ldind.ref", 0x50, .inlineNone⟩,
    ⟨"stind.ref", 0x51, .inlineNone⟩,
    ⟨"stind.i1", 0x52, .inlineNone⟩,
    ⟨"stind.i2", 0x53, .inlineNone⟩,
    ⟨"stind.i4", 0x54, .inlineNone⟩,
    ⟨"stind.i8", 0x55, .inlineNone⟩,
    ⟨"stind.r4", 0x56, .inlineNone⟩,
    ⟨"stind.r8", 0x57, .inlineNone⟩,
    ⟨"add", 0x58, .inlineNone⟩,
    ⟨"sub", 0x59, .inlineNone⟩,
    ⟨"mul", 0x5A, .inlineNone⟩,
    ⟨"div", 0x5B, .inlineNone⟩,
    ⟨"div.un", 0x5C, .inlineNone⟩,
    ⟨"rem", 0x5D, .inlineNone⟩,
    ⟨"rem.un", 0x5E, .inlineNone⟩,
    ⟨"and", 0x5F, .inlineNone⟩,
    ⟨"or", 0x60, .inlineNone⟩,
    ⟨"xor", 0x61, .inlineNone⟩,
    ⟨"shl", 0x62, .inlineNone⟩,
    ⟨"shr", 0x63, .inlineNone⟩,
    ⟨"shr.un", 0x64, .inlineNone⟩,
    ⟨"neg", 0x65, .inlineNone⟩,
    ⟨"not", 0x66, .inlineNone⟩,
    ⟨"conv.i1", 0x67, .inlineNone⟩,
    ⟨"conv.i2", 0x68, .inlineNone⟩,
    ⟨"conv.i4", 0x69, .inlineNone⟩,
    ⟨"conv.i8", 0x6A, .inlineNone⟩,
    ⟨"conv.r4", 0x6B, .inlineNone⟩,
    ⟨"conv.r8", 0x6C, .inlineNone⟩,
    ⟨"conv.u4", 0x6D, .inlineNone⟩,
    ⟨"conv.u8", 0x6E, .inlineNone⟩,
    ⟨"callvirt", 0x6F, .inlineMethod⟩,
    ⟨"cpobj", 0x70, .inlineType⟩,
    ⟨"ldobj", 0x71, .inlineType⟩,
    ⟨"ldstr", 0x72, .inlineString⟩,
    ⟨"newobj", 0x73, .inlineMethod⟩,
    ⟨"castclass", 0x74, .inlineType⟩,
    ⟨"isinst", 0x75, .inlineType⟩,
    ⟨"conv.r.un", 0x76, .inlineNone⟩,
    ⟨"unbox", 0x79, .inlineType⟩,
    ⟨"throw", 0x7A, .inlineNone⟩,
    ⟨"ldfld", 0x7B, .inlineField⟩,
    ⟨"ldflda", 0x7C, .inlineField⟩,
    ⟨"stfld", 0x7D, .inlineField⟩,
    ⟨"ldsfld", 0x7E, .inlineField⟩,
    ⟨"ldsflda", 0x7F, .inlineField⟩,
    ⟨"stsfld", 0x80, .inlineField⟩,
    ⟨"stobj", 0x81, .inlineType⟩,
    ⟨"conv.ovf.i1.un", 0x82, .inlineNone⟩,
    ⟨"conv.ovf.i2.un", 0x83, .inlineNone⟩,
    ⟨"conv.ovf.i4.un", 0x84, .inlineNone⟩,
    ⟨"conv.ovf.i8.un", 0x85, .inlineNone⟩,
    ⟨"conv.ovf.u1.un", 0x86, .inlineNone⟩,
    ⟨"conv.ovf.u2.un", 0x87, .inlineNone⟩,
    ⟨"conv.ovf.u4.un", 0x88, .inlineNone⟩,
    ⟨"conv.ovf.u8.un", 0x89, .inlineNone⟩,
    ⟨"conv.ovf.i.un", 0x8A, .inlineNone⟩,
    ⟨"conv.ovf.u.un", 0x8B, .inlineNone⟩,
    ⟨"box", 0x8C, .inlineType⟩,
    ⟨"newarr", 0x8D, .inlineType⟩,
    ⟨"ldlen", 0x8E, .inlineNone⟩,
    ⟨"ldelema", 0x8F, .inlineType⟩,
    ⟨"ldelem.i1", 0x90, .inlineNone⟩,
    ⟨"ldelem.u1", 0x91, .inlineNone⟩,
    ⟨"ldelem.i2", 0x92, .inlineNone⟩,
    ⟨"ldelem.u2", 0x93, .inlineNone⟩,
    ⟨"ldelem.i4", 0x94, .inlineNone⟩,
    ⟨"ldelem.u4", 0x95, .inlineNone⟩,
    ⟨"ldelem.i8", 0x96, .inlineNone⟩,
    ⟨"ldelem.i", 0x97, .inlineNone⟩,
    ⟨"ldelem.r4", 0x98, .inlineNone⟩,
    ⟨"ldelem.r8", 0x99, .inlineNone⟩,
    ⟨"ldelem.ref", 0x9A, .inlineNone⟩,
    ⟨"stelem.i", 0x9B, .inlineNone⟩,
    ⟨"stelem.i1", 0x9C, .inlineNone⟩,
    ⟨"stelem.i2", 0x9D, .inlineNone⟩,
    ⟨"stelem.i4", 0x9E, .inlineNone⟩,
    ⟨"stelem.i8", 0x9F, .inlineNone⟩,
    ⟨"stelem.r4", 0xA0, .inlineNone⟩,
    ⟨"stelem.r8", 0xA1, .inlineNone⟩,
    ⟨"stelem.ref", 0xA2, .inlineNone⟩,
    ⟨"ldelem", 0xA3, .inlineType⟩,
    ⟨"stelem", 0xA4, .inlineType⟩,
    ⟨"unbox.any", 0xA5, .inlineType⟩,
    ⟨"conv.ovf.i1", 0xB3, .inlineNone⟩,
    ⟨"conv.ovf.u1", 0xB4, .inlineNone⟩,
    ⟨"conv.ovf.i2", 0xB5, .inlineNone⟩,
    ⟨"conv.ovf.u2", 0xB6, .inlineNone⟩,
    ⟨"conv.ovf.i4", 0xB7, .inlineNone⟩,
    ⟨"conv.ovf.u4", 0xB8, .inlineNone⟩,
    ⟨"conv.ovf.i8", 0xB9, .inlineNone⟩,
    ⟨"conv.ovf.u8", 0xBA, .inlineNone⟩,
    ⟨"refanyval", 0xC2, .inlineType⟩,
    ⟨"ckfinite", 0xC3, .inlineNone⟩,
    ⟨"mkrefany", 0xC6, .inlineType⟩,
    ⟨"ldtoken", 0xD0, .inlineTok⟩,
    ⟨"conv.u2", 0xD1, .inlineNone⟩,
    ⟨"conv.u1", 0xD2, .inlineNone⟩,
    ⟨"conv.i", 0xD3, .inlineNone⟩,
    ⟨"conv.ovf.i", 0xD4, .inlineNone⟩,
    ⟨"conv.ovf.u", 0xD5, .inlineNone⟩,
    ⟨"add.ovf", 0xD6, .inlineNone⟩,
    ⟨"add.ovf.un", 0xD7, .inlineNone⟩,
    ⟨"mul.ovf", 0xD8, .inlineNone⟩,
    ⟨"mul.ovf.un", 0xD9, .inlineNone⟩,
    ⟨"sub.ovf", 0xDA, .inlineNone⟩,
    ⟨"sub.ovf.un", 0xDB, .inlineNone⟩,
    ⟨"endfinally", 0xDC, .inlineNone⟩,
    ⟨"leave", 0xDD, .inlineBrTarget⟩,
    ⟨"leave.s", 0xDE, .shortInlineBrTarget⟩,
    ⟨"stind.i", 0xDF, .inlineNone⟩,
    ⟨"conv.u", 0xE0, .inlineNone⟩,
    ⟨"prefix7", 0xF8, .inlineNone⟩,
    ⟨"prefix6", 0xF9, .inlineNone⟩,
    ⟨"prefix5", 0xFA, .inlineNone⟩,
    ⟨"prefix4", 0xFB, .inlineNone⟩,
    ⟨"prefix3", 0xFC, .inlineNone⟩,
    ⟨"prefix2", 0xFD, .inlineNone⟩,
    ⟨"prefix1", 0xFE, .inlineNone⟩,
    ⟨"prefixref", 0xFF, .inlineNone⟩ ]

/-- The two-byte opcodes, in value order. -/
def twoByte : List Opcode :=
  [ ⟨"arglist", 0xFE00, .inlineNone⟩,
    ⟨"ceq", 0xFE01, .inlineNone⟩,
    ⟨"cgt", 0xFE02, .inlineNone⟩,
    ⟨"cgt.un", 0xFE03, .inlineNone⟩,
    ⟨"clt", 0xFE04, .inlineNone⟩,
    ⟨"clt.un", 0xFE05, .inlineNone⟩,
    ⟨"ldftn", 0xFE06, .inlineMethod⟩,
    ⟨"ldvirtftn", 0xFE07, .inlineMethod⟩,
    ⟨"ldarg", 0xFE09, .inlineVar⟩,
    ⟨"ldarga", 0xFE0A, .inlineVar⟩,
    ⟨"starg", 0xFE0B, .inlineVar⟩,
    ⟨"ldloc", 0xFE0C, .inlineVar⟩,
    ⟨"ldloca", 0xFE0D, .inlineVar⟩,
    ⟨"stloc", 0xFE0E, .inlineVar⟩,
    ⟨"localloc", 0xFE0F, .inlineNone⟩,
    ⟨"endfilter", 0xFE11, .inlineNone⟩,
    ⟨"unaligned.", 0xFE12, .shortInlineI⟩,
    ⟨"volatile.", 0xFE13, .inlineNone⟩,
    ⟨"tail.", 0xFE14, .inlineNone⟩,
    ⟨"initobj", 0xFE15, .inlineType⟩,
    ⟨"constrained.", 0xFE16, .inlineType⟩,
    ⟨"cpblk", 0xFE17, .inlineNone⟩,
    ⟨"initblk", 0xFE18, .inlineNone⟩,
    ⟨"no.", 0xFE19, .shortInlineI⟩,
    ⟨"rethrow", 0xFE1A, .inlineNone⟩,
    ⟨"sizeof", 0xFE1C, .inlineType⟩,
    ⟨"refanytype", 0xFE1D, .inlineNone⟩,
    ⟨"readonly.", 0xFE1E, .inlineNone⟩ ]

/-- Every opcode, one-byte opcodes first. -/
def all : List Opcode :=
  oneByte ++ twoByte

/-! ## Tables

An opcode is not searched for. There is one table for the opcodes of one byte and one for those
of two bytes, with a place for every byte, and the high byte of a key tells which of them to look
into. -/

/-- A table with a place for every byte. -/
abbrev Table := UInt8 → Option Opcode

/-- The table with an opcode put in the place of its low byte. -/
def Table.fill (table : Table) (op : Opcode) : Table :=
  fun byte => if byte = op.value.toUInt8 then some op else table byte

/-- The table that opcodes are filled into, one after the other. -/
def tableOf (ops : List Opcode) : Table :=
  ops.foldl Table.fill (fun _ => none)

/-- The one-byte opcode written as `byte`. -/
def oneByte? : Table :=
  tableOf oneByte

/-- The two-byte opcode whose second byte is `byte`. -/
def twoByte? : Table :=
  tableOf twoByte

/-- The opcode with the given key: a one-byte opcode is keyed by its byte, a two-byte opcode by
its lead byte and second byte. No other lead byte than the highest one has opcodes behind it. -/
def ofKey? (key : UInt16) : Option Opcode :=
  let high := (key >>> 8).toUInt8
  if high = 0 then oneByte? key.toUInt8
  else if high = leadLast then twoByte? key.toUInt8
  else none

/-! ## Order

Both lists are ascending, so that a value names at most one entry. -/

/-- Whether every entry has a smaller value than its successor. -/
def ascending : List Opcode → Bool
  | first :: second :: rest =>
      decide (first.value < second.value) && ascending (second :: rest)
  | _ => true

/-- Neighbours in order put the whole list in order. -/
theorem pairwise_of_ascending {ops : List Opcode} (h : ascending ops = true) :
    ops.Pairwise (fun a b => a.value < b.value) := by
  induction ops with
  | nil => exact .nil
  | cons first rest ih =>
      cases rest with
      | nil => simp
      | cons second rest =>
          simp only [ascending, Bool.and_eq_true, decide_eq_true_eq] at h
          have hrest := ih h.2
          refine List.pairwise_cons.2 ⟨fun op hop => ?_, hrest⟩
          rcases List.mem_cons.1 hop with rfl | hop
          · exact h.1
          · exact UInt16.lt_trans h.1 ((List.pairwise_cons.1 hrest).1 op hop)

/-- The catalog is strictly ascending in value. -/
theorem pairwise_value_lt : all.Pairwise (fun a b => a.value < b.value) :=
  pairwise_of_ascending (by decide +kernel)

/-- Entries with the same value are the same. -/
theorem eq_of_value_eq {a b : Opcode} (ha : a ∈ all) (hb : b ∈ all) (h : a.value = b.value) :
    a = b := by
  have hlt := pairwise_value_lt
  generalize all = ops at ha hb hlt
  induction ops with
  | nil => cases ha
  | cons first rest ih =>
      obtain ⟨hfirst, hrest⟩ := List.pairwise_cons.1 hlt
      rcases List.mem_cons.1 ha with rfl | harest
      · rcases List.mem_cons.1 hb with rfl | hbrest
        · rfl
        · exact absurd h (UInt16.ne_of_lt (hfirst b hbrest))
      · rcases List.mem_cons.1 hb with rfl | hbrest
        · exact absurd h.symm (UInt16.ne_of_lt (hfirst a harest))
        · exact ih harest hbrest hrest

/-! ## What the tables hold -/

/-- The place of a byte holds the last entry with this low byte, or what was there before. -/
theorem foldl_fill_cases (ops : List Opcode) (table : Table) (byte : UInt8) :
    (∃ op ∈ ops, op.value.toUInt8 = byte ∧ ops.foldl Table.fill table byte = some op) ∨
      (∀ op ∈ ops, op.value.toUInt8 ≠ byte) ∧ ops.foldl Table.fill table byte = table byte := by
  induction ops generalizing table with
  | nil => exact .inr ⟨by simp, rfl⟩
  | cons first rest ih =>
      rw [List.foldl_cons]
      rcases ih (table.fill first) with ⟨op, hop, hbyte, hfound⟩ | ⟨hrest, hfound⟩
      · exact .inl ⟨op, List.mem_cons_of_mem first hop, hbyte, hfound⟩
      · rw [hfound, Table.fill]
        by_cases hfirst : byte = first.value.toUInt8
        · exact .inl ⟨first, List.mem_cons_self, hfirst.symm, if_pos hfirst⟩
        · refine .inr ⟨?_, if_neg hfirst⟩
          intro op hop
          rcases List.mem_cons.1 hop with rfl | hop
          · exact Ne.symm hfirst
          · exact hrest op hop

/-- In a table of entries that all have the high byte of a key, the low byte of the key finds
the entry with this value. -/
theorem tableOf_eq_some_iff {ops : List Opcode} {key : UInt16} {op : Opcode}
    (hall : ∀ entry ∈ ops, entry ∈ all)
    (hhigh : ∀ entry ∈ ops, (entry.value >>> 8).toUInt8 = (key >>> 8).toUInt8) :
    tableOf ops key.toUInt8 = some op ↔ op ∈ ops ∧ op.value = key := by
  have hvalue : ∀ entry ∈ ops, entry.value.toUInt8 = key.toUInt8 → entry.value = key :=
    fun entry hentry hlow => eq_of_bytes_eq (hhigh entry hentry) hlow
  rw [tableOf]
  rcases foldl_fill_cases ops (fun _ => none) key.toUInt8 with
    ⟨entry, hentry, hlow, hfound⟩ | ⟨hnone, hfound⟩
  · rw [hfound, Option.some.injEq]
    constructor
    · rintro rfl
      exact ⟨hentry, hvalue entry hentry hlow⟩
    · rintro ⟨hop, hkey⟩
      apply eq_of_value_eq (hall entry hentry) (hall op hop)
      rw [hkey, hvalue entry hentry hlow]
  · rw [hfound]
    refine iff_of_false (by simp) ?_
    rintro ⟨hop, rfl⟩
    exact hnone op hop rfl

theorem highByte_of_mem_oneByte : ∀ op ∈ oneByte, (op.value >>> 8).toUInt8 = 0 := by
  decide +kernel

theorem highByte_of_mem_twoByte : ∀ op ∈ twoByte, (op.value >>> 8).toUInt8 = leadLast := by
  decide +kernel

/-- A key finds an opcode exactly when the opcode is an entry with that value. -/
theorem ofKey?_eq_some_iff {key : UInt16} {op : Opcode} :
    ofKey? key = some op ↔ op ∈ all ∧ op.value = key := by
  have hleft : ∀ entry ∈ oneByte, entry ∈ all := fun _ => List.mem_append_left twoByte
  have hright : ∀ entry ∈ twoByte, entry ∈ all := fun _ => List.mem_append_right oneByte
  -- the high byte of an entry tells the table it is in
  have htables : op ∈ all ∧ op.value = key ↔
      (op ∈ oneByte ∧ op.value = key) ∨ (op ∈ twoByte ∧ op.value = key) := by
    rw [all, List.mem_append, or_and_right]
  rw [htables]
  dsimp only [ofKey?]
  split
  · next hzero =>
      have htwo : ¬(op ∈ twoByte ∧ op.value = key) := by
        rintro ⟨hop, rfl⟩
        rw [highByte_of_mem_twoByte op hop] at hzero
        exact absurd hzero (by decide)
      have hone : ∀ entry ∈ oneByte, (entry.value >>> 8).toUInt8 = (key >>> 8).toUInt8 := by
        intro entry hentry
        rw [highByte_of_mem_oneByte entry hentry, hzero]
      rw [oneByte?, tableOf_eq_some_iff hleft hone, or_iff_left htwo]
  · next hzero =>
      have hnotOne : ¬(op ∈ oneByte ∧ op.value = key) := by
        rintro ⟨hop, rfl⟩
        exact hzero (highByte_of_mem_oneByte op hop)
      rw [or_iff_right hnotOne]
      split
      · next hlead =>
          have htwo : ∀ entry ∈ twoByte, (entry.value >>> 8).toUInt8 = (key >>> 8).toUInt8 := by
            intro entry hentry
            rw [highByte_of_mem_twoByte entry hentry, hlead]
          rw [twoByte?, tableOf_eq_some_iff hright htwo]
      · next hlead =>
          refine iff_of_false (by simp) ?_
          rintro ⟨hop, rfl⟩
          exact hlead (highByte_of_mem_twoByte op hop)

/-- Every entry is found under its own value. -/
theorem ofKey?_value {op : Opcode} (h : op ∈ all) : ofKey? op.value = some op :=
  ofKey?_eq_some_iff.2 ⟨h, rfl⟩

/-- The tables find what a search for the value finds. -/
theorem ofKey?_eq_find? (key : UInt16) : ofKey? key = all.find? (fun op => op.value == key) := by
  cases hfind : all.find? (fun op => op.value == key) with
  | some op =>
      have hvalue := List.find?_some hfind
      exact ofKey?_eq_some_iff.2 ⟨List.mem_of_find?_eq_some hfind, beq_iff_eq.1 hvalue⟩
  | none =>
      rw [Option.eq_none_iff_forall_ne_some]
      intro op hop
      obtain ⟨hmem, hvalue⟩ := ofKey?_eq_some_iff.1 hop
      exact List.find?_eq_none.1 hfind op hmem (beq_iff_eq.2 hvalue)

/-- Every opcode of two bytes stands behind the highest lead byte. -/
theorem isTwoByte_iff_lead {op : Opcode} (h : op ∈ all) :
    op.isTwoByte = true ↔ op.value >>> 8 = leadLast.toUInt16 := by
  revert op
  decide +kernel

end Catalog

end CilDisassembly
