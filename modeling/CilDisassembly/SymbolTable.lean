import CilDisassembly.Symbol
import Std.Data.ExtTreeMap

/-!
# Symbol tables

A symbol table is a finite resolver. The four kinds of symbols are kept apart, so
one token may name a symbol of each kind. The last entry for a kind and token wins
(`SymbolTable.resolve_insert_self`, `SymbolTable.resolve_insert_of_ne`), and the
table grows by one symbol unless an entry replaces another
(`SymbolTable.size_insert`).
-/

set_option autoImplicit false

namespace CilDisassembly

/-- A symbol to be entered into a table. -/
structure SymbolEntry where
  /-- The kind of the symbol. -/
  kind : SymbolKind
  /-- The token that names it. -/
  token : Token
  /-- The symbol. -/
  value : kind.Value

/-- A finite table of symbols, by kind and token. -/
structure SymbolTable where
  /-- The methods. -/
  methods : Std.ExtTreeMap Token MemberRef := ∅
  /-- The fields. -/
  fields : Std.ExtTreeMap Token MemberRef := ∅
  /-- The types, by full name. -/
  types : Std.ExtTreeMap Token String := ∅
  /-- The user strings. -/
  strings : Std.ExtTreeMap Token String := ∅

namespace SymbolTable

/-- The table without symbols. -/
def empty : SymbolTable := {}

/-- Enter a symbol, in place of one of the same kind and token. -/
def insert (table : SymbolTable) : SymbolEntry → SymbolTable
  | ⟨.method, token, member⟩ => { table with methods := table.methods.insert token member }
  | ⟨.field, token, member⟩ => { table with fields := table.fields.insert token member }
  | ⟨.type, token, fullName⟩ => { table with types := table.types.insert token fullName }
  | ⟨.string, token, contents⟩ =>
      { table with strings := table.strings.insert token contents }

/-- The symbol of a kind that a token names. -/
def resolve (table : SymbolTable) : Resolver
  | .method, token => table.methods[token]?
  | .field, token => table.fields[token]?
  | .type, token => table.types[token]?
  | .string, token => table.strings[token]?

/-- The number of symbols. -/
def size (table : SymbolTable) : Nat :=
  table.methods.size + table.fields.size + table.types.size + table.strings.size

/-- Whether the table has no symbols. -/
def isEmpty (table : SymbolTable) : Bool :=
  table.size == 0

/-- The table of the given entries, entered in order. -/
def ofEntries (entries : List SymbolEntry) : SymbolTable :=
  entries.foldl insert empty

/-! ## The last entry wins -/

/-- A symbol just entered is found. -/
@[simp] theorem resolve_insert_self (table : SymbolTable) (entry : SymbolEntry) :
    (table.insert entry).resolve entry.kind entry.token = some entry.value := by
  obtain ⟨kind, token, value⟩ := entry
  cases kind <;> simp [insert, resolve]

/-- Entering a symbol changes nothing for other kinds and other tokens. -/
theorem resolve_insert_of_ne (table : SymbolTable) (entry : SymbolEntry)
    (kind : SymbolKind) (token : Token)
    (h : ¬(entry.kind = kind ∧ entry.token = token)) :
    (table.insert entry).resolve kind token = table.resolve kind token := by
  obtain ⟨entryKind, entryToken, value⟩ := entry
  -- tables of other kinds are not touched
  cases entryKind <;> cases kind <;> try rfl
  -- in the table of the same kind the tokens differ
  all_goals
    have hne : entryToken ≠ token := fun heq => h ⟨rfl, heq⟩
    simp [insert, resolve, Std.ExtTreeMap.getElem?_insert, hne]

/-- An entry adds one symbol, unless it replaces one. -/
theorem size_insert (table : SymbolTable) (entry : SymbolEntry) :
    (table.insert entry).size =
      if (table.resolve entry.kind entry.token).isSome then table.size
      else table.size + 1 := by
  obtain ⟨kind, token, value⟩ := entry
  cases kind <;>
    simp only [insert, resolve, size, Std.ExtTreeMap.size_insert,
      Std.ExtTreeMap.contains_eq_isSome_getElem?] <;>
    grind

@[simp] theorem resolve_empty (kind : SymbolKind) (token : Token) :
    empty.resolve kind token = none := by
  cases kind <;> simp [empty, resolve]

@[simp] theorem size_empty : empty.size = 0 := by
  simp [empty, size]

end SymbolTable

end CilDisassembly
