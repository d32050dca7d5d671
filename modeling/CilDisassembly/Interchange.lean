import CilDisassembly.Method
import CilDisassembly.Listing.Options

/-!
# Interchange forms

Some types have a form in a common data format, in which they are stored and
handed on: classifications by name, words as bare numbers, and members as records.
An instance of `Interchange` carries the proof that what it writes reads back.
-/

set_option autoImplicit false

namespace CilDisassembly

/-- A value of the data format. -/
inductive Value where
  /-- No value. -/
  | null
  /-- A truth value. -/
  | bool (holds : Bool)
  /-- The number `mantissa / 10 ^ decimals`, as it is written. -/
  | number (mantissa : Int) (decimals : Nat)
  /-- A text. -/
  | string (text : String)
  /-- A sequence. -/
  | array (elements : List Value)
  /-- A record, with its fields in order. -/
  | object (fields : List (String × Value))
deriving Inhabited

namespace Value

/-- The value as a natural number. A number with decimals is none, even if they
are zeros. -/
def toNat? : Value → Option Nat
  | .number (.ofNat n) 0 => some n
  | _ => none

/-- The value as the name of a case: a text, or a record with this one name as
its only field and nothing in it. -/
def caseName? : Value → Option String
  | .string text => some text
  | .object [(text, .null)] => some text
  | _ => none

/-- The value as a text. -/
def toText? : Value → Option String
  | .string text => some text
  | _ => none

end Value

/-- A type with an interchange form. -/
class Interchange (α : Type) where
  /-- The interchange form. -/
  write : α → Value
  /-- What a value stands for, if it is an interchange form. -/
  read? : Value → Option α
  /-- An interchange form reads back. -/
  read?_write : ∀ a : α, read? (write a) = some a

/-! ## Classifications -/

instance : Interchange OperandKind where
  write kind := .string kind.name
  read? value := value.caseName?.bind OperandKind.ofName?
  read?_write kind := by simp [Value.caseName?]

/-- The name of a symbol kind in the data format. -/
def SymbolKind.caseName : SymbolKind → String
  | .method => "Method"
  | .field => "Field"
  | .type => "Type"
  | .string => "String"

/-- The symbol kind with the given name in the data format. -/
def SymbolKind.ofCaseName? (text : String) : Option SymbolKind :=
  [SymbolKind.method, .field, .type, .string].find? (fun kind => kind.caseName == text)

@[simp] theorem SymbolKind.ofCaseName?_caseName (kind : SymbolKind) :
    SymbolKind.ofCaseName? kind.caseName = some kind := by
  cases kind <;> decide

instance : Interchange SymbolKind where
  write kind := .string kind.caseName
  read? value := value.caseName?.bind SymbolKind.ofCaseName?
  read?_write kind := by simp [Value.caseName?]

/-! ## Words -/

/-- The value as a number of 32 bits. -/
def Value.toUInt32? (value : Value) : Option UInt32 :=
  value.toNat?.bind (fun n => if n < UInt32.size then some (UInt32.ofNat n) else none)

/-- The value as a number of 16 bits. -/
def Value.toUInt16? (value : Value) : Option UInt16 :=
  value.toNat?.bind (fun n => if n < UInt16.size then some (UInt16.ofNat n) else none)

@[simp] theorem Value.toUInt32?_number (n : UInt32) :
    (Value.number n.toNat 0).toUInt32? = some n := by
  show (if n.toNat < UInt32.size then some (UInt32.ofNat n.toNat) else none) = some n
  rw [if_pos n.toNat_lt_size, UInt32.ofNat_toNat]

@[simp] theorem Value.toUInt16?_number (n : UInt16) :
    (Value.number n.toNat 0).toUInt16? = some n := by
  show (if n.toNat < UInt16.size then some (UInt16.ofNat n.toNat) else none) = some n
  rw [if_pos n.toNat_lt_size, UInt16.ofNat_toNat]

instance : Interchange Token where
  write token := .number token.value.toNat 0
  read? value := value.toUInt32?.map Token.mk
  read?_write token := by simp

instance : Interchange Options where
  write options := .number options.bits.toNat 0
  read? value := value.toUInt32?.map Options.mk
  read?_write options := by simp

instance : Interchange ImplFlags where
  write flags := .number flags.bits.toNat 0
  read? value := value.toUInt16?.map ImplFlags.mk
  read?_write flags := by simp

/-! ## Members -/

/-- A member is a record of its two names; other fields are ignored. The two names
in sequence are understood as well. -/
def MemberRef.ofValue? : Value → Option MemberRef
  | .object fields => do
      let declaringType ← (fields.lookup "declaring_type").bind Value.toText?
      let name ← (fields.lookup "name").bind Value.toText?
      return ⟨declaringType, name⟩
  | .array [.string declaringType, .string name] => some ⟨declaringType, name⟩
  | _ => none

instance : Interchange MemberRef where
  write member :=
    .object [("declaring_type", .string member.declaringType), ("name", .string member.name)]
  read? := MemberRef.ofValue?
  read?_write _ := rfl

end CilDisassembly
