import CilDisassembly.SymbolTable

/-!
# Methods

A method has implementation flags, perhaps a body, and symbols that its body
refers to. Only a managed CIL body can be listed (`ImplFlags.isIl`).

A listing asks for no more than a `MethodBody`, in which the symbols are given by
any resolver. A `Method` is one that is held in memory, with a table of symbols.
-/

set_option autoImplicit false

namespace CilDisassembly

/-- The implementation flags of a method. -/
structure ImplFlags where
  /-- The flags as a word. -/
  bits : UInt16
deriving DecidableEq, Repr

namespace ImplFlags

/-- The bits that tell how the body is given. -/
def codeTypeMask : UInt16 := 0x0003

/-- The body is CIL. -/
def il : UInt16 := 0x0000

/-- The body is native code. -/
def native : UInt16 := 0x0001

/-- The body is optimized CIL. -/
def optil : UInt16 := 0x0002

/-- The method is unmanaged. -/
def unmanaged : UInt16 := 0x0004

/-- The method is not to be inlined. -/
def noInlining : UInt16 := 0x0008

/-- The method runs on one thread at a time. -/
def synchronized : UInt16 := 0x0020

/-- The signature is exported exactly as declared. -/
def preserveSig : UInt16 := 0x0080

/-- The method is implemented inside the runtime. -/
def internalCall : UInt16 := 0x1000

/-- How the body is given. -/
def codeType (flags : ImplFlags) : UInt16 :=
  flags.bits &&& codeTypeMask

/-- Whether every bit of `mask` is set. -/
def has (flags : ImplFlags) (mask : UInt16) : Bool :=
  flags.bits &&& mask == mask

/-- Whether the method has a managed CIL body. -/
def isIl (flags : ImplFlags) : Bool :=
  flags.codeType == il && !flags.has unmanaged && !flags.has internalCall

/-- The word for how the body is given. -/
def codeTypeName (flags : ImplFlags) : String :=
  if flags.codeType = il then "IL"
  else if flags.codeType = native then "Native"
  else if flags.codeType = optil then "OPTIL"
  else "Runtime"

/-- The flags that have a name, in ascending order. -/
def named : List (UInt16 × String) :=
  [(unmanaged, "Unmanaged"), (noInlining, "NoInlining"), (synchronized, "Synchronized"),
    (preserveSig, "PreserveSig"), (internalCall, "InternalCall")]

/-- The written form: how the body is given, and the names of the flags set. -/
def text (flags : ImplFlags) : String :=
  ", ".intercalate
    (flags.codeTypeName :: (named.filter (fun entry => flags.has entry.1)).map Prod.snd)

end ImplFlags

/-- What a listing has to know of a method. -/
structure MethodBody where
  /-- The implementation flags. -/
  flags : ImplFlags
  /-- The bytes of the body, if there is one. -/
  bytes? : Option (List UInt8)
  /-- What the tokens of the body name. -/
  resolver : Resolver

/-- A method that is held in memory, with its body and its symbols. -/
structure Method where
  /-- The implementation flags. -/
  flags : ImplFlags
  /-- The bytes of the body, if there is one. -/
  body : Option (List UInt8)
  /-- The symbols that tokens of the body name. -/
  symbols : SymbolTable

namespace Method

/-- A method in memory, seen as one that can be listed. -/
def methodBody (method : Method) : MethodBody :=
  ⟨method.flags, method.body, method.symbols.resolve⟩

instance : Coe Method MethodBody :=
  ⟨methodBody⟩

/-- A managed CIL method. -/
def managed (body : List UInt8) (symbols : SymbolTable) : Method :=
  ⟨⟨ImplFlags.il⟩, some body, symbols⟩

/-- A CIL method that has no body. -/
def abstract (symbols : SymbolTable) : Method :=
  ⟨⟨ImplFlags.il⟩, none, symbols⟩

/-- A method that is implemented elsewhere: it has neither body nor symbols. -/
def external (flags : ImplFlags) : Method :=
  ⟨flags, none, .empty⟩

/-- The method described by what is known of it. -/
def ofParts (flags? : Option ImplFlags) (body? : Option (List UInt8))
    (symbols : SymbolTable) : Method :=
  match flags?, body? with
  | none, none => abstract symbols
  | none, some body => managed body symbols
  | some flags, none => external flags
  | some flags, some body => ⟨flags, some body, symbols⟩

end Method

end CilDisassembly
