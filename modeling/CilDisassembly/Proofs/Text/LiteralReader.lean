import CilDisassembly.Proofs.Listing.Writer
import Mathlib.Data.List.Basic

/-!
# Reading string literals

A literal ends at the first double quote that is not escaped, so that it can be told apart from
whatever text follows it, and each character of the string can be read from its written form
(`readBody?_escapeChar`). A literal is therefore read back in front of any text
(`readLiteral?_literal_append`), and different strings have different literals
(`literal_injective`).
-/

set_option autoImplicit false

namespace CilDisassembly

/-- The character that a letter stands for behind a backslash. -/
def escaped? (letter : Char) : Option Char :=
  if letter = 'n' then some '\n'
  else if letter = 'r' then some '\r'
  else if letter = 't' then some '\t'
  else if letter = '\\' then some '\\'
  else if letter = '"' then some '"'
  else none

/-- The string in front of the closing quote, and the text behind it. -/
def readBody? : Text → Option (Text × Text)
  | [] => none
  | '"' :: rest => some ([], rest)
  | '\\' :: 'x' :: high :: low :: rest => do
      let code ← Hex.value? [high, low]
      let (value, behind) ← readBody? rest
      return (Char.ofNat code :: value, behind)
  | '\\' :: letter :: rest => do
      let c ← escaped? letter
      let (value, behind) ← readBody? rest
      return (c :: value, behind)
  | c :: rest => do
      let (value, behind) ← readBody? rest
      return (c :: value, behind)

/-- The string of a literal, and the text behind the literal. -/
def readLiteral? : Text → Option (String × Text)
  | '"' :: rest => (readBody? rest).map (fun found => (String.ofList found.1, found.2))
  | _ => none

/-- The two digits of a control character are read as its code. -/
theorem exists_paddedUpper {n : Nat} (h : n < 0x20) :
    ∃ high low : Char, Hex.paddedUpper 2 n = [high, low] ∧ Hex.value? [high, low] = some n := by
  have hall : (List.range 0x20).all (fun k =>
      decide (Hex.value? (Hex.paddedUpper 2 k) = some k ∧
        (Hex.paddedUpper 2 k).length = 2)) = true := by
    decide +kernel
  obtain ⟨hvalue, hlength⟩ :=
    of_decide_eq_true (List.all_eq_true.1 hall n (List.mem_range.2 h))
  obtain ⟨high, low, hdigits⟩ := List.length_eq_two.1 hlength
  rw [hdigits] at hvalue
  exact ⟨high, low, hdigits, hvalue⟩

/-- The written form of a character is read as this character. -/
theorem readBody?_escapeChar (c : Char) (rest : Text) :
    readBody? (escapeChar c ++ rest) =
      (readBody? rest).map (fun found => (c :: found.1, found.2)) := by
  have hbind : ∀ d : Char, (do
      let (value, behind) ← readBody? rest
      return (d :: value, behind) : Option (Text × Text)) =
        (readBody? rest).map (fun found => (d :: found.1, found.2)) := by
    intro d
    cases readBody? rest <;> rfl
  rw [escapeChar]
  split
  · next h =>
      subst h
      exact hbind '\n'
  split
  · next h =>
      subst h
      exact hbind '\r'
  split
  · next h =>
      subst h
      exact hbind '\t'
  split
  · next h =>
      subst h
      exact hbind '\\'
  split
  · next h =>
      subst h
      exact hbind '"'
  split
  · next hcontrol =>
      obtain ⟨high, low, hdigits, hvalue⟩ := exists_paddedUpper hcontrol
      rw [hdigits]
      show (Hex.value? [high, low]).bind (fun code => (readBody? rest).bind (fun found =>
        some (Char.ofNat code :: found.1, found.2))) = _
      rw [hvalue, Option.bind_some, Char.ofNat_toNat]
      exact hbind c
  · next hback hquote _ =>
      -- neither a quote nor a backslash, so the character stands for itself
      have hplain : readBody? (c :: rest) = (do
          let (value, behind) ← readBody? rest
          return (c :: value, behind) : Option (Text × Text)) := by
        rw [readBody?]
        · exact hquote
        · intro _ _ _ heq
          exact absurd heq hback
        · intro _ _ heq
          exact absurd heq hback
      rw [List.singleton_append, hplain]
      exact hbind c

/-- The written form of a string is read up to its closing quote. -/
theorem readBody?_flatMap_escapeChar (value rest : Text) :
    readBody? (value.flatMap escapeChar ++ '"' :: rest) = some (value, rest) := by
  induction value with
  | nil => rfl
  | cons c value ih =>
      rw [List.flatMap_cons, List.append_assoc, readBody?_escapeChar, ih]
      rfl

/-- A literal is read back, whatever text follows it. -/
theorem readLiteral?_literal_append (value : String) (rest : Text) :
    readLiteral? (literal value ++ rest) = some (value, rest) := by
  show (readBody? (value.toList.flatMap escapeChar ++ ['"'] ++ rest)).map _ = _
  rw [List.append_assoc, List.singleton_append, readBody?_flatMap_escapeChar, Option.map_some,
    String.ofList_toList]

/-- Different strings have different literals. -/
theorem literal_injective {a b : String} (h : literal a = literal b) : a = b := by
  have ha := readLiteral?_literal_append a []
  rw [h, readLiteral?_literal_append] at ha
  exact (congrArg Prod.fst (Option.some.inj ha)).symm

/-! ## Literals among other text -/

/-- The string that a text is the literal of, if no text stands behind the literal. -/
def unescape? (text : Text) : Option String :=
  match readLiteral? text with
  | some (value, []) => some value
  | _ => none

@[simp] theorem unescape?_literal (value : String) : unescape? (literal value) = some value := by
  have h := readLiteral?_literal_append value []
  rw [List.append_nil] at h
  rw [unescape?, h]

/-- Texts that start with literals are equal only if the literals are, and what stands behind
them. -/
theorem literal_append_eq_iff {value other : String} {behind behind' : Text} :
    literal value ++ behind = literal other ++ behind' ↔ value = other ∧ behind = behind' := by
  constructor
  · intro h
    -- the reader finds where the literal ends without knowing what follows
    have hread := readLiteral?_literal_append value behind
    rw [h, readLiteral?_literal_append] at hread
    obtain ⟨hvalue, hbehind⟩ := Prod.mk.inj (Option.some.inj hread)
    exact ⟨hvalue.symm, hbehind.symm⟩
  · rintro ⟨rfl, rfl⟩
    rfl

/-- Writing a string puts its literal into the sink. The literal stands between two double
quotes, has no character below U+0020, and is read back as the string. In front of any text it
can be told where the literal ends: whatever texts stand behind two literals, the whole texts
are equal only if the strings are equal and the texts behind them. -/
theorem writeLiteral_selfDelimiting (value : String) :
    (∀ (content : String) (log : Array Event),
      (writeLiteral value).run ⟨⟨content, none⟩, log⟩ =
        (.ok (), ⟨⟨content ++ String.ofList (literal value), none⟩, log⟩)) ∧
    (∃ body : Text, literal value = ['"'] ++ body ++ ['"']) ∧
    (∀ c ∈ literal value, 0x20 ≤ c.toNat) ∧
    unescape? (literal value) = some value ∧
    ∀ (other : String) (behind behind' : Text),
      literal value ++ behind = literal other ++ behind' ↔ value = other ∧ behind = behind' := by
  refine ⟨?_, ⟨value.toList.flatMap escapeChar, rfl⟩, control_not_mem_literal value,
    unescape?_literal value, ?_⟩
  · intro content log
    exact (puts_writeLiteral value).run_of_isUnlimited rfl
  · intro other behind behind'
    exact literal_append_eq_iff

/-- A string that ends in a backslash, and one that looks like an escape, in front of quotes. -/
example : literal "\\" ++ ['"'] = ['"', '\\', '\\', '"', '"'] ∧
    unescape? (literal "\\x01\x01") = some "\\x01\x01" := by
  decide +kernel

end CilDisassembly
