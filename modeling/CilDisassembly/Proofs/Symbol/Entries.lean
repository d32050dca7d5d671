import CilDisassembly.Listing.Disassembly
import Mathlib.Data.Fin.VecNotation
import Mathlib.Data.Finset.Card
import Mathlib.Data.Finset.Lattice.Lemmas
import Mathlib.Data.Fintype.Basic
import Mathlib.Data.List.Sort
import Mathlib.Tactic.FinCases

/-!
# Symbol tables and the entries they were made of

A symbol table is made by entering symbols one after the other, and a later entry of the same kind
and token takes the place of an earlier one. So a table is determined, key by key, by the entries
that have this key and by their order. Entries with different keys do not see each other: they can
be entered in any order.

The key of an entry has its kind in it, so that all of this holds for the four kinds of symbols at
once.

## What this module delivers

- `SymbolEntry.key`, and `SymbolTable.Reordering`: another order of the same entries, in which
  entries with the same key keep theirs.
- `SymbolTable.resolve_insert_congr`: what a new entry does to an answer depends on nothing but the
  answer.
- `SymbolTable.resolve_ofEntries_filter`: an answer depends on the entries with its key only.
- `SymbolTable.resolve_ofEntries_eq_some_iff`: the answer is the value of the last entry.
- `SymbolTable.size_ofEntries`: the number of symbols is the number of different keys.
- `SymbolTable.ofEntries_lastEntry`: all of this, and listings with the symbols of a table.
-/

set_option autoImplicit false

namespace CilDisassembly

/-- The key that an entry is found by. -/
def SymbolEntry.key (entry : SymbolEntry) : SymbolKind × Token :=
  (entry.kind, entry.token)

namespace SymbolTable

/-- Another order of the same entries. Entries with the same key stand in the same order as
before; entries with different keys may be exchanged. -/
structure Reordering (first second : List SymbolEntry) where
  /-- The place that an entry goes to. -/
  place : Fin first.length ≃ Fin second.length
  get_place : ∀ i, second.get (place i) = first.get i
  place_lt : ∀ i j, i < j → (first.get i).key = (first.get j).key → place i < place j

/-! ## One entry more -/

theorem ofEntries_concat (entries : List SymbolEntry) (entry : SymbolEntry) :
    ofEntries (entries ++ [entry]) = (ofEntries entries).insert entry := by
  rw [ofEntries, ofEntries, List.foldl_append, List.foldl_cons, List.foldl_nil]

section Step

variable {entry : SymbolEntry} {kind : SymbolKind} {token : Token}

/-- An entry that has another key does not change an answer. -/
theorem resolve_insert_of_key_ne (table : SymbolTable) (h : entry.key ≠ (kind, token)) :
    (table.insert entry).resolve kind token = table.resolve kind token := by
  apply table.resolve_insert_of_ne
  rintro ⟨rfl, rfl⟩
  exact h rfl

/-- The answer after an entry is made depends on nothing but the answer before. -/
theorem resolve_insert_congr {first second : SymbolTable}
    (h : first.resolve kind token = second.resolve kind token) (entry : SymbolEntry) :
    (first.insert entry).resolve kind token = (second.insert entry).resolve kind token := by
  by_cases hkey : entry.key = (kind, token)
  · cases hkey
    rw [resolve_insert_self, resolve_insert_self]
  · rw [resolve_insert_of_key_ne first hkey, resolve_insert_of_key_ne second hkey, h]

end Step

/-! ## All entries -/

section Run

variable {entries : List SymbolEntry} {kind : SymbolKind} {token : Token}

/-- Entries that have other keys do not change an answer. -/
theorem resolve_ofEntries_append_of_key_ne (entries : List SymbolEntry) {after : List SymbolEntry}
    (h : ∀ other ∈ after, other.key ≠ (kind, token)) :
    (ofEntries (entries ++ after)).resolve kind token = (ofEntries entries).resolve kind token := by
  induction after using List.reverseRecOn with
  | nil => rw [List.append_nil]
  | append_singleton after entry ih =>
      obtain ⟨hafter, hentry⟩ := List.forall_mem_append.1 h
      rw [← List.append_assoc, ofEntries_concat,
        resolve_insert_of_key_ne _ (hentry entry List.mem_cons_self), ih hafter]

/-- An answer depends on the entries with its key only. -/
theorem resolve_ofEntries_filter (entries : List SymbolEntry) (kind : SymbolKind) (token : Token) :
    (ofEntries (entries.filter (fun entry => entry.key = (kind, token)))).resolve kind token =
      (ofEntries entries).resolve kind token := by
  induction entries using List.reverseRecOn with
  | nil => rfl
  | append_singleton entries entry ih =>
      rw [List.filter_append, ofEntries_concat]
      by_cases hkey : entry.key = (kind, token)
      · have hkept : [entry].filter (fun entry => entry.key = (kind, token)) = [entry] := by
          simp [hkey]
        rw [hkept, ofEntries_concat]
        exact resolve_insert_congr ih entry
      · have hleft : [entry].filter (fun entry => entry.key = (kind, token)) = [] := by
          simp [hkey]
        rw [hleft, List.append_nil, resolve_insert_of_key_ne _ hkey, ih]

/-- An answer is given by the last entry with its key, and there is none without such an entry. -/
theorem resolve_ofEntries_cases (entries : List SymbolEntry) (kind : SymbolKind) (token : Token) :
    ((∀ entry ∈ entries, entry.key ≠ (kind, token)) ∧
      (ofEntries entries).resolve kind token = none) ∨
    ∃ (value : kind.Value) (before after : List SymbolEntry),
      entries = before ++ ⟨kind, token, value⟩ :: after ∧
      (∀ other ∈ after, other.key ≠ (kind, token)) ∧
      (ofEntries entries).resolve kind token = some value := by
  induction entries using List.reverseRecOn with
  | nil => exact .inl ⟨List.forall_mem_nil _, resolve_empty kind token⟩
  | append_singleton entries entry ih =>
      rw [ofEntries_concat]
      by_cases hkey : entry.key = (kind, token)
      · -- the new entry is the last one with its key
        cases hkey
        exact .inr ⟨entry.value, entries, [], rfl, List.forall_mem_nil _,
          resolve_insert_self _ entry⟩
      · have hlast : ∀ other ∈ [entry], other.key ≠ (kind, token) :=
          List.forall_mem_singleton.2 hkey
        rw [resolve_insert_of_key_ne _ hkey]
        rcases ih with ⟨hne, hnone⟩ | ⟨value, before, after, rfl, hafter, hsome⟩
        · exact .inl ⟨List.forall_mem_append.2 ⟨hne, hlast⟩, hnone⟩
        · exact .inr ⟨value, before, after ++ [entry], by simp,
            List.forall_mem_append.2 ⟨hafter, hlast⟩, hsome⟩

/-- A symbol that is found is the value of the last entry with its key. -/
theorem resolve_ofEntries_eq_some_iff {value : kind.Value} :
    (ofEntries entries).resolve kind token = some value ↔
      ∃ before after : List SymbolEntry, entries = before ++ ⟨kind, token, value⟩ :: after ∧
        ∀ other ∈ after, other.key ≠ (kind, token) := by
  constructor
  · intro h
    rcases resolve_ofEntries_cases entries kind token with
      ⟨-, hnone⟩ | ⟨last, before, after, hentries, hafter, hsome⟩
    · rw [hnone] at h
      cases h
    · obtain rfl := Option.some.inj (hsome.symm.trans h)
      exact ⟨before, after, hentries, hafter⟩
  · rintro ⟨before, after, rfl, hafter⟩
    have hentry := resolve_insert_self (ofEntries before) ⟨kind, token, value⟩
    rw [← List.singleton_append, ← List.append_assoc, resolve_ofEntries_append_of_key_ne _ hafter,
      ofEntries_concat]
    exact hentry

/-- No symbol is found exactly if no entry has the key. -/
theorem resolve_ofEntries_eq_none_iff :
    (ofEntries entries).resolve kind token = none ↔
      ∀ entry ∈ entries, entry.key ≠ (kind, token) := by
  rcases resolve_ofEntries_cases entries kind token with
    ⟨hne, hnone⟩ | ⟨value, before, after, rfl, hafter, hsome⟩
  · exact iff_of_true hnone hne
  · rw [hsome]
    refine iff_of_false (Option.some_ne_none value) ?_
    intro hne
    exact hne ⟨kind, token, value⟩ (by simp) rfl

/-- A symbol is found if an entry has its key. -/
theorem isSome_resolve_ofEntries_iff :
    ((ofEntries entries).resolve kind token).isSome = true ↔
      (kind, token) ∈ entries.map SymbolEntry.key := by
  rw [← Option.ne_none_iff_isSome, ne_eq, resolve_ofEntries_eq_none_iff, List.mem_map]
  push Not
  rfl

/-- There are as many symbols as different keys. -/
theorem size_ofEntries (entries : List SymbolEntry) :
    (ofEntries entries).size = (entries.map SymbolEntry.key).toFinset.card := by
  induction entries using List.reverseRecOn with
  | nil => exact size_empty
  | append_singleton entries entry ih =>
      have hkeys : ((entries ++ [entry]).map SymbolEntry.key).toFinset =
          Insert.insert entry.key (entries.map SymbolEntry.key).toFinset := by
        ext key
        simp
      rw [ofEntries_concat, size_insert, hkeys, Finset.card_insert_eq_ite, ← ih]
      simp only [isSome_resolve_ofEntries_iff, List.mem_toFinset]
      rfl

end Run

/-! ## Other orders of the same entries -/

/-- In another order the entries with a given key are the same, in the same order. -/
theorem Reordering.filter_eq {first second : List SymbolEntry} (moved : Reordering first second)
    (key : SymbolKind × Token) :
    second.filter (fun entry => entry.key = key) = first.filter (fun entry => entry.key = key) := by
  -- the places of these entries are those that the entries before go to, in ascending order
  have hplaces :
      (List.finRange second.length).filter (fun j => (second.get j).key = key) =
        ((List.finRange first.length).filter (fun i => (first.get i).key = key)).map
          moved.place := by
    apply List.Pairwise.eq_of_mem_iff (r := (· < ·))
    · exact (List.pairwise_lt_finRange _).filter _
    · rw [List.pairwise_map]
      apply ((List.pairwise_lt_finRange _).filter _).imp_of_mem
      intro i j hi hj hlt
      have hkeyi := (List.mem_filter.1 hi).2
      have hkeyj := (List.mem_filter.1 hj).2
      exact moved.place_lt i j hlt
        ((of_decide_eq_true hkeyi).trans (of_decide_eq_true hkeyj).symm)
    · intro j
      have hget := moved.get_place (moved.place.symm j)
      rw [Equiv.apply_symm_apply] at hget
      simp only [List.mem_filter, List.mem_finRange, true_and, decide_eq_true_eq, List.mem_map]
      constructor
      · intro hkey
        exact ⟨moved.place.symm j, by rw [← hget]; exact hkey, Equiv.apply_symm_apply ..⟩
      · rintro ⟨i, hkey, rfl⟩
        rw [moved.get_place i]
        exact hkey
  have hget : second.get ∘ moved.place = first.get := funext moved.get_place
  calc second.filter (fun entry => entry.key = key)
      = ((List.finRange second.length).filter (fun j => (second.get j).key = key)).map
          second.get := by
        conv_lhs => rw [← List.map_get_finRange second]
        rw [List.filter_map]
        rfl
    _ = ((List.finRange first.length).filter (fun i => (first.get i).key = key)).map
          first.get := by rw [hplaces, List.map_map, hget]
    _ = first.filter (fun entry => entry.key = key) := by
        conv_rhs => rw [← List.map_get_finRange first]
        rw [List.filter_map]
        rfl

/-- In another order the entries give the same answers. -/
theorem resolve_eq_of_reordering {first second : List SymbolEntry}
    (moved : Reordering first second) :
    (ofEntries second).resolve = (ofEntries first).resolve := by
  funext kind token
  rw [← resolve_ofEntries_filter second, moved.filter_eq (kind, token),
    resolve_ofEntries_filter first]

/-- Entries that give the same answers make tables of the same size. -/
theorem size_eq_of_resolve_eq {first second : List SymbolEntry}
    (h : (ofEntries second).resolve = (ofEntries first).resolve) :
    (ofEntries second).size = (ofEntries first).size := by
  rw [size_ofEntries, size_ofEntries]
  congr 1
  apply List.toFinset.ext
  rintro ⟨kind, token⟩
  rw [← isSome_resolve_ofEntries_iff, ← isSome_resolve_ofEntries_iff, h]

/-- A method is listed in the same way with the symbols of tables that give the same answers. -/
theorem disassembleMethod_eq_of_resolve_eq {first second : SymbolTable}
    (h : second.resolve = first.resolve) (flags? : Option ImplFlags)
    (body? : Option (List UInt8)) (options : Options) :
    disassembleMethod (Method.ofParts flags? body? second) options =
      disassembleMethod (Method.ofParts flags? body? first) options := by
  have hbody : (Method.ofParts flags? body? second).methodBody =
      (Method.ofParts flags? body? first).methodBody := by
    cases flags? <;> cases body? <;>
      simp only [Method.methodBody, Method.ofParts, Method.abstract, Method.managed, h]
  rw [hbody]

/-- A table without symbols was made of no entries. -/
theorem isEmpty_ofEntries_iff {entries : List SymbolEntry} :
    (ofEntries entries).isEmpty = true ↔ entries = [] := by
  rw [isEmpty, beq_iff_eq, size_ofEntries, Finset.card_eq_zero, List.toFinset_eq_empty_iff,
    List.map_eq_nil_iff]

/-- A symbol is found if and only if an entry has its kind and its token, and then it is the value
of the last such entry. The number of symbols is the number of different pairs of kind and token,
and a table has no symbols only if there are no entries. Another order of the entries, in which
those of the same kind and token keep theirs, gives the same answers, the same number of symbols,
and the same listings. -/
theorem ofEntries_lastEntry (entries : List SymbolEntry) :
    (∀ (kind : SymbolKind) (token : Token),
      (∀ value : kind.Value, (ofEntries entries).resolve kind token = some value ↔
        ∃ before after : List SymbolEntry, entries = before ++ ⟨kind, token, value⟩ :: after ∧
          ∀ other ∈ after, other.key ≠ (kind, token)) ∧
      ((ofEntries entries).resolve kind token = none ↔
        ∀ entry ∈ entries, entry.key ≠ (kind, token))) ∧
    (ofEntries entries).size = (entries.map SymbolEntry.key).toFinset.card ∧
    ((ofEntries entries).isEmpty = true ↔ entries = []) ∧
    ∀ others : List SymbolEntry, Reordering entries others →
      (∀ (kind : SymbolKind) (token : Token),
        (ofEntries others).resolve kind token = (ofEntries entries).resolve kind token) ∧
      (ofEntries others).size = (ofEntries entries).size ∧
      (∀ (buffer : List UInt8) (start length : Nat) (options : Options) (output : Output),
        (disassemble buffer start length (ofEntries others).resolve options).run output =
          (disassemble buffer start length (ofEntries entries).resolve options).run output) ∧
      (∀ (buffer : List UInt8) (options : Options),
        disassembleToString buffer (ofEntries others).resolve options =
          disassembleToString buffer (ofEntries entries).resolve options) ∧
      ∀ (flags? : Option ImplFlags) (body? : Option (List UInt8)) (options : Options)
        (output : Output),
        (disassembleMethod (Method.ofParts flags? body? (ofEntries others)) options).run output =
          (disassembleMethod (Method.ofParts flags? body? (ofEntries entries)) options).run
            output := by
  refine ⟨?_, size_ofEntries entries, isEmpty_ofEntries_iff, ?_⟩
  · intro kind token
    exact ⟨fun value => resolve_ofEntries_eq_some_iff, resolve_ofEntries_eq_none_iff⟩
  · intro others moved
    have hresolve := resolve_eq_of_reordering moved
    refine ⟨?_, size_eq_of_resolve_eq hresolve, ?_, ?_, ?_⟩
    · intro kind token
      rw [hresolve]
    · intro buffer start length options output
      rw [hresolve]
    · intro buffer options
      rw [hresolve]
    · intro flags? body? options output
      rw [disassembleMethod_eq_of_resolve_eq hresolve]

/-- Methods, a field and a string, all with the same token, of which one method takes the place of
another. In the other order the method that stays comes last. -/
theorem ofEntries_lastEntry_one_token :
    let token : Token := ⟨0x0A000001⟩
    let entries : List SymbolEntry := [⟨.method, token, ⟨"T", "before"⟩⟩,
      ⟨.method, token, ⟨"T", "after"⟩⟩, ⟨.field, token, ⟨"T", "f"⟩⟩, ⟨.string, token, "s"⟩]
    let others : List SymbolEntry := [⟨.string, token, "s"⟩, ⟨.method, token, ⟨"T", "before"⟩⟩,
      ⟨.field, token, ⟨"T", "f"⟩⟩, ⟨.method, token, ⟨"T", "after"⟩⟩]
    let call : List UInt8 := [0x28, 1, 0, 0, 0x0A]
    Nonempty (Reordering entries others) ∧
    (ofEntries entries).resolve .method token = some ⟨"T", "after"⟩ ∧
    (ofEntries others).resolve .method token = some ⟨"T", "after"⟩ ∧
    (ofEntries entries).resolve .type token = none ∧
    (ofEntries entries).size = 3 ∧ (ofEntries others).size = 3 ∧
    (disassembleToString call (ofEntries others).resolve .standard).1 =
      .ok "call         T.after\n" := by
  intro token entries others call
  have moved : Reordering entries others := {
    place := ⟨![1, 3, 2, 0], ![3, 0, 2, 1], by decide, by decide⟩
    get_place := by
      intro i
      fin_cases i <;> rfl
    place_lt := by decide }
  obtain ⟨hfound, hsize, -, hmoved⟩ := ofEntries_lastEntry entries
  obtain ⟨hresolve, hsize', -, htext, -⟩ := hmoved others moved
  have hmethod : (ofEntries entries).resolve .method token = some ⟨"T", "after"⟩ :=
    ((hfound .method token).1 ⟨"T", "after"⟩).2 ⟨[entries[0]], entries.drop 2, rfl, by decide⟩
  have hkeys : (ofEntries entries).size = 3 := hsize.trans (by decide)
  refine ⟨⟨moved⟩, hmethod, (hresolve .method token).trans hmethod, ?_, hkeys,
    hsize'.trans hkeys, ?_⟩
  · exact (hfound .type token).2.2 (by decide)
  · rw [htext]
    decide +kernel

end SymbolTable

end CilDisassembly
